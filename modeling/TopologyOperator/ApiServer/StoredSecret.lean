import TopologyOperator.ApiServer.Writes
import TopologyOperator.Controller.User

/-!
# The credentials Secret of a user in the API server

The environment of the runs of a user reconciler, with the Secret that holds the
generated credentials of the user. The Secret is read from a cache that holds
labelled Secrets only and lags behind: it answers with any labelled version that was
stored so far, or misses the Secret. Others may create the Secret and change its
metadata, but they do not edit its data and do not delete it. The `User` itself is
read in whatever state, and the answers to all other requests are arbitrary.
-/

namespace TopologyOperator.SecretServer

open Dialogue ApiServer UserReconciler

/-- All versions of the Secret, the latest first. -/
structure World where
  versions : List Secret
  nextVersion : ResourceVersion

/-- There is no Secret yet. -/
def World.absent : World := ⟨[], 1⟩

namespace World

/-- The Secret as it is stored. -/
def stored (world : World) : Option Secret := world.versions.head?

/-- Store a new version of the Secret. -/
def push (world : World) (secret : Secret) : World :=
  ⟨secret :: world.versions, world.nextVersion + 1⟩

@[simp] theorem push_versions (world : World) (secret : Secret) :
    (world.push secret).versions = secret :: world.versions := rfl

theorem mem_of_stored {world : World} {secret : Secret} (found : world.stored = some secret) :
    secret ∈ world.versions :=
  List.mem_of_head? found

end World

/-- The Secret with the generated credentials of the user of this name. -/
def secretKey (key : NamespacedName) : NamespacedName :=
  ⟨key.ns, key.name ++ "-user-credentials"⟩

/-- The Secret of a user is named after it. -/
theorem credentialsKey_eq {user : Object .user} {key : NamespacedName}
    (named : user.objectMeta.key = key) : credentialsKey user = secretKey key := by
  rw [← named]
  rfl

/-- The Secret under a version. -/
def stamp (secret : Secret) (version : Version) : Secret :=
  { secret with objectMeta := { secret.objectMeta with
    resourceVersion := version.resourceVersion
    generation := version.generation } }

/-- The Secret is created only if there is none. -/
def Creates (world : World) (secret : Secret) (version : Version) (after : World) : Prop :=
  world.versions = [] ∧ version.resourceVersion = world.nextVersion ∧
    after = world.push (stamp secret version)

/-- The Secret is updated from its latest version only; an update that names no
version is not checked. -/
def Updates (world : World) (secret : Secret) (version : Version) (after : World) : Prop :=
  ∃ latest, world.stored = some latest ∧
    (secret.objectMeta.resourceVersion = 0 ∨
      latest.objectMeta.resourceVersion = secret.objectMeta.resourceVersion) ∧
    version.resourceVersion = world.nextVersion ∧ after = world.push (stamp secret version)

/-- What a reader can find. -/
def Readable (world : World) (secret : Secret) : Reader → Prop
  | .cache => secret ∈ world.versions ∧ secret.labelled = true
  | .api => world.stored = some secret

/-- What is read was stored at some time. -/
theorem Readable.mem {world : World} {secret : Secret} {reader : Reader}
    (readable : Readable world secret reader) : secret ∈ world.versions := by
  cases reader with
  | cache => exact readable.1
  | api => exact World.mem_of_stored readable

/-- How the requests of the operator are answered, for the user of this name. -/
def Answers (key : NamespacedName) (world : World) :
    (request : Request (Object .user)) → request.Answer → World → Prop
  | .get asked, reply, after =>
      after = world ∧ ∀ user, reply = .ok user → user.objectMeta.key = asked
  | .getSecret reader asked, reply, after =>
      after = world ∧ ∀ secret, reply = .ok secret → secret.objectMeta.key = asked ∧
        (asked = secretKey key → Readable world secret reader)
  | .createSecret secret, reply, after =>
      if secret.objectMeta.key = secretKey key then Writes world (Creates world secret) reply after
      else after = world
  | .updateSecret secret, reply, after =>
      if secret.objectMeta.key = secretKey key then Writes world (Updates world secret) reply after
      else after = world
  | _, _, after => after = world

/-- What others do to the Secret. -/
inductive Foreign (key : NamespacedName) (world : World) : World → Prop where
  | create (secret : Secret) (absent : world.versions = [])
      (named : secret.objectMeta.key = secretKey key)
      (fresh : secret.objectMeta.resourceVersion = world.nextVersion) :
      Foreign key world (world.push secret)
  | touch (secret latest : Secret) (found : world.stored = some latest)
      (named : secret.objectMeta.key = secretKey key) (data : secret.data = latest.data)
      (fresh : secret.objectMeta.resourceVersion = world.nextVersion) :
      Foreign key world (world.push secret)

/-- The API server and everybody else. -/
def environment (key : NamespacedName) :
    Environment (@Request.Answer (Object .user)) World where
  foreign := Foreign key
  answers := Answers key

section Moves

variable {key : NamespacedName} {world next after : World}

/-- Versions are only added. -/
theorem Foreign.grows (move : Foreign key world next) : world.versions <:+ next.versions := by
  cases move with
  | create secret => exact List.suffix_cons ..
  | touch secret => exact List.suffix_cons ..

/-- All that a request of the operator can do to the Secret. -/
theorem Answers.cases {request : Request (Object .user)} {reply : request.Answer}
    (answered : Answers key world request reply after) :
    after = world ∨
    (∃ secret version, request = .createSecret secret ∧ world.versions = [] ∧
      after = world.push (stamp secret version)) ∨
    (∃ secret version, request = .updateSecret secret ∧ secret.objectMeta.key = secretKey key ∧
      after = world.push (stamp secret version)) := by
  cases request with
  | get => exact .inl answered.1
  | getSecret => exact .inl answered.1
  | createSecret secret =>
      by_cases named : secret.objectMeta.key = secretKey key
      · have writes : Writes world (Creates world secret) reply after := by
          simpa only [Answers, if_pos named] using answered
        rcases writes.cases with same | ⟨version, absent, -, stored⟩
        · exact .inl same
        · exact .inr (.inl ⟨secret, version, rfl, absent, stored⟩)
      · exact .inl (by simpa only [Answers, if_neg named] using answered)
  | updateSecret secret =>
      by_cases named : secret.objectMeta.key = secretKey key
      · have writes : Writes world (Updates world secret) reply after := by
          simpa only [Answers, if_pos named] using answered
        rcases writes.cases with same | ⟨version, latest, -, -, -, stored⟩
        · exact .inl same
        · exact .inr (.inr ⟨secret, version, rfl, named, stored⟩)
      · exact .inl (by simpa only [Answers, if_neg named] using answered)
  | _ => exact .inl answered

/-- A Secret that is missing can be created. -/
theorem Answers.creates {secret : Secret} {version : Version}
    (named : secret.objectMeta.key = secretKey key) (absent : world.versions = [])
    (fresh : version.resourceVersion = world.nextVersion) :
    Answers key world (.createSecret secret) (.ok version) (world.push (stamp secret version)) := by
  simp only [Answers, if_pos named]
  exact ⟨absent, fresh, rfl⟩

/-- No request of the operator takes a version away. -/
theorem Answers.grows {request : Request (Object .user)} {reply : request.Answer}
    (answered : Answers key world request reply after) : world.versions <:+ after.versions := by
  rcases answered.cases with rfl | ⟨secret, version, -, -, rfl⟩ | ⟨secret, version, -, -, rfl⟩
  · exact List.suffix_rfl
  · exact List.suffix_cons ..
  · exact List.suffix_cons ..

end Moves

end TopologyOperator.SecretServer
