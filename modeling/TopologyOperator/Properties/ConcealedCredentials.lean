import TopologyOperator.ApiServer.StoredObject
import TopologyOperator.Controller.Concealment

/-!
# Credentials stay where they belong

What a reconcile writes to the API server and publishes as events, apart from the contents
of Secrets, and the result that it returns do not depend on the credentials that it comes
across: those in Secrets, those in the secret store and those that it draws itself. So
nobody who sees no more than the objects, over any number of reconciles, learns anything
about them. Only a URI that cannot be parsed is published, within the error that quotes it.
-/

namespace TopologyOperator

open Dialogue Program Environment

variable {kind : Kind}

/-- What a request writes to the API server for others to see. -/
def Request.published {Resource : Type} : Request Resource → Option (Request Resource)
  | .createSecret secret => some (.createSecret { secret with data := [] })
  | .updateSecret secret => some (.updateSecret { secret with data := [] })
  | .update object => some (.update object)
  | .updateStatus object => some (.updateStatus object)
  | .createObject object => some (.createObject object)
  | .updateObject object => some (.updateObject object)
  | .eventf note => some (.eventf note)
  | _ => none

def published {Resource : Type} (trace : Trace Resource) : List (Request Resource) :=
  trace.filterMap (·.request.published)

/-- What is published of a request shows no credentials. -/
theorem Conceals.published {Resource : Type} {alike : Secret → Secret → Prop}
    {request other : Request Resource} {same : request.Answer → other.Answer → Prop}
    (conceals : Conceals alike request other same) : request.published = other.published := by
  cases conceals with
  | @createSecret secret other same =>
      exact congrArg (fun objectMeta => some (Request.createSecret ⟨objectMeta, []⟩)) same
  | @updateSecret secret other same =>
      exact congrArg (fun objectMeta => some (Request.updateSecret ⟨objectMeta, []⟩)) same
  | _ => rfl

/-- Nor does what is published of a run. -/
theorem published_of_coupled {Resource : Type} {alike : Secret → Secret → Prop}
    {trace other : Trace Resource} (coupled : List.Forall₂ (Coupled (Conceals alike)) trace other) :
    published trace = published other := by
  induction coupled with
  | nil => rfl
  | cons event _ ih =>
      obtain ⟨same, conceals, -⟩ := event
      simp only [published, List.filterMap_cons, conceals.published] at ih ⊢
      rw [ih]

/-- Two answer sequences that differ in credentials only. -/
def SameUpToCredentials (libraries : Libraries)
    (first second : Replies (@Request.Answer (Object kind))) : Prop :=
  ∀ position request other same,
    Conceals (fun secret secret' => secret.Alike libraries secret') request other same →
      same (first position request) (second position other)

/-- Two reconciles whose answers differ in credentials only publish the same and return
the same. -/
theorem credentials_unpublished (r : TopologyReconciler) (key : NamespacedName)
    {first second : Replies (@Request.Answer (Object kind))}
    (same : SameUpToCredentials r.libraries first second) :
    published ((r.reconcile key).run first 0).1 = published ((r.reconcile key).run second 0).1 ∧
      ((r.reconcile key).run first 0).2 = ((r.reconcile key).run second 0).2 := by
  have conceals : Concealing (fun secret other => secret.Alike r.libraries other) Eq
      (r.reconcile key : Prog (Object kind) _) (r.reconcile key) :=
    reconcile_concealing (fun _ _ alike => alike) key
  obtain ⟨coupled, outcomes⟩ := conceals.run same 0
  exact ⟨published_of_coupled coupled, outcomes⟩

/-- The condition on URIs cannot be dropped: the error of a URI that is not accepted, which
quotes the URI, is published and returned. -/
theorem rejected_uri_published (r : TopologyReconciler) {object : Object kind}
    {connection : LocalObjectReference} {secret : Secret} {uri err : String}
    (given : object.rabbitReference.connectionSecret = some connection)
    (allowed : allowedNamespaceSecret object.rabbitReference object.objectMeta.ns secret = true)
    (held : secret.data.lookup "uri" = some uri)
    (rejected : extractURIandScheme r.libraries uri = .error (.text err))
    {rest : Trace (Object kind)} {result : Result × Option GoError}
    (exec : (r.reconcileRead object).Exec (⟨.systemCertPool, .ok ()⟩ :: ⟨.getSecret .cache
      ⟨object.rabbitReference.connectionSecretNamespace object.objectMeta.ns, connection.name⟩,
      .ok secret⟩ :: rest) (.done result)) :
    result = ({}, some (.text err)) ∧
      .eventf ⟨.warning, "FailedCreateOrUpdate", "update",
        TopologyReconciler.failedParseClusterRef (.text err)⟩ ∈ published rest := by
  have resolved : (r.resolve object).Exec [⟨.getSecret .cache
      ⟨object.rabbitReference.connectionSecretNamespace object.objectMeta.ns, connection.name⟩,
      .ok secret⟩] (.done (.error (.text err))) := by
    rw [TopologyReconciler.resolve, parseReference, given]
    refine exec_ask_bind.mpr ⟨.ok secret, [], rfl, ?_⟩
    dsimp only
    rw [if_pos allowed, readCredentialsFromKubernetesSecret, held]
    dsimp only
    rw [rejected]
    exact ⟨rfl, rfl⟩
  obtain ⟨certified, _, rest', same, ran, read⟩ := exec_bind_done.mp exec
  have loaded : (TopologyReconciler.extractSystemCertPool : Prog (Object kind) _).Exec
      [⟨.systemCertPool, .ok ()⟩]
      (.done (.ok ())) := ⟨.ok (), [], rfl, rfl, rfl⟩
  obtain ⟨rfl, first⟩ := ran.unique loaded same.symm
  cases first
  cases same
  obtain ⟨found, _, handling, same, ran, handled⟩ := exec_bind_done.mp read
  obtain ⟨rfl, second⟩ := ran.unique resolved same.symm
  cases second
  cases same
  dsimp only at handled
  obtain ⟨_, publishing, rfl, recorded⟩ := exec_ask_bind.mp handled
  obtain ⟨_, _, _, -, -, -, ended⟩ := exec_bind_done.mp recorded
  cases ended
  exact ⟨rfl, .head _⟩

section Runs

variable {key : NamespacedName}

/-- The API server treats requests alike that are the same up to credentials. -/
theorem answers_disguised {disguise : Secret → Secret} {world after : ApiServer.World kind}
    {request other : Request (Object kind)} {same : request.Answer → other.Answer → Prop}
    {reply : request.Answer}
    (conceals : Conceals (fun secret secret' => secret' = disguise secret) request other same)
    (answered : ApiServer.Answers world request reply after) :
    ∃ answer, same reply answer ∧ ApiServer.Answers world other answer after := by
  cases conceals with
  | plain => exact ⟨reply, rfl, answered⟩
  | getSecret reader key =>
      rcases reply with err | secret
      · exact ⟨.error err, .error err, answered⟩
      · exact ⟨.ok (disguise secret), .ok rfl, answered⟩
  | readCredentials path =>
      rcases reply with err | found
      · exact ⟨.error err, .error err, answered⟩
      · exact ⟨.ok found, .ok rfl, answered⟩
  | randomEncodedString length =>
      rcases reply with err | drawn
      · exact ⟨.error err, .error err, answered⟩
      · exact ⟨.ok drawn, .ok trivial, answered⟩
  | passwordSalt => exact ⟨reply, trivial, answered⟩
  | createSecret | updateSecret | newClient | putUser | putGlobalParameter
  | putFederationUpstream | declareShovel => exact ⟨reply, rfl, answered⟩

end Runs

section Example

/-- Another password, if there is one. -/
def otherValue (key value : String) : String :=
  if key = "password" ∧ value ≠ "" then "hunter2" else value

def otherPassword (secret : Secret) : Secret :=
  { secret with data := secret.data.map fun entry => (entry.1, otherValue entry.1 entry.2) }

/-- Replacing the values of a Secret leaves its keys. -/
theorem lookup_otherValue (data : List (String × String)) (key : String) :
    (data.map fun entry => (entry.1, otherValue entry.1 entry.2)).lookup key =
      (data.lookup key).map (otherValue key) := by
  induction data with
  | nil => rfl
  | cons entry rest ih =>
      obtain ⟨held, value⟩ := entry
      simp only [List.map_cons, List.lookup_cons]
      split
      · next same =>
          rw [beq_iff_eq] at same
          subst same
          rfl
      · exact ih

theorem map_otherValue {key : String} (other : key ≠ "password") (found : Option String) :
    found.map (otherValue key) = found := by
  cases found with
  | none => rfl
  | some value => exact congrArg some (if_neg fun both => other both.1)

/-- A Secret with another password is alike. -/
theorem otherPassword_alike (libraries : Libraries) (secret : Secret) :
    secret.Alike libraries (otherPassword secret) := by
  refine ⟨⟨rfl, fun key => ?_, ?_⟩, ?_, ?_⟩
  · change _ = ((secret.data.map _).lookup key).isSome
    rw [lookup_otherValue, Option.isSome_map]
  · change _ = (secret.data.map _).lookup "username"
    rw [lookup_otherValue, map_otherValue (by decide)]
  · change _ ↔ (secret.data.map _).lookup "password" = some ""
    rw [lookup_otherValue]
    rcases secret.data.lookup "password" with _ | value
    · exact Iff.rfl
    · by_cases blank : value = ""
      · subst blank
        exact Iff.rfl
      · have replaced : otherValue "password" value = "hunter2" := if_pos ⟨rfl, blank⟩
        simp [replaced, blank]
  · change _ = ((secret.data.map _).lookup "uri").map _
    rw [lookup_otherValue, map_otherValue (by decide)]

def importingUser : Object .user where
  objectMeta := { name := "hare", ns := "burrow", finalizers := [Kind.user.finalizer] }
  spec := {
    rabbitmqClusterReference := { connectionSecret := some ⟨"connection"⟩ }
    importCredentialsSecret := some ⟨"credentials"⟩ }

def sharedSecret : Secret where
  objectMeta := { name := "credentials", ns := "burrow" }
  data := [("username", "hare"), ("password", "swordfish"), ("uri", "http://rabbit")]

/-- Everything succeeds, and each Secret that is read is this one. -/
def granting (secret : Secret) : Replies (@Request.Answer (Object .user)) := fun _ request =>
  match request with
  | .get _ => .ok importingUser
  | .getSecret .. => .ok secret
  | .systemCertPool | .newClient .. => .ok ()
  | .updateStatus _ => .ok ⟨1, 1⟩
  | .broker (.putUser ..) => ⟨some ⟨204, ""⟩, none⟩
  | .broker (.getUserLimits _) => .ok []
  | request => request.refusal

/-- Answers that differ in one Secret differ in credentials only. -/
theorem granting_same {secret other : Secret} (alike : secret.Alike Libraries.verbatim other) :
    SameUpToCredentials Libraries.verbatim (granting secret) (granting other) := by
  intro position request other same conceals
  cases conceals with
  | @plain request plain =>
      cases request with
      | getSecret | createSecret | updateSecret | readCredentials | randomEncodedString
      | passwordSalt | newClient => cases plain
      | broker call => cases call <;> rfl
      | _ => rfl
  | getSecret => exact .ok alike
  | readCredentials => exact .error _
  | randomEncodedString => exact .error _
  | passwordSalt => trivial
  | _ => rfl

def hareReconciler : TopologyReconciler := ⟨Libraries.verbatim, "", false⟩

def hareKey : NamespacedName := ⟨"burrow", "hare"⟩

def hareWorld : ApiServer.World .user := ⟨some importingUser, 1, 1, []⟩

/-- Two runs with different passwords publish the same and end alike. -/
theorem hare_unpublished : otherPassword sharedSecret ≠ sharedSecret ∧
    published ((hareReconciler.reconcile hareKey).run (granting sharedSecret) 0).1 =
      published ((hareReconciler.reconcile hareKey).run
        (granting (otherPassword sharedSecret)) 0).1 ∧
    ((hareReconciler.reconcile hareKey).run (granting sharedSecret) 0).2 =
      ((hareReconciler.reconcile hareKey).run (granting (otherPassword sharedSecret)) 0).2 :=
  ⟨by decide, credentials_unpublished hareReconciler hareKey
    (granting_same (otherPassword_alike _ sharedSecret))⟩

/-- A reconcile that has read a connection Secret. -/
theorem hare_connects : ∃ trace program,
    (ApiServer.environment hareKey).Reachable (hareReconciler.reconcile hareKey)
      hareWorld ⟨hareWorld, some (trace, program)⟩ ∧
    (⟨.getSecret .cache ⟨"burrow", "connection"⟩, .ok sharedSecret⟩ :
      Event (@Request.Answer (Object .user))) ∈ trace := by
  have started : (ApiServer.environment hareKey).Reachable
      (hareReconciler.reconcile hareKey) hareWorld _ :=
    .single .start
  have read := started.answer (.ok importingUser)
    ⟨rfl, fun object same => congrArg some (Except.ok.inj same)⟩
  have certified := read.answer (.ok ()) rfl
  have connected := certified.answer (.ok sharedSecret) rfl
  refine ⟨_, _, connected, ?_⟩
  exact List.mem_append_right _ (List.mem_singleton.mpr rfl)

end Example

end TopologyOperator
