import TopologyOperator.ApiServer.Writes

/-!
# One object in the API server

The environment of the runs of a topology reconciler: the object of one name, as
the API server stores it, and what users do to it. Writes are checked against the
UID and the version of the stored object, a marked object disappears with its last
finalizer, and nobody but the operator touches the operator's finalizer or the
status. A write that is answered with an error may have been applied or not. The
answers to all other requests are arbitrary.
-/

namespace TopologyOperator.ApiServer

open Dialogue

variable {kind : Kind}

/-- The stored object, if there is one. `released` records the incarnations that
were stored without the operator's finalizer on the operator's own request. -/
structure World (kind : Kind) where
  stored : Option (Object kind)
  nextVersion : ResourceVersion
  nextUid : UID
  released : List UID

/-- No object was ever created. -/
def World.empty : World kind := ⟨none, 1, 1, []⟩

/-- An object that is marked for deletion is gone once it has no finalizers. -/
def settled (object : Object kind) : Option (Object kind) :=
  if object.objectMeta.deletionTimestamp.isSome ∧ object.objectMeta.finalizers = [] then none
  else some object

/-- What stays is the object that was stored. -/
theorem settled_eq_some {object result : Object kind} (found : settled object = some result) :
    result = object := by
  unfold settled at found
  split at found
  · cases found
  · exact (Option.some.inj found).symm

/-- An object with a finalizer stays. -/
theorem settled_of_mem {object : Object kind} {finalizer : String}
    (carries : finalizer ∈ object.objectMeta.finalizers) : settled object = some object := by
  refine if_neg fun gone => ?_
  rw [gone.2] at carries
  cases carries

namespace World

/-- Store an object under a new version. -/
def replace (world : World kind) (object : Object kind) (version : Version) : World kind :=
  { world with
    stored := settled (object.withVersion version)
    nextVersion := world.nextVersion + 1 }

/-- Record a write that lacks the operator's finalizer. -/
def recordRelease (world : World kind) (written : Object kind) : World kind :=
  if kind.finalizer ∈ written.objectMeta.finalizers then world
  else { world with released := written.objectMeta.uid :: world.released }

@[simp] theorem recordRelease_stored (world : World kind) (written : Object kind) :
    (world.recordRelease written).stored = world.stored := by
  unfold recordRelease
  split <;> rfl

@[simp] theorem recordRelease_nextUid (world : World kind) (written : Object kind) :
    (world.recordRelease written).nextUid = world.nextUid := by
  unfold recordRelease
  split <;> rfl

/-- A write without the finalizer is recorded as a release. -/
theorem mem_recordRelease {world : World kind} {written : Object kind} {uid : UID} :
    uid ∈ (world.recordRelease written).released ↔ uid ∈ world.released ∨
      kind.finalizer ∉ written.objectMeta.finalizers ∧ uid = written.objectMeta.uid := by
  unfold recordRelease
  split
  · next carries => simp [carries]
  · next lacks => simp [lacks, or_comm]

end World

/-- The object is stored; a write that changes nothing keeps the version. -/
inductive Stores (world : World kind) (object : Object kind) : Version → World kind → Prop where
  | changed (version : Version) (fresh : version.resourceVersion = world.nextVersion) :
      Stores world object version (world.replace object version)
  | unchanged (same : world.stored = some object) :
      Stores world object ⟨object.objectMeta.resourceVersion, object.objectMeta.generation⟩ world

/-- The stored object is the one that the writer has read. -/
def Current (world : World kind) (written current : Object kind) : Prop :=
  world.stored = some current ∧ current.objectMeta.uid = written.objectMeta.uid ∧
    current.objectMeta.resourceVersion = written.objectMeta.resourceVersion

/-- `Update` stores everything but the status and the deletion timestamp. -/
def updated (written current : Object kind) : Object kind :=
  { written with
    objectMeta := { written.objectMeta with
      deletionTimestamp := current.objectMeta.deletionTimestamp }
    status := current.status }

def Updates (world : World kind) (written : Object kind) (version : Version)
    (after : World kind) : Prop :=
  ∃ current, Current world written current ∧
    Stores (world.recordRelease written) (updated written current) version after

/-- `Status().Update` stores nothing but the status. -/
def statusUpdated (written current : Object kind) : Object kind :=
  { current with status := written.status }

def UpdatesStatus (world : World kind) (written : Object kind) (version : Version)
    (after : World kind) : Prop :=
  ∃ current, Current world written current ∧
    Stores world (statusUpdated written current) version after

/-- How the requests of the operator are answered. -/
def Answers (world : World kind) :
    (request : Request (Object kind)) → request.Answer → World kind → Prop
  | .get _, reply, after =>
      after = world ∧ ∀ object, reply = .ok object → world.stored = some object
  | .update written, reply, after => Writes world (Updates world written) reply after
  | .updateStatus written, reply, after => Writes world (UpdatesStatus world written) reply after
  | _, _, after => after = world

/-- What no user changes in an object: its identity, its status, the operator's
finalizer, and that it is marked for deletion. -/
structure Preserved (before after : Object kind) : Prop where
  uid : after.objectMeta.uid = before.objectMeta.uid
  key : after.objectMeta.key = before.objectMeta.key
  status : after.status = before.status
  finalizer : kind.finalizer ∈ after.objectMeta.finalizers ↔
    kind.finalizer ∈ before.objectMeta.finalizers
  marked : before.objectMeta.deletionTimestamp.isSome = true →
    after.objectMeta.deletionTimestamp.isSome = true

/-- What users do: create the object, update it, delete it. -/
inductive Foreign (key : NamespacedName) (world : World kind) : World kind → Prop where
  | create (object : Object kind) (version : Version) (absent : world.stored = none)
      (named : object.objectMeta.key = key) (uid : object.objectMeta.uid = world.nextUid)
      (unmarked : object.objectMeta.deletionTimestamp = none) (status : object.status = {})
      (fresh : version.resourceVersion = world.nextVersion) :
      Foreign key world { world.replace object version with nextUid := world.nextUid + 1 }
  | update (current object : Object kind) (version : Version)
      (stored : world.stored = some current) (preserved : Preserved current object)
      (timestamp : object.objectMeta.deletionTimestamp = current.objectMeta.deletionTimestamp)
      (fresh : version.resourceVersion = world.nextVersion) :
      Foreign key world (world.replace object version)
  | delete (current : Object kind) (time : Time) (version : Version)
      (stored : world.stored = some current)
      (fresh : version.resourceVersion = world.nextVersion) :
      Foreign key world (world.replace
        { current with objectMeta := { current.objectMeta with
          deletionTimestamp := some (current.objectMeta.deletionTimestamp.getD time) } } version)

/-- The API server and the users, for the object of one name. -/
def environment (key : NamespacedName) :
    Environment (@Request.Answer (Object kind)) (World kind) where
  foreign := Foreign key
  answers := Answers

section Moves

variable {key : NamespacedName} {world next after : World kind} {object written : Object kind}

/-- Users keep an object that carries the operator's finalizer. -/
theorem Foreign.keeps (move : Foreign key world next) (found : world.stored = some object)
    (carries : kind.finalizer ∈ object.objectMeta.finalizers) :
    ∃ later, next.stored = some later ∧ Preserved object later := by
  cases move with
  | create created version absent =>
      rw [absent] at found
      cases found
  | update current updated version stored preserved =>
      obtain rfl : current = object := Option.some.inj (stored.symm.trans found)
      exact ⟨_, settled_of_mem (preserved.finalizer.mpr carries), preserved.uid, preserved.key,
        preserved.status, preserved.finalizer, preserved.marked⟩
  | delete current time version stored =>
      obtain rfl : current = object := Option.some.inj (stored.symm.trans found)
      exact ⟨_, settled_of_mem carries, rfl, rfl, rfl, Iff.rfl, fun _ => rfl⟩

/-- Where a stored object comes from. -/
theorem Foreign.origin (move : Foreign key world next) (found : next.stored = some object) :
    (∃ before, world.stored = some before ∧ Preserved before object ∧
      next.nextUid = world.nextUid) ∨
    object.objectMeta.uid = world.nextUid ∧ object.status = {} ∧ world.stored = none ∧
      next.nextUid = world.nextUid + 1 := by
  cases move with
  | create created version absent named uid unmarked status =>
      obtain rfl := settled_eq_some found
      exact .inr ⟨uid, status, absent, rfl⟩
  | update current updated version stored preserved =>
      obtain rfl := settled_eq_some found
      exact .inl ⟨current, stored, ⟨preserved.uid, preserved.key, preserved.status,
        preserved.finalizer, preserved.marked⟩, rfl⟩
  | delete current time version stored =>
      obtain rfl := settled_eq_some found
      exact .inl ⟨current, stored, ⟨rfl, rfl, rfl, Iff.rfl, fun _ => rfl⟩, rfl⟩

theorem Foreign.released (move : Foreign key world next) : next.released = world.released := by
  cases move <;> rfl

/-- UIDs are assigned in order. -/
theorem Foreign.nextUid_le (move : Foreign key world next) : world.nextUid ≤ next.nextUid := by
  cases move with
  | create => exact Nat.le_succ _
  | update => exact Nat.le_refl _
  | delete => exact Nat.le_refl _

/-- A write has stored this content, under some version. Content with a finalizer
does not disappear. -/
structure Became (world : World kind) (content : Object kind) : Prop where
  stored : ∀ object, world.stored = some object → ∃ version, object = content.withVersion version
  present : content.objectMeta.finalizers ≠ [] →
    ∃ version, world.stored = some (content.withVersion version)

/-- Once the object is stored, its content is what was written. -/
theorem Stores.became {version : Version} (stores : Stores world object version after) :
    Became after object ∧ after.released = world.released ∧ after.nextUid = world.nextUid := by
  cases stores with
  | changed =>
      refine ⟨⟨fun later found => ⟨version, settled_eq_some found⟩, fun nonempty => ?_⟩, rfl, rfl⟩
      obtain ⟨finalizer, carries⟩ := List.exists_mem_of_ne_nil _ nonempty
      exact ⟨version, settled_of_mem carries⟩
  | unchanged same =>
      refine ⟨⟨fun later found => ⟨⟨object.objectMeta.resourceVersion,
        object.objectMeta.generation⟩, Option.some.inj (found.symm.trans same)⟩, fun _ => ?_⟩,
        rfl, rfl⟩
      exact ⟨⟨object.objectMeta.resourceVersion, object.objectMeta.generation⟩, same⟩

/-- All that a request of the operator can do to the stored object. -/
theorem Answers.cases {request : Request (Object kind)} {reply : request.Answer}
    (answered : Answers world request reply after) :
    after = world ∨
    (∃ written current, request = .update written ∧ Current world written current ∧
      Became after (updated written current) ∧
      after.released = (world.recordRelease written).released ∧ after.nextUid = world.nextUid) ∨
    (∃ written current, request = .updateStatus written ∧ Current world written current ∧
      Became after (statusUpdated written current) ∧
      after.released = world.released ∧ after.nextUid = world.nextUid) := by
  cases request with
  | get => exact .inl answered.1
  | update written =>
      rcases Writes.cases answered with same | ⟨version, current, matching, stores⟩
      · exact .inl same
      · obtain ⟨became, released, nextUid⟩ := stores.became
        exact .inr (.inl ⟨written, current, rfl, matching, became, released,
          nextUid.trans (World.recordRelease_nextUid ..)⟩)
  | updateStatus written =>
      rcases Writes.cases answered with same | ⟨version, current, matching, stores⟩
      · exact .inl same
      · obtain ⟨became, released, nextUid⟩ := stores.became
        exact .inr (.inr ⟨written, current, rfl, matching, became, released, nextUid⟩)
  | _ => exact .inl answered

end Moves

end TopologyOperator.ApiServer
