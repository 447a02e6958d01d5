import Mathlib.Logic.Function.Basic
import TopologyOperator.ApiServer.Writes

/-!
# A super stream and its children in the API server

The environment of the runs of a super stream reconciler. The reconciler reads the
super stream as it is stored, and writes are checked against the version. A child
is read from a cache, which may answer with any of its past versions or miss it;
other controllers change the metadata and the status of a child, but not its spec.
Which updates of the super stream users can make is a parameter.
-/

namespace TopologyOperator.SuperStreamServer

open Dialogue ApiServer

/-- The stored super stream, and for each child all its versions, the latest
first. -/
structure World where
  stream : SuperStream
  nextVersion : ResourceVersion
  children : (slot : Kind × NamespacedName) → List (Object slot.1)

/-- A super stream that was just created: it has no status and no children. -/
def World.fresh (stream : SuperStream) : World where
  stream := { stream with status := {} }
  nextVersion := stream.objectMeta.resourceVersion + 1
  children _ := []

variable {kind : Kind}

/-- The slot of a child. -/
def slot (child : Object kind) : Kind × NamespacedName := (kind, child.objectMeta.key)

/-- Store a new version of a child. -/
def World.push (world : World) (child : Object kind) : World where
  stream := world.stream
  nextVersion := world.nextVersion + 1
  children := Function.update world.children (slot child) (child :: world.children (slot child))

/-- Store a new version of the super stream. -/
def World.replace (world : World) (stream : SuperStream) : World :=
  { world with stream := stream, nextVersion := world.nextVersion + 1 }

/-- The super stream under a version. -/
def stamp (stream : SuperStream) (version : Version) : SuperStream :=
  { stream with objectMeta := { stream.objectMeta with
    resourceVersion := version.resourceVersion
    generation := version.generation } }

/-- `Update` of the super stream stores everything but the status. -/
def Updates (world : World) (written : SuperStream) (version : Version) (after : World) : Prop :=
  world.stream.objectMeta.resourceVersion = written.objectMeta.resourceVersion ∧
    world.stream.objectMeta.key = written.objectMeta.key ∧
    version.resourceVersion = world.nextVersion ∧
    after = world.replace (stamp { written with status := world.stream.status } version)

/-- `Status().Update` of the super stream; one that changes nothing keeps the
version. -/
def UpdatesStatus (world : World) (written : SuperStream) (version : Version)
    (after : World) : Prop :=
  world.stream.objectMeta.resourceVersion = written.objectMeta.resourceVersion ∧
    (version.resourceVersion = world.nextVersion ∧
        after = world.replace (stamp { world.stream with status := written.status } version) ∨
      version.resourceVersion = world.stream.objectMeta.resourceVersion ∧
        written.status = world.stream.status ∧ after = world)

/-- A child is created only if there is none of its name. -/
def Creates (world : World) (child : Object kind) (version : Version) (after : World) : Prop :=
  world.children (slot child) = [] ∧ after = world.push (child.withVersion version)

/-- A child is updated only from its latest version. -/
def UpdatesChild (world : World) (child : Object kind) (version : Version)
    (after : World) : Prop :=
  ∃ latest earlier, world.children (slot child) = latest :: earlier ∧
    latest.objectMeta.resourceVersion = child.objectMeta.resourceVersion ∧
    after = world.push (child.withVersion version)

/-- How the requests of the operator are answered. -/
def Answers (world : World) :
    (request : Request SuperStream) → request.Answer → World → Prop
  | .get _, reply, after => after = world ∧ ∀ stream, reply = .ok stream → world.stream = stream
  | .update written, reply, after => Writes world (Updates world written) reply after
  | .updateStatus written, reply, after => Writes world (UpdatesStatus world written) reply after
  | .getObject kind key, reply, after =>
      after = world ∧ ∀ child, reply = .ok child → child ∈ world.children (kind, key)
  | .createObject child, reply, after => Writes world (Creates world child) reply after
  | .updateObject child, reply, after => Writes world (UpdatesChild world child) reply after
  | _, _, after => after = world

/-- Users update the super stream; other controllers touch its children. -/
inductive Foreign (permitted : SuperStream → SuperStream → Prop) (world : World) :
    World → Prop where
  | update (stream : SuperStream) (allowed : permitted world.stream stream)
      (named : stream.objectMeta.key = world.stream.objectMeta.key)
      (status : stream.status = world.stream.status)
      (fresh : stream.objectMeta.resourceVersion = world.nextVersion) :
      Foreign permitted world (world.replace stream)
  | touch {kind : Kind} (child latest : Object kind) (earlier : List (Object kind))
      (found : world.children (slot child) = latest :: earlier) (spec : child.spec = latest.spec) :
      Foreign permitted world (world.push child)

/-- The API server, the users and the other controllers. -/
def environment (permitted : SuperStream → SuperStream → Prop) :
    Environment (@Request.Answer SuperStream) World where
  foreign := Foreign permitted
  answers := Answers

section Moves

variable {world : World}

/-- The versions of a child after one more was stored. -/
theorem mem_push {child : Object kind} {place : Kind × NamespacedName} {held : Object place.1}
    (member : held ∈ (world.push child).children place) :
    held ∈ world.children place ∨ ∃ same : slot child = place, same ▸ child = held := by
  by_cases same : slot child = place
  · subst same
    simp only [World.push, Function.update_self] at member
    cases member with
    | head => exact .inr ⟨rfl, rfl⟩
    | tail _ earlier => exact .inl earlier
  · simp only [World.push, Function.update_of_ne (Ne.symm same)] at member
    exact .inl member

/-- A slot is in use after a child was stored. -/
theorem push_ne_nil {child : Object kind} {place : Kind × NamespacedName} :
    (world.push child).children place ≠ [] ↔ slot child = place ∨ world.children place ≠ [] := by
  by_cases same : slot child = place
  · subst same
    simp [World.push]
  · simp [World.push, Function.update_of_ne (Ne.symm same), same]

end Moves

end TopologyOperator.SuperStreamServer
