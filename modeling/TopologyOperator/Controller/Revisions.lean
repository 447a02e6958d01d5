import TopologyOperator.Controller.Footprint
import TopologyOperator.Dialogue.History

/-!
# What a reconcile knows of the stored object

The API server names every stored state of an object by a version. What a reconcile
has been answered tells it which version goes with which generation, spec and
status: `View.Knows`. A reconcile keeps to what it knows: every write carries a
version of which it knows the spec and the status, and keeps the spec
(`View.Faithful`).
-/

namespace TopologyOperator

open Dialogue Program

/-- A stored state of a resource, apart from its status and from the metadata that
anyone may change. -/
structure Revision (Spec : Type) where
  uid : UID
  resourceVersion : ResourceVersion
  generation : Int
  spec : Spec

/-- The revision after a write. -/
def Revision.renewed {Spec : Type} (revision : Revision Spec) (version : Version) :
    Revision Spec :=
  { revision with
    resourceVersion := version.resourceVersion
    generation := version.generation }

/-- The revision and the status of a resource. -/
structure View (Resource Spec Status : Type) where
  revision : Resource → Revision Spec
  status : Resource → Status

def Object.view {kind : Kind} : View (Object kind) (Spec kind) Status where
  revision object := ⟨object.objectMeta.uid, object.objectMeta.resourceVersion,
    object.objectMeta.generation, object.spec⟩
  status object := object.status

def SuperStream.view : View SuperStream SuperStreamSpec SuperStreamStatus where
  revision superStream := ⟨superStream.objectMeta.uid, superStream.objectMeta.resourceVersion,
    superStream.objectMeta.generation, superStream.spec⟩
  status superStream := superStream.status

variable {Resource Spec Status α : Type}

/-- The requests that do not write the resource that is reconciled. -/
def Request.spares : Request Resource → Bool
  | update _ | updateStatus _ => false
  | _ => true

/-- What only observes writes nothing. -/
theorem spares_of_observes {request : Request Resource} (observes : request.observes = true) :
    request.spares = true := by
  cases request with
  | update | updateStatus => cases observes
  | _ => rfl

/-- Calls of the broker do not write the object. -/
theorem spares_of_brokerOnly {calls : BrokerCall → Prop} {request : Request Resource}
    (only : BrokerOnly calls request) : request.spares = true := by
  rcases only with observes | ⟨call, rfl, -⟩
  · exact spares_of_observes observes
  · rfl

namespace View

variable (view : View Resource Spec Status)

/-- The version that an answer tells. Reads and writes of the resource that succeed
tell one. -/
def learns : (request : Request Resource) → request.Answer → Option ResourceVersion
  | .get _, .ok object => some (view.revision object).resourceVersion
  | .update _, .ok version => some version.resourceVersion
  | .updateStatus _, .ok version => some version.resourceVersion
  | _, _ => none

variable {view} in
/-- A read tells the version that it found. -/
theorem learns_get {key : NamespacedName} {reply : Except ApiError Resource}
    {told : ResourceVersion} (learned : view.learns (.get key) reply = some told) :
    ∃ object, reply = .ok object ∧ (view.revision object).resourceVersion = told := by
  cases reply with
  | error => cases learned
  | ok object => exact ⟨object, rfl, Option.some.inj learned⟩

variable {view} in
/-- An update that succeeds tells the version that it was given. -/
theorem learns_update {written : Resource} {reply : Except ApiError Version}
    {told : ResourceVersion} (learned : view.learns (.update written) reply = some told) :
    ∃ version, reply = .ok version ∧ version.resourceVersion = told := by
  cases reply with
  | error => cases learned
  | ok version => exact ⟨version, rfl, Option.some.inj learned⟩

variable {view} in
theorem learns_updateStatus {written : Resource} {reply : Except ApiError Version}
    {told : ResourceVersion} (learned : view.learns (.updateStatus written) reply = some told) :
    ∃ version, reply = .ok version ∧ version.resourceVersion = told := by
  cases reply with
  | error => cases learned
  | ok version => exact ⟨version, rfl, Option.some.inj learned⟩

/-- The trace tells that the API server stored this revision with this status. -/
inductive Knows : Trace Resource → Revision Spec → Status → Prop where
  | read {before after : Trace Resource} {key : NamespacedName} {object : Resource} :
      Knows (before ++ ⟨.get key, .ok object⟩ :: after) (view.revision object)
        (view.status object)
  | updated {before after : Trace Resource} {written : Resource} {version : Version}
      {stored : Status} (known : Knows before (view.revision written) stored) :
      Knows (before ++ ⟨.update written, .ok version⟩ :: after)
        ((view.revision written).renewed version) stored
  | statusUpdated {before after : Trace Resource} {written : Resource} {version : Version}
      {stored : Status} (known : Knows before (view.revision written) stored) :
      Knows (before ++ ⟨.updateStatus written, .ok version⟩ :: after)
        ((view.revision written).renewed version) (view.status written)

/-- A write keeps to what the trace tells; what it may do to a status that is stored
is a parameter. -/
def Faithful (permits : Trace Resource → Resource → Status → Prop) (trace : Trace Resource) :
    Request Resource → Prop
  | .update written => ∃ stored, view.Knows trace (view.revision written) stored
  | .updateStatus written =>
      ∃ stored, view.Knows trace (view.revision written) stored ∧ permits trace written stored
  | _ => True

variable {view} {trace : Trace Resource} {revision : Revision Spec} {stored : Status}

/-- Nothing that is known gets lost. -/
theorem Knows.append (knows : view.Knows trace revision stored) (suffix : Trace Resource) :
    view.Knows (trace ++ suffix) revision stored := by
  cases knows with
  | read =>
      rw [List.append_assoc]
      exact .read
  | updated known =>
      rw [List.append_assoc]
      exact .updated known
  | statusUpdated known =>
      rw [List.append_assoc]
      exact .statusUpdated known

/-- The events before the last one are those before it was there. -/
theorem append_cons_eq_concat {β : Type} {before after trace : List β} {event last : β}
    (same : before ++ event :: after = trace ++ [last]) :
    (before = trace ∧ event = last) ∨ ∃ rest, trace = before ++ event :: rest := by
  rcases List.eq_nil_or_concat' after with rfl | ⟨rest, final, rfl⟩
  · obtain ⟨earlier, single⟩ := List.append_inj' same rfl
    exact .inl ⟨earlier, List.singleton_inj.mp single⟩
  · rw [← List.cons_append, ← List.append_assoc] at same
    exact .inr ⟨rest, (List.append_inj' same rfl).1.symm⟩

/-- What is known after one more event was known before, or the event tells it. -/
theorem Knows.concat {request : Request Resource} {reply : request.Answer}
    (knows : view.Knows (trace ++ [⟨request, reply⟩]) revision stored) :
    view.Knows trace revision stored ∨
    (∃ key object, (⟨request, reply⟩ : Event Request.Answer) = ⟨.get key, .ok object⟩ ∧
      revision = view.revision object ∧ stored = view.status object) ∨
    (∃ written version, (⟨request, reply⟩ : Event Request.Answer) =
      ⟨.update written, .ok version⟩ ∧ revision = (view.revision written).renewed version ∧
      view.Knows trace (view.revision written) stored) ∨
    (∃ written version before, (⟨request, reply⟩ : Event Request.Answer) =
      ⟨.updateStatus written, .ok version⟩ ∧
      revision = (view.revision written).renewed version ∧ stored = view.status written ∧
      view.Knows trace (view.revision written) before) := by
  generalize longer : trace ++ [⟨request, reply⟩] = events at knows
  cases knows with
  | read =>
      rcases append_cons_eq_concat longer.symm with ⟨-, event⟩ | ⟨rest, rfl⟩
      · exact .inr (.inl ⟨_, _, event.symm, rfl, rfl⟩)
      · exact .inl .read
  | updated known =>
      rcases append_cons_eq_concat longer.symm with ⟨rfl, event⟩ | ⟨rest, rfl⟩
      · exact .inr (.inr (.inl ⟨_, _, event.symm, rfl, known⟩))
      · exact .inl (.updated known)
  | statusUpdated known =>
      rcases append_cons_eq_concat longer.symm with ⟨rfl, event⟩ | ⟨rest, rfl⟩
      · exact .inr (.inr (.inr ⟨_, _, _, event.symm, rfl, rfl, known⟩))
      · exact .inl (.statusUpdated known)

/-- A version that is known was told by an event. -/
theorem Knows.learned (knows : view.Knows trace revision stored) :
    ∃ event ∈ trace, view.learns event.request event.answer = some revision.resourceVersion := by
  cases knows with
  | read => exact ⟨_, List.mem_append_right _ List.mem_cons_self, rfl⟩
  | updated => exact ⟨_, List.mem_append_right _ List.mem_cons_self, rfl⟩
  | statusUpdated => exact ⟨_, List.mem_append_right _ List.mem_cons_self, rfl⟩

end View

section Guarded

/-- A request that does not write the resource keeps to anything. -/
theorem faithful_of_spares {view : View Resource Spec Status}
    {permits : Trace Resource → Resource → Status → Prop} (trace : Trace Resource)
    (request : Request Resource) (spares : request.spares = true) :
    view.Faithful permits trace request := by
  cases request with
  | update | updateStatus => cases spares
  | _ => trivial

variable {guard : Trace Resource → Request Resource → Prop} {trace : Trace Resource}
  (spared : ∀ trace request, request.spares = true → guard trace request)

include spared

/-- Parts that do not write the resource. -/
theorem guarded_of_spares {program : Prog Resource α} {allowed : Request Resource → Prop}
    (calls : program.Calls allowed)
    (spares : ∀ request, allowed request → request.spares = true) :
    program.Guarded guard
      (fun value later => ∃ suffix, later = trace ++ suffix ∧ program.Exec suffix (.done value))
      trace :=
  Guarded.of_calls calls fun _ request allows => spared _ request (spares request allows)

/-- A request that spares the resource is allowed by every such guard. -/
theorem guarded_ask_bind {request : Request Resource} {next : request.Answer → Prog Resource α}
    {post : α → Trace Resource → Prop} (spares : request.spares = true)
    (rest : ∀ reply, (next reply).Guarded guard post (trace ++ [⟨request, reply⟩])) :
    ((ask request).bind next).Guarded guard post trace :=
  ⟨spared trace request spares, rest⟩

/-- A program that only observes keeps to every such guard. -/
theorem guarded_of_observes {program : Prog Resource α} (observes : Observes program) :
    program.Guarded guard
      (fun value later => ∃ suffix, later = trace ++ suffix ∧ program.Exec suffix (.done value))
      trace :=
  guarded_of_spares spared observes fun _ => spares_of_observes

omit spared in
/-- Retries keep what every attempt keeps. -/
theorem retryOnConflict_guarded {State : Type}
    {attempt : State → Prog Resource (State × Except GoError Unit)}
    {good : State → Trace Resource → Prop}
    (attempts : ∀ state trace, good state trace →
      (attempt state).Guarded guard (fun result later => good result.1 later) trace)
    (retries : Nat) {state : State} (holds : good state trace) :
    (retryOnConflict attempt retries state).Guarded guard
      (fun result later => good result.1 later) trace := by
  induction retries generalizing state trace with
  | zero => exact attempts state trace holds
  | succ retries ih =>
      apply (attempts state trace holds).bind
      intro result later goodLater
      split
      · split
        · exact ih goodLater
        · exact goodLater
      · exact goodLater

end Guarded

end TopologyOperator
