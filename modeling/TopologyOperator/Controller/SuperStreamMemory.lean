import TopologyOperator.Controller.Memory
import TopologyOperator.Controller.SuperStreamObligations

/-!
# The super stream in memory

A super stream reconcile also works on one copy and keeps to what it was told. It
changes the observed generation at the end of its builder loop, and on three more
occasions: when it refuses to scale down, when the number of routing keys does not
match, and when a child could not be created (`HasRefused`).
-/

namespace TopologyOperator.SuperStreamReconciler

open Dialogue Program SuperStreamServer

variable {key : NamespacedName} {trace : Trace SuperStream} {superStream read : SuperStream}

/-- After the trace, the reconcile that read the super stream has no routing keys to
work with, or has failed to create a child. -/
def HasRefused (key : NamespacedName) (trace : Trace SuperStream) : Prop :=
  ∃ read resolved rest rmqClusterRef, trace = ⟨.get key, .ok read⟩ :: (resolved ++ rest) ∧
    (resolution read).Exec resolved (.done (.ok rmqClusterRef)) ∧
    (keysFor read = none ∨ ∃ routingKeys loop more failure, rest = loop ++ more ∧
      keysFor read = some routingKeys ∧
      (builderLoop read rmqClusterRef routingKeys).Exec loop (.done (.error failure)))

/-- In the trace, the builder loop for the spec has ended, and the status says that
the super stream is ready in the generation in memory. -/
def Completes (key : NamespacedName) (trace : Trace SuperStream) (written : SuperStream) : Prop :=
  (∃ read names, LoopEnded key trace read names ∧ read.objectMeta.uid = written.objectMeta.uid ∧
    read.spec = written.spec) ∧
    written.status.observedGeneration = written.objectMeta.generation ∧
    ∃ condition ∈ written.status.conditions, ReadyTrue condition

/-- What a status write does to the observed generation. -/
def PermitsStatus (key : NamespacedName) (trace : Trace SuperStream) (written : SuperStream)
    (stored : SuperStreamStatus) : Prop :=
  written.status.observedGeneration = stored.observedGeneration ∨ Completes key trace written ∨
    HasRefused key trace

/-- What every write of a reconcile keeps to. -/
abbrev Disciplined (key : NamespacedName) : Trace SuperStream → Request SuperStream → Prop :=
  SuperStream.view.Faithful (PermitsStatus key)

/-- The copy in memory stems from a stored state and has its observed generation. -/
def InMemory (trace : Trace SuperStream) (superStream : SuperStream) : Prop :=
  ∃ stored, SuperStream.view.Knows trace (SuperStream.view.revision superStream) stored ∧
    superStream.status.observedGeneration = stored.observedGeneration

/-- The status of the copy in memory may be stored. -/
def Storable (key : NamespacedName) (trace : Trace SuperStream) (superStream : SuperStream) :
    Prop :=
  ∃ stored, SuperStream.view.Knows trace (SuperStream.view.revision superStream) stored ∧
    PermitsStatus key trace superStream stored

/-- What was known of the copy stays known. -/
theorem InMemory.append (memory : InMemory trace superStream) (suffix : Trace SuperStream) :
    InMemory (trace ++ suffix) superStream := by
  obtain ⟨stored, knows, same⟩ := memory
  exact ⟨stored, knows.append suffix, same⟩

theorem HasRefused.append (refuses : HasRefused key trace) (suffix : Trace SuperStream) :
    HasRefused key (trace ++ suffix) := by
  obtain ⟨read, resolved, rest, rmqClusterRef, rfl, resolves, cause⟩ := refuses
  refine ⟨read, resolved, rest ++ suffix, rmqClusterRef, ?_, resolves, ?_⟩
  · rw [List.cons_append, List.append_assoc]
  rcases cause with none | ⟨routingKeys, loop, more, failure, rfl, keyed, exec⟩
  · exact .inl none
  · exact .inr ⟨routingKeys, loop, more ++ suffix, failure, List.append_assoc .., keyed, exec⟩

/-- A loop that has ended stays ended. -/
theorem loopEnded_append {names : List String} (ended : LoopEnded key trace read names)
    (suffix : Trace SuperStream) : LoopEnded key (trace ++ suffix) read names := by
  obtain ⟨resolved, loop, rest, rmqClusterRef, routingKeys, rfl, resolves, keyed, exec⟩ := ended
  refine ⟨resolved, loop, rest ++ suffix, rmqClusterRef, routingKeys, ?_, resolves, keyed, exec⟩
  simp only [List.cons_append, List.append_assoc]

theorem Storable.append (storable : Storable key trace superStream) (suffix : Trace SuperStream) :
    Storable key (trace ++ suffix) superStream := by
  obtain ⟨stored, knows, observes⟩ := storable
  refine ⟨stored, knows.append suffix, ?_⟩
  rcases observes with same | ⟨⟨read, names, ended, identity⟩, ready⟩ | refuses
  · exact .inl same
  · exact .inr (.inl ⟨⟨read, names, loopEnded_append ended suffix, identity⟩, ready⟩)
  · exact .inr (.inr (refuses.append suffix))

/-- What holds of the copy in memory after its status was to be stored. -/
structure Stored (key : NamespacedName) (superStream : SuperStream) (trace : Trace SuperStream)
    (result : SuperStream) (later : Trace SuperStream) : Prop where
  storable : Storable key later result
  suffix : ∃ suffix, later = trace ++ suffix
  uid : result.objectMeta.uid = superStream.objectMeta.uid
  spec : result.spec = superStream.spec

/-- One attempt stores the status of the copy, or leaves it for the next one. -/
theorem updateStatus_guarded (storable : Storable key trace superStream) :
    (updateStatus superStream).Guarded (Disciplined key)
      (fun result later => Stored key superStream trace result.1 later) trace := by
  obtain ⟨stored, knows, observes⟩ := storable
  refine ⟨⟨stored, knows, observes⟩, fun reply => ?_⟩
  cases reply with
  | error err => exact ⟨Storable.append ⟨stored, knows, observes⟩ _, ⟨_, rfl⟩, rfl, rfl⟩
  | ok version => exact ⟨⟨_, .statusUpdated knows, .inl rfl⟩, ⟨_, rfl⟩, rfl, rfl⟩

/-- All attempts store the status of the same copy. -/
theorem storeStatus_guarded (storable : Storable key trace superStream) :
    (storeStatus superStream).Guarded (Disciplined key) (Stored key superStream trace) trace := by
  have attempts : ∀ state later, Stored key superStream trace state later →
      (updateStatus state).Guarded (Disciplined key)
        (fun result last => Stored key superStream trace result.1 last) later := by
    rintro state _ ⟨storable, ⟨suffix, rfl⟩, uid, spec⟩
    apply (updateStatus_guarded storable).weaken
    rintro result _ ⟨storableNow, ⟨more, rfl⟩, sameUid, sameSpec⟩
    exact ⟨storableNow, ⟨suffix ++ more, List.append_assoc ..⟩, sameUid.trans uid,
      sameSpec.trans spec⟩
  have start : Stored key superStream trace superStream trace :=
    ⟨storable, ⟨[], (List.append_nil _).symm⟩, rfl, rfl⟩
  exact (retryOnConflict_guarded attempts _ start).bind fun _ _ stored => stored

/-- The observed generation is set where the loop has ended or was refused. -/
theorem setReconcileSuccess_guarded {condition : Condition}
    (memory : ∃ stored, SuperStream.view.Knows trace (SuperStream.view.revision superStream) stored)
    (observes : Completes key trace { superStream with status := { superStream.status with
      conditions := [condition]
      observedGeneration := superStream.objectMeta.generation } } ∨ HasRefused key trace) :
    (setReconcileSuccess superStream condition).Guarded (Disciplined key) (fun _ _ => True)
      trace := by
  obtain ⟨stored, knows⟩ := memory
  refine Guarded.bind (storeStatus_guarded ?_) fun _ _ _ => trivial
  exact ⟨stored, knows, .inr observes⟩

/-- A refusal is stored with the generation that was refused. -/
theorem setNotReady_guarded (memory : InMemory trace superStream) (refuses : HasRefused key trace)
    (msg : String) :
    (setNotReady superStream msg).Guarded (Disciplined key) (fun _ _ => True) trace := by
  apply (guarded_of_observes faithful_of_spares (notReady_calls (by rfl) ..)).bind
  rintro condition _ ⟨suffix, rfl, -⟩
  obtain ⟨stored, knows, -⟩ := memory.append suffix
  exact setReconcileSuccess_guarded ⟨stored, knows⟩ (.inr (refuses.append suffix))

/-- Releasing the super stream keeps the status as it is. -/
theorem removeFinalizer_guarded (memory : InMemory trace superStream) :
    (removeFinalizer superStream).Guarded (Disciplined key) (fun _ _ => True) trace := by
  obtain ⟨stored, knows, -⟩ := memory
  refine ⟨⟨stored, knows⟩, fun reply => ?_⟩
  cases reply <;> trivial

/-- A failed resolution sets a condition and not the observed generation. -/
theorem handleRMQReferenceParseError_guarded (memory : InMemory trace superStream)
    (err : GoError) :
    (handleRMQReferenceParseError superStream err).Guarded (Disciplined key) (fun _ _ => True)
      trace := by
  unfold handleRMQReferenceParseError
  split
  · apply guarded_ask_bind faithful_of_spares rfl
    intro _
    exact (removeFinalizer_guarded (memory.append _)).bind fun _ _ _ => trivial
  split
  · trivial
  split
  · apply (guarded_of_observes faithful_of_spares (notReady_calls (by rfl) ..)).bind
    rintro condition _ ⟨suffix, rfl, -⟩
    obtain ⟨stored, knows, same⟩ := memory.append suffix
    refine Guarded.bind (storeStatus_guarded ?_) fun _ _ _ => trivial
    exact ⟨stored, knows, .inl same⟩
  · trivial

/-- Requests about children do not write the super stream. -/
theorem spares_of_childRequest {request : Request SuperStream} (asked : ChildRequest request) :
    request.spares = true := by
  cases request with
  | update | updateStatus => exact asked.elim
  | _ => rfl

/-- The condition that `ready` builds says so. -/
theorem ready_exec {Resource : Type} {events : Trace Resource} {conditions : List Condition}
    {condition : Condition} (exec : (ready conditions).Exec events (.done condition)) :
    ReadyTrue condition := by
  obtain ⟨time, _, _, -, -, stops⟩ := exec_bind_done.mp exec
  cases stops.2
  exact ⟨rfl, rfl⟩

section Reconcile

variable {resolved : Trace SuperStream} {rmqClusterRef : RabbitmqClusterReference}
  (resolves : (resolution read).Exec resolved (.done (.ok rmqClusterRef)))
include resolves

/-- Without routing keys to work with, the reconcile has refused. -/
theorem refuses_of_keysFor (none : keysFor read = none) (suffix : Trace SuperStream) :
    HasRefused key (⟨.get key, .ok read⟩ :: (resolved ++ suffix)) :=
  ⟨read, resolved, suffix, rmqClusterRef, rfl, resolves, .inl none⟩

/-- From the builder loop on, a reconcile stores only a status that it may store. -/
theorem reconcileChildren_guarded {routingKeys : List String}
    (keyed : keysFor read = some routingKeys)
    (memory : InMemory (⟨.get key, .ok read⟩ :: resolved) read) :
    (reconcileChildren read rmqClusterRef routingKeys).Guarded (Disciplined key)
      (fun _ _ => True) (⟨.get key, .ok read⟩ :: resolved) := by
  apply (guarded_of_spares faithful_of_spares (createChildren_calls ..)
    fun _ => spares_of_childRequest).bind
  rintro result _ ⟨loop, rfl, exec⟩
  cases result with
  | error failure =>
      have refuses : HasRefused key (⟨.get key, .ok read⟩ :: resolved ++ loop) := by
        refine ⟨read, resolved, loop, rmqClusterRef, rfl, resolves, .inr ?_⟩
        exact ⟨routingKeys, loop, [], failure, (List.append_nil _).symm, keyed, exec⟩
      exact (setNotReady_guarded (memory.append loop) refuses _).bind fun _ _ _ => trivial
  | ok names =>
      have ended : LoopEnded key (⟨.get key, .ok read⟩ :: resolved ++ loop) read names := by
        refine ⟨resolved, loop, [], rmqClusterRef, routingKeys, ?_, resolves, keyed, exec⟩
        rw [List.append_nil, List.cons_append]
      obtain ⟨stored, knows, same⟩ := memory.append loop
      refine Guarded.bind (storeStatus_guarded ?_) ?_
      · exact ⟨stored, knows, .inl same⟩
      rintro written _ ⟨⟨held, known, -⟩, ⟨storing, rfl⟩, uid, spec⟩
      apply (guarded_of_observes faithful_of_spares (ready_calls (by rfl) ..)).bind
      rintro condition _ ⟨suffix, rfl, exec⟩
      refine (setReconcileSuccess_guarded ⟨held, known.append suffix⟩ (.inl ?_)).bind
        fun _ _ _ => trivial
      refine ⟨⟨read, names, loopEnded_append (loopEnded_append ended storing) suffix, uid.symm,
        spec.symm⟩, rfl, condition, .head _, ready_exec exec⟩

end Reconcile

/-- Every write of a reconcile keeps to what the reconcile was told. -/
theorem reconcile_guarded (key : NamespacedName) :
    (reconcile key).Guarded (Disciplined key) (fun _ _ => True) [] := by
  apply guarded_ask_bind faithful_of_spares rfl
  intro found
  split
  · trivial
  next read =>
  change ((resolution read).bind _).Guarded _ _ [⟨.get key, .ok read⟩]
  have known : SuperStream.view.Knows ([] ++ [⟨.get key, .ok read⟩])
      (SuperStream.view.revision read) read.status := .read
  have memory : InMemory [⟨.get key, .ok read⟩] read := ⟨read.status, known, rfl⟩
  apply (guarded_of_observes faithful_of_spares
    (resolution_calls (by exact fun _ => rfl) read)).bind
  rintro result _ ⟨resolved, rfl, resolves⟩
  have remains := memory.append resolved
  split
  · exact handleRMQReferenceParseError_guarded remains _
  split
  · next scalesDown =>
      apply guarded_ask_bind faithful_of_spares rfl
      intro _
      have none : keysFor read = none := by simp [keysFor, scalesDown]
      exact (setNotReady_guarded (remains.append _) (refuses_of_keysFor resolves none _) _).bind
        fun _ _ _ => trivial
  split
  · next grows generated =>
      exact reconcileChildren_guarded resolves (by simp [keysFor, grows, generated]) remains
  split
  · next grows given mismatch =>
      have none : keysFor read = none := by simp [keysFor, grows, given, mismatch]
      have refuses : HasRefused key (⟨.get key, .ok read⟩ :: (resolved ++ [])) :=
        refuses_of_keysFor resolves none []
      rw [List.append_nil] at refuses
      exact (setNotReady_guarded remains refuses _).bind fun _ _ _ => trivial
  · next grows given equal =>
      exact reconcileChildren_guarded resolves (by simp [keysFor, grows, given, equal]) remains

end TopologyOperator.SuperStreamReconciler
