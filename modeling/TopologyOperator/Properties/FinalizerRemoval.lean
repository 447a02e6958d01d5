import TopologyOperator.Controller.Runs

/-!
# Removing the finalizer

An object loses the operator's finalizer when its broker entity is gone. In one
reconcile this is known in three ways: the delete function succeeded, the API
server reported that the cluster or a part of it does not exist, or the cluster
has no replicas.

The source treats every failure to read the cluster like a missing cluster, so
there is a fourth way, `BlindRelease`. It is the only one.
-/

namespace TopologyOperator

open Dialogue Program

variable {kind : Kind}

/-- The key of the cluster that the object refers to by name. -/
def Object.clusterKey (object : Object kind) : NamespacedName :=
  object.rabbitReference.clusterKey object.objectMeta.ns

/-- What the answers of a run can say about the broker entity of the object. -/
inductive RemovalJustified (r : TopologyReconciler) (key : NamespacedName)
    (trace : Trace (Object kind)) : Prop where
  /-- With the broker client at hand, the delete function was run and returned no
  error. -/
  | deleted (object result : Object kind) (before during after : Trace (Object kind))
      (uri username password : String) (tls : Bool)
      (split : trace = ⟨.get key, .ok object⟩ :: (before ++
        ⟨.newClient uri username password tls, .ok ()⟩ :: (during ++ after)))
      (marked : object.objectMeta.deletionTimestamp.isSome = true)
      (succeeded : (deleteFunc r.libraries object).Exec during (.done (.ok result)))
  | clusterNotFound (object : Object kind) (failure : ApiError)
      (read : trace.head? = some ⟨.get key, .ok object⟩)
      (asked : ⟨.getRabbitmqCluster object.clusterKey, .error failure⟩ ∈ trace)
      (missing : failure.reason = .notFound)
  | secretNotFound (object : Object kind) (cluster : RabbitmqCluster)
      (reference : LocalObjectReference) (failure : ApiError)
      (read : trace.head? = some ⟨.get key, .ok object⟩)
      (found : ⟨.getRabbitmqCluster object.clusterKey, .ok cluster⟩ ∈ trace)
      (bound : cluster.binding = some reference)
      (asked : ⟨.getSecret .api ⟨object.clusterKey.ns, reference.name⟩, .error failure⟩ ∈ trace)
      (missing : failure.reason = .notFound)
  | serviceNotFound (object : Object kind) (cluster : RabbitmqCluster)
      (reference : LocalObjectReference) (failure : ApiError)
      (read : trace.head? = some ⟨.get key, .ok object⟩)
      (found : ⟨.getRabbitmqCluster object.clusterKey, .ok cluster⟩ ∈ trace)
      (served : cluster.serviceReference = some reference)
      (asked : ⟨.getService ⟨object.clusterKey.ns, reference.name⟩, .error failure⟩ ∈ trace)
      (missing : failure.reason = .notFound)
  | scaledToZero (object : Object kind) (cluster : RabbitmqCluster)
      (read : trace.head? = some ⟨.get key, .ok object⟩)
      (found : ⟨.getRabbitmqCluster object.clusterKey, .ok cluster⟩ ∈ trace)
      (replicas : cluster.replicas = some 0)

/-- Every accepted write of the object without the finalizer is justified. -/
def RemovalsJustified (r : TopologyReconciler) (key : NamespacedName)
    (trace : Trace (Object kind)) : Prop :=
  ∀ written version, ⟨.update written, .ok version⟩ ∈ trace →
    kind.finalizer ∉ written.objectMeta.finalizers → RemovalJustified r key trace

/-- The answers under which an object is released without any knowledge: it is
marked for deletion, its cluster cannot be read for a reason other than that it
does not exist, and the write that removes the finalizer is accepted. -/
structure BlindRelease (key : NamespacedName) (replies : Replies (@Request.Answer (Object kind)))
    (object : Object kind) (failure : ApiError) (version : Version) : Prop where
  read : replies 0 (.get key) = .ok object
  trusted : replies 1 .systemCertPool = .ok ()
  byName : object.rabbitReference.connectionSecret = none
  marked : object.objectMeta.deletionTimestamp.isSome = true
  unreadable : replies 2 (.getRabbitmqCluster object.clusterKey) = .error failure
  present : failure.reason ≠ .notFound
  accepted : replies 4 (.update object.withoutFinalizer) = .ok version

section Delete

/-- The finalizer is removed with one update, which succeeds or not. -/
theorem removeFinalizer_exec {object : Object kind} {trace : Trace (Object kind)}
    {outcome : Outcome (Except GoError (Object kind))}
    (exec : (removeFinalizer object).Exec trace outcome) :
    (∃ failure, trace = [⟨.update object.withoutFinalizer, .error failure⟩]) ∨
      ∃ version result, trace = [⟨.update object.withoutFinalizer, .ok version⟩] ∧
        outcome = .done (.ok result) := by
  obtain ⟨answer, rest, rfl, stops⟩ := exec_ask_bind.mp exec
  rcases answer with failure | version
  · obtain ⟨rfl, -⟩ := stops
    exact .inl ⟨failure, rfl⟩
  · obtain ⟨rfl, rfl⟩ := stops
    exact .inr ⟨version, _, rfl, rfl⟩

/-- Once an object that is deleted has been written, the delete function returns
without error. -/
def WritesLast (program : Prog (Object kind) (Except GoError (Object kind))) : Prop :=
  ∀ trace outcome written version, program.Exec trace outcome →
    ⟨.update written, .ok version⟩ ∈ trace → ∃ result, outcome = .done (.ok result)

/-- The removal is the last thing that is done. -/
theorem removeFinalizer_writesLast (object : Object kind) :
    WritesLast (removeFinalizer object) := by
  intro trace outcome written version exec member
  rcases removeFinalizer_exec exec with ⟨failure, rfl⟩ | ⟨accepted, result, rfl, rfl⟩
  · simp at member
  · exact ⟨result, rfl⟩

/-- A program that does not write the object writes it last. -/
theorem WritesLast.of_calls {program : Prog (Object kind) (Except GoError (Object kind))}
    {calls : BrokerCall → Prop} (only : program.Calls (BrokerOnly calls)) : WritesLast program := by
  intro trace outcome written version exec member
  rcases Calls.of_exec only exec _ member with observes | ⟨call, same, -⟩
  · cases observes
  · cases same

theorem WritesLast.done (result : Except GoError (Object kind)) :
    WritesLast (.done result : Prog (Object kind) _) := by
  intro trace outcome written version exec member
  rw [exec.1] at member
  cases member

/-- Parts that do not write the object may come first. -/
theorem WritesLast.bind {α : Type} {first : Prog (Object kind) α}
    {next : α → Prog (Object kind) (Except GoError (Object kind))}
    (unwritten : ∀ trace outcome written version, first.Exec trace outcome →
      ⟨.update written, .ok version⟩ ∉ trace)
    (last : ∀ value, WritesLast (next value)) : WritesLast (first.bind next) := by
  intro trace outcome written version exec member
  rcases exec_bind.mp exec with ⟨value, before, after, rfl, starts, ends⟩ | ⟨stops, rfl⟩
  · rcases List.mem_append.mp member with early | late
    · exact absurd early (unwritten _ _ _ _ starts)
    · exact last value _ _ _ _ ends late
  · exact absurd member (unwritten _ _ _ _ stops)

/-- The delete function of a permission writes the object last. -/
theorem deleteForUser_writesLast {specUser : String} {reference : Option LocalObjectReference}
    {permission : Object kind} {revoke : String → Prog (Object kind) BrokerReply}
    {calls : BrokerCall → Prop}
    (revokes : ∀ username, (revoke username).Calls (BrokerOnly calls)) :
    WritesLast (deleteForUser specUser reference permission revoke) := by
  have observes : Observes (userToRevoke specUser reference permission.objectMeta.ns :
      Prog (Object kind) _) := userToRevoke_calls (fun _ => rfl) ..
  refine WritesLast.bind (fun trace outcome written version exec =>
    (observes.quiet exec).not_update) fun username => ?_
  split
  · exact .done _
  · split
    · exact removeFinalizer_writesLast permission
    · refine WritesLast.bind (fun trace outcome written version exec member => ?_) fun reply => ?_
      · rcases Calls.of_exec (revokes _) exec _ member with observes | ⟨call, same, -⟩
        · cases observes
        · cases same
      · split
        · exact .done _
        · exact removeFinalizer_writesLast permission

/-- So does every delete function, if it writes the object. -/
theorem deleteFunc_writesLast (libraries : Libraries) (object : Object kind) :
    WritesLast (deleteFunc libraries object) := by
  rcases deleteFunc_cases libraries object with ⟨program, same, only⟩ |
      ⟨specUser, reference, revoke, same, only⟩
  · rw [same]
    refine WritesLast.of_calls (Calls.bind only fun outcome => ?_)
    split <;> trivial
  · rw [same]
    exact deleteForUser_writesLast only

end Delete

section Justified

variable {r : TopologyReconciler} {key : NamespacedName} {object written : Object kind}
  {version : Version} {trace : Trace (Object kind)} {outcome : Outcome (Result × Option GoError)}

/-- A status write is no update of the object. -/
theorem not_update_of_statusOnly {α : Type} {program : Prog (Object kind) α}
    {outcome : Outcome α} (only : program.Calls (StatusOnly object))
    (exec : program.Exec trace outcome) :
    ⟨.update written, .ok version⟩ ∉ trace := by
  intro member
  rcases Calls.of_exec only exec _ member with observes | ⟨stored, same, -⟩
  · cases observes
  · cases same

/-- A release without the broker is an event and one update. -/
theorem releaseWithoutBroker_update
    (exec : (TopologyReconciler.releaseWithoutBroker object).Exec trace outcome)
    (member : ⟨.update written, .ok version⟩ ∈ trace) :
    ∃ note, trace = [⟨.eventf note, ()⟩, ⟨.update object.withoutFinalizer, .ok version⟩] := by
  obtain ⟨⟨⟩, rest, rfl, afterNote⟩ := exec_ask_bind.mp exec
  rcases exec_bind.mp afterNote with ⟨result, removing, last, rfl, removes, ends⟩ | ⟨removes, -⟩
  · obtain ⟨rfl, -⟩ := ends
    rcases removeFinalizer_exec removes with ⟨failure, rfl⟩ | ⟨accepted, result, rfl, -⟩
    · simp at member
    · simp only [List.append_nil, List.mem_cons, List.not_mem_nil, or_false] at member
      rcases member with same | same <;> cases same
      exact ⟨_, rfl⟩
  · rcases removeFinalizer_exec removes with ⟨failure, rfl⟩ | ⟨accepted, result, -, same⟩
    · simp at member
    · cases same

/-- After a failed resolution the object is written only to release it, and only
for the two sentinels. -/
theorem handleRMQReferenceParseError_update {err : GoError}
    (exec : (TopologyReconciler.handleRMQReferenceParseError object err).Exec trace outcome)
    (member : ⟨.update written, .ok version⟩ ∈ trace) :
    object.objectMeta.deletionTimestamp.isSome = true ∧
      (err.is .errNoSuchRabbitmqCluster = true ∨ err.is .errClusterScaledToZero = true) ∧
      ∃ note, trace = [⟨.eventf note, ()⟩, ⟨.update object.withoutFinalizer, .ok version⟩] := by
  by_cases release : object.objectMeta.deletionTimestamp.isSome = true ∧
      (err.is .errNoSuchRabbitmqCluster = true ∨ err.is .errClusterScaledToZero = true)
  · rw [handleRMQReferenceParseError_of_release release.1 release.2] at exec
    exact ⟨release.1, release.2, releaseWithoutBroker_update exec member⟩
  · exact absurd member
      (not_update_of_statusOnly (handleRMQReferenceParseError_statusOnly release) exec)

/-- A delete that writes the object has run the delete function to its end. -/
theorem reconcileDelete_update (exec : (r.reconcileDelete object).Exec trace outcome)
    (member : ⟨.update written, .ok version⟩ ∈ trace) :
    ∃ during after result, trace = during ++ after ∧
      (deleteFunc r.libraries object).Exec during (.done (.ok result)) := by
  rcases exec_bind.mp exec with ⟨value, during, after, rfl, deletes, ends⟩ | ⟨deletes, -⟩
  · rcases value with err | result
    · rcases List.mem_append.mp member with early | late
      · obtain ⟨result, same⟩ := deleteFunc_writesLast _ _ _ _ _ _ deletes early
        cases same
      · obtain ⟨answer, rest, rfl, stops⟩ := exec_ask_bind.mp ends
        rw [stops.1] at late
        cases List.mem_singleton.mp late
    · exact ⟨during, after, result, rfl, deletes⟩
  · obtain ⟨result, same⟩ := deleteFunc_writesLast _ _ _ _ _ _ deletes member
    cases same

/-- An object that is not marked for deletion is never written without the
finalizer. -/
theorem reconcileDeclare_update (finalizer : kind.finalizer ∈ object.objectMeta.finalizers)
    (exec : (r.reconcileDeclare object).Exec trace outcome)
    (member : ⟨.update written, .ok version⟩ ∈ trace) :
    kind.finalizer ∈ written.objectMeta.finalizers := by
  have same : written.objectMeta.finalizers = object.objectMeta.finalizers :=
    Calls.of_exec (reconcileDeclare_keepsFinalizers r object) exec _ member
  rwa [same]

/-- An object that is not marked for deletion is only updated with the finalizer. -/
theorem addFinalizerIfNeeded_exec {result : Outcome (Except GoError (Object kind))}
    (unmarked : object.objectMeta.deletionTimestamp = none)
    (exec : (addFinalizerIfNeeded object).Exec trace result) :
    (∀ written answer, ⟨.update written, answer⟩ ∈ trace → written = object.withFinalizer) ∧
      ∀ added, result = .done (.ok added) → kind.finalizer ∈ added.objectMeta.finalizers := by
  unfold addFinalizerIfNeeded at exec
  split at exec
  · obtain ⟨answer, rest, rfl, afterWrite⟩ := exec_ask_bind.mp exec
    rcases answer with failure | version <;> obtain ⟨rfl, rfl⟩ := afterWrite
    · refine ⟨fun written answer member => ?_, fun added same => by cases same⟩
      cases List.mem_singleton.mp member
      rfl
    · refine ⟨fun written answer member => ?_, fun added same => ?_⟩
      · cases List.mem_singleton.mp member
        rfl
      · cases same
        exact ObjectMeta.mem_addFinalizer ..
  · next present =>
      obtain ⟨rfl, rfl⟩ := exec
      refine ⟨fun written answer member => absurd member List.not_mem_nil, fun added same => ?_⟩
      cases same
      simpa [unmarked] using present

/-- With a client, the finalizer is removed only after the delete function has succeeded. -/
theorem reconcileObject_update
    (exec : (r.reconcileObject object).Exec trace outcome)
    (member : ⟨.update written, .ok version⟩ ∈ trace)
    (removed : kind.finalizer ∉ written.objectMeta.finalizers) :
    object.objectMeta.deletionTimestamp.isSome = true ∧
      ∃ during after result, trace = during ++ after ∧
        (deleteFunc r.libraries object).Exec during (.done (.ok result)) := by
  unfold TopologyReconciler.reconcileObject at exec
  split at exec
  · next marked => exact ⟨marked, reconcileDelete_update exec member⟩
  · next unmarked =>
      have unmarked : object.objectMeta.deletionTimestamp = none := by simpa using unmarked
      refine absurd ?_ removed
      have added : kind.finalizer ∈ object.withFinalizer.objectMeta.finalizers :=
        ObjectMeta.mem_addFinalizer ..
      rcases exec_bind.mp exec with ⟨value, adding, rest, rfl, adds, declares⟩ | ⟨adds, -⟩
      · obtain ⟨writes, carries⟩ := addFinalizerIfNeeded_exec unmarked adds
        rcases List.mem_append.mp member with early | late
        · rwa [writes _ _ early]
        · rcases value with failure | carrying
          · rw [declares.1] at late
            cases late
          · exact reconcileDeclare_update (carries _ rfl) declares late
      · rwa [(addFinalizerIfNeeded_exec unmarked adds).1 _ _ member]

end Justified

section Release

variable {r : TopologyReconciler} {key : NamespacedName}
  {replies : Replies (@Request.Answer (Object kind))} {object : Object kind} {failure : ApiError}
  {version : Version}

/-- The run of a blind release, in full. -/
theorem BlindRelease.trace_eq (blind : BlindRelease key replies object failure version) :
    ∃ note, (Program.run replies (r.reconcile key) 0).1 = TopologyReconciler.opening key object
      [⟨.getRabbitmqCluster object.clusterKey, .error failure⟩, ⟨.eventf note, ()⟩,
        ⟨.update object.withoutFinalizer, .ok version⟩] := by
  have unreadable : replies 2 (.getRabbitmqCluster ⟨object.rabbitReference.connectionSecretNamespace
      object.objectMeta.ns, object.rabbitReference.name⟩) = .error failure := blind.unreadable
  refine ⟨⟨.normal, "SuccessfulDelete", "delete",
    "successfully deleted " ++ object.objectMeta.name⟩, ?_⟩
  simp [TopologyReconciler.reconcile, TopologyReconciler.reconcileRead,
    TopologyReconciler.extractSystemCertPool, TopologyReconciler.resolve, parseReference,
    TopologyReconciler.handleRMQReferenceParseError,
    TopologyReconciler.releaseWithoutBroker, TopologyReconciler.opening, removeFinalizer, eventf,
    ask, Program.request, blind.read, blind.trusted, blind.byName, blind.marked, blind.accepted,
    GoError.is, unreadable, Object.clusterKey, RabbitmqClusterReference.clusterKey]

/-- Nothing in the run of a blind release says that the entity is gone. -/
theorem BlindRelease.not_removalsJustified
    (blind : BlindRelease key replies object failure version) :
    ¬ RemovalsJustified r key (Program.run replies (r.reconcile key) 0).1 := by
  obtain ⟨note, same⟩ := blind.trace_eq (r := r)
  rw [same]
  intro justified
  have removal := justified object.withoutFinalizer version (by simp [TopologyReconciler.opening])
    (ObjectMeta.not_mem_removeFinalizer _ _)
  cases removal with
  | deleted other result before during after uri username password tls split =>
      have client : (⟨.newClient uri username password tls, .ok ()⟩ :
          Event (@Request.Answer (Object kind))) ∈ TopologyReconciler.opening key object
            [⟨.getRabbitmqCluster object.clusterKey, .error failure⟩, ⟨.eventf note, ()⟩,
              ⟨.update object.withoutFinalizer, .ok version⟩] := by
        rw [split]
        simp
      simp [TopologyReconciler.opening] at client
  | clusterNotFound other reported read asked missing =>
      obtain rfl : object = other := by simpa [TopologyReconciler.opening] using read
      obtain rfl : reported = failure := by simpa [TopologyReconciler.opening] using asked
      exact blind.present missing
  | secretNotFound other cluster reference reported read found =>
      simp [TopologyReconciler.opening] at found
  | serviceNotFound other cluster reference reported read found =>
      simp [TopologyReconciler.opening] at found
  | scaledToZero other cluster read found => simp [TopologyReconciler.opening] at found

/-- In a run that ends by handling a failed resolution, an accepted write of the
object is justified or part of a blind release. -/
theorem unresolved_removal {err : GoError} {resolving handling : Trace (Object kind)}
    {outcome : Outcome (Result × Option GoError)} {written : Object kind}
    (same : (Program.run replies (r.reconcile key) 0).1 =
      TopologyReconciler.opening key object (resolving ++ handling))
    (failed : ResolveFailed object.rabbitReference object.objectMeta.ns resolving err)
    (handled : (TopologyReconciler.handleRMQReferenceParseError object err).Exec handling outcome)
    (member : ⟨.update written, .ok version⟩ ∈ handling) :
    RemovalJustified r key (TopologyReconciler.opening key object (resolving ++ handling)) ∨
      ∃ failure, BlindRelease key replies object failure version := by
  obtain ⟨marked, sentinel, note, rfl⟩ := handleRMQReferenceParseError_update handled member
  have resolved : ∀ {event : Event (@Request.Answer (Object kind))}, event ∈ resolving →
      event ∈ TopologyReconciler.opening key object (resolving ++ [⟨.eventf note, ()⟩,
        ⟨.update object.withoutFinalizer, .ok version⟩]) := by
    intro event found
    simp [TopologyReconciler.opening, found]
  have ordinary : ¬ err.Ordinary := by
    rintro ⟨noSuch, scaled, -⟩
    rw [noSuch, scaled] at sentinel
    simp at sentinel
  cases failed with
  | unusableSecret reference bySecret plain => exact absurd plain ordinary
  | secretNotAllowed reference secret bySecret found refused =>
      rcases sentinel with wrong | wrong <;> cases wrong
  | unreadable failure byName asked =>
      by_cases missing : failure.reason = .notFound
      · exact .inl (.clusterNotFound object failure rfl
          (resolved (asked ▸ List.mem_singleton.mpr rfl)) missing)
      · subst asked
        have answers : ∀ (index : Nat) (event : Event (@Request.Answer (Object kind))), _ →
            replies (0 + index) event.request = event.answer :=
          fun _ _ => Program.run_answers replies (r.reconcile key) 0
        rw [same] at answers
        exact .inr ⟨failure, answers 0 _ rfl, answers 1 _ rfl, byName, marked, answers 2 _ rfl,
          missing, answers 4 _ rfl⟩
  | clusterNotAllowed cluster byName found refused =>
      rcases sentinel with wrong | wrong <;> cases wrong
  | scaledToZero cluster byName found replicas =>
      exact .inl (.scaledToZero object cluster rfl (resolved found) replicas)
  | secretNotFound cluster reference failure byName found bound asked missing =>
      exact .inl (.secretNotFound object cluster reference failure rfl (resolved found) bound
        (resolved asked) missing)
  | serviceNotFound cluster reference failure byName found served asked missing =>
      exact .inl (.serviceNotFound object cluster reference failure rfl (resolved found) served
        (resolved asked) missing)
  | unusableCluster cluster byName found plain => exact absurd plain ordinary

end Release

/-- For every kind, every object and all answers: the removals of the finalizer in
a reconcile are justified exactly if the answers are not those of a blind
release. -/
theorem removalsJustified_iff (r : TopologyReconciler) (key : NamespacedName)
    (replies : Replies (@Request.Answer (Object kind))) :
    RemovalsJustified r key (Program.run replies (r.reconcile key) 0).1 ↔
      ¬ ∃ object failure version, BlindRelease key replies object failure version := by
  constructor
  · rintro justified ⟨object, failure, version, blind⟩
    exact blind.not_removalsJustified justified
  · intro sighted written version member removed
    have run := TopologyReconciler.reconcile_run (Program.exec_run replies (r.reconcile key) 0)
    generalize same : (Program.run replies (r.reconcile key) 0).1 = trace at run member ⊢
    cases run with
    | early quiet => exact absurd member quiet.not_update
    | @unresolved object err resolving handling _ failed handled =>
        have observes : Observes (r.resolve object) := parseReference_observes r.libraries ..
        have update : ⟨.update written, .ok version⟩ ∈ handling := by
          simpa [TopologyReconciler.opening, (observes.quiet failed).not_update] using member
        rcases unresolved_removal same (parseReference_error failed) handled update with
          justified | ⟨failure, blind⟩
        · exact justified
        · exact absurd ⟨object, failure, version, blind⟩ sighted
    | @connected object resolving rest uri username password tls _ quiet reconciled =>
        have update : ⟨.update written, .ok version⟩ ∈ rest := by
          simpa [TopologyReconciler.opening, quiet.not_update] using member
        obtain ⟨marked, during, after, result, rfl, deletes⟩ :=
          reconcileObject_update reconciled update removed
        exact .deleted object result (⟨.systemCertPool, .ok ()⟩ :: resolving) during after uri
          username password tls rfl marked deletes

namespace BlindRelease

/-- A queue of a live cluster that a user has deleted. -/
def queue : Object .queue where
  objectMeta := { name := "orders", ns := "shop", uid := 1, resourceVersion := 7
                  deletionTimestamp := some 100, finalizers := [Kind.queue.finalizer] }
  spec := { name := "orders", vhost := "/", rabbitmqClusterReference := { name := "rabbit" } }

/-- The API server times out when it is asked for the cluster. -/
def timeout : Replies (@Request.Answer (Object .queue)) := fun _ request =>
  match request with
  | .get _ => .ok queue
  | .systemCertPool => .ok ()
  | .update _ => .ok ⟨8, 1⟩
  | other => other.refusal

end BlindRelease

/-- A timeout of the API server makes the operator release a queue that may still
exist in the broker. -/
theorem timeout_releases_queue :
    ¬ RemovalsJustified ⟨.verbatim, "", false⟩ ⟨"shop", "orders"⟩
      (Program.run BlindRelease.timeout
        (TopologyReconciler.reconcile ⟨.verbatim, "", false⟩ ⟨"shop", "orders"⟩) 0).1 := by
  have blind : BlindRelease ⟨"shop", "orders"⟩ BlindRelease.timeout BlindRelease.queue
      ⟨.other, "timeout"⟩ ⟨8, 1⟩ := ⟨rfl, rfl, rfl, rfl, rfl, by decide, rfl⟩
  exact blind.not_removalsJustified

end TopologyOperator
