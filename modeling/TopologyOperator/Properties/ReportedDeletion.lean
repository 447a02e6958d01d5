import TopologyOperator.ApiServer.Opening
import TopologyOperator.Properties.IdempotentDeletion

/-!
# Deletions that are reported as failed

If nothing goes wrong, a reconcile of an object that is marked for deletion should remove
its last finalizer and return without an error. The delete functions of permissions remove
the finalizer themselves, so that the object is gone when the reconcile removes it once
more; the second update is answered with NotFound, and the reconcile returns that error.
-/

namespace TopologyOperator.DeletionServer

open Dialogue Environment TopologyReconciler
open ApiServer (settled updated statusUpdated)
open BrokerServer (SaysDone SaysNotFound)

variable {kind : Kind}

section Server

/-- An update of an object that exists is accepted. One of an object that does not is
answered with NotFound. -/
def Accepts (stored : Option (Object kind)) (change : Object kind → Object kind)
    (reply : Except ApiError Version) (after : Option (Object kind)) : Prop :=
  match stored with
  | none => after = none ∧ ∃ message, reply = .error ⟨.notFound, message⟩
  | some current => ∃ version, reply = .ok version ∧
      after = settled ((change current).withVersion version)

/-- The call succeeds, or is answered with 404. -/
def Favourable (call : BrokerCall) (reply : call.Answer) : Prop :=
  SaysDone call reply ∨ SaysNotFound call reply

/-- The object is read as it is stored, the broker can be reached and is favourable, and
updates are accepted. The answers to all other requests are arbitrary. -/
def Answers (stored : Option (Object kind)) :
    (request : Request (Object kind)) → request.Answer → Option (Object kind) → Prop
  | .get _, reply, after => after = stored ∧ ∀ object, stored = some object → reply = .ok object
  | .systemCertPool, reply, after => after = stored ∧ reply = .ok ()
  | .newClient .., reply, after => after = stored ∧ reply = .ok ()
  | .broker call, reply, after => after = stored ∧ Favourable call reply
  | .update written, reply, after => Accepts stored (updated written) reply after
  | .updateStatus written, reply, after => Accepts stored (statusUpdated written) reply after
  | _, _, after => after = stored

def environment : Environment (@Request.Answer (Object kind)) (Option (Object kind)) where
  foreign _ _ := False
  answers := Answers

/-- One answer of the environment, and then the rest. -/
theorem answered_ask_bind {α : Type} {request : Request (Object kind)}
    {next : request.Answer → Prog (Object kind) α} {stored after : Option (Object kind)}
    {trace : Trace (Object kind)} {result : α} :
    environment.Answered ((ask request).bind next) stored trace (.done result) after ↔
      ∃ reply now rest, trace = ⟨request, reply⟩ :: rest ∧ Answers stored request reply now ∧
        environment.Answered (next reply) now rest (.done result) after :=
  answered_call

end Server

section Reported

variable {object : Object kind} {trace : Trace (Object kind)}

/-- The request writes the object. -/
def WritesObject : Request (Object kind) → Prop
  | .update _ | .updateStatus _ => True
  | _ => False

/-- The write that removes the last finalizer. -/
def Releases (event : Event (@Request.Answer (Object kind))) : Prop :=
  ∃ written version, event = ⟨.update written, .ok version⟩ ∧ written.objectMeta.finalizers = []

/-- The reconcile returns without an error, the object is gone, and no write follows the
one that removes the last finalizer. -/
structure Reported (trace : Trace (Object kind)) (result : Result × Option GoError)
    (after : Option (Object kind)) : Prop where
  noError : result.2 = none
  gone : after = none
  lastWrite : trace.Pairwise fun earlier later =>
    Releases earlier → ¬ WritesObject later.request

/-- A write after parts that do not write is the only one. -/
theorem lastWrite_of_append {before : Trace (Object kind)}
    (unwritten : ∀ event ∈ before, ¬ WritesObject event.request)
    (last : Event (@Request.Answer (Object kind))) :
    (before ++ [last]).Pairwise fun earlier later =>
      Releases earlier → ¬ WritesObject later.request := by
  have idle : ∀ event ∈ before, ¬ Releases event := by
    rintro event member ⟨written, version, rfl, -⟩
    exact unwritten _ member trivial
  rw [List.pairwise_append]
  refine ⟨List.pairwise_of_forall_mem_list ?_, List.pairwise_singleton .., ?_⟩
  · exact fun earlier member _ _ releases => absurd releases (idle earlier member)
  · exact fun earlier member _ _ releases => absurd releases (idle earlier member)

variable (marked : object.objectMeta.deletionTimestamp.isSome = true)
  (only : object.objectMeta.finalizers = [kind.finalizer])
include marked only

/-- Without its only finalizer the object is gone. -/
theorem settled_withoutFinalizer (version : Version) :
    settled ((updated object.withoutFinalizer object).withVersion version) = none := by
  apply if_pos
  refine ⟨marked, ?_⟩
  simp [updated, Object.withVersion, Object.withoutFinalizer, ObjectMeta.removeFinalizer, only]

/-- The write that removes the finalizer of the stored object. -/
theorem answered_removeFinalizer {result : Except GoError (Object kind)}
    {after : Option (Object kind)}
    (answered : environment.Answered (removeFinalizer object) (some object) trace (.done result)
      after) :
    after = none ∧ ∃ version, result = .ok (object.withoutFinalizer.withVersion version) ∧
      trace = [⟨.update object.withoutFinalizer, .ok version⟩] := by
  obtain ⟨reply, now, rest, rfl, ⟨version, rfl, rfl⟩, remaining⟩ := answered_call.mp answered
  obtain ⟨rfl, rfl, rfl⟩ := answered_done.mp remaining
  exact ⟨settled_withoutFinalizer marked only version, version, rfl, rfl⟩

end Reported

section Prompt

variable {object : Object kind} {trace : Trace (Object kind)} {after : Option (Object kind)}

/-- The specs whose deletion succeeds if nothing goes wrong. The finalizer of a permission
is removed twice. A quorum queue that is deleted under a condition has to be found, and so
have the bindings between the ends of a binding with arguments. -/
def Prompt : {kind : Kind} → Object kind → Prop
  | .permission, _ | .topicPermission, _ => False
  | .queue, queue => queue.spec.deletionPolicy = "retain" ∨
      ¬ (queue.spec.type = "quorum" ∧ (queue.spec.deleteIfEmpty ∨ queue.spec.deleteIfUnused))
  | .binding, binding => binding.spec.arguments = none
  | _, _ => True

/-- The delete function succeeds and leaves the stored object as it is. -/
structure Clears (object : Object kind) (result : Except GoError (Object kind))
    (trace : Trace (Object kind)) (after : Option (Object kind)) : Prop where
  succeeds : result = .ok object
  kept : after = some object
  unwritten : ∀ event ∈ trace, ¬ WritesObject event.request

/-- A favourable reply counts as a deletion. -/
theorem done_deleted {reply : BrokerReply}
    (favourable : validateResponse reply = .ok () ∨ ∃ body, reply.response = some ⟨404, body⟩) :
    (.done (deleted reply) : Prog (Object kind) (Except GoError Unit)) = .done (.ok ()) := by
  rw [favourable.elim deleted_of_valid deleted_of_notFound]

/-- A delete function with nothing to do clears the object. -/
theorem clears_returning {result : Except GoError (Object kind)}
    (answered : environment.Answered (deleting object (.done (.ok ()))) (some object) trace
      (.done result) after) : Clears object result trace after := by
  obtain ⟨rfl, rfl, rfl⟩ := answered_done.mp answered
  exact ⟨rfl, rfl, fun _ none => by cases none⟩

/-- The delete functions that make one call. -/
theorem clears_deleting {result : Except GoError (Object kind)} {issued : BrokerCall}
    {next : issued.Answer → Prog (Object kind) (Except GoError Unit)}
    (answered : environment.Answered (deleting object (.call (.broker issued) next)) (some object)
      trace (.done result) after)
    (ends : ∀ reply, Favourable issued reply → next reply = .done (.ok ())) :
    Clears object result trace after := by
  obtain ⟨reply, now, rest, rfl, ⟨rfl, favourable⟩, remaining⟩ := answered_call.mp answered
  rw [ends reply favourable] at remaining
  obtain ⟨rfl, rfl, rfl⟩ := answered_done.mp remaining
  exact ⟨rfl, rfl, List.forall_mem_singleton.mpr id⟩

/-- A delete function that does nothing in some cases. -/
theorem clears_deleting_if {result : Except GoError (Object kind)} {skips : Prop}
    [Decidable skips] {program : Prog (Object kind) (Except GoError Unit)}
    (answered : environment.Answered (deleting object (if skips then return .ok () else program))
      (some object) trace (.done result) after)
    (clears : ¬ skips → environment.Answered (deleting object program) (some object) trace
      (.done result) after → Clears object result trace after) :
    Clears object result trace after := by
  split at answered
  · exact clears_returning answered
  · next goesOn => exact clears goesOn answered

/-- The delete function of a prompt object clears it with one call. -/
theorem clears_deleteFunc {libraries : Libraries} {result : Except GoError (Object kind)}
    (prompt : Prompt object)
    (answered : environment.Answered (deleteFunc libraries object) (some object) trace
      (.done result) after) : Clears object result trace after := by
  cases kind with
  | permission | topicPermission => exact prompt.elim
  | queue =>
      unfold deleteFunc QueueReconciler.deleteFunc QueueReconciler.checkDeletable at answered
      refine clears_deleting_if answered fun kept answered => ?_
      have unconditional := prompt.resolve_left fun retained => kept (decide_eq_true retained)
      rw [if_neg unconditional] at answered
      exact clears_deleting answered fun _ => done_deleted
  | binding =>
      have plain : object.spec.arguments = none := prompt
      simp only [deleteFunc, BindingReconciler.deleteFunc, BindingReconciler.deletionInfo, plain,
        generateBindingInfo, unmarshalArguments] at answered
      exact clears_deleting answered fun _ => done_deleted
  | user | federation | shovel | vhost =>
      refine clears_deleting_if answered fun _ answered => ?_
      exact clears_deleting answered fun _ => done_deleted
  | exchange | operatorPolicy | policy | schemaReplication =>
      exact clears_deleting answered fun _ => done_deleted

end Prompt

section Finishes

variable {object : Object kind} {trace : Trace (Object kind)} {after : Option (Object kind)}
  {result : Result × Option GoError} {r : TopologyReconciler} {key : NamespacedName}

/-- The object is gone with the last event, which is the only write. -/
structure Finishes (trace : Trace (Object kind)) (result : Result × Option GoError)
    (after : Option (Object kind)) : Prop where
  noError : result.2 = none
  gone : after = none
  lastly : ∃ before last, trace = before ++ [last] ∧
    ∀ event ∈ before, ¬ WritesObject event.request

/-- Parts that do not write may come first. -/
theorem Finishes.prepend (finishes : Finishes trace result after) {earlier : Trace (Object kind)}
    (unwritten : ∀ event ∈ earlier, ¬ WritesObject event.request) :
    Finishes (earlier ++ trace) result after := by
  obtain ⟨before, last, rfl, idle⟩ := finishes.lastly
  exact ⟨finishes.noError, finishes.gone, earlier ++ before, last, (List.append_assoc ..).symm,
    List.forall_mem_append.mpr ⟨unwritten, idle⟩⟩

/-- An object that is gone with the only write is reported as deleted. -/
theorem Finishes.reported (finishes : Finishes trace result after) :
    Reported trace result after := by
  obtain ⟨before, last, rfl, unwritten⟩ := finishes.lastly
  exact ⟨finishes.noError, finishes.gone, lastWrite_of_append unwritten last⟩

variable (marked : object.objectMeta.deletionTimestamp.isSome = true)
  (only : object.objectMeta.finalizers = [kind.finalizer])
include marked only

/-- An event is published, and the finalizer is removed. -/
theorem finishes_releasing {note : EventNote}
    (answered : environment.Answered
      (.call (.eventf note) fun _ => (removeFinalizer object).bind fun removed =>
        .done (finished removed)) (some object) trace (.done result) after) :
    Finishes trace result after := by
  obtain ⟨_, now, rest, rfl, rfl, remaining⟩ := answered_call.mp answered
  obtain ⟨removed, middle, before, later, rfl, removing, ending⟩ := answered_bind.mp remaining
  obtain ⟨rfl, version, rfl, rfl⟩ := answered_removeFinalizer marked only removing
  obtain ⟨rfl, rfl, rfl⟩ := answered_done.mp ending
  exact ⟨rfl, rfl, [_], _, rfl, List.forall_mem_singleton.mpr id⟩

/-- The reconcile of a prompt object finishes with the removal of its finalizer. -/
theorem finishes_reconcileDelete (prompt : Prompt object)
    (answered : environment.Answered (r.reconcileDelete object) (some object) trace (.done result)
      after) : Finishes trace result after := by
  obtain ⟨value, middle, before, later, rfl, deletes, going⟩ := answered_bind.mp answered
  obtain ⟨rfl, rfl, unwritten⟩ := clears_deleteFunc prompt deletes
  exact (finishes_releasing marked only going).prepend unwritten

/-- An object whose cluster is gone, or has no replicas, is released. -/
theorem finishes_unresolved {err : GoError}
    (absent : err.is .errNoSuchRabbitmqCluster = true ∨ err.is .errClusterScaledToZero = true)
    (answered : environment.Answered (handleRMQReferenceParseError object err) (some object) trace
      (.done result) after) : Finishes trace result after := by
  have releases : handleRMQReferenceParseError object err = releaseWithoutBroker object := by
    unfold handleRMQReferenceParseError
    by_cases missing : err.is .errNoSuchRabbitmqCluster = true
    · rw [if_pos ⟨missing, marked⟩]
    · rw [if_neg fun both => missing both.1, if_neg missing,
        if_pos ⟨absent.resolve_left missing, marked⟩]
  rw [releases] at answered
  exact finishes_releasing marked only answered

end Finishes

section Reconcile

variable {object : Object kind} {trace : Trace (Object kind)} {after : Option (Object kind)}
  {result : Result × Option GoError} {r : TopologyReconciler} {key : NamespacedName}

/-- The reference of the object was resolved, or its cluster is gone or has no replicas. -/
def Resolved (r : TopologyReconciler) (key : NamespacedName) (object : Object kind)
    (trace : Trace (Object kind)) : Prop :=
  ∃ resolving rest resolved, trace = opening key object (resolving ++ rest) ∧
    (r.resolve object).Exec resolving (.done resolved) ∧ ∀ err, resolved = .error err →
      err.is .errNoSuchRabbitmqCluster = true ∨ err.is .errClusterScaledToZero = true

/-- Looking things up leaves the stored object alone. -/
theorem answered_lookups {α : Type} {program : Prog (Object kind) α} {value : α}
    {stored : Option (Object kind)} (calls : program.Calls LooksUp)
    (answered : environment.Answered program stored trace (.done value) after) :
    after = stored ∧ ∀ event ∈ trace, ¬ WritesObject event.request := by
  induction program generalizing stored trace with
  | done =>
      obtain ⟨rfl, -, rfl⟩ := answered_done.mp answered
      exact ⟨rfl, fun _ none => by cases none⟩
  | abort => cases answered
  | call request next ih =>
      obtain ⟨reply, now, rest, rfl, replied, remaining⟩ := answered_call.mp answered
      obtain ⟨rfl, unwritten⟩ := ih reply (calls.2 reply) remaining
      have looksUp := calls.1
      refine ⟨?_, List.forall_mem_cons.mpr ⟨?_, unwritten⟩⟩
      · cases request <;> first | exact looksUp.elim | exact replied
      · cases request <;> first | exact looksUp.elim | exact id

/-- The runs of a reconcile, if nothing goes wrong. -/
inductive DeletionRun (r : TopologyReconciler) (key : NamespacedName) (object : Object kind)
    (result : Result × Option GoError) (after : Option (Object kind)) :
    Trace (Object kind) → Prop where
  | unresolved {resolving rest : Trace (Object kind)} (err : GoError)
      (failed : (r.resolve object).Exec resolving (.done (.error err)))
      (unwritten : ∀ event ∈ resolving, ¬ WritesObject event.request)
      (handled : environment.Answered (handleRMQReferenceParseError object err) (some object) rest
        (.done result) after) :
      DeletionRun r key object result after (opening key object (resolving ++ rest))
  | connected {resolving rest : Trace (Object kind)} (uri username password : String) (tls : Bool)
      (unwritten : ∀ event ∈ resolving, ¬ WritesObject event.request)
      (reconciled : environment.Answered (r.reconcileObject object) (some object) rest
        (.done result) after) :
      DeletionRun r key object result after (opening key object
        (resolving ++ ⟨.newClient uri username password tls, .ok ()⟩ :: rest))

/-- If nothing goes wrong, a reconcile of a marked object has one of these runs. -/
theorem deletionRun_of_answered
    (answered : environment.Answered (r.reconcile key) (some object) trace (.done result) after) :
    DeletionRun r key object result after trace := by
  obtain ⟨found, now, rest, rfl, ⟨rfl, read⟩, afterGet⟩ := answered_ask_bind.mp answered
  obtain rfl := read object rfl
  obtain ⟨pool, middle, loading, later, rfl, loads, afterLoading⟩ := answered_bind.mp afterGet
  obtain ⟨loaded, now, rest, rfl, ⟨rfl, rfl⟩, returns⟩ := answered_ask_bind.mp loads
  obtain ⟨rfl, rfl, rfl⟩ := answered_done.mp returns
  obtain ⟨resolved, middle, resolving, later, rfl, resolves, afterResolving⟩ :=
    answered_bind.mp afterLoading
  obtain ⟨rfl, unwritten⟩ := answered_lookups (parseReference_looksUp r.libraries ..) resolves
  rcases resolved with err | ⟨creds, tls⟩
  · change DeletionRun r key object result after (opening key object (resolving ++ later))
    exact .unresolved err resolves.exec unwritten afterResolving
  obtain ⟨username, password, uri, rfl, -⟩ := parseReference_ok resolves.exec
  obtain ⟨client, middle, creating, last, rfl, creates, afterCreating⟩ :=
    answered_bind.mp afterResolving
  obtain ⟨created, now, rest, rfl, ⟨rfl, rfl⟩, returns⟩ := answered_ask_bind.mp creates
  obtain ⟨rfl, rfl, rfl⟩ := answered_done.mp returns
  change DeletionRun r key object result after (opening key object
    (resolving ++ ⟨.newClient uri username password tls, .ok ()⟩ :: last))
  exact .connected uri username password tls unwritten afterCreating

/-- Deletions of prompt objects are reported as such. -/
theorem reported_of_prompt (marked : object.objectMeta.deletionTimestamp.isSome = true)
    (only : object.objectMeta.finalizers = [kind.finalizer]) (prompt : Prompt object)
    (answered : environment.Answered (r.reconcile key) (some object) trace (.done result) after)
    (resolved : Resolved r key object trace) : Reported trace result after := by
  have opens : ∀ rest, Finishes rest result after →
      Finishes (opening key object rest) result after := fun rest finishes =>
    finishes.prepend (List.forall_mem_cons.mpr ⟨id, List.forall_mem_singleton.mpr id⟩)
  cases deletionRun_of_answered answered with
  | @unresolved resolving rest err failed unwritten handled =>
      obtain ⟨other, later, resolution, same, resolves, sentinel⟩ := resolved
      obtain ⟨rfl, agrees⟩ := failed.unique resolves (List.cons.inj (List.cons.inj same).2).2
      cases agrees
      have finishes := finishes_unresolved marked only (sentinel err rfl) handled
      exact (opens _ (finishes.prepend unwritten)).reported
  | @connected resolving rest uri username password tls unwritten reconciled =>
      rw [reconcileObject, if_pos marked] at reconciled
      have finishes := finishes_reconcileDelete marked only prompt reconciled
      have connects : Finishes ([⟨.newClient uri username password tls, .ok ()⟩] ++ rest) result
          after := finishes.prepend (List.forall_mem_singleton.mpr id)
      exact (opens _ (connects.prepend unwritten)).reported

end Reconcile

section Connected

variable {object : Object kind} {trace : Trace (Object kind)} {after : Option (Object kind)}
  {result : Result × Option GoError}

/-- A lookup may be answered in any way. -/
theorem answers_of_looksUp {stored : Option (Object kind)} {request : Request (Object kind)}
    (looksUp : LooksUp request) (reply : request.Answer) :
    Answers stored request reply stored := by
  cases request <;> first | exact looksUp.elim | rfl

/-- The broker can be reached for every object. -/
theorem exists_connected (key : NamespacedName)
    (answered : environment.Answered (plainReconciler.reconcileObject object) (some object) trace
      (.done result) after) :
    ∃ whole, environment.Answered (plainReconciler.reconcile key) (some object) whole
      (.done result) after ∧ Resolved plainReconciler key object whole := by
  have reads : environment.answers (some object) (.get key) (.ok object) (some object) :=
    ⟨rfl, fun _ same => by cases same; rfl⟩
  obtain ⟨resolving, resolves, opens⟩ := exists_opens reads ⟨rfl, rfl⟩
    (fun _ looksUp reply => answers_of_looksUp looksUp reply) fun _ _ _ _ => ⟨rfl, rfl⟩
  exact ⟨_, (opens.answered resolves).trans answered, resolving, _, _, opened_append .., resolves,
    fun _ failed => by cases failed⟩

end Connected

section Fails

variable {object : Object kind} {trace : Trace (Object kind)} {after : Option (Object kind)}

/-- Nothing goes wrong, and yet an error is returned. -/
def Fails (object : Object kind) : Prop :=
  ∃ trace result after, environment.Answered (plainReconciler.reconcileDelete object) (some object)
    trace (.done result) after ∧ result.2 ≠ none

/-- A delete function that fails makes the reconcile fail. -/
theorem fails_of_error {err : GoError}
    (answered : environment.Answered (deleteFunc .verbatim object) (some object) trace
      (.done (.error err)) after) : Fails object := by
  have reconciled : environment.Answered (plainReconciler.reconcileDelete object) (some object)
      _ (.done ({}, some err)) after :=
    answered.bind (answered_call.mpr ⟨(), _, [], rfl, rfl, .refl ..⟩)
  exact ⟨_, _, _, reconciled, fun absent => by cases absent⟩

/-- The error of a removal of the finalizer that finds no object. -/
def lateRemoval : GoError :=
  .wrapped "failed to delete finalizer: " (.api ⟨.notFound, ""⟩) ""

/-- The finalizer of an object that is gone cannot be removed. -/
theorem exists_lateRemoval {kept : Object kind}
    (answered : environment.Answered (deleteFunc .verbatim object) (some object) trace
      (.done (.ok kept)) none) :
    ∃ whole, environment.Answered (plainReconciler.reconcileDelete object) (some object) whole
      (.done ({}, some lateRemoval)) none :=
  ⟨_, answered.bind (answered_call.mpr ⟨(), _, _, rfl, rfl, .call ⟨rfl, "", rfl⟩ (.refl ..)⟩)⟩

/-- A delete function that has released the object makes the reconcile fail. -/
theorem fails_of_gone {kept : Object kind}
    (answered : environment.Answered (deleteFunc .verbatim object) (some object) trace
      (.done (.ok kept)) none) : Fails object := by
  obtain ⟨whole, reconciled⟩ := exists_lateRemoval answered
  exact ⟨whole, _, _, reconciled, fun absent => by cases absent⟩

/-- A user that does not exist any more is looked up in vain. -/
theorem exists_userToRevoke (specUser : String) (userReference : Option LocalObjectReference)
    (ns : String) (stored : Option (Object kind)) :
    ∃ trace, environment.Answered (userToRevoke specUser userReference ns) stored trace
      (.done (.ok specUser)) stored := by
  cases userReference with
  | none => exact ⟨[], .refl ..⟩
  | some reference =>
      exact ⟨[⟨.getObject .user ⟨ns, reference.name⟩, .error ⟨.notFound, ""⟩⟩],
        .call rfl (.refl ..)⟩

/-- Removing the last finalizer of a stored object succeeds. -/
theorem exists_removeFinalizer (marked : object.objectMeta.deletionTimestamp.isSome = true)
    (only : object.objectMeta.finalizers = [kind.finalizer]) :
    ∃ trace kept, environment.Answered (removeFinalizer object) (some object) trace
      (.done (.ok kept)) none :=
  ⟨[⟨.update object.withoutFinalizer, .ok ⟨0, 0⟩⟩], _,
    .call ⟨_, rfl, (settled_withoutFinalizer marked only _).symm⟩ (.refl ..)⟩

/-- The object is gone when the delete function of a permission returns. -/
theorem exists_deleteForUser (marked : object.objectMeta.deletionTimestamp.isSome = true)
    (only : object.objectMeta.finalizers = [kind.finalizer]) (specUser : String)
    (userReference : Option LocalObjectReference)
    (revoke : String → Prog (Object kind) BrokerReply)
    (revokes : ∀ username, ∃ trace reply, environment.Answered (revoke username) (some object)
      trace (.done reply) (some object) ∧ deleted reply = .ok ()) :
    ∃ trace kept, environment.Answered (deleteForUser specUser userReference object revoke)
      (some object) trace (.done (.ok kept)) none := by
  obtain ⟨finding, finds⟩ := exists_userToRevoke specUser userReference object.objectMeta.ns
    (some object)
  obtain ⟨removing, kept, removes⟩ := exists_removeFinalizer marked only
  by_cases anonymous : specUser = ""
  · refine ⟨finding ++ removing, kept, finds.bind ?_⟩
    dsimp only
    rw [if_pos anonymous]
    exact removes
  · obtain ⟨revoking, reply, revoked, done⟩ := revokes specUser
    refine ⟨finding ++ (revoking ++ removing), kept, finds.bind ?_⟩
    dsimp only
    rw [if_neg anonymous]
    refine revoked.bind ?_
    rw [done]
    exact removes

/-- The call is answered with 204. -/
def noContent : BrokerReply := ⟨some ⟨204, ""⟩, none⟩

/-- The delete function of a permission may release it. -/
theorem exists_deletePermission (permission : Object .permission)
    (marked : permission.objectMeta.deletionTimestamp.isSome = true)
    (only : permission.objectMeta.finalizers = [Kind.permission.finalizer]) :
    ∃ trace kept, environment.Answered (deleteFunc .verbatim permission) (some permission) trace
      (.done (.ok kept)) none :=
  exists_deleteForUser marked only permission.spec.user permission.spec.userReference
    (fun username => ask (.broker (.clearPermissionsIn permission.spec.vhost username)))
    fun _ => ⟨_, noContent, answered_call.mpr ⟨noContent, _, [], rfl, ⟨rfl, .inl rfl⟩, .refl ..⟩,
      rfl⟩

/-- The state of a queue that does not exist cannot be read. -/
theorem exists_checkDeletable_error (queue : Object .queue)
    (conditional : queue.spec.type = "quorum" ∧
      (queue.spec.deleteIfEmpty ∨ queue.spec.deleteIfUnused)) :
    ∃ trace err, environment.Answered (QueueReconciler.checkDeletable queue) (some queue) trace
      (.done (.error err)) (some queue) := by
  rw [QueueReconciler.checkDeletable, if_pos conditional]
  exact ⟨_, _, answered_call.mpr ⟨.error (.errorResponse 404 "" ""), _, [], rfl,
    ⟨rfl, .inr ⟨"", "", rfl⟩⟩, .refl ..⟩⟩

/-- The bindings between ends that do not exist cannot be listed. -/
theorem exists_deletionInfo_error (binding : Object .binding) (slow : ¬ Prompt binding) :
    ∃ trace err, environment.Answered (BindingReconciler.deletionInfo .verbatim binding)
      (some binding) trace (.done (.error err)) (some binding) := by
  obtain ⟨extension, given⟩ := Option.ne_none_iff_exists'.mp slow
  simp only [BindingReconciler.deletionInfo, given, BindingReconciler.findBindingInfo]
  split
  · exact ⟨[], _, .refl ..⟩
  · unfold BindingReconciler.listBindingsBetween
    split
    · exact ⟨_, _, answered_call.mpr ⟨.error (.errorResponse 404 "" ""), _, [], rfl,
        ⟨rfl, .inr ⟨"", "", rfl⟩⟩, .refl ..⟩⟩
    · exact ⟨_, _, answered_call.mpr ⟨.error (.errorResponse 404 "" ""), _, [], rfl,
        ⟨rfl, .inr ⟨"", "", rfl⟩⟩, .refl ..⟩⟩

/-- Every object that is not prompt has a run in which nothing goes wrong and an error is
returned. -/
theorem fails_of_not_prompt (marked : object.objectMeta.deletionTimestamp.isSome = true)
    (only : object.objectMeta.finalizers = [kind.finalizer]) (slow : ¬ Prompt object) :
    Fails object := by
  cases kind with
  | permission =>
      obtain ⟨trace, kept, answered⟩ := exists_deletePermission object marked only
      exact fails_of_gone answered
  | topicPermission =>
      obtain ⟨trace, kept, answered⟩ := exists_deleteForUser marked only object.spec.user
        object.spec.userReference
        (fun username => ask (.broker (.deleteTopicPermissionsIn object.spec.vhost username
          object.spec.permissions.exchange)))
        fun username => ⟨_, noContent,
          answered_call.mpr ⟨noContent, _, [], rfl, ⟨rfl, .inl rfl⟩, .refl ..⟩, rfl⟩
      exact fails_of_gone answered
  | queue =>
      obtain ⟨deletes, checked⟩ := not_or.mp slow
      have kept : shouldSkipDeletion object.spec.deletionPolicy = false := decide_eq_false deletes
      obtain ⟨trace, err, missing⟩ := exists_checkDeletable_error object (not_not.mp checked)
      have stops : environment.Answered (QueueReconciler.deleteFunc object) (some object)
          (trace ++ []) (.done (.error err)) (some object) := by
        rw [QueueReconciler.deleteFunc, kept]
        exact missing.bind (.refl ..)
      exact fails_of_error (stops.bind (.refl ..) : environment.Answered (deleting object _) ..)
  | binding =>
      obtain ⟨trace, err, missing⟩ := exists_deletionInfo_error object slow
      have stops : environment.Answered (BindingReconciler.deleteFunc .verbatim object)
          (some object) (trace ++ []) (.done (.error err)) (some object) := missing.bind (.refl ..)
      exact fails_of_error (stops.bind (.refl ..) : environment.Answered (deleting object _) ..)
  | _ => exact absurd trivial slow

/-- Whenever nothing goes wrong, the deletion is reported: exactly if the object is
prompt. -/
theorem deletion_reported_iff (object : Object kind)
    (marked : object.objectMeta.deletionTimestamp.isSome = true)
    (only : object.objectMeta.finalizers = [kind.finalizer]) :
    (∀ (r : TopologyReconciler) key trace result after,
      environment.Answered (r.reconcile key) (some object) trace (.done result) after →
      Resolved r key object trace → Reported trace result after) ↔ Prompt object := by
  constructor
  · intro reported
    by_contra slow
    obtain ⟨trace, result, after, deletes, fails⟩ := fails_of_not_prompt marked only slow
    have reconciled : environment.Answered (plainReconciler.reconcileObject object) (some object)
        trace (.done result) after := by
      rw [reconcileObject, if_pos marked]
      exact deletes
    obtain ⟨whole, answered, resolved⟩ := exists_connected object.objectMeta.key reconciled
    exact fails (reported _ _ whole result after answered resolved).noError
  · exact fun prompt r key trace result after => reported_of_prompt marked only prompt

end Fails

section Example

/-- An exchange and a permission that a user has deleted. -/
def ledgerExchange : Object .exchange where
  objectMeta := { name := "ledger", ns := "shop", deletionTimestamp := some 100
                  finalizers := [Kind.exchange.finalizer] }
  spec := { name := "ledger", vhost := "/", rabbitmqClusterReference := { name := "broker" } }

def ledgerPermission : Object .permission where
  objectMeta := { name := "ledger", ns := "shop", deletionTimestamp := some 100
                  finalizers := [Kind.permission.finalizer] }
  spec := { user := "ledger", vhost := "/", rabbitmqClusterReference := { name := "broker" } }

theorem ledgerExchange_reported :
    ledgerExchange.objectMeta.deletionTimestamp.isSome = true ∧
      ledgerExchange.objectMeta.finalizers = [Kind.exchange.finalizer] ∧
      ∀ (r : TopologyReconciler) key trace result after,
        environment.Answered (r.reconcile key) (some ledgerExchange) trace (.done result) after →
        Resolved r key ledgerExchange trace → Reported trace result after :=
  ⟨rfl, rfl, (deletion_reported_iff ledgerExchange rfl rfl).mpr trivial⟩

/-- The permission is cleared in the broker and gone, and the reconcile returns an error
nevertheless. -/
theorem ledgerPermission_unreported :
    ∃ trace, environment.Answered (plainReconciler.reconcile ⟨"shop", "ledger"⟩)
        (some ledgerPermission) trace (.done ({}, some lateRemoval)) none ∧
      Resolved plainReconciler ⟨"shop", "ledger"⟩ ledgerPermission trace := by
  obtain ⟨trace, kept, deletes⟩ := exists_deletePermission ledgerPermission rfl rfl
  obtain ⟨whole, reconciled⟩ := exists_lateRemoval deletes
  exact exists_connected _ reconciled

end Example

end TopologyOperator.DeletionServer
