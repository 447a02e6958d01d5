import TopologyOperator.Controller.Revisions

/-!
# The copy of the object

A topology reconcile works on one copy of the object: it reads it, computes conditions
from it and sets them, and every write rewrites it in place. `CopyInvariant` lists what
these steps have to keep, for whatever is tracked about the copy; from that every request
of a reconcile keeps to its guard.
-/

namespace TopologyOperator

open Dialogue Program

variable {kind : Kind} {libraries : Libraries}

/-- In the trace, a user was put into the broker. -/
def PutSucceeded (trace : Trace (Object kind)) : Prop :=
  ∃ name settings reply, ⟨.broker (.putUser name settings), reply⟩ ∈ trace ∧
    validateResponse reply = .ok ()

/-- The steps of a reconcile on its copy: what holds of the copy between the steps, what
holds when its status is stored, and what a later copy has in common with an earlier one. -/
structure CopyInvariant (libraries : Libraries)
    (guard : Trace (Object kind) → Request (Object kind) → Prop)
    (holds storable : Trace (Object kind) → Object kind → Prop)
    (continues : Object kind → Trace (Object kind) → Object kind → Prop) : Prop where
  spared : ∀ trace request, request.spares = true → guard trace request
  opened : ∀ key object, holds [⟨.get key, .ok object⟩] object
  append : ∀ {trace object}, holds trace object → ∀ suffix, holds (trace ++ suffix) object
  refl : ∀ {trace object}, holds trace object → continues object trace object
  trans : ∀ {first middle last earlier later}, continues first earlier middle →
    continues middle later last → continues first later last
  current : ∀ {object trace result}, continues object trace result → holds trace result
  /-- Changes of other metadata are not tracked. -/
  amend : ∀ {trace object amended}, holds trace object →
    Object.view.revision amended = Object.view.revision object → amended.status = object.status →
    continues object trace amended
  update : ∀ {trace object}, holds trace object → guard trace (.update object) ∧
    ∀ version : Version, continues object (trace ++ [⟨.update object, .ok version⟩])
      (object.withVersion version)
  ripe : ∀ {trace object}, holds trace object → storable trace object
  pending : ∀ {trace object}, storable trace object → ∀ suffix, storable (trace ++ suffix) object
  store : ∀ {trace object}, storable trace object → guard trace (.updateStatus object) ∧
    ∀ version : Version, continues object (trace ++ [⟨.updateStatus object, .ok version⟩])
      (object.withVersion version)
  /-- The names in the status of a user are not tracked. -/
  names : ∀ {trace object}, holds trace object → ∀ credentials username,
    continues object trace { object with status := { object.status with
      credentials := credentials
      username := username } }
  notReady : ∀ {trace computing : Trace (Object kind)} {object msg condition}, holds trace object →
    (notReady msg object.status.conditions).Exec computing (.done condition) →
    holds trace (object.setStatusConditions [condition])
  passwordSynced : ∀ {trace computing : Trace (Object kind)} {object condition},
    holds trace object → PutSucceeded trace →
    (passwordSynced object.status.conditions).Exec computing (.done condition) →
    continues object trace (object.setStatusConditions [condition])
  /-- The object is recorded as ready after a declaration that succeeded. -/
  ready : ∀ {trace declaring computing : Trace (Object kind)} {object result condition},
    (declareFunc libraries object).Exec declaring (.done (result, .ok ())) →
    continues object (trace ++ declaring) result →
    (ready result.status.conditions).Exec computing (.done condition) →
    storable (trace ++ declaring)
      (TopologyReconciler.setObservedGeneration (result.setStatusConditions [condition]))

namespace CopyInvariant

section Writes

variable {guard : Trace (Object kind) → Request (Object kind) → Prop}
  {holds storable : Trace (Object kind) → Object kind → Prop}
  {continues : Object kind → Trace (Object kind) → Object kind → Prop}
  {trace : Trace (Object kind)} {object : Object kind}
  (steps : CopyInvariant libraries guard holds storable continues)

include steps

/-- A copy that is kept over some events. -/
theorem continues_append {first result : Object kind} (earlier : continues first trace result)
    (suffix : Trace (Object kind)) : continues first (trace ++ suffix) result :=
  steps.trans earlier (steps.refl (steps.append (steps.current earlier) suffix))

/-- One attempt stores the copy, or leaves it for the next one. -/
theorem updateStatus_guarded (ready : storable trace object) :
    (updateStatus object).Guarded guard
      (fun result later => (∃ suffix, later = trace ++ suffix ∧ result.1 = object) ∨
        continues object later result.1) trace := by
  obtain ⟨allowed, stored⟩ := steps.store ready
  refine ⟨allowed, fun reply => ?_⟩
  cases reply with
  | error err => exact .inl ⟨_, rfl, rfl⟩
  | ok version => exact .inr (stored version)

/-- All attempts store the same copy. -/
theorem statusUpdate_guarded (ready : storable trace object) :
    (TopologyReconciler.statusUpdate object).Guarded guard (fun _ _ => True) trace := by
  have attempts : ∀ (state : Object kind) trace, storable trace state →
      (updateStatus state).Guarded guard (fun result later => storable later result.1) trace := by
    intro state trace ready
    apply (steps.updateStatus_guarded ready).weaken
    rintro result later (⟨suffix, rfl, same⟩ | stored)
    · rw [same]
      exact steps.pending ready suffix
    · exact steps.ripe (steps.current stored)
  exact (retryOnConflict_guarded attempts _ ready).bind fun _ _ _ => trivial

theorem recordNotReady_guarded (held : holds trace object) (msg : String) :
    (TopologyReconciler.recordNotReady object msg).Guarded guard (fun _ _ => True) trace := by
  apply (guarded_of_observes steps.spared (notReady_calls (by rfl) ..)).bind
  rintro condition _ ⟨suffix, rfl, exec⟩
  exact steps.statusUpdate_guarded (steps.ripe (steps.notReady (steps.append held suffix) exec))

/-- A write of the object that keeps its spec and its status. -/
theorem update_guarded {α : Type} {written : Object kind}
    {next : Except ApiError Version → Prog (Object kind) α}
    {post : α → Trace (Object kind) → Prop} (held : holds trace object)
    (revision : Object.view.revision written = Object.view.revision object)
    (status : written.status = object.status)
    (failed : ∀ err, continues object (trace ++ [⟨.update written, .error err⟩]) written →
      (next (.error err)).Guarded guard post (trace ++ [⟨.update written, .error err⟩]))
    (succeeded : ∀ version,
      continues object (trace ++ [⟨.update written, .ok version⟩]) (written.withVersion version) →
      (next (.ok version)).Guarded guard post (trace ++ [⟨.update written, .ok version⟩])) :
    ((ask (.update written)).bind next).Guarded guard post trace := by
  have amended := steps.amend held revision status
  obtain ⟨allowed, updated⟩ := steps.update (steps.current amended)
  refine ⟨allowed, fun reply => ?_⟩
  cases reply with
  | error err => exact failed err (steps.continues_append amended _)
  | ok version => exact succeeded version (steps.trans amended (updated version))

/-- The copy with the finalizer is written, and goes on as the copy. -/
theorem addFinalizerIfNeeded_guarded (held : holds trace object) :
    (addFinalizerIfNeeded object).Guarded guard
      (fun result later => ∀ carrying, result = .ok carrying → holds later carrying) trace := by
  unfold addFinalizerIfNeeded
  split
  · have revision : Object.view.revision object.withFinalizer = Object.view.revision object := by
      unfold Object.withFinalizer ObjectMeta.addFinalizer
      split <;> rfl
    apply steps.update_guarded held revision rfl
    · intro err _ carrying absurd
      cases absurd
    · intro version renewed carrying same
      cases same
      exact steps.current renewed
  · intro carrying same
    cases same
    exact held

/-- So is the copy without it. -/
theorem removeFinalizer_guarded (held : holds trace object) :
    (removeFinalizer object).Guarded guard
      (fun result later => ∀ released, result = .ok released → holds later released) trace := by
  apply steps.update_guarded held (by rfl) (by rfl)
  · intro err _ released absurd
    cases absurd
  · intro version renewed released same
    cases same
    exact steps.current renewed

end Writes

section Users

variable {guard : Trace (Object .user) → Request (Object .user) → Prop}
  {holds storable : Trace (Object .user) → Object .user → Prop}
  {continues : Object .user → Trace (Object .user) → Object .user → Prop}
  {trace : Trace (Object .user)} {user : Object .user}
  (steps : CopyInvariant libraries guard holds storable continues)

include steps

/-- The names of the credentials are recorded in the copy. -/
theorem recordCredentials_guarded (held : holds trace user) (username secretName : String) :
    (UserReconciler.recordCredentials user username secretName).Guarded guard
      (fun result later => continues user later result.1) trace := by
  unfold UserReconciler.recordCredentials
  split
  · exact steps.refl held
  · have named := steps.names held (some ⟨secretName⟩) username
    apply (steps.updateStatus_guarded (steps.ripe (steps.current named))).weaken
    rintro result later (⟨suffix, rfl, same⟩ | stored)
    · rw [same]
      exact steps.continues_append named suffix
    · exact steps.trans named stored

/-- A user that was put leaves its condition in the copy. -/
theorem putUser_guarded (held : holds trace user) (credentials : UserCredentials)
    (failure username : String) :
    (UserReconciler.putUser libraries user credentials failure username).Guarded guard
      (fun result later => continues user later result.1) trace := by
  apply (guarded_of_observes steps.spared (generateUserSettings_calls libraries (by rfl) ..)).bind
  rintro settings _ ⟨suffix, rfl, -⟩
  have here := steps.append held suffix
  split
  · exact steps.refl here
  apply guarded_ask_bind steps.spared rfl
  intro reply
  split
  · exact steps.refl (steps.append here _)
  next succeeded =>
  apply (guarded_of_observes steps.spared (passwordSynced_calls (by rfl) ..)).bind
  rintro condition _ ⟨more, rfl, exec⟩
  apply guarded_ask_bind steps.spared rfl
  intro _
  have limits : (UserReconciler.reconcileUserLimits user username).Calls
      (·.spares = true : Request (Object .user) → Prop) :=
    reconcileLimits_calls (calls_ask.mpr rfl) (fun _ => calls_ask.mpr rfl)
      fun _ => calls_ask.mpr rfl
  apply (guarded_of_spares steps.spared limits fun _ => id).bind
  rintro outcome _ ⟨last, rfl, -⟩
  have put : PutSucceeded (trace ++ suffix ++ [⟨.broker (.putUser _ _), reply⟩]) :=
    ⟨_, _, reply, List.mem_append_right _ (List.mem_singleton_self _), succeeded⟩
  have synced := steps.passwordSynced (steps.append here _) put exec
  exact steps.continues_append (steps.continues_append (steps.continues_append synced _) _) last

/-- The declaration of a user works on the one copy. -/
theorem declareUser_guarded (held : holds trace user) :
    (UserReconciler.declareFunc libraries user).Guarded guard
      (fun result later => continues user later result.1) trace := by
  unfold UserReconciler.declareFunc
  split
  · exact steps.refl held
  split
  · apply (guarded_of_spares steps.spared (importCredentials_calls (by rfl)) fun _ => id).bind
    rintro imported _ ⟨suffix, rfl, -⟩
    have here := steps.append held suffix
    split
    · exact steps.refl here
    split
    · exact steps.refl here
    apply (steps.recordCredentials_guarded here ..).bind
    intro recorded later carried
    split
    · exact carried
    · apply (steps.putUser_guarded (steps.current carried) ..).weaken
      exact fun _ _ next => steps.trans carried next
  · apply (guarded_of_spares steps.spared (declareCredentials_calls (by exact fun _ => rfl)
      (fun _ _ => rfl) (fun _ => rfl) (fun _ => rfl) user) fun _ => id).bind
    rintro declared _ ⟨suffix, rfl, -⟩
    split
    · exact steps.refl (steps.append held suffix)
    apply (guarded_of_spares steps.spared (getUserCredentials_calls (by rfl)) fun _ => id).bind
    rintro found _ ⟨more, rfl, -⟩
    have here := steps.append (steps.append held suffix) more
    split
    · exact steps.refl here
    split
    · exact steps.refl here
    split
    · exact steps.refl here
    apply (steps.recordCredentials_guarded here ..).bind
    intro recorded later carried
    split
    · exact carried
    · apply (steps.putUser_guarded (steps.current carried) ..).weaken
      exact fun _ _ next => steps.trans carried next

end Users

section Declare

variable {guard : Trace (Object kind) → Request (Object kind) → Prop}
  {holds storable : Trace (Object kind) → Object kind → Prop}
  {continues : Object kind → Trace (Object kind) → Object kind → Prop}
  {trace : Trace (Object kind)} {object : Object kind}
  (steps : CopyInvariant libraries guard holds storable continues)

include steps

/-- The owner is set in the copy and written with it. -/
theorem setOwner_guarded (held : holds trace object) (user : Object .user) :
    (setOwner user object).Guarded guard (fun result later => continues object later result.1)
      trace := by
  unfold setOwner
  split
  · exact steps.refl held
  split
  · exact steps.refl held
  · next objectMeta set =>
      obtain ⟨references, rfl⟩ := setControllerReference_eq set
      apply steps.update_guarded held (by rfl) (by rfl)
      · exact fun _ amended => amended
      · exact fun _ renewed => renewed

/-- A permission is granted with its copy, perhaps owned by then. -/
theorem declareForUser_guarded {specUser : String} {reference : Option LocalObjectReference}
    {grant : String → Prog (Object kind) BrokerReply}
    (grants : ∀ username, (grant username).Calls (·.spares = true)) (held : holds trace object) :
    (declareForUser specUser reference object grant).Guarded guard
      (fun result later => continues object later result.1) trace := by
  unfold declareForUser
  split
  · split
    · exact steps.refl held
    · apply (guarded_of_spares steps.spared (grants _) fun _ => id).bind
      rintro reply _ ⟨suffix, rfl, -⟩
      exact steps.refl (steps.append held suffix)
  · apply (guarded_of_observes steps.spared (getUsernameFromUser_calls (by rfl))).bind
    rintro found _ ⟨suffix, rfl, -⟩
    have here := steps.append held suffix
    split
    · exact steps.refl here
    · split
      · exact steps.refl here
      · trivial
    · split
      · exact steps.refl here
      · apply (steps.setOwner_guarded here _).bind
        intro owned later carried
        split
        · exact carried
        · apply (guarded_of_spares steps.spared (grants _) fun _ => id).bind
          rintro reply _ ⟨more, rfl, -⟩
          exact steps.continues_append carried more

/-- A declare function rewrites the copy step by step. -/
theorem declareFunc_guarded (held : holds trace object) :
    (declareFunc libraries object).Guarded guard
      (fun result later => continues object later result.1) trace := by
  by_cases user : kind = .user
  · subst user
    exact steps.declareUser_guarded held
  rcases declareFunc_cases libraries object user with ⟨program, same, only⟩ |
      ⟨specUser, reference, grant, same, only⟩
  · rw [same]
    apply (guarded_of_spares steps.spared only fun _ => spares_of_brokerOnly).bind
    rintro outcome _ ⟨suffix, rfl, -⟩
    exact steps.refl (steps.append held suffix)
  · rw [same]
    exact steps.declareForUser_guarded
      (fun username => (only username).mono fun _ => spares_of_brokerOnly) held

/-- The outcome of a declaration is recorded. -/
theorem recordDeclared_guarded {outcome : Except GoError Unit} (held : holds trace object)
    (success : outcome = .ok () → ∀ (computing : Trace (Object kind)) condition,
      (TopologyOperator.ready object.status.conditions).Exec computing (.done condition) →
      storable trace
        (TopologyReconciler.setObservedGeneration (object.setStatusConditions [condition]))) :
    (TopologyReconciler.recordDeclared object outcome).Guarded guard (fun _ _ => True) trace := by
  cases outcome with
  | error err =>
      apply guarded_ask_bind steps.spared rfl
      intro _
      exact (steps.recordNotReady_guarded (steps.append held _) _).bind fun _ _ _ => trivial
  | ok =>
      apply guarded_ask_bind steps.spared rfl
      intro _
      apply (guarded_of_observes steps.spared (ready_calls (by rfl) ..)).bind
      rintro condition _ ⟨suffix, rfl, exec⟩
      have stored := steps.pending (success rfl suffix condition exec)
      exact (steps.statusUpdate_guarded (steps.pending (stored _) suffix)).bind
        fun _ _ _ => trivial

end Declare

section Reconcile

variable {guard : Trace (Object kind) → Request (Object kind) → Prop}
  {holds storable : Trace (Object kind) → Object kind → Prop}
  {continues : Object kind → Trace (Object kind) → Object kind → Prop}
  {trace : Trace (Object kind)} {object : Object kind}
  (steps : CopyInvariant libraries guard holds storable continues)

include steps

/-- A permission is revoked before its copy is released. -/
theorem deleteForUser_guarded {specUser : String} {reference : Option LocalObjectReference}
    {revoke : String → Prog (Object kind) BrokerReply}
    (revokes : ∀ username, (revoke username).Calls (·.spares = true)) (held : holds trace object) :
    (deleteForUser specUser reference object revoke).Guarded guard
      (fun result later => ∀ released, result = .ok released → holds later released) trace := by
  apply (guarded_of_observes steps.spared (userToRevoke_calls (by exact fun _ => rfl) ..)).bind
  rintro username _ ⟨suffix, rfl, -⟩
  split
  · intro released absurd
    cases absurd
  split
  · exact steps.removeFinalizer_guarded (steps.append held suffix)
  · apply (guarded_of_spares steps.spared (revokes _) fun _ => id).bind
    rintro reply _ ⟨more, rfl, -⟩
    split
    · intro released absurd
      cases absurd
    · exact steps.removeFinalizer_guarded (steps.append (steps.append held suffix) more)

/-- Every delete function returns the copy that it was given, or the released one. -/
theorem deleteFunc_guarded (held : holds trace object) :
    (deleteFunc libraries object).Guarded guard
      (fun result later => ∀ released, result = .ok released → holds later released) trace := by
  rcases deleteFunc_cases libraries object with ⟨program, same, only⟩ |
      ⟨specUser, reference, revoke, same, only⟩
  · rw [same]
    apply (guarded_of_spares steps.spared only fun _ => spares_of_brokerOnly).bind
    rintro outcome _ ⟨suffix, rfl, -⟩
    split
    · intro released absurd
      cases absurd
    · intro released same
      cases same
      exact steps.append held suffix
  · rw [same]
    exact steps.deleteForUser_guarded
      (fun username => (only username).mono fun _ => spares_of_brokerOnly) held

/-- A failed resolution is recorded in the copy. -/
theorem handleRMQReferenceParseError_guarded (held : holds trace object) (err : GoError) :
    (TopologyReconciler.handleRMQReferenceParseError object err).Guarded guard
      (fun _ _ => True) trace := by
  have releases : (TopologyReconciler.releaseWithoutBroker object).Guarded guard
      (fun _ _ => True) trace := by
    apply guarded_ask_bind steps.spared rfl
    intro _
    exact (steps.removeFinalizer_guarded (steps.append held _)).bind fun _ _ _ => trivial
  unfold TopologyReconciler.handleRMQReferenceParseError
  split
  · exact releases
  split
  · trivial
  split
  · exact releases
  split
  · apply guarded_ask_bind steps.spared rfl
    intro _
    exact (steps.recordNotReady_guarded (steps.append held _) _).bind fun _ _ _ => trivial
  split
  · exact (steps.recordNotReady_guarded held _).bind fun _ _ _ => trivial
  · apply guarded_ask_bind steps.spared rfl
    intro _
    exact (steps.recordNotReady_guarded (steps.append held _) _).bind fun _ _ _ => trivial

end Reconcile

section Main

variable {r : TopologyReconciler} {guard : Trace (Object kind) → Request (Object kind) → Prop}
  {holds storable : Trace (Object kind) → Object kind → Prop}
  {continues : Object kind → Trace (Object kind) → Object kind → Prop}
  {trace : Trace (Object kind)} {object : Object kind}
  (steps : CopyInvariant r.libraries guard holds storable continues)

include steps

/-- The declaring part of a reconcile keeps to the guard. -/
theorem reconcileDeclare_guarded (held : holds trace object) :
    (r.reconcileDeclare object).Guarded guard (fun _ _ => True) trace := by
  apply (steps.declareFunc_guarded held).exec.bind
  rintro ⟨result, outcome⟩ _ ⟨carried, declaring, rfl, exec⟩
  apply steps.recordDeclared_guarded (steps.current carried)
  rintro rfl computing condition computed
  exact steps.ready exec carried computed

/-- So does the deleting part. -/
theorem reconcileDelete_guarded (held : holds trace object) :
    (r.reconcileDelete object).Guarded guard (fun _ _ => True) trace := by
  apply (steps.deleteFunc_guarded held).bind
  intro result later released
  split
  · apply guarded_ask_bind steps.spared rfl
    exact fun _ => trivial
  · apply guarded_ask_bind steps.spared rfl
    intro _
    exact (steps.removeFinalizer_guarded (steps.append (released _ rfl) _)).bind
      fun _ _ _ => trivial

/-- So does the reconcile once there is a client. -/
theorem reconcileObject_guarded (held : holds trace object) :
    (r.reconcileObject object).Guarded guard (fun _ _ => True) trace := by
  unfold TopologyReconciler.reconcileObject
  split
  · exact steps.reconcileDelete_guarded held
  · apply (steps.addFinalizerIfNeeded_guarded held).bind
    intro result later carrying
    split
    · trivial
    · exact steps.reconcileDeclare_guarded (carrying _ rfl)

/-- Every request of a reconcile keeps to the guard. -/
theorem guarded (key : NamespacedName) :
    (r.reconcile key : Prog (Object kind) _).Guarded guard (fun _ _ => True) [] := by
  apply guarded_ask_bind steps.spared rfl
  intro found
  split
  · trivial
  next object =>
  have held : holds ([] ++ [⟨.get key, .ok object⟩]) object := steps.opened key object
  apply (guarded_of_observes steps.spared (extractSystemCertPool_calls (by rfl)
    (by exact fun _ => rfl))).bind
  rintro loaded _ ⟨loading, rfl, -⟩
  split
  · trivial
  apply (guarded_of_observes steps.spared (parseReference_observes r.libraries ..)).bind
  rintro resolved _ ⟨resolving, rfl, -⟩
  have here := steps.append (steps.append held loading) resolving
  split
  · exact steps.handleRMQReferenceParseError_guarded here _
  apply (guarded_of_observes steps.spared (generateRabbitholeClient_calls
    (by exact fun _ _ _ _ => rfl) ..)).bind
  rintro connected _ ⟨connecting, rfl, -⟩
  split
  · trivial
  · exact steps.reconcileObject_guarded (steps.append here connecting)

end Main

end CopyInvariant

end TopologyOperator
