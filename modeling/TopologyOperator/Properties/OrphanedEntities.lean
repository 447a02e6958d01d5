import TopologyOperator.Client.Resolution
import TopologyOperator.Properties.FinalizerFirst
import TopologyOperator.Properties.MirroredSpec

/-!
# No entity is orphaned

While the cluster can be looked up and has replicas, whatever the broker holds for an
object is held for an object that still exists and carries the operator's finalizer.
So once the object is gone, its entity is gone: every entity that the operator has
defined, it deletes. This holds in every run, with arbitrary failures of the broker and
of writes, crashes at any point and objects that are created again under the same name.

Bindings are left out, because the operator does not name them as the broker does.
-/

namespace TopologyOperator.Deployment

open Dialogue Environment Program BrokerStore

variable {kind : Kind} {key : NamespacedName} {target : Entity} {libraries : Libraries}
  {r : TopologyReconciler} {store : Store} {object read : Object kind}
  {trace : Trace (Object kind)}

/-- With the cluster there, no error of the resolution releases an object. -/
theorem ResolveFailed.not_sentinel {rmq : RabbitmqClusterReference} {ns : String} {err : GoError}
    (failed : ResolveFailed rmq ns trace err)
    (sighted : ∀ event ∈ trace, Sighted event.request event.answer) :
    ¬ (err.is .errNoSuchRabbitmqCluster = true ∨ err.is .errClusterScaledToZero = true) := by
  have ordinary : err.Ordinary →
      ¬ (err.is .errNoSuchRabbitmqCluster = true ∨ err.is .errClusterScaledToZero = true) := by
    rintro ⟨exists', scaled, -⟩ (gone | zero)
    · rw [exists'] at gone
      cases gone
    · rw [scaled] at zero
      cases zero
  cases failed with
  | unusableSecret _ _ ordinarily => exact ordinary ordinarily
  | unusableCluster _ _ _ ordinarily => exact ordinary ordinarily
  | secretNotAllowed | clusterNotAllowed => rintro (gone | zero) <;> contradiction
  | unreadable failure _ asked =>
      obtain ⟨cluster, answered, -⟩ := sighted _ (asked ▸ List.mem_singleton_self _)
      cases answered
  | scaledToZero cluster _ found replicas =>
      obtain ⟨other, answered, up⟩ := sighted _ found
      cases answered
      exact absurd replicas up
  | secretNotFound _ _ failure _ _ _ asked missing =>
      exact absurd missing (sighted _ asked failure rfl)
  | serviceNotFound _ _ failure _ _ _ asked missing =>
      exact absurd missing (sighted _ asked failure rfl)

/-- The finalizer is removed after the entity was deleted. -/
def ReleasesAfter (target : Entity) (trace : Trace (Object kind)) : Request (Object kind) → Prop
  | .update written => kind.finalizer ∉ written.objectMeta.finalizers →
      (∀ event ∈ trace, Sighted event.request event.answer) → Removed trace target
  | _ => True

section Guarded

variable {α : Type}

/-- Parts that do not write the object. -/
theorem releasesAfter_of_calls {program : Prog (Object kind) α}
    {allowed : Request (Object kind) → Prop} (calls : program.Calls allowed)
    (other : ∀ written, ¬ allowed (.update written)) :
    program.Guarded (ReleasesAfter target)
      (fun value later => ∃ suffix, later = trace ++ suffix ∧ program.Exec suffix (.done value))
      trace := by
  refine Guarded.of_calls calls fun suffix request allows => ?_
  cases request with
  | update written => exact absurd allows (other written)
  | _ => trivial

theorem releasesAfter_of_consults {program : Prog (Object kind) α} (consults : Consults program) :
    program.Guarded (ReleasesAfter target)
      (fun value later => ∃ suffix, later = trace ++ suffix ∧ program.Exec suffix (.done value))
      trace :=
  releasesAfter_of_calls consults fun _ absurd => by cases absurd

/-- Removing the finalizer. -/
theorem removeFinalizer_releasesAfter
    (removed : (∀ event ∈ trace, Sighted event.request event.answer) → Removed trace target) :
    (removeFinalizer object).Guarded (ReleasesAfter target)
      (fun _ later => ∃ suffix, later = trace ++ suffix) trace := by
  refine ⟨fun _ sighted => removed sighted, fun reply => ?_⟩
  cases reply with
  | error err => exact ⟨_, rfl⟩
  | ok version => exact ⟨_, rfl⟩

end Guarded

section Delete

variable {Resource : Type}

/-- The end of most delete functions. -/
theorem removed_of_deleted {issued : BrokerCall} {validate : issued.Answer → Except GoError Unit}
    {trace : Trace Resource}
    (exec : ((ask (.broker issued)).bind fun reply => .done (validate reply)).Exec trace
      (.done (.ok ())))
    (removes : issued.removes = true) (exact' : issued.exact = true)
    (about : issued.entity = some target)
    (gone : ∀ reply, validate reply = .ok () → issued.Succeeds reply) : Removed trace target := by
  obtain ⟨reply, rest, rfl, ends⟩ := exec_ask_bind.mp exec
  exact ⟨issued, reply, .head _, removes, exact', about,
    gone reply (Outcome.done.inj ends.2).symm⟩

/-- How the delete functions delete: most make the call and leave the finalizer to the
reconciler, those of permissions remove it themselves. -/
theorem deleteFunc_deletes (named : Designates libraries target object)
    (kept : object.retained = false) (unbound : kind ≠ .binding) :
    (∃ program, deleteFunc libraries object = deleting object program ∧
      program.Calls (BrokerOnly fun _ => True) ∧
      ∀ trace, program.Exec trace (.done (.ok ())) → Removed trace target) ∨
    ∃ specUser revoke, specUser ≠ "" ∧
      deleteFunc libraries object = deleteForUser specUser none object revoke ∧
      (revoke specUser).Calls (BrokerOnly fun _ => True) ∧
      ∀ trace response, (revoke specUser).Exec trace (.done response) →
        deleted response = .ok () → Removed trace target := by
  have issues : ∀ call, BrokerOnly (fun _ => True) (.broker call : Request (Object kind)) :=
    fun call => .inr ⟨call, rfl, trivial⟩
  cases kind with
  | binding => exact absurd rfl unbound
  | user => cases named
  | exchange =>
      exact .inl ⟨_, rfl, deleteExchange_calls (issues _), fun _ ran =>
        removed_of_deleted ran rfl rfl named fun _ gone => .removed rfl rfl gone⟩
  | policy =>
      exact .inl ⟨_, rfl, deletePolicy_calls (issues _), fun _ ran =>
        removed_of_deleted ran rfl rfl named fun _ gone => .removed rfl rfl gone⟩
  | operatorPolicy =>
      exact .inl ⟨_, rfl, deleteOperatorPolicy_calls (issues _), fun _ ran =>
        removed_of_deleted ran rfl rfl named fun _ gone => .removed rfl rfl gone⟩
  | schemaReplication =>
      exact .inl ⟨_, rfl, deleteSchemaReplication_calls (issues _), fun _ ran =>
        removed_of_deleted ran rfl rfl named fun _ gone => .removed rfl rfl gone⟩
  | federation =>
      refine .inl ⟨_, rfl, deleteFederation_calls (issues _), fun _ ran => ?_⟩
      have skips : shouldSkipDeletion object.spec.deletionPolicy = false := kept
      rw [FederationReconciler.deleteFunc, skips] at ran
      exact removed_of_deleted ran rfl rfl named fun _ gone => .removed rfl rfl gone
  | shovel =>
      refine .inl ⟨_, rfl, deleteShovel_calls (issues _), fun _ ran => ?_⟩
      have skips : shouldSkipDeletion object.spec.deletionPolicy = false := kept
      rw [ShovelReconciler.deleteFunc, skips] at ran
      exact removed_of_deleted ran rfl rfl named fun _ gone => .removed rfl rfl gone
  | vhost =>
      refine .inl ⟨_, rfl, deleteVhost_calls (issues _), fun _ ran => ?_⟩
      have skips : shouldSkipDeletion object.spec.deletionPolicy = false := kept
      rw [VhostReconciler.deleteFunc, skips] at ran
      exact removed_of_deleted ran rfl rfl named fun _ gone => .removed rfl rfl gone
  | queue =>
      refine .inl ⟨_, rfl, deleteQueue_calls (issues _) (issues _), fun _ ran => ?_⟩
      have skips : shouldSkipDeletion object.spec.deletionPolicy = false := kept
      rw [QueueReconciler.deleteFunc, skips] at ran
      obtain ⟨deletable, checking, rest, rfl, -, remaining⟩ := exec_bind_done.mp ran
      refine Removed.append_right ?_ checking
      split at remaining
      · cases remaining.2
      · exact removed_of_deleted remaining rfl rfl named fun _ gone => .removed rfl rfl gone
  | permission =>
      obtain ⟨user, namedSo, about⟩ := Option.map_eq_some_iff.mp named
      obtain ⟨unreferenced, given, rfl⟩ := namedUser_eq_some namedSo
      have form : deleteFunc libraries object = deleteForUser object.spec.user none object
          fun username => ask (.broker (.clearPermissionsIn object.spec.vhost username)) := by
        rw [← unreferenced]
        rfl
      refine .inr ⟨_, _, given, form, calls_ask.mpr (Or.inr ⟨_, rfl, trivial⟩), ?_⟩
      rintro _ response ⟨reply, rest, rfl, ends⟩ gone
      cases ends.2
      exact ⟨.clearPermissionsIn object.spec.vhost object.spec.user, response, .head _, rfl, rfl,
        congrArg some about, .removed rfl rfl gone⟩
  | topicPermission =>
      obtain ⟨user, namedSo, about⟩ := Option.map_eq_some_iff.mp named
      obtain ⟨unreferenced, given, rfl⟩ := namedUser_eq_some namedSo
      have form : deleteFunc libraries object = deleteForUser object.spec.user none object
          fun username => ask (.broker (.deleteTopicPermissionsIn object.spec.vhost username
            object.spec.permissions.exchange)) := by
        rw [← unreferenced]
        rfl
      refine .inr ⟨_, _, given, form, calls_ask.mpr (Or.inr ⟨_, rfl, trivial⟩), ?_⟩
      rintro _ response ⟨reply, rest, rfl, ends⟩ gone
      cases ends.2
      exact ⟨.deleteTopicPermissionsIn object.spec.vhost object.spec.user
        object.spec.permissions.exchange, response, .head _, rfl, rfl, congrArg some about,
        .removed rfl rfl gone⟩

/-- Whatever a delete function does to the finalizer, it does after the entity was
deleted. -/
theorem deleteFunc_releasesAfter (named : Designates libraries target object)
    (kept : object.retained = false) (unbound : kind ≠ .binding) :
    (deleteFunc libraries object).Guarded (ReleasesAfter target)
      (fun result later => ∀ released, result = .ok released → Removed later target) trace := by
  rcases deleteFunc_deletes named kept unbound with ⟨program, form, calls, deletes⟩ |
      ⟨specUser, revoke, given, form, calls, deletes⟩
  · rw [form]
    refine (releasesAfter_of_calls calls ?_).bind ?_
    · rintro written (absurd | ⟨issued, absurd, -⟩) <;> cases absurd
    · rintro outcome _ ⟨suffix, rfl, ran⟩
      rcases outcome with err | ⟨⟩
      · exact fun _ absurd => by cases absurd
      · exact fun _ _ => (deletes suffix ran).append_right trace
  · rw [form]
    change Guarded _ _ (if specUser = "" then _ else _) trace
    rw [if_neg given]
    refine (releasesAfter_of_calls calls ?_).bind ?_
    · rintro written (absurd | ⟨issued, absurd, -⟩) <;> cases absurd
    · rintro response _ ⟨suffix, rfl, ran⟩
      split
      · exact fun _ absurd => by cases absurd
      · next gone =>
          have removed := (deletes suffix response ran gone).append_right trace
          refine (removeFinalizer_releasesAfter fun _ => removed).weaken ?_
          rintro result _ ⟨more, rfl⟩ released -
          exact removed.append_left more

end Delete

section Reconcile

/-- Handling a failed resolution, with the cluster there, does not release the object. -/
theorem handleRMQReferenceParseError_releasesAfter {err : GoError} {resolving : Trace (Object kind)}
    (failed : (r.resolve object).Exec resolving (.done (.error err))) :
    (TopologyReconciler.handleRMQReferenceParseError object err).Guarded (ReleasesAfter target)
      (fun _ _ => True) (trace ++ resolving) := by
  by_cases release : object.objectMeta.deletionTimestamp.isSome = true ∧
      (err.is .errNoSuchRabbitmqCluster = true ∨ err.is .errClusterScaledToZero = true)
  · rw [handleRMQReferenceParseError_of_release release.1 release.2]
    refine ⟨trivial, fun _ => (removeFinalizer_releasesAfter fun sighted => ?_).bind
      fun _ _ _ => trivial⟩
    have seen : ∀ event ∈ resolving, Sighted event.request event.answer := fun event member =>
      sighted event (List.mem_append_left _ (List.mem_append_right _ member))
    exact absurd release.2 (ResolveFailed.not_sentinel (parseReference_error failed) seen)
  · refine (releasesAfter_of_calls (handleRMQReferenceParseError_statusOnly release) ?_).weaken
      fun _ _ _ => trivial
    rintro written (absurd | ⟨stored, absurd, -⟩) <;> cases absurd

/-- Under the finalizer, the rest of a reconcile keeps it. -/
theorem reconcileDeclare_releasesAfter (finalizer : kind.finalizer ∈ object.objectMeta.finalizers) :
    (r.reconcileDeclare object).Guarded (ReleasesAfter target) (fun _ _ => True) trace := by
  refine (Guarded.of_calls (reconcileDeclare_keepsFinalizers r object)
    fun suffix request keeps => ?_).weaken fun _ _ _ => trivial
  cases request with
  | update written =>
      have same : written.objectMeta.finalizers = object.objectMeta.finalizers := keeps
      exact fun lacks => absurd (same ▸ finalizer) lacks
  | _ => trivial

/-- Adding the finalizer releases nothing. -/
theorem addFinalizerIfNeeded_releasesAfter :
    (addFinalizerIfNeeded object).Guarded (ReleasesAfter target) (fun _ _ => True) trace := by
  unfold addFinalizerIfNeeded
  split
  · refine ⟨fun lacks => absurd (ObjectMeta.mem_addFinalizer ..) lacks, fun reply => ?_⟩
    cases reply <;> trivial
  · trivial

/-- With a client, the object is released after its entity was removed. -/
theorem reconcileObject_releasesAfter (named : Designates r.libraries target object)
    (kept : object.retained = false) (unbound : kind ≠ .binding) :
    (r.reconcileObject object).Guarded (ReleasesAfter target) (fun _ _ => True) trace := by
  unfold TopologyReconciler.reconcileObject
  split
  · refine (deleteFunc_releasesAfter named kept unbound).bind fun result later removed => ?_
    split
    · exact ⟨trivial, fun _ => trivial⟩
    · next released =>
        refine ⟨trivial, fun _ => (removeFinalizer_releasesAfter fun _ => ?_).bind
          fun _ _ _ => trivial⟩
        exact (removed released rfl).append_left _
  · next marked =>
      have unmarked : object.objectMeta.deletionTimestamp = none := by simpa using marked
      refine addFinalizerIfNeeded_releasesAfter.exec.bind ?_
      rintro added later ⟨-, suffix, -, ran⟩
      split
      · trivial
      · exact reconcileDeclare_releasesAfter (addFinalizerIfNeeded_carrying unmarked ran).finalizer

/-- As long as the cluster is there, an object that was read is released only after that. -/
theorem reconcileRead_releasesAfter (named : Designates r.libraries target object)
    (kept : object.retained = false) (unbound : kind ≠ .binding) :
    (r.reconcileRead object).Guarded (ReleasesAfter target) (fun _ _ => True) trace := by
  refine (releasesAfter_of_consults (extractSystemCertPool_calls rfl fun _ => rfl)).bind
    fun loaded later _ => ?_
  split
  · trivial
  refine (releasesAfter_of_consults (resolve_consults r object)).bind ?_
  rintro resolved _ ⟨resolving, rfl, resolves⟩
  split
  · exact handleRMQReferenceParseError_releasesAfter resolves
  refine (releasesAfter_of_consults (generateRabbitholeClient_calls (fun _ _ _ _ => rfl) ..)).bind
    fun connected final _ => ?_
  split
  · trivial
  · exact reconcileObject_releasesAfter named kept unbound

end Reconcile

/-- The object is stored with the operator's finalizer. -/
def HasOwner (world : World kind) : Prop :=
  ∃ object, world.server.stored = some object ∧ kind.finalizer ∈ object.objectMeta.finalizers

/-- The invariant: what the broker holds has an owner, and what the reconcile in flight
has deleted is gone. -/
structure Owned (key : NamespacedName) (target : Entity)
    (config : Config (@Request.Answer (Object kind)) (World kind) (Result × Option GoError)) :
    Prop where
  owner : config.world.store target ≠ none → HasOwner config.world
  gone : ∀ activity, config.activity = some activity → ∀ read rest,
    activity.1 = ⟨.get key, .ok read⟩ :: rest → Removed rest target →
    config.world.store target = none

section Steps

variable {world next later : World kind} {rest : Trace (Object kind)}
  {activity : Option (Trace (Object kind) × Prog (Object kind) (Result × Option GoError))}
  {request : Request (Object kind)} {reply : request.Answer}
  {resume : request.Answer → Prog (Object kind) (Result × Option GoError)}

/-- Users leave the entity its owner. -/
theorem Owned.foreign (owned : Owned key target ⟨world, activity⟩) {admits : Object kind → Prop}
    (move : Foreign key target admits world next) : Owned key target ⟨next, activity⟩ := by
  cases move with
  | others same apart =>
      constructor
      · intro held
        rw [apart] at held
        obtain ⟨object, stored, finalizer⟩ := owned.owner held
        exact ⟨object, same ▸ stored, finalizer⟩
      · intro running inFlight read rest split removed
        exact apart.trans (owned.gone running inFlight read rest split removed)
  | user moved _ same =>
      constructor
      · intro held
        rw [same] at held
        obtain ⟨object, stored, finalizer⟩ := owned.owner held
        obtain ⟨kept, present, preserved⟩ := moved.1.keeps stored finalizer
        exact ⟨kept, present, preserved.finalizer.mpr finalizer⟩
      · rw [same]
        exact owned.gone

/-- A deletion in the trace is one of the entity, or was there before. -/
theorem Removed.of_snoc (removed : Removed (rest ++ [⟨request, reply⟩]) target) :
    Removed rest target ∨ ∃ (issued : BrokerCall) (answer : issued.Answer),
      (⟨request, reply⟩ : Event (@Request.Answer (Object kind))) = ⟨.broker issued, answer⟩ ∧
      issued.removes = true ∧ issued.exact = true ∧ issued.entity = some target ∧
      issued.Succeeds answer := by
  obtain ⟨issued, answer, member, holds⟩ := removed
  rcases List.mem_append.mp member with earlier | last
  · exact .inl ⟨issued, answer, earlier, holds⟩
  · exact .inr ⟨issued, answer, (List.mem_singleton.mp last).symm, holds⟩

/-- When something is defined, the object is stored with the finalizer. -/
theorem hasOwner_of_defines {issued : BrokerCall} {admits : Object kind → Prop}
    {answering : (request : Request (Object kind)) → request.Answer → Prop}
    {resume : issued.Answer → Prog (Object kind) (Result × Option GoError)}
    (reachable : (environment key target admits answering).Reachable (r.reconcile key)
      ⟨.empty, store⟩ ⟨world, some (trace, .call (.broker issued) resume)⟩)
    (defines : issued.defines = true) : HasOwner world := by
  have base := ApiServer.reachable_of_generational (reachable_server reachable)
  obtain ⟨-, guarded⟩ := reachable_safe ApiServer.valid_empty ApiServer.valid_stable
    (fun world _ => ApiServer.reconcile_declaresHeld r key world) base
  obtain ⟨read, rest, -, -, ⟨object, stored, -, finalizer⟩, -⟩ :=
    guarded trace (.broker issued) resume rfl (BrokerCall.declares_of_defines defines)
  exact ⟨object, stored, finalizer⟩

/-- An accepted write under which the broker holds the entity keeps the finalizer. -/
theorem HasOwner.answer (hasOwner : HasOwner world)
    (answered : ApiServer.Answers world.server request reply later.server)
    (keeps : ∀ written, request = .update written →
      kind.finalizer ∈ written.objectMeta.finalizers) : HasOwner later := by
  obtain ⟨object, stored, finalizer⟩ := hasOwner
  rcases answered.cases with same | ⟨written, current, rfl, matching, became, -⟩ |
      ⟨written, current, rfl, matching, became, -⟩
  · exact ⟨object, same ▸ stored, finalizer⟩
  · have kept := keeps written rfl
    obtain ⟨version, present⟩ := became.present (List.ne_nil_of_mem kept)
    exact ⟨_, present, kept⟩
  · cases Option.some.inj (matching.1.symm.trans stored)
    obtain ⟨version, present⟩ := became.present (List.ne_nil_of_mem finalizer)
    exact ⟨_, present, finalizer⟩

/-- What a reconcile has deleted, it does not define again. -/
theorem gone_broker {issued : BrokerCall} {reply : issued.Answer} {store after : Store}
    (asked : ∀ event ∈ rest, Apart (Wields libraries read) event.request)
    (asks : issued.entity = none ∨ Wields libraries read issued)
    (answered : BrokerStore.Answers store (.broker issued : Request (Object kind)) reply after)
    (gone : Removed rest target → store target = none)
    (removed : Removed (rest ++ [⟨.broker issued, reply⟩]) target) : after target = none := by
  rcases Removed.of_snoc removed with
    earlier | ⟨issued, answer, last, removes, exact', about, succeeds⟩
  · have marked : read.objectMeta.deletionTimestamp.isSome = true := by
      obtain ⟨other, answer, member, removes, -⟩ := earlier
      exact (marked_of_removes (asked _ member) removes).1
    have undefining : issued.defines = false := by
      by_contra defining
      obtain ⟨unmarked, -⟩ := prescribes_of_defines asks (Bool.eq_true_of_not_eq_false defining)
      rw [unmarked] at marked
      cases marked
    rcases answered.keeps_or_removes undefining target with same | none
    · exact same.trans (gone earlier)
    · exact none
  · cases last
    exact answered.removed removes exact' about succeeds

/-- A write under which the broker holds the entity has the finalizer. -/
theorem keeps_finalizer {written : Object kind}
    {resume : Except ApiError Version → Prog (Object kind) (Result × Option GoError)}
    (other : kind ≠ .user) (unbound : kind ≠ .binding)
    (reachable : (attended r.libraries key target).Reachable (r.reconcile key) ⟨.empty, store⟩
      ⟨world, some (⟨.get key, .ok read⟩ :: rest, .call (.update written) resume)⟩)
    (gone : Removed rest target → world.store target = none)
    (held : world.store target ≠ none) : kind.finalizer ∈ written.objectMeta.finalizers := by
  by_contra lacks
  obtain ⟨guard, -⟩ := reachable_guarded managed_congr other
    (fun _ managed => reconcileRead_releasesAfter managed.names managed.kept unbound)
    reachable _ rfl read rest rfl
  have sighted : ∀ event ∈ ⟨.get key, .ok read⟩ :: rest, Sighted event.request event.answer :=
    Reachable.events (fun event => Sighted event.request event.answer)
      (fun _ _ _ _ answered => And.right (And.right answered)) reachable _ rfl
  obtain ⟨issued, answer, member, holds⟩ := guard lacks sighted
  rcases List.mem_cons.mp member with first | later
  · cases first
  · exact held (gone ⟨issued, answer, later, holds⟩)

/-- One more answer. -/
theorem Owned.answer (other : kind ≠ .user) (unbound : kind ≠ .binding)
    (reachable : (attended r.libraries key target).Reachable (r.reconcile key)
      ⟨.empty, store⟩ ⟨world, some (trace, .call request resume)⟩)
    (owned : Owned key target ⟨world, some (trace, .call request resume)⟩)
    (answered : (attended r.libraries key target).answers world request reply later) :
    Owned key target ⟨later, some (trace ++ [⟨request, reply⟩], resume reply)⟩ := by
  by_cases call : ∃ issued, request = .broker issued
  · obtain ⟨issued, rfl⟩ := call
    have same := server_of_broker answered
    obtain ⟨-, effect, -⟩ := answered
    constructor
    · intro held
      have hasOwner : HasOwner world := by
        by_cases defines : issued.defines = true
        · exact hasOwner_of_defines reachable defines
        · apply owned.owner
          have undefining := Bool.eq_false_of_not_eq_true defines
          rw [(effect.keeps_or_removes undefining target).resolve_right held] at held
          exact held
      obtain ⟨object, stored, finalizer⟩ := hasOwner
      exact ⟨object, same ▸ stored, finalizer⟩
    · intro activity running began rest split
      cases running
      cases reachable_stage other reachable _ rfl with
      | fresh main => cases main
      | reading read asked asks =>
          obtain ⟨-, rfl⟩ := List.cons.inj split
          exact gone_broker asked asks.1 effect (owned.gone _ rfl read _ rfl)
  · have elsewhere : ∀ issued, request ≠ .broker issued := fun issued same => call ⟨issued, same⟩
    have same := store_of_not_broker answered elsewhere
    constructor
    · intro held
      rw [same] at held
      refine (owned.owner held).answer answered.1.1 ?_
      rintro written rfl
      cases reachable_stage other reachable _ rfl with
      | fresh main => cases main
      | reading read =>
          exact keeps_finalizer other unbound reachable (owned.gone _ rfl read _ rfl) held
    · intro activity running began rest split removed
      cases running
      rw [same]
      cases reachable_stage other reachable _ rfl with
      | fresh main =>
          obtain ⟨-, rfl⟩ := List.cons.inj split
          obtain ⟨_, _, absurd, -⟩ := removed
          cases absurd
      | reading read =>
          obtain ⟨-, rfl⟩ := List.cons.inj split
          rcases Removed.of_snoc removed with earlier | ⟨issued, answer, last, -⟩
          · exact owned.gone _ rfl read _ rfl earlier
          · cases last
            exact absurd rfl (elsewhere issued)

end Steps

/-- In every reachable state, what the broker holds has an owner. -/
theorem reachable_owned (other : kind ≠ .user) (unbound : kind ≠ .binding)
    (vacant : store target = none)
    {config : Config (@Request.Answer (Object kind)) (World kind) (Result × Option GoError)}
    (reachable : (attended r.libraries key target).Reachable (r.reconcile key)
      ⟨.empty, store⟩ config) : Owned key target config := by
  induction reachable with
  | refl => exact ⟨fun held => absurd vacant held, fun _ absent => by cases absent⟩
  | tail earlier step ih =>
      cases step with
      | foreign move => exact ih.foreign move
      | start =>
          refine ⟨ih.owner, fun activity running read rest split => ?_⟩
          cases running
          cases split
      | answer answered => exact ih.answer other unbound earlier answered
      | stop => exact ⟨ih.owner, fun _ absent => by cases absent⟩

end TopologyOperator.Deployment
