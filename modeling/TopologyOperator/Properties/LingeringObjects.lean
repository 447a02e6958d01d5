import TopologyOperator.Controller.Revisions
import TopologyOperator.Properties.FinalizerFirst

/-!
# Objects that outlive the operator's finalizer

An object that is marked for deletion stays as long as it has a finalizer, also one of
another controller. The operator reconciles it on every event, and asks the broker to
delete its entity each time: whether the object still carries the operator's finalizer
is not looked at.

A deletion writes the object only after its last call of the broker. So what the
object that was read says about the finalizer is still true of the stored object when
the broker is called.
-/

namespace TopologyOperator.ApiServer

open Dialogue Program Environment
open TopologyReconciler (plainReconciler)

variable {kind : Kind} {key : NamespacedName} {read : Object kind}
  {suffix : Trace (Object kind)}

/-- The events since the read spare the object. -/
def Spared (key : NamespacedName) (read : Object kind) (trace : Trace (Object kind)) : Prop :=
  ∃ rest, trace = ⟨.get key, .ok read⟩ :: rest ∧ ∀ event ∈ rest, event.request.spares = true

/-- When a deletion changes the broker, it has not written the object it read. -/
def CallsFirst (key : NamespacedName) (trace : Trace (Object kind))
    (request : Request (Object kind)) : Prop :=
  ∀ call read rest, request = .broker call → call.entity.isSome = true →
    trace = ⟨.get key, .ok read⟩ :: rest → read.objectMeta.deletionTimestamp.isSome = true →
    Spared key read trace

/-- Requests that do not change the broker. -/
def Harmless (request : Request (Object kind)) : Prop :=
  ∀ call, request = .broker call → call.entity = none

theorem callsFirst_of_harmless {trace : Trace (Object kind)} {request : Request (Object kind)}
    (harmless : Harmless request) : CallsFirst key trace request := by
  intro call read rest same changes
  rw [harmless call same] at changes
  cases changes

section Guarded

variable {α β : Type} {program : Prog (Object kind) α}

/-- A part that does not change the broker. -/
theorem guarded_of_harmless {trace : Trace (Object kind)} (calls : program.Calls Harmless) :
    program.Guarded (CallsFirst key) (fun _ _ => True) trace := by
  apply (Guarded.of_calls calls fun _ _ => callsFirst_of_harmless).weaken
  exact fun _ _ _ => trivial

/-- A part that spares the object, after others that did. -/
theorem guarded_of_spared {trace : Trace (Object kind)} (spared : Spared key read trace)
    (calls : program.Calls fun request => request.spares = true) :
    program.Guarded (CallsFirst key) (fun _ later => Spared key read later) trace := by
  induction program generalizing trace with
  | done => exact spared
  | abort => trivial
  | call request next ih =>
      obtain ⟨rest, rfl, spares⟩ := spared
      constructor
      · intro call other later _ _ same _
        cases same
        exact ⟨_, rfl, spares⟩
      · intro reply
        apply ih reply _ (calls.2 reply)
        refine ⟨rest ++ [⟨request, reply⟩], rfl, ?_⟩
        intro event member
        rcases List.mem_append.mp member with earlier | last
        · exact spares event earlier
        · rw [List.mem_singleton.mp last]
          exact calls.1

/-- A part that only observes spares the object. -/
theorem guarded_of_observes {trace : Trace (Object kind)} (spared : Spared key read trace)
    (observes : Observes program) :
    program.Guarded (CallsFirst key) (fun _ later => Spared key read later) trace :=
  guarded_of_spared spared (observes.calls fun _ => spares_of_observes)

end Guarded

section Reconcile

variable {trace : Trace (Object kind)}

/-- Removing the finalizer does not reach the broker. -/
theorem removeFinalizer_harmless (object : Object kind) :
    (removeFinalizer object).Calls Harmless :=
  removeFinalizer_calls fun _ same => by cases same

/-- A permission is revoked before its finalizer is removed. -/
theorem deleteForUser_callsFirst (spared : Spared key read trace) {specUser : String}
    {reference : Option LocalObjectReference} {permission : Object kind}
    {revoke : String → Prog (Object kind) BrokerReply}
    (revokes : ∀ username, (revoke username).Calls fun request => request.spares = true) :
    (deleteForUser specUser reference permission revoke).Guarded (CallsFirst key)
      (fun _ _ => True) trace := by
  apply (guarded_of_observes spared (userToRevoke_calls (by exact fun _ => rfl) ..)).bind
  intro username later spared
  cases username with
  | error err => trivial
  | ok username =>
      dsimp only
      split
      · exact guarded_of_harmless (removeFinalizer_harmless _)
      · apply (guarded_of_spared spared (revokes username)).bind
        intro reply later _
        split
        · trivial
        · exact guarded_of_harmless (removeFinalizer_harmless _)

/-- A delete function calls the broker before it writes the object, if it does. -/
theorem deleteFunc_callsFirst (libraries : Libraries) (object : Object kind)
    (spared : Spared key read trace) :
    (deleteFunc libraries object).Guarded (CallsFirst key) (fun _ _ => True) trace := by
  rcases deleteFunc_cases libraries object with ⟨program, same, only⟩ |
      ⟨specUser, reference, revoke, same, only⟩
  · rw [same]
    apply (guarded_of_spared spared (only.mono fun _ => spares_of_brokerOnly)).bind
    intro outcome later _
    split <;> trivial
  · rw [same]
    exact deleteForUser_callsFirst spared fun username =>
      (only username).mono fun _ => spares_of_brokerOnly

theorem eventf_harmless (type : EventType) (reason action note : String) :
    (eventf type reason action note : Prog (Object kind) Unit).Calls Harmless := by
  apply calls_ask.mpr
  intro call same
  cases same

/-- The deleting part of a reconcile calls the broker first. -/
theorem reconcileDelete_callsFirst (r : TopologyReconciler) (object : Object kind)
    (spared : Spared key read trace) :
    (r.reconcileDelete object).Guarded (CallsFirst key) (fun _ _ => True) trace := by
  apply (deleteFunc_callsFirst r.libraries object spared).bind
  intro outcome later _
  apply guarded_of_harmless
  cases outcome with
  | error err => exact (eventf_harmless ..).bind fun _ => trivial
  | ok object =>
      apply (eventf_harmless ..).bind
      intro _
      exact (removeFinalizer_harmless object).bind fun _ => trivial

/-- No failed resolution changes the broker. -/
theorem handleRMQReferenceParseError_harmless (object : Object kind) (err : GoError) :
    (TopologyReconciler.handleRMQReferenceParseError object err).Calls Harmless := by
  refine handleRMQReferenceParseError_calls ?_ (fun _ => ?_) (fun _ _ => ?_) fun _ => ?_
  all_goals
    intro call same
    cases same

/-- The reconcile of an object that was read and is marked for deletion calls the broker first. -/
theorem reconcileRead_callsFirst (r : TopologyReconciler)
    (marked : read.objectMeta.deletionTimestamp.isSome = true) (spared : Spared key read trace) :
    (r.reconcileRead read).Guarded (CallsFirst key) (fun _ _ => True) trace := by
  apply (guarded_of_observes spared (extractSystemCertPool_calls (by rfl)
    (by exact fun _ => rfl))).bind
  intro loaded later spared
  cases loaded with
  | error err => trivial
  | ok =>
      apply (guarded_of_observes spared (parseReference_observes r.libraries ..)).bind
      intro resolved later spared
      cases resolved with
      | error err => exact guarded_of_harmless (handleRMQReferenceParseError_harmless read err)
      | ok connection =>
          apply (guarded_of_observes spared (generateRabbitholeClient_calls
            (by exact fun _ _ _ _ => rfl) ..)).bind
          intro connected later spared
          cases connected with
          | error err => trivial
          | ok =>
              change (r.reconcileObject read).Guarded _ _ _
              unfold TopologyReconciler.reconcileObject
              rw [if_pos marked]
              exact reconcileDelete_callsFirst r read spared

/-- Nothing is said about a reconcile that declares. -/
theorem guarded_of_unmarked {α : Type} {program : Prog (Object kind) α}
    (unmarked : ¬ read.objectMeta.deletionTimestamp.isSome = true) :
    program.Guarded (CallsFirst key) (fun _ _ => True) (⟨.get key, .ok read⟩ :: suffix) := by
  induction program generalizing suffix with
  | done | abort => trivial
  | call request next ih =>
      constructor
      · intro call other rest _ _ same marked
        cases same
        exact absurd marked unmarked
      · intro reply
        exact ih reply

/-- Every reconcile of a marked object calls the broker first. -/
theorem reconcile_callsFirst (r : TopologyReconciler) (key : NamespacedName) :
    (r.reconcile key : Prog (Object kind) _).Guarded (CallsFirst key) (fun _ _ => True) [] := by
  constructor
  · intro call read rest same
    cases same
  · intro reply
    cases reply with
    | error err => trivial
    | ok read =>
        by_cases marked : read.objectMeta.deletionTimestamp.isSome = true
        · exact reconcileRead_callsFirst r marked ⟨[], rfl, by simp⟩
        · exact guarded_of_unmarked marked

end Reconcile

section Runs

variable {world next after : World kind} {r : TopologyReconciler}
  {config : Config (@Request.Answer (Object kind)) (World kind) (Result × Option GoError)}

/-- The stored incarnation carries the finalizer exactly if the object that was read
did. -/
def Mirrors (read : Object kind) (world : World kind) : Prop :=
  read.objectMeta.uid < world.nextUid ∧
    (Carries read.objectMeta.uid world ↔ kind.finalizer ∈ read.objectMeta.finalizers)

/-- Users do not touch the operator's finalizer. -/
theorem Mirrors.foreign (mirrors : Mirrors read world) (move : Foreign key world next) :
    Mirrors read next := by
  obtain ⟨known, carried⟩ := mirrors
  refine ⟨Nat.lt_of_lt_of_le known move.nextUid_le, ?_⟩
  rw [← carried]
  constructor
  · rintro ⟨object, found, same, finalizer⟩
    rcases move.origin found with ⟨before, stored, preserved, -⟩ | ⟨created, -⟩
    · exact ⟨before, stored, preserved.uid.symm.trans same, preserved.finalizer.mp finalizer⟩
    · rw [← same, created] at known
      exact absurd known (Nat.lt_irrefl _)
  · exact fun carries => carries.foreign move

/-- What was just read is what is stored. -/
theorem mirrors_of_read (valid : Valid world) (stored : world.stored = some read) :
    Mirrors read world := by
  refine ⟨valid.known read stored, ?_⟩
  constructor
  · rintro ⟨object, found, -, finalizer⟩
    rw [← Option.some.inj (found.symm.trans stored)]
    exact finalizer
  · intro finalizer
    exact ⟨read, stored, rfl, finalizer⟩

/-- A request that spares the object leaves it as it is stored. -/
theorem answers_of_spares {request : Request (Object kind)} {reply : request.Answer}
    (spares : request.spares = true) (answered : Answers world request reply after) :
    after = world := by
  rcases answered.cases with same | ⟨written, current, rfl, -⟩ | ⟨written, current, rfl, -⟩
  · exact same
  · cases spares
  · cases spares

/-- As long as a reconcile spares the object that it read, the finalizer is where it
was. -/
theorem mirrors_of_spared
    (reachable : (environment key).Reachable (r.reconcile key) .empty config) :
    ∀ trace program, config.activity = some (trace, program) →
      ∀ read, Spared key read trace → Mirrors read config.world := by
  induction reachable with
  | refl =>
      intro trace program idle
      cases idle
  | tail earlier step ih =>
      cases step with
      | foreign move =>
          intro trace program running read spared
          exact (ih trace program running read spared).foreign move
      | start =>
          rintro trace program running read ⟨rest, begun, -⟩
          cases running
          cases begun
      | stop =>
          intro trace program idle
          cases idle
      | @answer world after trace request resume reply answered =>
          have answers : Answers world request reply after := answered
          rintro _ _ running read ⟨rest, split, spares⟩
          cases running
          cases trace with
          | nil =>
              cases split
              obtain ⟨rfl, found⟩ := answers
              have valid := (reachable_safe valid_empty valid_stable
                (fun world _ => reconcile_declaresHeld r key world) earlier).1
              exact mirrors_of_read valid (found read rfl)
          | cons first trace =>
              obtain ⟨rfl, rfl⟩ := List.cons.inj split
              have mirrors := ih _ _ rfl read ⟨trace, rfl, fun event member =>
                spares event (List.mem_append_left _ member)⟩
              rw [answers_of_spares (spares _ (List.mem_append_right _ List.mem_cons_self)) answers]
              exact mirrors

/-- In every run: when the broker is asked to delete the entity of an object, the stored
object carries the operator's finalizer exactly if the object that the reconcile has
read carries it. -/
theorem delete_under_finalizer_iff (r : TopologyReconciler) (key : NamespacedName)
    {config : Config (@Request.Answer (Object kind)) (World kind) (Result × Option GoError)}
    (reachable : (environment key).Reachable (r.reconcile key) .empty config)
    {read : Object kind} {rest : Trace (Object kind)} {issued : BrokerCall}
    {next : issued.Answer → Prog (Object kind) (Result × Option GoError)}
    (running : config.activity =
      some (⟨.get key, .ok read⟩ :: rest, .call (.broker issued) next))
    (marked : read.objectMeta.deletionTimestamp.isSome = true)
    (deletes : issued.entity.isSome = true) :
    Carries read.objectMeta.uid config.world ↔
      kind.finalizer ∈ read.objectMeta.finalizers := by
  have guarded := reachable.guarded (reconcile_callsFirst r key) _ running
  have spared : Spared key read (⟨.get key, .ok read⟩ :: rest) :=
    guarded.1 issued read rest rfl deletes rfl marked
  exact (mirrors_of_spared reachable _ _ running read spared).2

end Runs

section Example

/-- An exchange that another controller holds with a finalizer of its own. -/
def archiveExchange : Object .exchange where
  objectMeta := { name := "archive", ns := "shop", uid := 1, finalizers := ["archive/hold"] }
  spec := { name := "archive", vhost := "/"
            rabbitmqClusterReference := { connectionSecret := some ⟨"rabbit"⟩ } }

/-- The exchange with the finalizer of the operator, marked for deletion by a user. -/
def archiveMarked : Object .exchange :=
  { archiveExchange.withFinalizer with objectMeta := { archiveExchange.withFinalizer.objectMeta with
    deletionTimestamp := some 5 } }.withVersion ⟨3, 2⟩

/-- The exchange after the operator has released it. -/
def archiveLingering : Object .exchange := archiveMarked.withoutFinalizer.withVersion ⟨4, 2⟩

/-- The operator adds its finalizer and is restarted, and a user deletes the exchange. -/
theorem archiveExchange_marked : (environment ⟨"shop", "archive"⟩).Reachable
    (TopologyReconciler.reconcile ⟨.verbatim, "", false⟩ ⟨"shop", "archive"⟩) .empty
    ⟨⟨some archiveMarked, 4, 2, []⟩, none⟩ := by
  have created : Foreign ⟨"shop", "archive"⟩ World.empty _ :=
    .create archiveExchange ⟨1, 1⟩ rfl rfl rfl rfl rfl rfl
  have idle : (environment ⟨"shop", "archive"⟩).Reachable
      (plainReconciler.reconcile ⟨"shop", "archive"⟩) .empty _ := .tail .refl (.foreign created)
  obtain ⟨resolving, connected⟩ := exists_opened rfl idle
  have carrying := connected.answer (.ok ⟨2, 1⟩) ⟨_, ⟨rfl, rfl, rfl⟩, .changed ⟨2, 1⟩ rfl⟩
  have marked : Foreign ⟨"shop", "archive"⟩
      ⟨some (archiveExchange.withFinalizer.withVersion ⟨2, 1⟩), 3, 2, []⟩ _ :=
    .delete (archiveExchange.withFinalizer.withVersion ⟨2, 1⟩) 5 ⟨3, 2⟩ rfl rfl
  exact .tail (.tail carrying .stop) (.foreign marked)

/-- The operator is about to delete the exchange. -/
theorem archiveExchange_deleting : ∃ rest next, (environment ⟨"shop", "archive"⟩).Reachable
    (TopologyReconciler.reconcile ⟨.verbatim, "", false⟩ ⟨"shop", "archive"⟩) .empty
    ⟨⟨some archiveMarked, 4, 2, []⟩, some (⟨.get ⟨"shop", "archive"⟩, .ok archiveMarked⟩ :: rest,
      .call (.broker (.deleteExchange "/" "archive")) next)⟩ := by
  obtain ⟨resolving, connected⟩ := exists_opened rfl archiveExchange_marked
  exact ⟨_, _, connected⟩

/-- At that point the stored exchange carries the finalizer. -/
theorem archiveMarked_carries : ∃ config : Config (@Request.Answer (Object .exchange))
    (World .exchange) (Result × Option GoError), ∃ rest next,
    config.activity = some (⟨.get ⟨"shop", "archive"⟩, .ok archiveMarked⟩ :: rest,
      .call (.broker (.deleteExchange "/" "archive")) next) ∧
    Carries archiveMarked.objectMeta.uid config.world := by
  obtain ⟨rest, next, reachable⟩ := archiveExchange_deleting
  have decided := delete_under_finalizer_iff ⟨.verbatim, "", false⟩ ⟨"shop", "archive"⟩ reachable
    rfl rfl rfl
  exact ⟨_, rest, next, (by rfl), decided.mpr (by decide)⟩

/-- The operator has deleted the exchange and removed its finalizer; as the object
lingers, it is about to delete the exchange of this name once more. -/
theorem archiveExchange_deleted_again : ∃ config : Config (@Request.Answer (Object .exchange))
    (World .exchange) (Result × Option GoError), ∃ rest next,
    (environment ⟨"shop", "archive"⟩).Reachable
      (TopologyReconciler.reconcile ⟨.verbatim, "", false⟩ ⟨"shop", "archive"⟩) .empty config ∧
    config.activity = some (⟨.get ⟨"shop", "archive"⟩, .ok archiveLingering⟩ :: rest,
      .call (.broker (.deleteExchange "/" "archive")) next) ∧
    archiveLingering.objectMeta.uid ∈ config.world.released ∧
    ¬ Carries archiveLingering.objectMeta.uid config.world := by
  obtain ⟨_, marked⟩ := exists_opened rfl archiveExchange_marked
  have deleted := marked.answer ⟨some ⟨204, ""⟩, none⟩ rfl
  have published := deleted.answer () rfl
  have released := published.answer (.ok ⟨4, 2⟩) ⟨_, ⟨rfl, rfl, rfl⟩, .changed ⟨4, 2⟩ rfl⟩
  obtain ⟨_, connected⟩ := exists_opened rfl (Relation.ReflTransGen.tail released .stop)
  refine ⟨_, _, _, connected, rfl, List.mem_cons_self, ?_⟩
  rintro ⟨object, found, -, finalizer⟩
  cases found
  exact absurd finalizer (by decide)

end Example

end TopologyOperator.ApiServer
