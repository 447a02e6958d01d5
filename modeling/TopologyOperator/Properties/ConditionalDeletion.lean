import TopologyOperator.Broker.Server
import TopologyOperator.Controller.Footprint
import TopologyOperator.Dialogue.History

/-!
# Conditional deletion of queues

A queue can be deleted on the condition that it is empty or that it has no consumers.
The broker checks the condition in the step that deletes the queue, but not for quorum
queues: the operator reads their state first and deletes them unconditionally. Between
the two calls publishers and consumers act on the queue.
-/

namespace TopologyOperator.BrokerServer

open Dialogue Program Environment

variable {queue : Object .queue} {world after : World}

/-- The queue that an object names. -/
def queueEntity (queue : Object .queue) : Entity := .queue queue.spec.vhost queue.spec.name

/-- The state of the queue that an object names. -/
def loadOf (queue : Object .queue) (world : World) : DetailedQueueInfo :=
  world.load queue.spec.vhost queue.spec.name

/-- The conditions that the spec sets are met. -/
def ConditionsMet (queue : Object .queue) (world : World) : Prop :=
  (queue.spec.deleteIfEmpty = true → (loadOf queue world).messages = 0) ∧
    (queue.spec.deleteIfUnused = true → (loadOf queue world).consumers = 0)

/-- The queue is deleted from one world to the next. -/
def Vanishes (queue : Object .queue) (world after : World) : Prop :=
  world.has (queueEntity queue) ∧ ¬ after.has (queueEntity queue)

/-- In every run of the delete function, the queue is deleted only while the conditions
are met. -/
def DeletedOnCondition (queue : Object .queue) : Prop :=
  ∀ (initial : World) (config next : Config (@Request.Answer (Object .queue)) World
      (Except GoError Unit)),
    environment.Reachable (QueueReconciler.deleteFunc queue) initial config →
    environment.Step (QueueReconciler.deleteFunc queue) config next →
    Vanishes queue config.world next.world → ConditionsMet queue config.world

/-- The spec sets a condition for a quorum queue. -/
def ConditionalQuorum (queue : Object .queue) : Prop :=
  queue.spec.type = "quorum" ∧ (queue.spec.deleteIfEmpty ∨ queue.spec.deleteIfUnused)

instance (queue : Object .queue) : Decidable (ConditionalQuorum queue) :=
  inferInstanceAs (Decidable (_ ∧ _))

/-- The only call that changes the broker deletes the queue, with its options. -/
def DeletesQueue (queue : Object .queue) (request : Request (Object .queue)) : Prop :=
  request.observes = true ∨ request = .broker (.deleteQueue queue.spec.vhost queue.spec.name
    (generateQueueDeleteOptions queue))

theorem deleteFunc_deletesQueue (queue : Object .queue) :
    (QueueReconciler.deleteFunc queue).Calls (DeletesQueue queue) :=
  deleteQueue_calls (.inl rfl) (.inr rfl)

/-- The options are those of the spec, unless the queue is a quorum queue. -/
theorem conditionsMet_of_allows (unconditional : ¬ ConditionalQuorum queue)
    (allows : Allows world (.deleteQueue queue.spec.vhost queue.spec.name
      (generateQueueDeleteOptions queue))) : ConditionsMet queue world := by
  obtain ⟨empty, unused⟩ := allows
  by_cases quorum : queue.spec.type = "quorum"
  · have unset : ¬ (queue.spec.deleteIfEmpty ∨ queue.spec.deleteIfUnused) :=
      fun set => unconditional ⟨quorum, set⟩
    exact ⟨fun set => absurd (.inl set) unset, fun set => absurd (.inr set) unset⟩
  · constructor
    · intro set
      apply empty
      simp [generateQueueDeleteOptions, quorum, set]
    · intro set
      apply unused
      simp [generateQueueDeleteOptions, quorum, set]

/-- Who deletes the queue: a call of the operator that the broker has allowed. -/
theorem allows_of_vanishes {request : Request (Object .queue)} {reply : request.Answer}
    (deletes : DeletesQueue queue request) (answered : Answers world request reply after)
    (vanishes : Vanishes queue world after) :
    Allows world (.deleteQueue queue.spec.vhost queue.spec.name
      (generateQueueDeleteOptions queue)) := by
  obtain ⟨present, gone⟩ := vanishes
  rcases deletes with observes | rfl
  · rw [answers_of_observes observes answered] at gone
    exact absurd present gone
  · have issued : BrokerAnswers world (.deleteQueue queue.spec.vhost queue.spec.name
        (generateQueueDeleteOptions queue)) reply after := answered
    rw [answers_of_removes rfl rfl] at issued
    cases issued with
    | missing => exact absurd present gone
    | removed _ allows => exact allows
    | refused => exact absurd present gone

theorem deletedOnCondition_of_unconditional (unconditional : ¬ ConditionalQuorum queue) :
    DeletedOnCondition queue := by
  intro initial config next reachable step vanishes
  cases step with
  | foreign move =>
      cases move
      exact absurd vanishes.1 vanishes.2
  | start | stop => exact absurd vanishes.1 vanishes.2
  | answer answered =>
      have bounded : (QueueReconciler.deleteFunc queue).Guarded (fun _ => DeletesQueue queue)
          (fun _ _ => True) [] :=
        (Guarded.of_calls (deleteFunc_deletesQueue queue) fun _ _ => id).weaken fun _ _ _ => trivial
      have guarded := reachable.guarded bounded _ rfl
      exact conditionsMet_of_allows unconditional
        (allows_of_vanishes guarded.1 answered vanishes)

/-- A broker with idle queues. -/
def idleBroker : World where
  has _ := True
  load _ _ := ⟨0, 0⟩
  users _ := none

/-- The broker after a message was published to the queue and a consumer attached. -/
def busyBroker (queue : Object .queue) : World :=
  { idleBroker with load := fun vhost name =>
      if vhost = queue.spec.vhost ∧ name = queue.spec.name then ⟨1, 1⟩ else ⟨0, 0⟩ }

/-- A quorum queue that is found idle is deleted in a second call, without options. -/
theorem deleteFunc_conditional (deletes : queue.spec.deletionPolicy ≠ "retain")
    (conditional : ConditionalQuorum queue) :
    ∃ (next : Except BrokerError DetailedQueueInfo → Prog (Object .queue) (Except GoError Unit))
      (last : BrokerReply → Prog (Object .queue) (Except GoError Unit)),
      QueueReconciler.deleteFunc queue =
        .call (.broker (.getQueue queue.spec.vhost queue.spec.name)) next ∧
      next (.ok ⟨0, 0⟩) =
        .call (.broker (.deleteQueue queue.spec.vhost queue.spec.name ⟨false, false⟩)) last := by
  have options : generateQueueDeleteOptions queue = ⟨false, false⟩ := by
    simp [generateQueueDeleteOptions, conditional.1]
  unfold ConditionalQuorum at conditional
  unfold QueueReconciler.deleteFunc QueueReconciler.checkDeletable
  rw [if_neg (by simp [shouldSkipDeletion, deletes]), if_pos conditional, options]
  exact ⟨_, _, rfl, rfl⟩

/-- The queue is deleted although it is in use: after it was found idle, a message is
published and a consumer attached. -/
theorem busy_queue_deleted (queue : Object .queue)
    (deletes : queue.spec.deletionPolicy ≠ "retain")
    (conditional : ConditionalQuorum queue) :
    ∃ config next : Config (@Request.Answer (Object .queue)) World (Except GoError Unit),
      environment.Reachable (QueueReconciler.deleteFunc queue) idleBroker config ∧
      environment.Step (QueueReconciler.deleteFunc queue) config next ∧
      Vanishes queue config.world next.world ∧ config.world = busyBroker queue := by
  obtain ⟨next, last, looksUp, goesOn⟩ := deleteFunc_conditional deletes conditional
  have started : environment.Reachable (QueueReconciler.deleteFunc queue) idleBroker
      ⟨idleBroker,
        some ([], .call (.broker (.getQueue queue.spec.vhost queue.spec.name)) next)⟩ := by
    rw [← looksUp]
    exact .tail .refl .start
  have told : BrokerAnswers idleBroker (.getQueue queue.spec.vhost queue.spec.name) (.ok ⟨0, 0⟩)
      idleBroker :=
    ⟨rfl, fun absent => absurd trivial absent, fun info found => (Except.ok.inj found).symm⟩
  have foundIdle := started.answer (.ok ⟨0, 0⟩) told
  rw [goesOn] at foundIdle
  have disturbed := foundIdle.tail (.foreign (.act queue.spec.vhost queue.spec.name ⟨1, 1⟩))
  have removed : BrokerAnswers (busyBroker queue)
      (.deleteQueue queue.spec.vhost queue.spec.name ⟨false, false⟩) ⟨some ⟨204, ""⟩, none⟩
      ((busyBroker queue).remove (queueEntity queue)) :=
    .removed trivial ⟨fun set => absurd set Bool.false_ne_true,
      fun set => absurd set Bool.false_ne_true⟩
  exact ⟨_, _, disturbed, .answer removed, ⟨trivial, fun held => held.2 rfl⟩, rfl⟩

theorem not_conditionsMet (conditional : ConditionalQuorum queue) :
    ¬ ConditionsMet queue (busyBroker queue) := by
  rintro ⟨empty, unused⟩
  rcases conditional.2 with set | set
  · have none := empty set
    simp [loadOf, busyBroker] at none
  · have none := unused set
    simp [loadOf, busyBroker] at none

/-- The delete function of a queue that is not retained keeps the conditions of the
spec, whatever publishers and consumers do, exactly if it does not set one for a quorum
queue. -/
theorem deleted_on_condition_iff (queue : Object .queue)
    (deletes : queue.spec.deletionPolicy ≠ "retain") :
    DeletedOnCondition queue ↔ ¬ ConditionalQuorum queue := by
  constructor
  · intro safe conditional
    obtain ⟨config, next, reachable, step, vanishes, busy⟩ :=
      busy_queue_deleted queue deletes conditional
    have met := safe idleBroker config next reachable step vanishes
    rw [busy] at met
    exact not_conditionsMet conditional met
  · exact deletedOnCondition_of_unconditional

section Example

/-- A quorum queue that is to be deleted only if it is empty. -/
def ledgerQueue : Object .queue where
  objectMeta := { name := "ledger", ns := "shop" }
  spec := { name := "ledger", vhost := "/", type := "quorum", deleteIfEmpty := true }

/-- The queue is deleted while it holds a message. -/
theorem ledgerQueue_message_lost :
    ∃ config next : Config (@Request.Answer (Object .queue)) World (Except GoError Unit),
      environment.Reachable (QueueReconciler.deleteFunc ledgerQueue) idleBroker config ∧
      environment.Step (QueueReconciler.deleteFunc ledgerQueue) config next ∧
      Vanishes ledgerQueue config.world next.world ∧
      (loadOf ledgerQueue config.world).messages = 1 := by
  obtain ⟨config, next, reachable, step, vanishes, busy⟩ :=
    busy_queue_deleted ledgerQueue (by decide) ⟨rfl, .inl rfl⟩
  refine ⟨config, next, reachable, step, vanishes, ?_⟩
  rw [busy]
  rfl

/-- A classic queue is deleted on its condition. -/
theorem classicLedger_kept : DeletedOnCondition
    { ledgerQueue with spec := ({ name := "ledger", deleteIfEmpty := true } : QueueSpec) } :=
  (deleted_on_condition_iff _ (by decide)).mpr (by decide)

end Example

end TopologyOperator.BrokerServer
