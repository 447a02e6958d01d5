import TopologyOperator.Controller.Utils
import TopologyOperator.Dialogue.Safety

/-!
# The broker

The environment of the delete functions: the entities of the broker, and for each
queue the messages and the consumers that it has. Publishers and consumers change the
latter at any time. A delete call on a missing entity is answered with 404; the
options of the call are checked in the same step in which the queue is deleted. A call
on an entity that is there may fail.

Kubernetes calls succeed: the `User` of a permission is found or is missing, and
writes are stored.
-/

namespace TopologyOperator.BrokerServer

open Dialogue

structure World where
  has : Entity → Prop
  load : String → String → DetailedQueueInfo
  users : NamespacedName → Option (Object .user)

/-- The entity is deleted. -/
def World.remove (world : World) (entity : Entity) : World :=
  { world with has := fun other => world.has other ∧ other ≠ entity }

/-- The entity is declared. -/
def World.add (world : World) (entity : Entity) : World :=
  { world with has := fun other => world.has other ∨ other = entity }

/-- The answer says that there is no such entity: a response for the calls that write,
an error for the others. -/
def SaysNotFound : (call : BrokerCall) → call.Answer → Prop
  | .getUserLimits _, reply | .getVhostLimits _, reply | .listQueueBindingsBetween .., reply
  | .listExchangeBindingsBetween .., reply | .getQueue .., reply =>
      ∃ reason message, reply = .error (.errorResponse 404 reason message)
  | .putUser .., reply | .deleteUser _, reply | .putUserLimits .., reply
  | .deleteUserLimits .., reply | .declareBinding .., reply | .deleteBinding .., reply
  | .updatePermissionsIn .., reply | .clearPermissionsIn .., reply | .putPolicy .., reply
  | .deletePolicy .., reply | .declareQueue .., reply | .deleteQueue .., reply
  | .declareExchange .., reply | .deleteExchange .., reply | .putVhost .., reply
  | .deleteVhost _, reply | .putVhostLimits .., reply | .deleteVhostLimits .., reply
  | .putGlobalParameter .., reply | .deleteGlobalParameter _, reply
  | .putFederationUpstream .., reply | .deleteFederationUpstream .., reply
  | .declareShovel .., reply | .deleteShovel .., reply | .putOperatorPolicy .., reply
  | .deleteOperatorPolicy .., reply | .updateTopicPermissionsIn .., reply
  | .deleteTopicPermissionsIn .., reply => ∃ body, reply.response = some ⟨404, body⟩

/-- The answer says that the call succeeded. -/
def SaysDone : (call : BrokerCall) → call.Answer → Prop
  | .getUserLimits _, reply | .getVhostLimits _, reply | .listQueueBindingsBetween .., reply
  | .listExchangeBindingsBetween .., reply | .getQueue .., reply => ∃ value, reply = .ok value
  | .putUser .., reply | .deleteUser _, reply | .putUserLimits .., reply
  | .deleteUserLimits .., reply | .declareBinding .., reply | .deleteBinding .., reply
  | .updatePermissionsIn .., reply | .clearPermissionsIn .., reply | .putPolicy .., reply
  | .deletePolicy .., reply | .declareQueue .., reply | .deleteQueue .., reply
  | .declareExchange .., reply | .deleteExchange .., reply | .putVhost .., reply
  | .deleteVhost _, reply | .putVhostLimits .., reply | .deleteVhostLimits .., reply
  | .putGlobalParameter .., reply | .deleteGlobalParameter _, reply
  | .putFederationUpstream .., reply | .deleteFederationUpstream .., reply
  | .declareShovel .., reply | .deleteShovel .., reply | .putOperatorPolicy .., reply
  | .deleteOperatorPolicy .., reply | .updateTopicPermissionsIn .., reply
  | .deleteTopicPermissionsIn .., reply => validateResponse reply = .ok ()

theorem exists_saysNotFound (call : BrokerCall) : ∃ reply, SaysNotFound call reply := by
  cases call with
  | getUserLimits | getVhostLimits | listQueueBindingsBetween | listExchangeBindingsBetween
  | getQueue => exact ⟨_, "", "", rfl⟩
  | _ => exact ⟨(⟨some ⟨404, ""⟩, none⟩ : BrokerReply), "", rfl⟩

/-- The options of a delete call are met. -/
def Allows (world : World) : BrokerCall → Prop
  | .deleteQueue vhost name options =>
      (options.ifEmpty = true → (world.load vhost name).messages = 0) ∧
        (options.ifUnused = true → (world.load vhost name).consumers = 0)
  | _ => True

/-- How a call that deletes an entity is answered. -/
inductive Deletes (world : World) (call : BrokerCall) (entity : Entity) (reply : call.Answer) :
    World → Prop where
  | missing (absent : ¬ world.has entity) (notFound : SaysNotFound call reply) :
      Deletes world call entity reply world
  | removed (present : world.has entity) (allows : Allows world call) :
      Deletes world call entity reply (world.remove entity)
  | refused (present : world.has entity) : Deletes world call entity reply world

/-- The bindings that are listed exist. -/
def Lists (world : World) (vhost source destination destinationType : String)
    (reply : Except BrokerError (List BindingInfo)) : Prop :=
  ∃ listed, reply = .ok listed ∧ ∀ info ∈ listed, info.source = source ∧
    info.destination = destination ∧ info.destinationType = destinationType ∧
    world.has (.binding vhost info.source info.destination info.destinationType info.routingKey
      info.arguments)

/-- What a call that does not write tells. -/
def Tells (world : World) : (call : BrokerCall) → call.Answer → Prop
  | .getQueue vhost name, reply =>
      (¬ world.has (.queue vhost name) → SaysNotFound (.getQueue vhost name) reply) ∧
        ∀ info, reply = .ok info → info = world.load vhost name
  | .listQueueBindingsBetween vhost source destination, reply =>
      Lists world vhost source destination "queue" reply
  | .listExchangeBindingsBetween vhost source destination, reply =>
      Lists world vhost source destination "exchange" reply
  | _, _ => True

/-- How a call of the broker is answered. -/
def BrokerAnswers (world : World) (call : BrokerCall) (reply : call.Answer) (after : World) :
    Prop :=
  match call.entity with
  | none => after = world ∧ Tells world call reply
  | some entity =>
      if call.declares = true then after = world ∨ after = world.add entity
      else Deletes world call entity reply after

variable {kind : Kind}

/-- How the requests of the operator are answered. -/
def Answers (world : World) :
    (request : Request (Object kind)) → request.Answer → World → Prop
  | .broker call, reply, after => BrokerAnswers world call reply after
  | .getObject .user key, reply, after =>
      after = world ∧ match world.users key with
        | some user => reply = .ok user
        | none => ∃ message, reply = .error ⟨.notFound, message⟩
  | .update _, reply, after => after = world ∧ ∃ version, reply = .ok version
  | .updateStatus _, reply, after => after = world ∧ ∃ version, reply = .ok version
  | _, _, after => after = world

/-- Publishers and consumers act on a queue. -/
inductive Foreign (world : World) : World → Prop where
  | act (vhost name : String) (info : DetailedQueueInfo) :
      Foreign world { world with load := fun other queue =>
        if other = vhost ∧ queue = name then info else world.load other queue }

/-- The broker, its publishers and its consumers. -/
def environment : Environment (@Request.Answer (Object kind)) World where
  foreign := Foreign
  answers := Answers

section Answers

variable {world after : World} {call : BrokerCall} {entity : Entity} {reply : call.Answer}

/-- Observers leave the broker as it is. -/
theorem answers_of_observes {request : Request (Object kind)} {reply : request.Answer}
    (observes : request.observes = true) (answered : Answers world request reply after) :
    after = world := by
  cases request with
  | broker call =>
      have readOnly : call.entity = none := Option.isNone_iff_eq_none.mp observes
      have told : BrokerAnswers world call reply after := answered
      rw [BrokerAnswers, readOnly] at told
      exact told.1
  | getObject kind key =>
      cases kind with
      | user => exact answered.1
      | _ => exact answered
  | update | updateStatus | createSecret | updateSecret | createObject | updateObject =>
      cases observes
  | _ => exact answered

theorem answers_of_removes (removes : call.declares = false) (about : call.entity = some entity) :
    BrokerAnswers world call reply after ↔ Deletes world call entity reply after := by
  simp [BrokerAnswers, about, removes]

/-- A call that deletes a missing entity. -/
theorem answers_of_missing (removes : call.declares = false) (about : call.entity = some entity)
    (absent : ¬ world.has entity) :
    BrokerAnswers world call reply after ↔ after = world ∧ SaysNotFound call reply := by
  rw [answers_of_removes removes about]
  constructor
  · rintro (⟨-, notFound⟩ | ⟨present, -⟩ | ⟨present⟩)
    · exact ⟨rfl, notFound⟩
    · exact absurd present absent
    · exact absurd present absent
  · rintro ⟨rfl, notFound⟩
    exact .missing absent notFound

end Answers

end TopologyOperator.BrokerServer
