import TopologyOperator.Controller.Resources

/-!
# What a broker holds

The entities of a broker, each with the call that defined it last. A call that
succeeds was carried out; a call that fails may have been carried out or not. An entity
that is deleted takes others with it: a virtual host everything in it, a user its
permissions, a queue and an exchange their bindings. A binding is deleted by its
properties key, which the operator computes, so that all that is known of such a call
is that it deletes bindings between the two ends.

The limits of users and virtual hosts are not entities; calls about them leave the
store as it is.
-/

namespace TopologyOperator

namespace BrokerCall

/-- The calls that create an entity or replace its settings. -/
def defines : BrokerCall → Bool
  | putUser .. | declareBinding .. | updatePermissionsIn .. | putPolicy .. | declareQueue ..
  | declareExchange .. | putVhost .. | putGlobalParameter .. | putFederationUpstream ..
  | declareShovel .. | putOperatorPolicy .. | updateTopicPermissionsIn .. => true
  | _ => false

/-- The calls that delete an entity. -/
def removes : BrokerCall → Bool
  | deleteUser _ | deleteBinding .. | clearPermissionsIn .. | deletePolicy .. | deleteQueue ..
  | deleteExchange .. | deleteVhost _ | deleteGlobalParameter _ | deleteFederationUpstream ..
  | deleteShovel .. | deleteOperatorPolicy .. | deleteTopicPermissionsIn .. => true
  | _ => false

/-- The call names the entity as the broker does. -/
def exact : BrokerCall → Bool
  | deleteBinding .. => false
  | _ => true

/-- The response to a call that writes. -/
def response : (call : BrokerCall) → call.Answer → Option BrokerReply
  | getUserLimits _, _ | getVhostLimits _, _ | listQueueBindingsBetween .., _
  | listExchangeBindingsBetween .., _ | getQueue .., _ => none
  | putUser .., reply | deleteUser _, reply | putUserLimits .., reply
  | deleteUserLimits .., reply | declareBinding .., reply | deleteBinding .., reply
  | updatePermissionsIn .., reply | clearPermissionsIn .., reply | putPolicy .., reply
  | deletePolicy .., reply | declareQueue .., reply | deleteQueue .., reply
  | declareExchange .., reply | deleteExchange .., reply | putVhost .., reply
  | deleteVhost _, reply | putVhostLimits .., reply | deleteVhostLimits .., reply
  | putGlobalParameter .., reply | deleteGlobalParameter _, reply
  | putFederationUpstream .., reply | deleteFederationUpstream .., reply
  | declareShovel .., reply | deleteShovel .., reply | putOperatorPolicy .., reply
  | deleteOperatorPolicy .., reply | updateTopicPermissionsIn .., reply
  | deleteTopicPermissionsIn .., reply => some reply

/-- The operator takes the answer to a defining or deleting call for a success. -/
inductive Succeeds (call : BrokerCall) (reply : call.Answer) : Prop where
  | defined {response : BrokerReply} (defines : call.defines = true)
      (answered : call.response reply = some response) (valid : validateResponse response = .ok ())
  | removed {response : BrokerReply} (removes : call.removes = true)
      (answered : call.response reply = some response) (gone : deleted response = .ok ())

/-- The broker lists the bindings that it was asked for. -/
def Lists : (call : BrokerCall) → call.Answer → Prop
  | listQueueBindingsBetween _ source destination, reply => ∀ listed, reply = .ok listed →
      ∀ info ∈ listed, info.source = source ∧ info.destination = destination ∧
        info.destinationType = "queue"
  | listExchangeBindingsBetween _ source destination, reply => ∀ listed, reply = .ok listed →
      ∀ info ∈ listed, info.source = source ∧ info.destination = destination ∧
        info.destinationType = "exchange"
  | _, _ => True

/-- Defining and deleting exclude each other. -/
theorem removes_of_defines {call : BrokerCall} (defines : call.defines = true) :
    call.removes = false := by
  cases call <;> first | rfl | cases defines

/-- The calls that read define and delete nothing. -/
theorem neither_of_entity {call : BrokerCall} (reads : call.entity = none) :
    call.defines = false ∧ call.removes = false := by
  cases call <;> first | exact ⟨rfl, rfl⟩ | cases reads

theorem declares_of_defines {call : BrokerCall} (defines : call.defines = true) :
    call.declares = true := by
  cases call <;> first | rfl | cases defines

end BrokerCall

namespace Entity

/-- The virtual host that an entity is in. -/
def within : Entity → Option String
  | binding host .. | permission host _ | topicPermission host .. | policy host _
  | operatorPolicy host _ | queue host _ | exchange host _ | federationUpstream host _
  | shovel host _ => some host
  | user _ | vhost _ | globalParameter _ => none

/-- What may be deleted together with an entity. -/
def FallsWith (other : Entity) : Entity → Prop
  | vhost name => other.within = some name
  | user username => (∃ host, other = .permission host username) ∨
      ∃ host resource, other = .topicPermission host username resource
  | queue host name => ∃ source routingKey arguments,
      other = .binding host source name "queue" routingKey arguments
  | exchange host name =>
      (∃ destination destinationType routingKey arguments,
        other = .binding host name destination destinationType routingKey arguments) ∨
      ∃ source routingKey arguments,
        other = .binding host source name "exchange" routingKey arguments
  | binding host source destination destinationType _ _ => ∃ routingKey arguments,
      other = .binding host source destination destinationType routingKey arguments
  | _ => False

/-- A call about the one entity may change the other. -/
def Touches (entity other : Entity) : Prop := other = entity ∨ other.FallsWith entity

end Entity

namespace BrokerStore

/-- The entities that exist, with the calls that defined them. -/
abbrev Store := Entity → Option BrokerCall

/-- What a call does if it is carried out. -/
inductive Effect (store : Store) (call : BrokerCall) : Store → Prop where
  | define {entity : Entity} {after : Store} (defines : call.defines = true)
      (about : call.entity = some entity) (settings : after entity = some call)
      (rest : ∀ other, other ≠ entity → after other = store other) : Effect store call after
  | remove {entity : Entity} {after : Store} (removes : call.removes = true)
      (about : call.entity = some entity) (gone : call.exact = true → after entity = none)
      (rest : ∀ other, after other = store other ∨ after other = none ∧ entity.Touches other) :
      Effect store call after
  | neither (defines : call.defines = false) (removes : call.removes = false) :
      Effect store call store

/-- How a broker answers a request. -/
def Answers {Resource : Type} (store : Store) :
    (request : Request Resource) → request.Answer → Store → Prop
  | .broker call, reply, after => call.Lists reply ∧
      (Effect store call after ∨ after = store ∧ ¬ call.Succeeds reply)
  | _, _, after => after = store

variable {store after : Store} {call : BrokerCall} {reply : call.Answer} {entity other : Entity}

theorem Answers.effect {Resource : Type}
    (answered : Answers store (.broker call : Request Resource) reply after) :
    after = store ∨ Effect store call after := by
  rcases answered.2 with carried | ⟨same, -⟩
  · exact .inr carried
  · exact .inl same

/-- A call changes what it is about, and what falls with it. -/
theorem Effect.frame (effect : Effect store call after) (about : call.entity = some entity)
    (apart : ¬ entity.Touches other) : after other = store other := by
  cases effect with
  | define defines about' settings rest =>
      cases about.symm.trans about'
      exact rest other fun same => apart (.inl same)
  | remove removes about' gone rest =>
      cases about.symm.trans about'
      exact (rest other).resolve_right fun touched => apart touched.2
  | neither => rfl

/-- A call that defines changes what it is about, and nothing else. -/
theorem Effect.frame_defines (effect : Effect store call after) (defines : call.defines = true)
    (about : call.entity = some entity) (different : other ≠ entity) :
    after other = store other := by
  cases effect with
  | define _ about' settings rest =>
      cases about.symm.trans about'
      exact rest other different
  | remove removes =>
      rw [BrokerCall.removes_of_defines defines] at removes
      cases removes
  | neither => rfl

/-- A call that defines and succeeds has defined its entity. -/
theorem Answers.defined {Resource : Type}
    (answered : Answers store (.broker call : Request Resource) reply after)
    (defines : call.defines = true) (about : call.entity = some entity) :
    after entity = some call ∨ after = store ∧ ¬ call.Succeeds reply := by
  refine answered.2.imp_left fun effect => ?_
  cases effect with
  | define _ about' settings =>
      cases about.symm.trans about'
      exact settings
  | remove removes =>
      rw [BrokerCall.removes_of_defines defines] at removes
      cases removes
  | neither undefining =>
      rw [defines] at undefining
      cases undefining

/-- A call that deletes by name and succeeds has deleted its entity. -/
theorem Answers.removed {Resource : Type}
    (answered : Answers store (.broker call : Request Resource) reply after)
    (removes : call.removes = true) (exact : call.exact = true)
    (about : call.entity = some entity) (succeeds : call.Succeeds reply) :
    after entity = none := by
  rcases answered.2 with effect | ⟨-, failed⟩
  swap
  · exact absurd succeeds failed
  cases effect with
  | define defines =>
      rw [BrokerCall.removes_of_defines defines] at removes
      cases removes
  | remove _ about' gone =>
      cases about.symm.trans about'
      exact gone exact
  | neither _ keeps =>
      rw [removes] at keeps
      cases keeps

/-- A call that does not define anything leaves an entity as it is, or deletes it. -/
theorem Answers.keeps_or_removes {Resource : Type}
    (answered : Answers store (.broker call : Request Resource) reply after)
    (defines : call.defines = false) (other : Entity) :
    after other = store other ∨ after other = none := by
  rcases answered.effect with same | effect
  · exact .inl (congrFun same other)
  cases effect with
  | define defining =>
      rw [defines] at defining
      cases defining
  | remove _ _ _ rest => exact (rest other).imp_right And.left
  | neither => exact .inl rfl

/-- A call that neither defines nor deletes leaves all entities as they are. -/
theorem Answers.unchanged {Resource : Type}
    (answered : Answers store (.broker call : Request Resource) reply after)
    (defines : call.defines = false) (removes : call.removes = false) : after = store := by
  rcases answered.effect with same | effect
  · exact same
  cases effect with
  | define defining =>
      rw [defines] at defining
      cases defining
  | remove removing =>
      rw [removes] at removing
      cases removing
  | neither => rfl

end BrokerStore

end TopologyOperator
