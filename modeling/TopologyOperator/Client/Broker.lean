import TopologyOperator.Api.Types
import TopologyOperator.Encoding.Escaping
import TopologyOperator.Encoding.Json

/-!
# The RabbitMQ management API

The payloads and the calls of `rabbitmqclient.Client`, the interface through
which the operator reaches a broker. A call that changes the broker answers with
an HTTP response or an error, and in principle with both or neither.
-/

namespace TopologyOperator

open Encoding (Json.Value)

/-- A decoded `map[string]any`. -/
abbrev Arguments := List (String × Json.Value)

structure UserSettings where
  name : String
  tags : List String
  passwordHash : String
  hashingAlgorithm : String

structure BindingInfo where
  source : String
  vhost : String
  destination : String
  destinationType : String
  routingKey : String
  arguments : Arguments
  propertiesKey : String := ""

structure Permissions where
  configure : String
  write : String
  read : String

structure TopicPermissions where
  exchange : String
  write : String
  read : String

/-- `rabbithole.Policy`, and `rabbithole.OperatorPolicy` with the same fields. -/
structure PolicyDefinition where
  vhost : String
  pattern : String
  applyTo : String
  name : String
  priority : Int
  definition : Arguments

structure QueueSettings where
  type : String
  durable : Bool
  autoDelete : Bool
  arguments : Arguments

structure QueueDeleteOptions where
  ifEmpty : Bool
  ifUnused : Bool

/-- The fields of `rabbithole.DetailedQueueInfo` that are read. -/
structure DetailedQueueInfo where
  messages : Int
  consumers : Int

structure ExchangeSettings where
  type : String
  durable : Bool
  autoDelete : Bool
  arguments : Arguments

structure VhostSettings where
  tags : List String
  defaultQueueType : String
  tracing : Bool

/-- The value that `PutGlobalParameter` is called with. -/
structure UpstreamEndpoints where
  username : String
  password : String
  endpoints : List String

structure FederationDefinition where
  uri : List String
  expires : Int
  messageTTL : Int
  maxHops : Int
  prefetchCount : Int
  reconnectDelay : Int
  ackMode : String
  trustUserId : Bool
  exchange : String
  queue : String
  queueType : String
  resourceCleanupMode : String

structure ShovelDefinition where
  sourceURI : List String
  destinationURI : List String
  ackMode : String
  addForwardHeaders : Bool
  deleteAfter : String
  destinationAddForwardHeaders : Bool
  destinationAddTimestampHeader : Bool
  destinationAddress : String
  destinationApplicationProperties : Arguments
  destinationExchange : String
  destinationExchangeKey : String
  destinationProperties : Arguments
  destinationProtocol : String
  destinationPublishProperties : Arguments
  destinationQueue : String
  destinationQueueArgs : Arguments
  destinationMessageAnnotations : Arguments
  prefetchCount : Int
  reconnectDelay : Int
  sourceAddress : String
  sourceDeleteAfter : String
  sourceExchange : String
  sourceExchangeKey : String
  sourcePrefetchCount : Int
  sourceProtocol : String
  sourceQueue : String
  sourceQueueArgs : Arguments
  sourceConsumerArgs : Arguments

/-- `UserLimitsValues` and `VhostLimitsValues`: limits by name. -/
abbrev LimitsValues := List (String × Int)

/-- The calls of `rabbitmqclient.Client` that the operator makes. -/
inductive BrokerCall where
  | putUser (username : String) (settings : UserSettings)
  | deleteUser (username : String)
  | putUserLimits (username : String) (limits : LimitsValues)
  | getUserLimits (username : String)
  | deleteUserLimits (username : String) (limits : List String)
  | declareBinding (vhost : String) (info : BindingInfo)
  | deleteBinding (vhost : String) (info : BindingInfo)
  | listQueueBindingsBetween (vhost exchange queue : String)
  | listExchangeBindingsBetween (vhost source destination : String)
  | updatePermissionsIn (vhost username : String) (permissions : Permissions)
  | clearPermissionsIn (vhost username : String)
  | putPolicy (vhost name : String) (policy : PolicyDefinition)
  | deletePolicy (vhost name : String)
  | declareQueue (vhost name : String) (settings : QueueSettings)
  | deleteQueue (vhost name : String) (options : QueueDeleteOptions)
  | getQueue (vhost name : String)
  | declareExchange (vhost name : String) (settings : ExchangeSettings)
  | deleteExchange (vhost name : String)
  | putVhost (name : String) (settings : VhostSettings)
  | deleteVhost (name : String)
  | putVhostLimits (name : String) (limits : LimitsValues)
  | getVhostLimits (name : String)
  | deleteVhostLimits (name : String) (limits : List String)
  | putGlobalParameter (name : String) (value : UpstreamEndpoints)
  | deleteGlobalParameter (name : String)
  | putFederationUpstream (vhost name : String) (definition : FederationDefinition)
  | deleteFederationUpstream (vhost name : String)
  | declareShovel (vhost name : String) (definition : ShovelDefinition)
  | deleteShovel (vhost name : String)
  | putOperatorPolicy (vhost name : String) (policy : PolicyDefinition)
  | deleteOperatorPolicy (vhost name : String)
  | updateTopicPermissionsIn (vhost username : String) (permissions : TopicPermissions)
  | deleteTopicPermissionsIn (vhost username exchange : String)

/-- What the calls that write to the broker are about. -/
inductive Entity where
  | user (username : String)
  | binding (vhost source destination destinationType routingKey : String) (arguments : Arguments)
  | permission (vhost username : String)
  | topicPermission (vhost username exchange : String)
  | policy (vhost name : String)
  | operatorPolicy (vhost name : String)
  | queue (vhost name : String)
  | exchange (vhost name : String)
  | vhost (name : String)
  | globalParameter (name : String)
  | federationUpstream (vhost name : String)
  | shovel (vhost name : String)

/-- The code of `~` in a properties key. -/
def tildeCode : List Char := ['%', '7', 'E']

/-- The routing key that the properties key of a binding without arguments stands for: a
single `~` for none, and otherwise the key itself with `~` for each `%7E`. -/
def routingKeyOf (propertiesKey : String) : String :=
  if propertiesKey = "~" then ""
  else String.ofList (Encoding.unescape '~' tildeCode propertiesKey.toList)

/-- The binding that a delete request addresses. The request holds the ends and the
properties key. The key of a binding with arguments holds a hash of them that only the
broker computes, so that such a key is always that of a binding that the broker listed. -/
def BindingInfo.addressed (info : BindingInfo) (vhost : String) : Entity :=
  .binding vhost info.source info.destination info.destinationType
    (if info.arguments.isEmpty then routingKeyOf info.propertiesKey else info.routingKey)
    info.arguments

structure HttpResponse where
  statusCode : Int
  body : String := ""
  deriving DecidableEq

/-- The pair of results of a call that changes the broker. -/
structure BrokerReply where
  response : Option HttpResponse
  error : Option BrokerError
  deriving DecidableEq

namespace BrokerCall

/-- What each call returns. The limits are those of the first entry, if any. -/
@[reducible] def Answer : BrokerCall → Type
  | getUserLimits _ => Except BrokerError (List LimitsValues)
  | getVhostLimits _ => Except BrokerError (List LimitsValues)
  | listQueueBindingsBetween .. => Except BrokerError (List BindingInfo)
  | listExchangeBindingsBetween .. => Except BrokerError (List BindingInfo)
  | getQueue .. => Except BrokerError DetailedQueueInfo
  | _ => BrokerReply

/-- The answer of a broker that cannot be reached. -/
def refusal : (call : BrokerCall) → call.Answer
  | getUserLimits _ | getVhostLimits _ | listQueueBindingsBetween ..
  | listExchangeBindingsBetween ..
  | getQueue .. => .error (.other "unreachable")
  | putUser .. | deleteUser _ | putUserLimits .. | deleteUserLimits .. | declareBinding ..
  | deleteBinding .. | updatePermissionsIn .. | clearPermissionsIn .. | putPolicy ..
  | deletePolicy .. | declareQueue .. | deleteQueue .. | declareExchange .. | deleteExchange ..
  | putVhost .. | deleteVhost _ | putVhostLimits .. | deleteVhostLimits .. | putGlobalParameter ..
  | deleteGlobalParameter _ | putFederationUpstream .. | deleteFederationUpstream ..
  | declareShovel .. | deleteShovel .. | putOperatorPolicy .. | deleteOperatorPolicy ..
  | updateTopicPermissionsIn .. | deleteTopicPermissionsIn .. => ⟨none, some (.other "unreachable")⟩

/-- The entity of the broker that a call creates, changes or deletes. -/
def entity : BrokerCall → Option Entity
  | putUser username _ | deleteUser username | putUserLimits username _
  | deleteUserLimits username _ => some (.user username)
  | declareBinding vhost info =>
      some (.binding vhost info.source info.destination info.destinationType info.routingKey
        info.arguments)
  | deleteBinding vhost info => some (info.addressed vhost)
  | updatePermissionsIn vhost username _ | clearPermissionsIn vhost username =>
      some (.permission vhost username)
  | putPolicy vhost name _ | deletePolicy vhost name => some (.policy vhost name)
  | declareQueue vhost name _ | deleteQueue vhost name _ => some (.queue vhost name)
  | declareExchange vhost name _ | deleteExchange vhost name => some (.exchange vhost name)
  | putVhost name _ | deleteVhost name | putVhostLimits name _ | deleteVhostLimits name _ =>
      some (.vhost name)
  | putGlobalParameter name _ | deleteGlobalParameter name => some (.globalParameter name)
  | putFederationUpstream vhost name _ | deleteFederationUpstream vhost name =>
      some (.federationUpstream vhost name)
  | declareShovel vhost name _ | deleteShovel vhost name => some (.shovel vhost name)
  | putOperatorPolicy vhost name _ | deleteOperatorPolicy vhost name =>
      some (.operatorPolicy vhost name)
  | updateTopicPermissionsIn vhost username permissions =>
      some (.topicPermission vhost username permissions.exchange)
  | deleteTopicPermissionsIn vhost username exchange =>
      some (.topicPermission vhost username exchange)
  | getUserLimits _ | getVhostLimits _ | listQueueBindingsBetween ..
  | listExchangeBindingsBetween .. | getQueue .. => none

/-- The calls that create or update an entity of the broker. -/
def declares : BrokerCall → Bool
  | putUser .. | putUserLimits .. | declareBinding .. | updatePermissionsIn .. | putPolicy ..
  | declareQueue .. | declareExchange .. | putVhost .. | putVhostLimits ..
  | putGlobalParameter .. | putFederationUpstream .. | declareShovel .. | putOperatorPolicy ..
  | updateTopicPermissionsIn .. => true
  | _ => false

/-- The user whose limits a call reads or changes. -/
def limitsUser : BrokerCall → Option String
  | putUserLimits username _ | getUserLimits username | deleteUserLimits username _ => some username
  | _ => none

end BrokerCall

end TopologyOperator
