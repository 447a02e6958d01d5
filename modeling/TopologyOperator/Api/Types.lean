import TopologyOperator.Api.Errors
import TopologyOperator.Api.Meta

/-!
# Custom resources

The twelve kinds handled by the topology reconciler, each with its own spec, and
the `SuperStream`. All kinds share one shape, `Object kind`. The status of a
`User` has two more fields than the others; they stay empty on the other kinds.
-/

namespace TopologyOperator

structure RabbitmqClusterReference where
  name : String := ""
  ns : String := ""
  connectionSecret : Option LocalObjectReference := none
  deriving DecidableEq

namespace RabbitmqClusterReference

/-- `Matches`: the receiver is the old reference. -/
def «matches» (r new : RabbitmqClusterReference) : Bool :=
  if new.name ≠ r.name ∨ new.ns ≠ r.ns then false
  else match new.connectionSecret, r.connectionSecret with
    | some updated, some held => decide (updated = held)
    | none, some _ => false
    | some _, none => false
    | none, none => true

theorem matches_iff {r new : RabbitmqClusterReference} : r.matches new = true ↔ new = r := by
  obtain ⟨name, ns, secret⟩ := r
  obtain ⟨newName, newNs, newSecret⟩ := new
  by_cases moved : newName ≠ name ∨ newNs ≠ ns
  · simp only [«matches», moved, ↓reduceIte, Bool.false_eq_true, mk.injEq, false_iff]
    rintro ⟨sameName, sameNs, -⟩
    exact moved.elim (· sameName) (· sameNs)
  · obtain ⟨rfl, rfl⟩ : newName = name ∧ newNs = ns := by simpa only [not_or, not_not] using moved
    cases secret <;> cases newSecret <;> simp [«matches»]

/-- `ValidateOnCreate`: exactly one of name and connection secret is set. -/
def validateOnCreate (r : RabbitmqClusterReference) : Except GoError Unit :=
  if r.name ≠ "" ∧ r.connectionSecret.isSome then
    .error (.text "invalid RabbitmqClusterReference: do not provide both name and connectionSecret")
  else if r.name = "" ∧ r.connectionSecret.isNone then
    .error (.text "invalid RabbitmqClusterReference: must provide either name or connectionSecret")
  else .ok ()

/-- `ConnectionSecretNamespace`, also computed inline by the resolvers: the
referenced namespace, or the namespace of the resource if there is none. -/
def connectionSecretNamespace (r : RabbitmqClusterReference) (resourceNamespace : String) :
    String :=
  if r.ns = "" then resourceNamespace else r.ns

end RabbitmqClusterReference

inductive ConditionStatus where
  | conditionTrue
  | conditionFalse
  | conditionUnknown
  deriving DecidableEq

structure Condition where
  type : String
  status : ConditionStatus
  lastTransitionTime : Time
  reason : String
  message : String := ""
  deriving DecidableEq

/-- The transition time of an earlier condition of the same type and status. -/
def lastTransitionTime (type : String) (status : ConditionStatus)
    (lastConditions : List Condition) : Option Time :=
  (lastConditions.find? fun condition => condition.type = type ∧ condition.status = status).map
    (·.lastTransitionTime)

/-- `upsertCondition`: replace the condition of the same type, or append. -/
def upsertCondition (condition : Condition) : List Condition → List Condition
  | [] => [condition]
  | held :: rest =>
      if held.type = condition.type then condition :: rest
      else held :: upsertCondition condition rest

/-- `runtime.RawExtension`: raw JSON. -/
structure RawExtension where
  raw : String
  deriving DecidableEq

structure BindingSpec where
  vhost : String := ""
  source : String := ""
  destination : String := ""
  destinationType : String := ""
  routingKey : String := ""
  arguments : Option RawExtension := none
  rabbitmqClusterReference : RabbitmqClusterReference := {}
  deriving DecidableEq

structure ExchangeSpec where
  name : String := ""
  vhost : String := ""
  type : String := ""
  durable : Bool := false
  autoDelete : Bool := false
  arguments : Option RawExtension := none
  rabbitmqClusterReference : RabbitmqClusterReference := {}
  deriving DecidableEq

structure FederationSpec where
  name : String := ""
  vhost : String := ""
  rabbitmqClusterReference : RabbitmqClusterReference := {}
  uriSecret : Option LocalObjectReference := none
  prefetchCount : Int := 0
  ackMode : String := ""
  expires : Int := 0
  messageTTL : Int := 0
  maxHops : Int := 0
  reconnectDelay : Option Int := none
  trustUserId : Bool := false
  exchange : String := ""
  queue : String := ""
  deletionPolicy : String := ""
  queueType : String := ""
  resourceCleanupMode : String := ""
  deriving DecidableEq

/-- The spec of a `Policy`. -/
structure PolicySpec where
  name : String := ""
  vhost : String := ""
  pattern : String := ""
  applyTo : String := ""
  priority : Int := 0
  definition : Option RawExtension := none
  rabbitmqClusterReference : RabbitmqClusterReference := {}
  deriving DecidableEq

/-- The spec of an `OperatorPolicy`, which has the fields of a `Policy`. -/
structure OperatorPolicySpec where
  name : String := ""
  vhost : String := ""
  pattern : String := ""
  applyTo : String := ""
  priority : Int := 0
  definition : Option RawExtension := none
  rabbitmqClusterReference : RabbitmqClusterReference := {}
  deriving DecidableEq

structure VhostPermissions where
  configure : String := ""
  write : String := ""
  read : String := ""
  deriving DecidableEq

structure PermissionSpec where
  user : String := ""
  userReference : Option LocalObjectReference := none
  vhost : String := ""
  permissions : VhostPermissions := {}
  rabbitmqClusterReference : RabbitmqClusterReference := {}
  deriving DecidableEq

structure TopicPermissionConfig where
  exchange : String := ""
  read : String := ""
  write : String := ""
  deriving DecidableEq

structure TopicPermissionSpec where
  user : String := ""
  userReference : Option LocalObjectReference := none
  vhost : String := ""
  permissions : TopicPermissionConfig := {}
  rabbitmqClusterReference : RabbitmqClusterReference := {}
  deriving DecidableEq

structure QueueSpec where
  name : String := ""
  vhost : String := ""
  type : String := ""
  durable : Option Bool := none
  autoDelete : Bool := false
  deleteIfEmpty : Bool := false
  deleteIfUnused : Bool := false
  arguments : Option RawExtension := none
  rabbitmqClusterReference : RabbitmqClusterReference := {}
  deletionPolicy : String := ""
  deriving DecidableEq

structure VaultSpec where
  secretPath : String := ""
  deriving DecidableEq

structure SchemaReplicationSpec where
  rabbitmqClusterReference : RabbitmqClusterReference := {}
  upstreamSecret : Option LocalObjectReference := none
  endpoints : String := ""
  /-- `secretBackend.vault` -/
  vault : Option VaultSpec := none
  deriving DecidableEq

structure ShovelSpec where
  name : String := ""
  vhost : String := ""
  rabbitmqClusterReference : RabbitmqClusterReference := {}
  uriSecret : Option LocalObjectReference := none
  ackMode : String := ""
  prefetchCount : Int := 0
  reconnectDelay : Int := 0
  addForwardHeaders : Bool := false
  deleteAfter : String := ""
  sourceDeleteAfter : String := ""
  sourcePrefetchCount : Int := 0
  destinationAddForwardHeaders : Bool := false
  destinationAddTimestampHeader : Bool := false
  sourceQueueArgs : Option RawExtension := none
  destinationQueueArgs : Option RawExtension := none
  destinationProtocol : String := ""
  destinationQueue : String := ""
  destinationExchange : String := ""
  destinationExchangeKey : String := ""
  destinationPublishProperties : Option RawExtension := none
  destinationAddress : String := ""
  destinationApplicationProperties : Option RawExtension := none
  destinationProperties : Option RawExtension := none
  destinationMessageAnnotations : Option RawExtension := none
  sourceProtocol : String := ""
  sourceQueue : String := ""
  sourceExchange : String := ""
  sourceExchangeKey : String := ""
  sourceConsumerArgs : Option RawExtension := none
  sourceAddress : String := ""
  deletionPolicy : String := ""
  deriving DecidableEq

structure UserLimits where
  connections : Option Int := none
  channels : Option Int := none
  deriving DecidableEq

structure UserSpec where
  tags : List String := []
  rabbitmqClusterReference : RabbitmqClusterReference := {}
  importCredentialsSecret : Option LocalObjectReference := none
  usernameFromMeta : Bool := false
  userLimits : Option UserLimits := none
  deriving DecidableEq

structure VhostLimits where
  connections : Option Int := none
  queues : Option Int := none
  deriving DecidableEq

structure VhostSpec where
  name : String := ""
  tracing : Bool := false
  tags : List String := []
  defaultQueueType : String := ""
  rabbitmqClusterReference : RabbitmqClusterReference := {}
  deletionPolicy : String := ""
  vhostLimits : Option VhostLimits := none
  deriving DecidableEq

/-- The kinds for which a topology reconciler is set up. -/
inductive Kind where
  | binding
  | exchange
  | federation
  | operatorPolicy
  | permission
  | policy
  | queue
  | schemaReplication
  | shovel
  | topicPermission
  | user
  | vhost
  deriving DecidableEq

namespace Kind

/-- The kind as it stands in manifests. -/
def name : Kind → String
  | binding => "Binding"
  | exchange => "Exchange"
  | federation => "Federation"
  | operatorPolicy => "OperatorPolicy"
  | permission => "Permission"
  | policy => "Policy"
  | queue => "Queue"
  | schemaReplication => "SchemaReplication"
  | shovel => "Shovel"
  | topicPermission => "TopicPermission"
  | user => "User"
  | vhost => "Vhost"

/-- The finalizer that the operator places on objects of this kind. -/
def finalizer (kind : Kind) : String := deletionFinalizer kind.name

end Kind

/-- The spec of each kind. -/
@[reducible] def Spec : Kind → Type
  | .binding => BindingSpec
  | .exchange => ExchangeSpec
  | .federation => FederationSpec
  | .operatorPolicy => OperatorPolicySpec
  | .permission => PermissionSpec
  | .policy => PolicySpec
  | .queue => QueueSpec
  | .schemaReplication => SchemaReplicationSpec
  | .shovel => ShovelSpec
  | .topicPermission => TopicPermissionSpec
  | .user => UserSpec
  | .vhost => VhostSpec

instance : (kind : Kind) → DecidableEq (Spec kind)
  | .binding => inferInstanceAs (DecidableEq BindingSpec)
  | .exchange => inferInstanceAs (DecidableEq ExchangeSpec)
  | .federation => inferInstanceAs (DecidableEq FederationSpec)
  | .operatorPolicy => inferInstanceAs (DecidableEq OperatorPolicySpec)
  | .permission => inferInstanceAs (DecidableEq PermissionSpec)
  | .policy => inferInstanceAs (DecidableEq PolicySpec)
  | .queue => inferInstanceAs (DecidableEq QueueSpec)
  | .schemaReplication => inferInstanceAs (DecidableEq SchemaReplicationSpec)
  | .shovel => inferInstanceAs (DecidableEq ShovelSpec)
  | .topicPermission => inferInstanceAs (DecidableEq TopicPermissionSpec)
  | .user => inferInstanceAs (DecidableEq UserSpec)
  | .vhost => inferInstanceAs (DecidableEq VhostSpec)

structure Status where
  observedGeneration : Int := 0
  conditions : List Condition := []
  credentials : Option LocalObjectReference := none
  username : String := ""
  deriving DecidableEq

/-- A stored object of one of the twelve kinds. -/
structure Object (kind : Kind) where
  objectMeta : ObjectMeta
  spec : Spec kind
  status : Status := {}
  deriving DecidableEq

namespace Object

/-- `RabbitReference` -/
def rabbitReference : {kind : Kind} → Object kind → RabbitmqClusterReference
  | .binding, object => object.spec.rabbitmqClusterReference
  | .exchange, object => object.spec.rabbitmqClusterReference
  | .federation, object => object.spec.rabbitmqClusterReference
  | .operatorPolicy, object => object.spec.rabbitmqClusterReference
  | .permission, object => object.spec.rabbitmqClusterReference
  | .policy, object => object.spec.rabbitmqClusterReference
  | .queue, object => object.spec.rabbitmqClusterReference
  | .schemaReplication, object => object.spec.rabbitmqClusterReference
  | .shovel, object => object.spec.rabbitmqClusterReference
  | .topicPermission, object => object.spec.rabbitmqClusterReference
  | .user, object => object.spec.rabbitmqClusterReference
  | .vhost, object => object.spec.rabbitmqClusterReference

/-- The object with the operator's finalizer. -/
def withFinalizer {kind : Kind} (object : Object kind) : Object kind :=
  { object with objectMeta := object.objectMeta.addFinalizer kind.finalizer }

/-- The object without the operator's finalizer. -/
def withoutFinalizer {kind : Kind} (object : Object kind) : Object kind :=
  { object with objectMeta := object.objectMeta.removeFinalizer kind.finalizer }

/-- `SetStatusConditions`: a `User` keeps conditions of other types. -/
def setStatusConditions {kind : Kind} (object : Object kind) (conditions : List Condition) :
    Object kind :=
  match kind with
  | .user =>
      { object with status := { object.status with
        conditions := conditions.foldl (fun held condition => upsertCondition condition held)
          object.status.conditions } }
  | _ => { object with status := { object.status with conditions := conditions } }

end Object

structure SuperStreamSpec where
  name : String := ""
  vhost : String := ""
  partitions : Int := 0
  routingKeys : List String := []
  rabbitmqClusterReference : RabbitmqClusterReference := {}
  deriving DecidableEq

structure SuperStreamStatus where
  observedGeneration : Int := 0
  conditions : List Condition := []
  partitions : List String := []
  deriving DecidableEq

structure SuperStream where
  objectMeta : ObjectMeta
  spec : SuperStreamSpec
  status : SuperStreamStatus := {}
  deriving DecidableEq

def topologyOperatorLabel : String := "rabbitmq.com/topology-operator"

def topologyOperatorLabelValue : String := "true"

structure Secret where
  objectMeta : ObjectMeta
  data : List (String × String) := []
  deriving DecidableEq

/-- Only Secrets with this label are held by the operator's informer cache. -/
def Secret.labelled (secret : Secret) : Bool :=
  decide (secret.objectMeta.labels.lookup topologyOperatorLabel = some topologyOperatorLabelValue)

structure ServicePort where
  name : String
  port : Int
  deriving DecidableEq

structure Service where
  name : String
  ns : String
  ports : List ServicePort
  deriving DecidableEq

/-- What the operator reads of a `RabbitmqCluster` of the cluster operator. The
last two fields are the answers of its methods of the same names. -/
structure RabbitmqCluster where
  objectMeta : ObjectMeta
  /-- `spec.replicas` -/
  replicas : Option Int := none
  /-- `spec.secretBackend.vault.defaultUserPath` -/
  vaultDefaultUserPath : Option String := none
  /-- `status.defaultUser.serviceReference` -/
  serviceReference : Option LocalObjectReference := none
  /-- `status.binding` -/
  binding : Option LocalObjectReference := none
  /-- `spec.rabbitmq.additionalConfig` -/
  additionalConfig : String := ""
  tlsEnabled : Bool := false
  disableNonTLSListeners : Bool := false
  deriving DecidableEq

end TopologyOperator
