import TopologyOperator.Controller.Utils

/-!
# Super streams

The builders of `managedresource` and the `SuperStreamReconciler`. A super stream
with `n` routing keys owns one exchange, `n` partition queues and `n` bindings,
which are objects of the API themselves.
-/

namespace TopologyOperator

def annotationSuperStream : String := "rabbitmq.com/super-stream"

def annotationSuperStreamRoutingKey : String := "rabbitmq.com/super-stream-routing-key"

/-- `managedresource.Builder`, with the parameters that all builders of one
reconcile share. -/
structure Builder where
  objectOwner : ObjectMeta
  vhost : String
  rabbitmqCluster : RabbitmqClusterReference

inductive ResourceBuilder where
  | superStreamExchange
  | superStreamPartition (partitionIndex : Nat) (routingKey : String)
  | superStreamBinding (partitionIndex : Nat) (routingKey : String)

namespace ResourceBuilder

@[reducible] def kind : ResourceBuilder → Kind
  | superStreamExchange => .exchange
  | superStreamPartition .. => .queue
  | superStreamBinding .. => .binding

def resourceType : ResourceBuilder → String
  | superStreamExchange => "Exchange"
  | superStreamPartition .. => "Partition"
  | superStreamBinding .. => "Binding"

end ResourceBuilder

def routingKeyToPartitionName (parentObjectName routingKey : String) : String :=
  parentObjectName ++ "-" ++ routingKey

/-- `strings.TrimPrefix` -/
def trimPrefix (text lead : String) : String :=
  if lead.toList.isPrefixOf text.toList then
    String.ofList (text.toList.drop lead.toList.length)
  else text

def partitionNameToRoutingKey (parentObjectName partitionName : String) : String :=
  trimPrefix partitionName (parentObjectName ++ "-")

/-- `{"x-stream-partition-order": i}` -/
def partitionOrderArguments (partitionIndex : Nat) : RawExtension :=
  ⟨"\x7b\"x-stream-partition-order\": " ++ toString partitionIndex ++ "\x7d"⟩

namespace Builder

variable (builder : Builder)

def generateChildResourceName (suffix : String) : String := builder.objectOwner.name ++ suffix

/-- The suffix of the name of each child. -/
def suffix : ResourceBuilder → String
  | .superStreamExchange => "-exchange"
  | .superStreamPartition partitionIndex _ => "-partition-" ++ toString partitionIndex
  | .superStreamBinding partitionIndex _ => "-binding-" ++ toString partitionIndex

/-- The labels of each child. -/
def labels : ResourceBuilder → List (String × String)
  | .superStreamExchange => [(annotationSuperStream, builder.objectOwner.name)]
  | .superStreamPartition _ routingKey | .superStreamBinding _ routingKey =>
      [(annotationSuperStream, builder.objectOwner.name),
        (annotationSuperStreamRoutingKey, routingKey)]

/-- The metadata that `Build` sets. -/
def childMeta (resource : ResourceBuilder) : ObjectMeta where
  name := builder.generateChildResourceName (suffix resource)
  ns := builder.objectOwner.ns
  labels := builder.labels resource

def build : (resource : ResourceBuilder) → Object resource.kind
  | .superStreamExchange => ⟨builder.childMeta .superStreamExchange, {}, {}⟩
  | .superStreamPartition partitionIndex routingKey =>
      ⟨builder.childMeta (.superStreamPartition partitionIndex routingKey), {}, {}⟩
  | .superStreamBinding partitionIndex routingKey =>
      ⟨builder.childMeta (.superStreamBinding partitionIndex routingKey), {}, {}⟩

/-- The spec that `Update` leaves: some fields are set, the others kept. -/
def updateSpec : (resource : ResourceBuilder) → Spec resource.kind → Spec resource.kind
  | .superStreamExchange, spec =>
      { spec with
        durable := true
        name := builder.objectOwner.name
        vhost := builder.vhost
        rabbitmqClusterReference := builder.rabbitmqCluster }
  | .superStreamPartition _ routingKey, spec =>
      { spec with
        name := routingKeyToPartitionName builder.objectOwner.name routingKey
        durable := some true
        type := "stream"
        vhost := builder.vhost
        rabbitmqClusterReference := builder.rabbitmqCluster }
  | .superStreamBinding partitionIndex routingKey, spec =>
      { spec with
        source := builder.objectOwner.name
        destinationType := "queue"
        destination := builder.objectOwner.name ++ "-" ++ routingKey
        routingKey := routingKey
        vhost := builder.vhost
        rabbitmqClusterReference := builder.rabbitmqCluster
        arguments := some (partitionOrderArguments partitionIndex) }

def update (resource : ResourceBuilder) (object : Object resource.kind) :
    Except GoError (Object resource.kind) :=
  match setControllerReference "rabbitmq.com/v1alpha1" "SuperStream" builder.objectOwner
    object.objectMeta with
  | .error err => .error (.wrapped "failed setting controller reference: " (.text err) "")
  | .ok objectMeta =>
      .ok { object with
        objectMeta := objectMeta
        spec := builder.updateSpec resource object.spec }

end Builder

namespace SuperStreamReconciler

/-- Children are read and written as objects of their kind. -/
def objectClient (kind : Kind) : ObjectClient SuperStream (Object kind) where
  get object := ask (.getObject kind object.objectMeta.key)
  create object := ask (.createObject object)
  update object := ask (.updateObject object)
  withVersion object version := object.withVersion version

/-- One attempt to store the status of the super stream. -/
def updateStatus (superStream : SuperStream) :
    Prog SuperStream (SuperStream × Except GoError Unit) := do
  match ← ask (.updateStatus superStream) with
  | .error err => return (superStream, .error (.api err))
  | .ok version =>
      return ({ superStream with objectMeta := { superStream.objectMeta with
        resourceVersion := version.resourceVersion
        generation := version.generation } }, .ok ())

/-- Store the status; an error is only logged. -/
def storeStatus (superStream : SuperStream) : Prog SuperStream SuperStream := do
  let result ← retryOnConflict updateStatus defaultRetry superStream
  return result.1

def setReconcileSuccess (superStream : SuperStream) (condition : Condition) :
    Prog SuperStream Unit := do
  let _ ← storeStatus { superStream with status := { superStream.status with
    conditions := [condition]
    observedGeneration := superStream.objectMeta.generation } }
  return ()

/-- Record that the super stream is not ready. -/
def setNotReady (superStream : SuperStream) (msg : String) : Prog SuperStream Unit := do
  let condition ← notReady msg superStream.status.conditions
  setReconcileSuccess superStream condition

def generateRoutingKeys (superStream : SuperStream) : List String :=
  (List.range superStream.spec.partitions.toNat).map toString

/-- The reference for the children. Only the cluster name is resolved; a
connection secret is not looked at. -/
def getRabbitmqClusterReference (rmq : RabbitmqClusterReference) (requestNamespace : String) :
    Prog SuperStream (Except GoError RabbitmqClusterReference) := do
  match ← ask (.getRabbitmqCluster
    ⟨rmq.connectionSecretNamespace requestNamespace, rmq.name⟩) with
  | .error err =>
      return .error (.wrapped ("failed to get cluster from reference: " ++ err.message ++
        " Error: ") .errNoSuchRabbitmqCluster "")
  | .ok cluster =>
      if allowedNamespace rmq requestNamespace cluster then
        return .ok { name := rmq.name, ns := rmq.connectionSecretNamespace requestNamespace }
      else return .error .errResourceNotAllowed

/-- `removeFinalizer` for a super stream. -/
def removeFinalizer (superStream : SuperStream) : Prog SuperStream (Option GoError) := do
  match ← ask (.update { superStream with
    objectMeta := superStream.objectMeta.removeFinalizer (deletionFinalizer "SuperStream") }) with
  | .error err => return some (.wrapped "failed to delete finalizer: " (.api err) "")
  | .ok _ => return none

/-- `handleRMQReferenceParseError` of `utils.go`, which has no case for a cluster
without replicas. -/
def handleRMQReferenceParseError (superStream : SuperStream) (err : GoError) :
    Prog SuperStream (Result × Option GoError) :=
  if err.is .errNoSuchRabbitmqCluster ∧ superStream.objectMeta.deletionTimestamp.isSome then do
    eventf .normal "SuccessfulDelete" "delete"
      ("successfully deleted " ++ superStream.objectMeta.name)
    let outcome ← removeFinalizer superStream
    return ({}, outcome)
  else if err.is .errNoSuchRabbitmqCluster then return ({ requeueAfter := 10 }, some err)
  else if err.is .errResourceNotAllowed then do
    let condition ← notReady GoError.errResourceNotAllowed.error superStream.status.conditions
    let _ ← storeStatus { superStream with status := { superStream.status with
      conditions := [condition] } }
    return ({}, none)
  else return ({}, some err)

/-- The builders of a reconcile: the exchange, then a partition and a binding for
each routing key. -/
def builders (routingKeys : List String) : List ResourceBuilder :=
  .superStreamExchange :: routingKeys.zipIdx.flatMap fun (routingKey, index) =>
    [.superStreamPartition index routingKey, .superStreamBinding index routingKey]

/-- Create or update one child: the child as it is in memory afterwards. -/
def createChild (builder : Builder) (resource : ResourceBuilder) :
    Prog SuperStream (Object resource.kind × Except GoError Unit) :=
  retryOnConflict (createOrUpdate (objectClient resource.kind) (builder.update resource))
    defaultRetry (builder.build resource)

/-- The names that a child contributes to the list of partitions. -/
def partitionNames : (resource : ResourceBuilder) → Object resource.kind → List String
  | .superStreamPartition .., queue => [queue.spec.name]
  | _, _ => []

/-- The loop over the builders: the partition names collected so far, or the
builder that failed and its error. -/
def createChildren (builder : Builder) : List ResourceBuilder → List String →
    Prog SuperStream (Except (ResourceBuilder × GoError) (List String))
  | [], partitionQueueNames => return .ok partitionQueueNames
  | resource :: rest, partitionQueueNames => do
      let result ← createChild builder resource
      match result.2 with
      | .error err => return .error (resource, err)
      | .ok () =>
          createChildren builder rest (partitionQueueNames ++ partitionNames resource result.1)

/-- Create the children and record them in the status. -/
def reconcileChildren (superStream : SuperStream) (rmqClusterRef : RabbitmqClusterReference)
    (routingKeys : List String) : Prog SuperStream (Result × Option GoError) := do
  match ← createChildren ⟨superStream.objectMeta, superStream.spec.vhost, rmqClusterRef⟩
    (builders routingKeys) [] with
  | .error (resource, err) => do
      setNotReady superStream ("FailedReconcile" ++ resource.resourceType)
      return ({}, some err)
  | .ok partitionQueueNames => do
      let superStream ← storeStatus { superStream with status := { superStream.status with
        partitions := partitionQueueNames } }
      let condition ← ready superStream.status.conditions
      setReconcileSuccess superStream condition
      return ({}, none)

def failedToReconcile (superStream : SuperStream) : String :=
  "SuperStream " ++ superStream.objectMeta.name ++ " failed to reconcile"

def reconcile (key : NamespacedName) : Prog SuperStream (Result × Option GoError) := do
  match ← ask (.get key) with
  | .error err => return ({}, (GoError.api err).ignoreNotFound)
  | .ok superStream =>
      match ← getRabbitmqClusterReference superStream.spec.rabbitmqClusterReference
        superStream.objectMeta.ns with
      | .error err => handleRMQReferenceParseError superStream err
      | .ok rmqClusterRef =>
          if superStream.spec.partitions < superStream.status.partitions.length then do
            eventf .warning "FailedScaleDown" "delete"
              ("SuperStreams cannot be scaled down: an attempt was made to scale from " ++
                toString superStream.status.partitions.length ++ " partitions to " ++
                toString superStream.spec.partitions)
            setNotReady superStream (failedToReconcile superStream)
            return ({}, none)
          else if superStream.spec.routingKeys = [] then
            reconcileChildren superStream rmqClusterRef (generateRoutingKeys superStream)
          else if superStream.spec.routingKeys.length ≠ superStream.spec.partitions then do
            setNotReady superStream (failedToReconcile superStream)
            return ({}, some (.text ("expected number of routing keys (" ++
              toString superStream.spec.routingKeys.length ++
              ") to match number of partitions (" ++ toString superStream.spec.partitions ++ ")")))
          else reconcileChildren superStream rmqClusterRef superStream.spec.routingKeys

end SuperStreamReconciler

end TopologyOperator
