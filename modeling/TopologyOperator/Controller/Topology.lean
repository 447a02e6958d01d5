import TopologyOperator.Controller.User

/-!
# The topology reconciler

One reconcile of an object of any of the twelve kinds: read the object, resolve
its cluster reference, then delete or declare its broker entity and record the
outcome in the status.
-/

namespace TopologyOperator

/-- The configuration of a `TopologyReconciler`. -/
structure TopologyReconciler where
  libraries : Libraries
  kubernetesClusterDomain : String
  connectUsingPlainHTTP : Bool

section Dispatch

variable {kind : Kind} (libraries : Libraries)

/-- A declare function that leaves the object in memory as it is. -/
def declaring (object : Object kind) (program : Prog (Object kind) (Except GoError Unit)) :
    Prog (Object kind) (Object kind × Except GoError Unit) := do
  let outcome ← program
  return (object, outcome)

/-- A delete function that leaves the object in memory as it is. -/
def deleting (object : Object kind) (program : Prog (Object kind) (Except GoError Unit)) :
    Prog (Object kind) (Except GoError (Object kind)) := do
  match ← program with
  | .error err => return .error err
  | .ok () => return .ok object

/-- `DeclareFunc` of each kind: the object in memory afterwards, and the error. -/
def declareFunc : {kind : Kind} → Object kind →
    Prog (Object kind) (Object kind × Except GoError Unit)
  | .binding, object => declaring object (BindingReconciler.declareFunc libraries object)
  | .exchange, object => declaring object (ExchangeReconciler.declareFunc libraries object)
  | .federation, object => declaring object (FederationReconciler.declareFunc object)
  | .operatorPolicy, object =>
      declaring object (OperatorPolicyReconciler.declareFunc libraries object)
  | .permission, object => PermissionReconciler.declareFunc object
  | .policy, object => declaring object (PolicyReconciler.declareFunc libraries object)
  | .queue, object => declaring object (QueueReconciler.declareFunc libraries object)
  | .schemaReplication, object => declaring object (SchemaReplicationReconciler.declareFunc object)
  | .shovel, object => declaring object (ShovelReconciler.declareFunc libraries object)
  | .topicPermission, object => TopicPermissionReconciler.declareFunc object
  | .user, object => UserReconciler.declareFunc libraries object
  | .vhost, object => declaring object (VhostReconciler.declareFunc object)

/-- `DeleteFunc` of each kind: the object in memory afterwards, or the error. -/
def deleteFunc : {kind : Kind} → Object kind → Prog (Object kind) (Except GoError (Object kind))
  | .binding, object => deleting object (BindingReconciler.deleteFunc libraries object)
  | .exchange, object => deleting object (ExchangeReconciler.deleteFunc object)
  | .federation, object => deleting object (FederationReconciler.deleteFunc object)
  | .operatorPolicy, object => deleting object (OperatorPolicyReconciler.deleteFunc object)
  | .permission, object => PermissionReconciler.deleteFunc object
  | .policy, object => deleting object (PolicyReconciler.deleteFunc object)
  | .queue, object => deleting object (QueueReconciler.deleteFunc object)
  | .schemaReplication, object => deleting object SchemaReplicationReconciler.deleteFunc
  | .shovel, object => deleting object (ShovelReconciler.deleteFunc object)
  | .topicPermission, object => TopicPermissionReconciler.deleteFunc object
  | .user, object => deleting object (UserReconciler.deleteFunc object)
  | .vhost, object => deleting object (VhostReconciler.deleteFunc object)

end Dispatch

namespace TopologyReconciler

variable {Resource : Type} {kind : Kind} (r : TopologyReconciler)

def extractSystemCertPool : Prog Resource (Except GoError Unit) := do
  match ← ask .systemCertPool with
  | .error err => do
      eventf .warning "FailedUpdate" "setup" "failed to retrieve system trusted certs"
      return .error (.text err)
  | .ok () => return .ok ()

/-- `statusUpdate`: a status that could not be stored is only logged. -/
def statusUpdate (object : Object kind) : Prog (Object kind) Unit := do
  let _ ← retryOnConflict updateStatus defaultRetry object
  return ()

def setObservedGeneration (object : Object kind) : Object kind :=
  { object with status := { object.status with
    observedGeneration := object.objectMeta.generation } }

/-- Record that the object is not ready, and store its status. -/
def recordNotReady (object : Object kind) (msg : String) : Prog (Object kind) Unit := do
  let condition ← notReady msg object.status.conditions
  statusUpdate (object.setStatusConditions [condition])

/-- The outcome of a reconcile that ended with a write of the object. -/
def finished {α : Type} : Except GoError α → Result × Option GoError
  | .error err => ({}, some err)
  | .ok _ => ({}, none)

/-- An object whose cluster is gone, or has no replicas, is released without a
broker call. -/
def releaseWithoutBroker (object : Object kind) : Prog (Object kind) (Result × Option GoError) := do
  eventf .normal "SuccessfulDelete" "delete" ("successfully deleted " ++ object.objectMeta.name)
  return finished (← removeFinalizer object)

def waitingForScaleUp : String :=
  "RabbitmqCluster is scaled to zero replicas; waiting for it to scale up"

def failedParseClusterRef (err : GoError) : String :=
  "failed to retrieve cluster from reference" ++ ": " ++ err.error

def handleRMQReferenceParseError (object : Object kind) (err : GoError) :
    Prog (Object kind) (Result × Option GoError) :=
  if err.is .errNoSuchRabbitmqCluster ∧ object.objectMeta.deletionTimestamp.isSome then
    releaseWithoutBroker object
  else if err.is .errNoSuchRabbitmqCluster then return ({ requeueAfter := 10 }, some err)
  else if err.is .errClusterScaledToZero ∧ object.objectMeta.deletionTimestamp.isSome then
    releaseWithoutBroker object
  else if err.is .errClusterScaledToZero then do
    eventf .warning "ClusterScaledToZero" "update" waitingForScaleUp
    recordNotReady object waitingForScaleUp
    return ({}, none)
  else if err.is .errResourceNotAllowed then do
    recordNotReady object GoError.errResourceNotAllowed.error
    return ({}, none)
  else do
    eventf .warning "FailedCreateOrUpdate" "update" (failedParseClusterRef err)
    recordNotReady object (failedParseClusterRef err)
    return ({}, some err)

/-- The kind of the object, in lower case. -/
def objKind (kind : Kind) : String := String.ofList (kind.name.toList.map Char.toLower)

/-- The object is marked for deletion. -/
def reconcileDelete (object : Object kind) : Prog (Object kind) (Result × Option GoError) := do
  match ← deleteFunc r.libraries object with
  | .error err => do
      eventf .warning "FailedDelete" "delete" ("failed to delete " ++ objKind kind)
      return ({}, some err)
  | .ok object => do
      eventf .normal "SuccessfulDelete" "delete" ("successfully deleted " ++ objKind kind)
      return finished (← removeFinalizer object)

/-- Record the outcome of a declaration, with the object as it is then in memory. -/
def recordDeclared (object : Object kind) :
    Except GoError Unit → Prog (Object kind) (Result × Option GoError)
  | .error err => do
      eventf .warning "FailedDeclare" "create" ("failed to declare " ++ objKind kind)
      recordNotReady object err.error
      return ({}, some err)
  | .ok () => do
      eventf .normal "SuccessfulDeclare" "create" ("Successfully declare " ++ objKind kind)
      let condition ← ready object.status.conditions
      statusUpdate (setObservedGeneration (object.setStatusConditions [condition]))
      return ({}, none)

/-- The finalizer is in place: declare the entity and record the outcome. -/
def reconcileDeclare (object : Object kind) : Prog (Object kind) (Result × Option GoError) := do
  let declared ← declareFunc r.libraries object
  recordDeclared declared.1 declared.2

/-- A reconcile of an object that was read, with a broker client at hand. -/
def reconcileObject (object : Object kind) : Prog (Object kind) (Result × Option GoError) :=
  if object.objectMeta.deletionTimestamp.isSome then r.reconcileDelete object
  else do
    match ← addFinalizerIfNeeded object with
    | .error err => return ({}, some err)
    | .ok object => r.reconcileDeclare object

/-- `ParseReference` as the reconciler calls it. -/
def resolve (object : Object kind) : Prog (Object kind) (Except GoError (ConnectionCreds × Bool)) :=
  parseReference r.libraries object.rabbitReference object.objectMeta.ns r.kubernetesClusterDomain
    r.connectUsingPlainHTTP

/-- A reconcile of an object that was read. -/
def reconcileRead (object : Object kind) : Prog (Object kind) (Result × Option GoError) := do
  match ← extractSystemCertPool with
  | .error err => return ({}, some err)
  | .ok () =>
      match ← r.resolve object with
      | .error err => handleRMQReferenceParseError object err
      | .ok (creds, tlsEnabled) =>
          match ← generateRabbitholeClient creds tlsEnabled with
          | .error err => return ({}, some err)
          | .ok () => r.reconcileObject object

def reconcile (key : NamespacedName) : Prog (Object kind) (Result × Option GoError) := do
  match ← ask (.get key) with
  | .error err => return ({}, (GoError.api err).ignoreNotFound)
  | .ok object => r.reconcileRead object

end TopologyReconciler

end TopologyOperator
