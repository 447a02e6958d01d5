import TopologyOperator.Client.Request

/-!
# Validating webhooks

`ValidateCreate` and `ValidateUpdate` of the twelve kinds and of the super
stream. Validators of kinds that refer to Secrets read them; a run that ends in
`abort` is a panic, which the API server takes as a rejection.
-/

namespace TopologyOperator

open Encoding (Json.unmarshalMap Json.mapsEqual)

inductive FieldErrorType where
  | forbidden
  | required
  | invalid
  deriving DecidableEq

/-- The value that `field.Invalid` reports. -/
inductive BadValue where
  | absent
  | string (value : String)
  | bool (value : Bool)
  | optionalBool (value : Option Bool)
  | extension (value : Option RawExtension)
  deriving DecidableEq

structure FieldError where
  type : FieldErrorType
  field : List String
  badValue : BadValue := .absent
  detail : String
  deriving DecidableEq

inductive AdmissionError where
  /-- `apierrors.NewForbidden` -/
  | forbidden (resource name : String) (err : FieldError)
  /-- `apierrors.NewInvalid` -/
  | invalid (resource name : String) (errs : List FieldError)
  /-- `apierrors.NewInternalError` -/
  | internal (err : GoError)
  /-- A field error on its own. -/
  | field (err : FieldError)
  /-- `ToAggregate` of a non-empty list. -/
  | aggregate (errs : List FieldError)
  | other (err : GoError)
  deriving DecidableEq

/-- Reject unless a condition holds. -/
def require {ε : Type} (holds : Bool) (err : ε) : Except ε Unit :=
  if holds then .ok () else .error err

/-- A requirement accepts exactly if it holds. -/
@[simp] theorem require_eq_ok {ε : Type} {holds : Bool} {err : ε} {value : Unit} :
    require holds err = .ok value ↔ holds = true := by
  unfold require
  split <;> simp_all

/-- `field.Invalid` unless a condition holds. -/
def invalidUnless (holds : Bool) (path : List String) (badValue : BadValue) (detail : String) :
    List FieldError :=
  if holds then [] else [⟨.invalid, path, badValue, detail⟩]

@[simp] theorem invalidUnless_eq_nil {holds : Bool} {path : List String} {badValue : BadValue}
    {detail : String} : invalidUnless holds path badValue detail = [] ↔ holds = true := by
  unfold invalidUnless
  split <;> simp_all

/-- Accept unless errors were collected. -/
def aggregate (errs : List FieldError) : Except AdmissionError Unit :=
  require errs.isEmpty (.aggregate errs)

@[simp] theorem aggregate_eq_ok {errs : List FieldError} {value : Unit} :
    aggregate errs = .ok value ↔ errs = [] := by
  simp [aggregate]

section Checks

variable {Resource : Type} {kind : Kind} (old new : Object kind)

/-- `apierrors.NewForbidden` for a field of the new object. -/
def forbiddenField (path : List String) (detail : String) : AdmissionError :=
  .forbidden kind.name new.objectMeta.name ⟨.forbidden, path, .absent, detail⟩

/-- A field that must not be updated. -/
def frozen {α : Type} [DecidableEq α] (held updated : α) (path : List String) (detail : String) :
    Except AdmissionError Unit :=
  require (updated = held) (forbiddenField new path detail)

/-- A frozen field is accepted exactly if it is left alone. -/
@[simp] theorem frozen_eq_ok {α : Type} [DecidableEq α] {held updated : α} {path : List String}
    {detail : String} {value : Unit} :
    frozen new held updated path detail = .ok value ↔ updated = held := by
  simp [frozen]

/-- The cluster reference must not be updated. -/
def frozenReference (detail : String) : Except AdmissionError Unit :=
  require (old.rabbitReference.matches new.rabbitReference)
    (forbiddenField new ["spec", "rabbitmqClusterReference"] detail)

/-- The cluster reference is accepted exactly if it stays the same. -/
@[simp] theorem frozenReference_eq_ok {detail : String} {value : Unit} :
    frozenReference old new detail = .ok value ↔ new.rabbitReference = old.rabbitReference := by
  simp [frozenReference, RabbitmqClusterReference.matches_iff]

/-- `validateSecretLabel`: a Secret that the cache does not hold is looked up
directly, to tell a missing label from a missing Secret. A validator that is
registered with a manager always has a client. -/
def validateSecretLabel (libraries : Libraries) (ref : Option LocalObjectReference) (ns : String) :
    Prog Resource (Except AdmissionError Unit) :=
  match ref with
  | none => return .ok ()
  | some ref => do
      match ← ask (.getSecret .cache ⟨ns, ref.name⟩) with
      | .ok _ => return .ok ()
      | .error err =>
          if (GoError.api err).isNotFound then
            match ← ask (.getSecret .api ⟨ns, ref.name⟩) with
            | .ok _ =>
                return .error (.other (.text ("secret " ++ libraries.quote ref.name ++
                  " must have label " ++ topologyOperatorLabel ++ "=" ++
                  topologyOperatorLabelValue ++ " to be used by the Topology Operator")))
            | .error _ =>
                return .error (.other (.text ("secret " ++ libraries.quote ref.name ++
                  " not found in namespace " ++ libraries.quote ns)))
          else return .error (.other (.api err))

/-- Continue with a second validation if the first accepts. -/
def andThen (first : Except AdmissionError Unit)
    (next : Prog Resource (Except AdmissionError Unit)) :
    Prog Resource (Except AdmissionError Unit) :=
  match first with
  | .error err => return .error err
  | .ok () => next

/-- The end of every `ValidateCreate`: the label of the connection secret, then
the shape of the reference. -/
def validateReferenceOnCreate (libraries : Libraries) (object : Object kind) :
    Prog Resource (Except AdmissionError Unit) := do
  let reference := object.rabbitReference
  let labelled ← validateSecretLabel libraries reference.connectionSecret
    (reference.connectionSecretNamespace object.objectMeta.ns)
  andThen labelled (return reference.validateOnCreate.mapError .other)

end Checks

section Fields

/-- `validateUsernameFromMeta` -/
def validateUsernameFromMeta (user : Object .user) : Except AdmissionError Unit :=
  require (!(user.spec.usernameFromMeta && user.spec.importCredentialsSecret.isSome))
    (forbiddenField user ["spec", "usernameFromMeta"]
      "usernameFromMeta cannot be set together with spec.importCredentialsSecret")

/-- `validateSecret` of schema replications. -/
def validateSecret (replication : Object .schemaReplication) : Except AdmissionError Unit :=
  match replication.spec.vault with
  | none => .ok ()
  | some vault => do
      require (vault.secretPath ≠ "") (.field ⟨.required,
        ["spec", "secretBackend", "vault", "secretPath"], .absent,
        "must specify secretBackend.vault.secretPath when secretBackend.vault is set"⟩)
      require (replication.spec.endpoints ≠ "") (.field ⟨.required, ["spec", "endpoints"], .absent,
        "endpoints must be set when secretBackend.vault is set"⟩)

def amqp10Validate (shovel : Object .shovel) : Except AdmissionError Unit := do
  require (!(shovel.spec.sourceProtocol = "amqp10" && shovel.spec.sourceAddress = ""))
    (.field ⟨.required, ["spec", "srcAddress"], .absent,
      "must specify spec.srcAddress when spec.srcProtocol is amqp10"⟩)
  require (!(shovel.spec.destinationProtocol = "amqp10" && shovel.spec.destinationAddress = ""))
    (.field ⟨.required, ["spec", "destAddress"], .absent,
      "must specify spec.destAddress when spec.destProtocol is amqp10"⟩)

/-- Exactly one of user and user reference; `reject` wraps the field error. -/
def validateUser (reject : FieldError → AdmissionError) (user : String)
    (userReference : Option LocalObjectReference) : Except AdmissionError Unit := do
  require (!(user = "" && userReference.isNone)) (reject ⟨.required,
    ["spec", "user and userReference"], .absent,
    "must specify either spec.user or spec.userReference"⟩)
  require (!(user ≠ "" && userReference.isSome)) (reject ⟨.required,
    ["spec", "user and userReference"], .absent,
    "cannot specify spec.user and spec.userReference at the same time"⟩)

/-- A quorum queue has to be durable. -/
def validateDurable (queue : Object .queue) : Except AdmissionError Unit :=
  require (!(queue.spec.type = "quorum" && !queue.spec.durable.getD false))
    (forbiddenField queue ["spec", "durable"] "Quorum queues must have durable set to true")

def userReferenceUpdated : (new old : Option LocalObjectReference) → Bool
  | none, none => false
  | none, some _ => true
  | some _, none => true
  | some new, some old => new.name ≠ old.name

/-- A user reference is not updated exactly if it stays the same. -/
theorem userReferenceUpdated_eq_false {new old : Option LocalObjectReference} :
    userReferenceUpdated new old = false ↔ new = old := by
  rcases new with _ | ⟨⟨new⟩⟩ <;> rcases old with _ | ⟨⟨old⟩⟩ <;> simp [userReferenceUpdated]

end Fields

/-- `ValidateCreate` of each kind. -/
def validateCreate (libraries : Libraries) : {kind : Kind} → Object kind →
    Prog (Object kind) (Except AdmissionError Unit)
  | .binding, object => validateReferenceOnCreate libraries object
  | .exchange, object => validateReferenceOnCreate libraries object
  | .federation, object => do
      let labelled ← validateSecretLabel libraries object.spec.uriSecret object.objectMeta.ns
      andThen labelled (validateReferenceOnCreate libraries object)
  | .operatorPolicy, object => validateReferenceOnCreate libraries object
  | .permission, object =>
      andThen (validateUser .field object.spec.user object.spec.userReference)
        (validateReferenceOnCreate libraries object)
  | .policy, object => validateReferenceOnCreate libraries object
  | .queue, object =>
      andThen (validateDurable object) (validateReferenceOnCreate libraries object)
  | .schemaReplication, object =>
      andThen (validateSecret object) do
        let labelled ← validateSecretLabel libraries object.spec.upstreamSecret object.objectMeta.ns
        andThen labelled (validateReferenceOnCreate libraries object)
  | .shovel, object =>
      andThen (amqp10Validate object) do
        let labelled ← validateSecretLabel libraries object.spec.uriSecret object.objectMeta.ns
        andThen labelled (validateReferenceOnCreate libraries object)
  | .topicPermission, object =>
      andThen (validateUser .field object.spec.user object.spec.userReference)
        (validateReferenceOnCreate libraries object)
  | .user, object =>
      andThen (validateUsernameFromMeta object) do
        let labelled ← validateSecretLabel libraries object.spec.importCredentialsSecret
          object.objectMeta.ns
        andThen labelled (validateReferenceOnCreate libraries object)
  | .vhost, object => validateReferenceOnCreate libraries object

namespace BindingCustomValidator

def validateUpdate (old new : Object .binding) : Except AdmissionError Unit := do
  let detail := "updates on vhost and rabbitmqClusterReference are all forbidden"
  frozen new old.spec.vhost new.spec.vhost ["spec", "vhost"] detail
  frozenReference old new detail
  aggregate (
    invalidUnless (new.spec.source = old.spec.source) ["spec", "source"]
      (.string new.spec.source) "source cannot be updated" ++
    invalidUnless (new.spec.destination = old.spec.destination) ["spec", "destination"]
      (.string new.spec.destination) "destination cannot be updated" ++
    invalidUnless (new.spec.destinationType = old.spec.destinationType) ["spec", "destinationType"]
      (.string new.spec.destinationType) "destinationType cannot be updated" ++
    invalidUnless (new.spec.routingKey = old.spec.routingKey) ["spec", "routingKey"]
      (.string new.spec.routingKey) "routingKey cannot be updated" ++
    invalidUnless (new.spec.arguments = old.spec.arguments) ["spec", "arguments"]
      (.extension new.spec.arguments) "arguments cannot be updated")

end BindingCustomValidator

namespace ExchangeCustomValidator

def validateUpdate (old new : Object .exchange) : Except AdmissionError Unit := do
  let detail := "updates on name, vhost, and rabbitmqClusterReference are all forbidden"
  frozen new old.spec.name new.spec.name ["spec", "name"] detail
  frozen new old.spec.vhost new.spec.vhost ["spec", "vhost"] detail
  frozenReference old new detail
  aggregate (
    invalidUnless (new.spec.type = old.spec.type) ["spec", "type"]
      (.string new.spec.type) "exchange type cannot be updated" ++
    invalidUnless (new.spec.autoDelete = old.spec.autoDelete) ["spec", "autoDelete"]
      (.bool new.spec.autoDelete) "autoDelete cannot be updated" ++
    invalidUnless (new.spec.durable = old.spec.durable) ["spec", "durable"]
      (.bool new.spec.durable) "durable cannot be updated")

end ExchangeCustomValidator

/-- The fields that federations, policies, operator policies and shovels freeze. -/
def frozenNameVhostReference {kind : Kind} (old new : Object kind)
    (oldName newName oldVhost newVhost : String) : Except AdmissionError Unit := do
  let detail := "updates on name, vhost and rabbitmqClusterReference are all forbidden"
  frozen new oldName newName ["spec", "name"] detail
  frozen new oldVhost newVhost ["spec", "vhost"] detail
  frozenReference old new detail

namespace FederationCustomValidator

def validateUpdate (libraries : Libraries) (old new : Object .federation) :
    Prog (Object .federation) (Except AdmissionError Unit) :=
  andThen (frozenNameVhostReference old new old.spec.name new.spec.name old.spec.vhost
    new.spec.vhost) (validateSecretLabel libraries new.spec.uriSecret new.objectMeta.ns)

end FederationCustomValidator

namespace OperatorPolicyCustomValidator

def validateUpdate (old new : Object .operatorPolicy) : Except AdmissionError Unit :=
  frozenNameVhostReference old new old.spec.name new.spec.name old.spec.vhost new.spec.vhost

end OperatorPolicyCustomValidator

namespace PolicyCustomValidator

def validateUpdate (old new : Object .policy) : Except AdmissionError Unit :=
  frozenNameVhostReference old new old.spec.name new.spec.name old.spec.vhost new.spec.vhost

end PolicyCustomValidator

namespace PermissionCustomValidator

def validateUpdate (old new : Object .permission) : Except AdmissionError Unit := do
  validateUser (fun err => .invalid "Permission" new.objectMeta.name [err]) new.spec.user
    new.spec.userReference
  let detail :=
    "updates on user, userReference, vhost and rabbitmqClusterReference are all forbidden"
  frozen new old.spec.user new.spec.user ["spec", "user"] detail
  require (!userReferenceUpdated new.spec.userReference old.spec.userReference)
    (forbiddenField new ["spec", "userReference"] detail)
  frozen new old.spec.vhost new.spec.vhost ["spec", "vhost"] detail
  frozenReference old new detail

end PermissionCustomValidator

namespace TopicPermissionCustomValidator

def validateUpdate (old new : Object .topicPermission) : Except AdmissionError Unit := do
  validateUser (fun err => .invalid "TopicPermission" new.objectMeta.name [err]) new.spec.user
    new.spec.userReference
  let detail :=
    "updates on exchange, user, userReference, vhost and rabbitmqClusterReference are all forbidden"
  frozen new old.spec.permissions.exchange new.spec.permissions.exchange
    ["spec", "permissions", "exchange"] detail
  frozen new old.spec.user new.spec.user ["spec", "user"] detail
  require (!userReferenceUpdated new.spec.userReference old.spec.userReference)
    (forbiddenField new ["spec", "userReference"] detail)
  frozen new old.spec.vhost new.spec.vhost ["spec", "vhost"] detail
  frozenReference old new detail

end TopicPermissionCustomValidator

namespace SchemaReplicationCustomValidator

def validateUpdate (libraries : Libraries) (old new : Object .schemaReplication) :
    Prog (Object .schemaReplication) (Except AdmissionError Unit) :=
  andThen (do
    validateSecret new
    frozenReference old new "update on rabbitmqClusterReference is forbidden")
    (validateSecretLabel libraries new.spec.upstreamSecret new.objectMeta.ns)

end SchemaReplicationCustomValidator

namespace ShovelCustomValidator

def validateUpdate (libraries : Libraries) (old new : Object .shovel) :
    Prog (Object .shovel) (Except AdmissionError Unit) :=
  andThen (do
    amqp10Validate new
    frozenNameVhostReference old new old.spec.name new.spec.name old.spec.vhost new.spec.vhost)
    (validateSecretLabel libraries new.spec.uriSecret new.objectMeta.ns)

end ShovelCustomValidator

namespace UserCustomValidator

/-- The only validator that looks at the deletion timestamp. -/
def validateUpdate (libraries : Libraries) (old new : Object .user) :
    Prog (Object .user) (Except AdmissionError Unit) :=
  andThen (frozenReference old new "update on rabbitmqClusterReference is forbidden")
    (if new.objectMeta.deletionTimestamp = none then
      andThen (validateUsernameFromMeta new)
        (validateSecretLabel libraries new.spec.importCredentialsSecret new.objectMeta.ns)
    else return .ok ())

end UserCustomValidator

namespace VhostCustomValidator

def validateUpdate (old new : Object .vhost) : Except AdmissionError Unit := do
  let detail := "updates on name and rabbitmqClusterReference are all forbidden"
  frozen new old.spec.name new.spec.name ["spec", "name"] detail
  frozenReference old new detail

end VhostCustomValidator

namespace QueueCustomValidator

/-- The checks on the arguments. Maps are compared in an arbitrary order, and the
comparison of two values that Go cannot compare is a panic. -/
def validateArguments (libraries : Libraries) (old new : Option RawExtension) :
    Prog (Object .queue) (Except AdmissionError (List FieldError)) :=
  let changed := [⟨.invalid, ["spec", "arguments"], .extension new,
    "queue arguments cannot be updated"⟩]
  match old, new with
  | none, none => return .ok []
  | some _, none => return .ok changed
  | none, some _ => return .ok changed
  | some old, some new =>
      match Json.unmarshalMap old.raw with
      | none =>
          return .error (.internal (.wrapped "error unmarshalling previous Queue arguments: "
            (.text (libraries.unmarshalError old.raw)) ""))
      | some previousArgs =>
          match Json.unmarshalMap new.raw with
          | none =>
              return .error (.internal (.wrapped "error unmarshalling current Queue arguments: "
                (.text (libraries.unmarshalError new.raw)) ""))
          | some updatedArgs => do
              let order ← ask (.iterationOrder previousArgs)
              match Json.mapsEqual order.val previousArgs updatedArgs with
              | none => .abort
              | some same => return .ok (if same then [] else changed)

/-- The fields that reject an update at once. -/
def frozenFields (old new : Object .queue) : Except AdmissionError Unit := do
  let detail := "updates on name, vhost, and rabbitmqClusterReference are all forbidden"
  frozen new old.spec.name new.spec.name ["spec", "name"] detail
  frozen new old.spec.vhost new.spec.vhost ["spec", "vhost"] detail
  frozenReference old new detail

/-- The errors that are collected before the arguments are looked at. -/
def changedFields (old new : Object .queue) : List FieldError :=
  invalidUnless (new.spec.type = old.spec.type) ["spec", "type"]
    (.string new.spec.type) "queue type cannot be updated" ++
  invalidUnless (new.spec.autoDelete = old.spec.autoDelete) ["spec", "autoDelete"]
    (.bool new.spec.autoDelete) "autoDelete cannot be updated" ++
  invalidUnless (new.spec.durable.getD false = old.spec.durable.getD false) ["spec", "durable"]
    (.optionalBool new.spec.durable) "durable cannot be updated"

def validateUpdate (libraries : Libraries) (old new : Object .queue) :
    Prog (Object .queue) (Except AdmissionError Unit) :=
  andThen (frozenFields old new) do
    match ← validateArguments libraries old.spec.arguments new.spec.arguments with
    | .error err => return .error err
    | .ok errs => return aggregate (changedFields old new ++ errs)

end QueueCustomValidator

/-- `ValidateUpdate` of each kind. -/
def validateUpdate (libraries : Libraries) : {kind : Kind} → (old new : Object kind) →
    Prog (Object kind) (Except AdmissionError Unit)
  | .binding, old, new => return BindingCustomValidator.validateUpdate old new
  | .exchange, old, new => return ExchangeCustomValidator.validateUpdate old new
  | .federation, old, new => FederationCustomValidator.validateUpdate libraries old new
  | .operatorPolicy, old, new => return OperatorPolicyCustomValidator.validateUpdate old new
  | .permission, old, new => return PermissionCustomValidator.validateUpdate old new
  | .policy, old, new => return PolicyCustomValidator.validateUpdate old new
  | .queue, old, new => QueueCustomValidator.validateUpdate libraries old new
  | .schemaReplication, old, new =>
      SchemaReplicationCustomValidator.validateUpdate libraries old new
  | .shovel, old, new => ShovelCustomValidator.validateUpdate libraries old new
  | .topicPermission, old, new => return TopicPermissionCustomValidator.validateUpdate old new
  | .user, old, new => UserCustomValidator.validateUpdate libraries old new
  | .vhost, old, new => return VhostCustomValidator.validateUpdate old new

namespace SuperStreamCustomValidator

def validateCreate (superStream : SuperStream) : Except AdmissionError Unit :=
  superStream.spec.rabbitmqClusterReference.validateOnCreate.mapError .other

/-- The loop over the old keys; reaching past the new keys is a panic. -/
def routingKeysKept : (old new : List String) → Option Bool
  | [], _ => some true
  | _ :: _, [] => none
  | held :: old, updated :: new => if held ≠ updated then some false else routingKeysKept old new

/-- `none` is a panic. -/
def routingKeyUpdatePermitted (old new : List String) : Option Bool :=
  if old.length = 0 ∧ new.length ≠ 0 then some false else routingKeysKept old new

/-- `apierrors.NewForbidden` for a field of the new super stream. -/
def forbiddenField (new : SuperStream) (path : List String) (detail : String) : AdmissionError :=
  .forbidden "SuperStream" new.objectMeta.name ⟨.forbidden, path, .absent, detail⟩

/-- The checks before the routing keys. -/
def frozenFields (old new : SuperStream) : Except AdmissionError Unit := do
  let detail := "updates on name, vhost and rabbitmqClusterReference are all forbidden"
  require (new.spec.name = old.spec.name) (forbiddenField new ["spec", "name"] detail)
  require (new.spec.vhost = old.spec.vhost) (forbiddenField new ["spec", "vhost"] detail)
  require (old.spec.rabbitmqClusterReference.matches new.spec.rabbitmqClusterReference)
    (forbiddenField new ["spec", "rabbitmqClusterReference"] detail)

/-- `none` is a panic. -/
def validateUpdate (old new : SuperStream) : Option (Except AdmissionError Unit) :=
  match frozenFields old new with
  | .error err => some (.error err)
  | .ok () =>
      (routingKeyUpdatePermitted old.spec.routingKeys new.spec.routingKeys).map fun permitted => do
        require permitted (forbiddenField new ["spec", "routingKeys"]
          "updates may only add to the existing list of routing keys")
        require (old.spec.partitions ≤ new.spec.partitions) (forbiddenField new
          ["spec", "partitions"]
          "updates may only increase the partition count, and may not decrease it")

end SuperStreamCustomValidator

end TopologyOperator
