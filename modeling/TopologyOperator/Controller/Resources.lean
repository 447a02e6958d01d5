import TopologyOperator.Controller.Utils

/-!
# Declaring and deleting broker entities

`DeclareFunc` and `DeleteFunc` of the reconcilers of all kinds but `User`. A run
that ends in `abort` is a nil dereference of the source.
-/

namespace TopologyOperator

variable {Resource : Type} {kind : Kind} (libraries : Libraries)

/-- The end of most delete functions: a missing entity is no error. -/
def deleted (reply : BrokerReply) : Except GoError Unit :=
  ignoreMissing (validateResponseForDeletion reply)

section Deleted

variable {reply : BrokerReply}

/-- A response that is valid for other requests is valid for a deletion. -/
theorem deleted_of_valid (valid : validateResponse reply = .ok ()) : deleted reply = .ok () := by
  have found : validateResponseForDeletion reply = .ok () := by
    unfold validateResponseForDeletion
    split
    · next res answered =>
        refine (if_neg fun missing => ?_).trans valid
        unfold validateResponse at valid
        rw [answered] at valid
        split at valid
        · cases valid
        · dsimp only at valid
          rw [missing] at valid
          cases valid
    · exact valid
  rw [deleted, found]
  rfl

/-- What the broker does not have counts as deleted. -/
theorem deleted_of_notFound (notFound : ∃ body, reply.response = some ⟨404, body⟩) :
    deleted reply = .ok () := by
  obtain ⟨body, response⟩ := notFound
  simp [deleted, validateResponseForDeletion, response, ignoreMissing, GoError.is]

end Deleted

namespace QueueReconciler

def declareFunc (queue : Object .queue) : Prog Resource (Except GoError Unit) :=
  match generateQueueSettings libraries queue with
  | .error err => return .error (.wrapped "failed to generate queue settings: " err "")
  | .ok settings => do
      let reply ← ask (.broker (.declareQueue queue.spec.vhost queue.spec.name settings))
      return validateResponse reply

/-- A quorum queue does not support conditional deletion; its state is read
first. -/
def checkDeletable (queue : Object .queue) : Prog Resource (Except GoError Unit) :=
  if queue.spec.type = "quorum" ∧ (queue.spec.deleteIfEmpty ∨ queue.spec.deleteIfUnused) then do
    match ← ask (.broker (.getQueue queue.spec.vhost queue.spec.name)) with
    | .error err =>
        return .error (.wrapped "cannot get " (.broker err)
          (" queue information to verify queue is empty/unused: " ++ queue.spec.name))
    | .ok info =>
        if 0 < info.messages ∧ queue.spec.deleteIfEmpty then
          return .error (.text ("cannot delete queue " ++ queue.spec.name ++
            " because it has ready messages"))
        else if 0 < info.consumers ∧ queue.spec.deleteIfUnused then
          return .error (.text ("cannot delete queue " ++ queue.spec.name ++
            " because queue has consumers"))
        else return .ok ()
  else return .ok ()

def deleteFunc (queue : Object .queue) : Prog Resource (Except GoError Unit) :=
  if shouldSkipDeletion queue.spec.deletionPolicy then return .ok ()
  else do
    match ← checkDeletable queue with
    | .error err => return .error err
    | .ok () =>
        let reply ← ask (.broker (.deleteQueue queue.spec.vhost queue.spec.name
          (generateQueueDeleteOptions queue)))
        return deleted reply

end QueueReconciler

namespace ExchangeReconciler

def declareFunc (exchange : Object .exchange) : Prog Resource (Except GoError Unit) :=
  match generateExchangeSettings libraries exchange with
  | .error err => return .error (.wrapped "failed to generate exchange settings: " err "")
  | .ok settings => do
      let reply ← ask (.broker (.declareExchange exchange.spec.vhost exchange.spec.name settings))
      return validateResponse reply

def deleteFunc (exchange : Object .exchange) : Prog Resource (Except GoError Unit) := do
  let reply ← ask (.broker (.deleteExchange exchange.spec.vhost exchange.spec.name))
  return deleted reply

end ExchangeReconciler

namespace PolicyReconciler

def declareFunc (policy : Object .policy) : Prog Resource (Except GoError Unit) :=
  match generatePolicy libraries policy with
  | none => .abort
  | some (.error err) => return .error (.wrapped "failed to generate Policy: " err "")
  | some (.ok definition) => do
      let reply ← ask (.broker (.putPolicy policy.spec.vhost policy.spec.name definition))
      return validateResponse reply

def deleteFunc (policy : Object .policy) : Prog Resource (Except GoError Unit) := do
  let reply ← ask (.broker (.deletePolicy policy.spec.vhost policy.spec.name))
  return deleted reply

end PolicyReconciler

namespace OperatorPolicyReconciler

def declareFunc (policy : Object .operatorPolicy) : Prog Resource (Except GoError Unit) :=
  match generateOperatorPolicy libraries policy with
  | none => .abort
  | some (.error err) => return .error (.wrapped "failed to generate OperatorPolicy: " err "")
  | some (.ok definition) => do
      let reply ← ask (.broker (.putOperatorPolicy policy.spec.vhost policy.spec.name definition))
      return validateResponse reply

def deleteFunc (policy : Object .operatorPolicy) : Prog Resource (Except GoError Unit) := do
  let reply ← ask (.broker (.deleteOperatorPolicy policy.spec.vhost policy.spec.name))
  return deleted reply

end OperatorPolicyReconciler

namespace BindingReconciler

def declareFunc (binding : Object .binding) : Prog Resource (Except GoError Unit) :=
  match generateBindingInfo libraries binding with
  | .error err => return .error (.wrapped "failed to generate binding info: " err "")
  | .ok info => do
      let reply ← ask (.broker (.declareBinding binding.spec.vhost info))
      return validateResponse reply

/-- The bindings that the broker holds between source and destination. -/
def listBindingsBetween (binding : Object .binding) :
    Prog Resource (Except BrokerError (List BindingInfo)) :=
  if binding.spec.destinationType = "queue" then
    ask (.broker (.listQueueBindingsBetween binding.spec.vhost binding.spec.source
      binding.spec.destination))
  else
    ask (.broker (.listExchangeBindingsBetween binding.spec.vhost binding.spec.source
      binding.spec.destination))

/-- The last binding with this routing key and these arguments. -/
def findBindingInfo (binding : Object .binding) (extension : RawExtension) :
    Prog Resource (Except GoError (Option BindingInfo)) :=
  match Encoding.Json.unmarshalMap extension.raw with
  | none => return .error (.text (libraries.unmarshalError extension.raw))
  | some arguments => do
      match ← listBindingsBetween binding with
      | .error err => return .error (.broker err)
      | .ok bindingInfos =>
          return .ok (bindingInfos.filter fun info =>
            binding.spec.routingKey = info.routingKey &&
              Encoding.Json.membersDeepEqual info.arguments arguments).getLast?

/-- The binding to delete, if there is one. -/
def deletionInfo (binding : Object .binding) :
    Prog Resource (Except GoError (Option BindingInfo)) :=
  match binding.spec.arguments with
  | some extension => findBindingInfo libraries binding extension
  | none =>
      match generateBindingInfo libraries binding with
      | .error err => return .error (.wrapped "failed to generate binding info: " err "")
      | .ok info => return .ok (some { info with propertiesKey := generatePropertiesKey binding })

def deleteFunc (binding : Object .binding) : Prog Resource (Except GoError Unit) := do
  match ← deletionInfo libraries binding with
  | .error err => return .error err
  | .ok none => return .ok ()
  | .ok (some info) =>
      let reply ← ask (.broker (.deleteBinding binding.spec.vhost info))
      return deleted reply

end BindingReconciler

/-- `getUserLimits` and `getVhostLimits`: a 404 or an empty answer means that no
limits are set. -/
def currentLimits : Except BrokerError (List LimitsValues) → Except GoError LimitsValues
  | .error err => if (GoError.broker err).is .rabbithole404 then .ok [] else .error (.broker err)
  | .ok [] => .ok []
  | .ok (limits :: _) => .ok limits

/-- `userLimitsToDelete` and `vhostLimitsToDelete`: the managed keys that are set
and no longer wanted. -/
def limitsToDelete (keys : List String) (existing new : LimitsValues) : List String :=
  keys.filter fun limit => (existing.lookup limit).isSome && (new.lookup limit).isNone

/-- Delete outdated limits, if there are any. -/
def deleteOutdated (outdated : List String) (delete : List String → Prog Resource BrokerReply) :
    Prog Resource (Except GoError Unit) :=
  if outdated = [] then return .ok ()
  else do
    let reply ← delete outdated
    return deleted reply

/-- The limits part of the declare functions of users and virtual hosts. -/
def reconcileLimits (keys : List String) (new : LimitsValues)
    (get : Prog Resource (Except BrokerError (List LimitsValues)))
    (delete : List String → Prog Resource BrokerReply)
    (put : LimitsValues → Prog Resource BrokerReply) : Prog Resource (Except GoError Unit) := do
  match currentLimits (← get) with
  | .error err => return .error err
  | .ok existing =>
      match ← deleteOutdated (limitsToDelete keys existing new) delete with
      | .error err => return .error err
      | .ok () =>
          if new = [] then return .ok ()
          else do
            let reply ← put new
            return validateResponse reply

namespace VhostReconciler

def declareFunc (vhost : Object .vhost) : Prog Resource (Except GoError Unit) := do
  let reply ← ask (.broker (.putVhost vhost.spec.name (generateVhostSettings vhost)))
  match validateResponse reply with
  | .error err => return .error err
  | .ok () =>
      reconcileLimits ["max-connections", "max-queues"] (generateVhostLimits vhost.spec.vhostLimits)
        (ask (.broker (.getVhostLimits vhost.spec.name)))
        (fun limits => ask (.broker (.deleteVhostLimits vhost.spec.name limits)))
        (fun limits => ask (.broker (.putVhostLimits vhost.spec.name limits)))

def deleteFunc (vhost : Object .vhost) : Prog Resource (Except GoError Unit) :=
  if shouldSkipDeletion vhost.spec.deletionPolicy then return .ok ()
  else do
    let reply ← ask (.broker (.deleteVhost vhost.spec.name))
    return deleted reply

end VhostReconciler

/-- The Secret with a URI, read through the cache. -/
def getUriSecret (ns : String) (reference : LocalObjectReference) :
    Prog Resource (Except GoError Secret) := do
  match ← ask (.getSecret .cache ⟨ns, reference.name⟩) with
  | .error err => return .error (.api err)
  | .ok secret => return .ok secret

/-- A key of a Secret that has to be there. -/
def secretKey (secret : Secret) (key : String) : Except GoError String :=
  match secret.data.lookup key with
  | some value => .ok value
  | none =>
      .error (.text ("could not find key '" ++ key ++ "' in secret " ++ secret.objectMeta.name))

namespace FederationReconciler

def getUri (ns : String) (reference : LocalObjectReference) :
    Prog Resource (Except GoError String) := do
  match ← getUriSecret ns reference with
  | .error err => return .error err
  | .ok secret => return secretKey secret "uri"

/-- Without a URI secret, formatting the error dereferences the missing
reference. -/
def declareFunc (federation : Object .federation) : Prog Resource (Except GoError Unit) :=
  match federation.spec.uriSecret with
  | none => .abort
  | some reference => do
      match ← getUri federation.objectMeta.ns reference with
      | .error err =>
          return .error (.wrapped ("failed to parse federation uri secret; secret name: " ++
            reference.name ++ ", error: ") err "")
      | .ok uri =>
          let reply ← ask (.broker (.putFederationUpstream federation.spec.vhost
            federation.spec.name (generateFederationDefinition federation uri)))
          return validateResponse reply

def deleteFunc (federation : Object .federation) : Prog Resource (Except GoError Unit) :=
  if shouldSkipDeletion federation.spec.deletionPolicy then return .ok ()
  else do
    let reply ← ask (.broker (.deleteFederationUpstream federation.spec.vhost
      federation.spec.name))
    return deleted reply

end FederationReconciler

namespace ShovelReconciler

def getUris (ns : String) (reference : LocalObjectReference) :
    Prog Resource (Except GoError (String × String)) := do
  match ← getUriSecret ns reference with
  | .error err => return .error err
  | .ok secret =>
      match secretKey secret "srcUri" with
      | .error err => return .error err
      | .ok srcUri =>
          match secretKey secret "destUri" with
          | .error err => return .error err
          | .ok destUri => return .ok (srcUri, destUri)

/-- As for a federation, a missing URI secret is dereferenced. -/
def declareFunc (shovel : Object .shovel) : Prog Resource (Except GoError Unit) :=
  match shovel.spec.uriSecret with
  | none => .abort
  | some reference => do
      match ← getUris shovel.objectMeta.ns reference with
      | .error err =>
          return .error (.wrapped ("failed to parse shovel uri secret; secret name: " ++
            reference.name ++ ", error: ") err "")
      | .ok (srcUri, destUri) =>
          match generateShovelDefinition libraries shovel srcUri destUri with
          | .error err => return .error (.wrapped "failed to generate shovel definition: " err "")
          | .ok definition =>
              let reply ← ask (.broker (.declareShovel shovel.spec.vhost shovel.spec.name
                definition))
              return validateResponse reply

def deleteFunc (shovel : Object .shovel) : Prog Resource (Except GoError Unit) :=
  if shouldSkipDeletion shovel.spec.deletionPolicy then return .ok ()
  else do
    let reply ← ask (.broker (.deleteShovel shovel.spec.vhost shovel.spec.name))
    return deleted reply

end ShovelReconciler

namespace SchemaReplicationReconciler

def schemaReplicationParameterName : String := "schema_definition_sync_upstream"

/-- The path in the secret store; empty if there is none. -/
def vaultSecretPath (replication : Object .schemaReplication) : String :=
  (replication.spec.vault.map (·.secretPath)).getD ""

/-- The Secret with the upstream credentials. With a secret store it is built
from the credentials found there. -/
def getUpstreamSecret (replication : Object .schemaReplication) :
    Prog Resource (Except GoError Secret) :=
  if vaultSecretPath replication ≠ "" then do
    match ← ask .secretStoreClient with
    | .error err =>
        return .error (.wrapped "unable to create a vault client connection to secret store: "
          (.text err) "")
    | .ok () =>
        match ← ask (.readCredentials (vaultSecretPath replication)) with
        | .error err =>
            return .error (.wrapped "unable to retrieve credentials from secret store: "
              (.text err) "")
        | .ok (user, pass) =>
            return .ok ⟨{ name := "", ns := "" }, [("username", user), ("password", pass)]⟩
  else match replication.spec.upstreamSecret with
    | none => return .error (.text "no upstream secret or secretBackend provided")
    | some reference => getUriSecret replication.objectMeta.ns reference

def getUpstreamEndpoints (replication : Object .schemaReplication) :
    Prog Resource (Except GoError UpstreamEndpoints) := do
  match ← getUpstreamSecret replication with
  | .error err => return .error err
  | .ok secret => return generateSchemaReplicationParameters secret replication.spec.endpoints

def declareFunc (replication : Object .schemaReplication) :
    Prog Resource (Except GoError Unit) := do
  match ← getUpstreamEndpoints replication with
  | .error err => return .error (.wrapped "failed to generate upstream endpoints: " err "")
  | .ok endpoints =>
      let reply ← ask (.broker (.putGlobalParameter schemaReplicationParameterName endpoints))
      return validateResponse reply

def deleteFunc : Prog Resource (Except GoError Unit) := do
  let reply ← ask (.broker (.deleteGlobalParameter schemaReplicationParameterName))
  return deleted reply

end SchemaReplicationReconciler

def apiVersion : String := "rabbitmq.com/v1beta1"

/-- A `User` that does not exist is no error. -/
def getUsernameFromUser (ns name : String) :
    Prog Resource (Except GoError (Option (Object .user))) := do
  match ← ask (.getObject .user ⟨ns, name⟩) with
  | .error err =>
      if (GoError.api err).isNotFound then return .ok none else return .error (.api err)
  | .ok user => return .ok (some user)

/-- Make the user the controller of the permission and store that. -/
def setOwner (user : Object .user) (permission : Object kind) :
    Prog (Object kind) (Object kind × Except GoError Unit) :=
  if user.objectMeta.name = "" then return (permission, .ok ())
  else match setControllerReference apiVersion "User" user.objectMeta permission.objectMeta with
    | .error err => return (permission, .error (.text ("failed set controller reference: " ++ err)))
    | .ok objectMeta => do
        match ← ask (.update { permission with objectMeta := objectMeta }) with
        | .error err =>
            return ({ permission with objectMeta := objectMeta }, .error (.wrapped
              "failed to Update object with controller reference: " (.api err) ""))
        | .ok version =>
            return (
              ({ permission with objectMeta := objectMeta } : Object kind).withVersion version,
              .ok ())

def missingUser : GoError := .text "failed create Permission, missing User"

/-- `DeclareFunc` of permissions and topic permissions. A referenced user that
does not exist is dereferenced if `spec.user` is set as well. -/
def declareForUser (specUser : String) (userReference : Option LocalObjectReference)
    (permission : Object kind) (grant : String → Prog (Object kind) BrokerReply) :
    Prog (Object kind) (Object kind × Except GoError Unit) :=
  match userReference with
  | none =>
      if specUser = "" then return (permission, .error missingUser)
      else do
        let reply ← grant specUser
        return (permission, validateResponse reply)
  | some reference => do
      match ← getUsernameFromUser permission.objectMeta.ns reference.name with
      | .error err => return (permission, .error err)
      | .ok none => if specUser = "" then return (permission, .error missingUser) else .abort
      | .ok (some user) =>
          if user.status.username = "" then return (permission, .error missingUser)
          else do
            let owned ← setOwner user permission
            match owned.2 with
            | .error err => return (owned.1, .error err)
            | .ok () =>
                let reply ← grant user.status.username
                return (owned.1, validateResponse reply)

/-- The user to revoke from; empty if there is none any more. -/
def userToRevoke (specUser : String) (userReference : Option LocalObjectReference)
    (ns : String) : Prog Resource (Except GoError String) :=
  match userReference with
  | none => return .ok specUser
  | some reference => do
      match ← getUsernameFromUser ns reference.name with
      | .error err => return .error err
      | .ok none => return .ok specUser
      | .ok (some user) => return .ok user.status.username

/-- `DeleteFunc` of permissions and topic permissions, which removes the
finalizer itself. -/
def deleteForUser (specUser : String) (userReference : Option LocalObjectReference)
    (permission : Object kind) (revoke : String → Prog (Object kind) BrokerReply) :
    Prog (Object kind) (Except GoError (Object kind)) := do
  match ← userToRevoke specUser userReference permission.objectMeta.ns with
  | .error err => return .error err
  | .ok username =>
      if username = "" then removeFinalizer permission
      else do
        let reply ← revoke username
        match deleted reply with
        | .error err => return .error err
        | .ok () => removeFinalizer permission

namespace PermissionReconciler

def declareFunc (permission : Object .permission) :
    Prog (Object .permission) (Object .permission × Except GoError Unit) :=
  declareForUser permission.spec.user permission.spec.userReference permission fun username =>
    ask (.broker (.updatePermissionsIn permission.spec.vhost username
      (generatePermissions permission)))

def deleteFunc (permission : Object .permission) :
    Prog (Object .permission) (Except GoError (Object .permission)) :=
  deleteForUser permission.spec.user permission.spec.userReference permission fun username =>
    ask (.broker (.clearPermissionsIn permission.spec.vhost username))

end PermissionReconciler

namespace TopicPermissionReconciler

def declareFunc (permission : Object .topicPermission) :
    Prog (Object .topicPermission) (Object .topicPermission × Except GoError Unit) :=
  declareForUser permission.spec.user permission.spec.userReference permission fun username =>
    ask (.broker (.updateTopicPermissionsIn permission.spec.vhost username
      (generateTopicPermissions permission)))

def deleteFunc (permission : Object .topicPermission) :
    Prog (Object .topicPermission) (Except GoError (Object .topicPermission)) :=
  deleteForUser permission.spec.user permission.spec.userReference permission fun username =>
    ask (.broker (.deleteTopicPermissionsIn permission.spec.vhost username
      permission.spec.permissions.exchange))

end TopicPermissionReconciler

end TopologyOperator
