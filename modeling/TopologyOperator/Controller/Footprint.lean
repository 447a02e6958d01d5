import TopologyOperator.Controller.Topology

/-!
# What the controllers ask for

Bounds on the requests of the functions of the topology reconciler, whatever the
answers are. For each function, a lemma `_calls` names the requests that it may issue
and leaves open what is allowed; to bound the function, its users say why these are.
A declare function never writes the object with other finalizers than it had, and a
delete function never declares.
-/

namespace TopologyOperator

open Dialogue Program

variable {Resource α : Type} {kind : Kind} (libraries : Libraries)

/-- A program that only observes. -/
abbrev Observes (program : Prog Resource α) : Prop := program.Calls (·.observes = true)

/-- What only observes is allowed wherever observing is. -/
theorem Observes.calls {program : Prog Resource α} (observes : Observes program)
    {allowed : Request Resource → Prop}
    (implies : ∀ request, request.observes = true → allowed request) : program.Calls allowed :=
  Calls.mono observes implies

section Observers

variable {allowed : Request Resource → Prop}

/-- The requests by which a cluster reference is resolved. -/
def LooksUp : Request Resource → Prop
  | .getRabbitmqCluster _ | .getSecret .. | .getService _ | .secretStoreClient
  | .readCredentials _ => True
  | _ => False

/-- Those that are made once the cluster is found. -/
def LooksInside : Request Resource → Prop
  | .getSecret .. | .getService _ | .secretStoreClient | .readCredentials _ => True
  | _ => False

/-- The default user is read from the secret store or from a Secret. -/
theorem readDefaultUser_looksInside (cluster : RabbitmqCluster) (ns : String) :
    (readDefaultUser cluster ns : Prog Resource _).Calls LooksInside := by
  unfold readDefaultUser
  split
  · refine calls_ask_bind trivial fun opened => ?_
    split
    · trivial
    · refine calls_ask_bind trivial fun found => ?_
      split <;> trivial
  · split
    · trivial
    · refine calls_ask_bind trivial fun found => ?_
      split
      · split <;> trivial
      · trivial

/-- The endpoint is found with one look at a Service. -/
theorem readEndpoint_calls (reads : ∀ key, allowed (.getService key)) (cluster : RabbitmqCluster)
    (reference : LocalObjectReference) (ns clusterDomain : String) (connectUsingHTTP : Bool) :
    (readEndpoint libraries cluster reference ns clusterDomain connectUsingHTTP).Calls
      allowed := by
  unfold readEndpoint
  split
  · trivial
  · refine calls_ask_bind (reads _) fun found => ?_
    split
    · split <;> trivial
    · split
      · trivial
      · split <;> trivial

/-- A cluster that was found is not asked for again. -/
theorem parseCluster_looksInside (cluster : RabbitmqCluster) (ns clusterDomain : String)
    (connectUsingHTTP : Bool) :
    (parseCluster libraries cluster ns clusterDomain connectUsingHTTP :
      Prog Resource _).Calls LooksInside := by
  unfold parseCluster
  split
  · trivial
  · split
    · trivial
    · refine (readDefaultUser_looksInside cluster ns).bind fun credentials => ?_
      split
      · trivial
      · refine (readEndpoint_calls libraries (fun _ => trivial) ..).bind fun endpoint => ?_
        split <;> trivial

/-- Only a reference by name asks for a cluster, and only for the one that it names. -/
theorem parseReference_calls (rmq : RabbitmqClusterReference)
    (requestNamespace clusterDomain : String) (connectUsingHTTP : Bool) :
    (parseReference libraries rmq requestNamespace clusterDomain connectUsingHTTP :
      Prog Resource _).Calls fun request => LooksInside request ∨
        rmq.connectionSecret = none ∧ request = .getRabbitmqCluster
          ⟨rmq.connectionSecretNamespace requestNamespace, rmq.name⟩ := by
  unfold parseReference
  split
  · refine calls_ask_bind (.inl trivial) fun found => ?_
    split
    · trivial
    · split <;> trivial
  · next byName =>
      refine calls_ask_bind (.inr ⟨byName, rfl⟩) fun found => ?_
      split
      · trivial
      · split
        · exact (parseCluster_looksInside libraries ..).mono fun _ => .inl
        · trivial

/-- Resolving a reference is a matter of looking things up. -/
theorem parseReference_looksUp (rmq : RabbitmqClusterReference)
    (requestNamespace clusterDomain : String) (connectUsingHTTP : Bool) :
    (parseReference libraries rmq requestNamespace clusterDomain connectUsingHTTP :
      Prog Resource _).Calls LooksUp := by
  apply (parseReference_calls libraries ..).mono
  rintro request (inside | ⟨-, rfl⟩)
  · cases request <;> trivial
  · trivial

theorem parseReference_observes (rmq : RabbitmqClusterReference)
    (requestNamespace clusterDomain : String) (connectUsingHTTP : Bool) :
    Observes (parseReference libraries rmq requestNamespace clusterDomain connectUsingHTTP :
      Prog Resource _) := by
  apply (parseReference_looksUp libraries ..).mono
  intro request looksUp
  cases request <;> first | rfl | exact looksUp.elim

/-- A client is created at most once. -/
theorem generateRabbitholeClient_calls
    (connects : ∀ uri username password tls, allowed (.newClient uri username password tls))
    (creds : ConnectionCreds) (tlsEnabled : Bool) :
    (generateRabbitholeClient creds tlsEnabled).Calls allowed := by
  unfold generateRabbitholeClient
  split
  · trivial
  · split
    · trivial
    · split
      · trivial
      · refine calls_ask_bind (connects _ _ _ _) fun created => ?_
        split <;> trivial

/-- That the certificates cannot be loaded is published. -/
theorem extractSystemCertPool_calls (loads : allowed .systemCertPool)
    (publish : ∀ note, allowed (.eventf note)) :
    TopologyReconciler.extractSystemCertPool.Calls allowed := by
  refine calls_ask_bind loads fun loaded => ?_
  split
  · exact calls_ask_bind (publish _) fun _ => trivial
  · trivial

/-- The clock is read unless the condition is there already. -/
theorem transitionTime_calls (clock : allowed .now) (type : String) (status : ConditionStatus)
    (conditions : List Condition) : (transitionTime type status conditions).Calls allowed := by
  unfold transitionTime
  split
  · trivial
  · exact calls_ask.mpr clock

theorem ready_calls (clock : allowed .now) (conditions : List Condition) :
    (ready conditions).Calls allowed :=
  (transitionTime_calls clock ..).bind fun _ => trivial

theorem notReady_calls (clock : allowed .now) (msg : String) (conditions : List Condition) :
    (notReady msg conditions).Calls allowed :=
  (transitionTime_calls clock ..).bind fun _ => trivial

theorem passwordSynced_calls (clock : allowed .now) (conditions : List Condition) :
    (passwordSynced conditions).Calls allowed :=
  (transitionTime_calls clock ..).bind fun _ => trivial

/-- A salt is drawn for a password that is not hashed yet. -/
theorem generateUserSettings_calls (salts : allowed .passwordSalt) (credentials : UserCredentials)
    (tags : List String) : (generateUserSettings libraries credentials tags).Calls allowed := by
  unfold generateUserSettings
  split
  · trivial
  · split
    · trivial
    · split
      · trivial
      · exact calls_ask_bind salts fun _ => trivial

/-- The `User` that a permission refers to is looked up by its name. -/
theorem getUsernameFromUser_calls {ns name : String}
    (reads : allowed (.getObject .user ⟨ns, name⟩)) :
    (getUsernameFromUser ns name).Calls allowed := by
  refine calls_ask_bind reads fun found => ?_
  split
  · split <;> trivial
  · trivial

section UriSecret

variable {ns : String} {reference : LocalObjectReference}
  (reads : allowed (.getSecret .cache ⟨ns, reference.name⟩))
include reads

theorem getUriSecret_calls : (getUriSecret ns reference).Calls allowed := by
  refine calls_ask_bind reads fun found => ?_
  split <;> trivial

/-- The URIs of a shovel are in one Secret. -/
theorem getUris_calls : (ShovelReconciler.getUris ns reference).Calls allowed := by
  refine (getUriSecret_calls reads).bind fun found => ?_
  split
  · trivial
  · split
    · trivial
    · split <;> trivial

theorem getUri_calls : (FederationReconciler.getUri ns reference).Calls allowed := by
  refine (getUriSecret_calls reads).bind fun found => ?_
  split <;> trivial

end UriSecret

/-- The credentials of the upstream are read from the secret store or from a Secret. -/
theorem getUpstreamEndpoints_calls (opens : allowed .secretStoreClient)
    (fetches : ∀ path, allowed (.readCredentials path))
    (reads : ∀ key, allowed (.getSecret .cache key)) (replication : Object .schemaReplication) :
    (SchemaReplicationReconciler.getUpstreamEndpoints replication).Calls allowed := by
  have found : (SchemaReplicationReconciler.getUpstreamSecret replication).Calls allowed := by
    unfold SchemaReplicationReconciler.getUpstreamSecret
    split
    · refine calls_ask_bind opens fun opened => ?_
      split
      · trivial
      · refine calls_ask_bind (fetches _) fun found => ?_
        split <;> trivial
    · split
      · trivial
      · exact getUriSecret_calls (reads _)
  refine found.bind fun secret => ?_
  split <;> trivial

/-- The parameters are generated from a Secret, or from what stands in for one. -/
theorem getUpstreamEndpoints_exec {replication : Object .schemaReplication}
    {trace : Trace Resource} {parameters : UpstreamEndpoints}
    (exec : (SchemaReplicationReconciler.getUpstreamEndpoints replication).Exec trace
      (.done (.ok parameters))) :
    ∃ secret, generateSchemaReplicationParameters secret replication.spec.endpoints =
      .ok parameters := by
  obtain ⟨found, _, _, -, -, ends⟩ := exec_bind_done.mp exec
  cases found with
  | error err => cases ends.2
  | ok secret => exact ⟨secret, (Outcome.done.inj ends.2).symm⟩

/-- To find a binding with arguments, those between its ends are listed. -/
theorem deletionInfo_calls
    (lists : ∀ vhost source destination,
      allowed (.broker (.listQueueBindingsBetween vhost source destination)) ∧
      allowed (.broker (.listExchangeBindingsBetween vhost source destination)))
    (binding : Object .binding) :
    (BindingReconciler.deletionInfo libraries binding).Calls allowed := by
  unfold BindingReconciler.deletionInfo
  split
  · unfold BindingReconciler.findBindingInfo
    split
    · trivial
    · refine Calls.bind ?_ fun listed => ?_
      · unfold BindingReconciler.listBindingsBetween
        split
        · exact calls_ask.mpr (lists _ _ _).1
        · exact calls_ask.mpr (lists _ _ _).2
      · split <;> trivial
  · split <;> trivial

/-- Whether a queue may be deleted is seen from the queue alone. -/
theorem checkDeletable_calls {queue : Object .queue}
    (reads : allowed (.broker (.getQueue queue.spec.vhost queue.spec.name))) :
    (QueueReconciler.checkDeletable queue).Calls allowed := by
  unfold QueueReconciler.checkDeletable
  split
  · refine calls_ask_bind reads fun found => ?_
    split
    · trivial
    · split
      · trivial
      · split <;> trivial
  · trivial

/-- Whose permission is revoked may depend on a `User`, which is read. -/
theorem userToRevoke_calls {ns : String}
    (reads : ∀ name, allowed (.getObject .user ⟨ns, name⟩)) (specUser : String)
    (reference : Option LocalObjectReference) :
    (userToRevoke specUser reference ns).Calls allowed := by
  unfold userToRevoke
  split
  · trivial
  · refine (getUsernameFromUser_calls (reads _)).bind fun found => ?_
    split <;> trivial

/-- Credentials are imported from the one Secret that is named. -/
theorem importCredentials_calls {name ns : String}
    (reads : allowed (.getSecret .cache ⟨ns, name⟩)) :
    (UserReconciler.importCredentials name ns).Calls allowed := by
  refine calls_ask_bind reads fun found => ?_
  split
  · trivial
  · split <;> trivial

/-- The credentials of a user are read from their Secret. -/
theorem getUserCredentials_calls {user : Object .user}
    (reads : allowed (.getSecret .cache (UserReconciler.credentialsKey user))) :
    (UserReconciler.getUserCredentials user).Calls allowed := by
  refine calls_ask_bind reads fun found => ?_
  split <;> trivial

end Observers

/-- Observations, and calls of the broker of a certain sort. -/
def BrokerOnly (calls : BrokerCall → Prop) (request : Request Resource) : Prop :=
  request.observes = true ∨ ∃ call, request = .broker call ∧ calls call

section Declare

/-- Calls about one entity. -/
abbrev About (entity : Entity) (call : BrokerCall) : Prop := call.entity = some entity

/-- Calls about one entity that do not declare it. -/
abbrev Removes (entity : Entity) (call : BrokerCall) : Prop :=
  call.declares = false ∧ call.entity = some entity

variable {allowed : Request Resource → Prop}

/-- A queue is declared with the settings that are generated for it. -/
theorem declareQueue_calls {queue : Object .queue}
    (declares : ∀ settings, generateQueueSettings libraries queue = .ok settings →
      allowed (.broker (.declareQueue queue.spec.vhost queue.spec.name settings))) :
    (QueueReconciler.declareFunc libraries queue).Calls allowed := by
  unfold QueueReconciler.declareFunc
  split
  · trivial
  · next settings generated => exact calls_ask_bind (declares settings generated) fun _ => trivial

/-- Before it is deleted, the queue may be read. -/
theorem deleteQueue_calls {queue : Object .queue}
    (reads : allowed (.broker (.getQueue queue.spec.vhost queue.spec.name)))
    (deletes : allowed (.broker (.deleteQueue queue.spec.vhost queue.spec.name
      (generateQueueDeleteOptions queue)))) :
    (QueueReconciler.deleteFunc queue).Calls allowed := by
  unfold QueueReconciler.deleteFunc
  split
  · trivial
  · refine (checkDeletable_calls reads).bind fun deletable => ?_
    split
    · trivial
    · exact calls_ask_bind deletes fun _ => trivial

/-- An exchange is declared with the settings that are generated for it. -/
theorem declareExchange_calls {exchange : Object .exchange}
    (declares : ∀ settings, generateExchangeSettings libraries exchange = .ok settings →
      allowed (.broker (.declareExchange exchange.spec.vhost exchange.spec.name settings))) :
    (ExchangeReconciler.declareFunc libraries exchange).Calls allowed := by
  unfold ExchangeReconciler.declareFunc
  split
  · trivial
  · next settings generated => exact calls_ask_bind (declares settings generated) fun _ => trivial

/-- An exchange is deleted under its name, without a look at it. -/
theorem deleteExchange_calls {exchange : Object .exchange}
    (deletes : allowed (.broker (.deleteExchange exchange.spec.vhost exchange.spec.name))) :
    (ExchangeReconciler.deleteFunc exchange).Calls allowed :=
  calls_ask_bind deletes fun _ => trivial

/-- A policy is put with the definition that is generated for it. -/
theorem declarePolicy_calls {policy : Object .policy}
    (puts : ∀ definition, generatePolicy libraries policy = some (.ok definition) →
      allowed (.broker (.putPolicy policy.spec.vhost policy.spec.name definition))) :
    (PolicyReconciler.declareFunc libraries policy).Calls allowed := by
  unfold PolicyReconciler.declareFunc
  split
  · trivial
  · trivial
  · next definition generated => exact calls_ask_bind (puts definition generated) fun _ => trivial

/-- A policy is deleted under its name. -/
theorem deletePolicy_calls {policy : Object .policy}
    (deletes : allowed (.broker (.deletePolicy policy.spec.vhost policy.spec.name))) :
    (PolicyReconciler.deleteFunc policy).Calls allowed :=
  calls_ask_bind deletes fun _ => trivial

/-- An operator policy is put like a policy. -/
theorem declareOperatorPolicy_calls {policy : Object .operatorPolicy}
    (puts : ∀ definition, generateOperatorPolicy libraries policy = some (.ok definition) →
      allowed (.broker (.putOperatorPolicy policy.spec.vhost policy.spec.name definition))) :
    (OperatorPolicyReconciler.declareFunc libraries policy).Calls allowed := by
  unfold OperatorPolicyReconciler.declareFunc
  split
  · trivial
  · trivial
  · next definition generated => exact calls_ask_bind (puts definition generated) fun _ => trivial

theorem deleteOperatorPolicy_calls {policy : Object .operatorPolicy}
    (deletes : allowed (.broker (.deleteOperatorPolicy policy.spec.vhost policy.spec.name))) :
    (OperatorPolicyReconciler.deleteFunc policy).Calls allowed :=
  calls_ask_bind deletes fun _ => trivial

/-- The entity of a binding whose arguments decode to the given map. -/
def bindingEntity (binding : Object .binding) (arguments : Arguments) : Entity :=
  .binding binding.spec.vhost binding.spec.source binding.spec.destination
    binding.spec.destinationType binding.spec.routingKey arguments

/-- The binding that the delete function addresses. Without arguments, it is the one that
the generated properties key stands for; one with arguments is looked up. -/
def addressedBinding (binding : Object .binding) (arguments : Arguments) : Entity :=
  match binding.spec.arguments with
  | none => .binding binding.spec.vhost binding.spec.source binding.spec.destination
      binding.spec.destinationType (routingKeyOf (generatePropertiesKey binding)) arguments
  | some _ => bindingEntity binding arguments

/-- Nothing but the arguments is decoded. -/
theorem generateBindingInfo_eq_ok {binding : Object .binding} {info : BindingInfo}
    (generated : generateBindingInfo libraries binding = .ok info) :
    ∃ arguments, unmarshalArguments libraries "binding arguments" binding.spec.arguments =
        .ok arguments ∧
      info = ⟨binding.spec.source, binding.spec.vhost, binding.spec.destination,
        binding.spec.destinationType, binding.spec.routingKey, arguments, ""⟩ := by
  unfold generateBindingInfo at generated
  split at generated
  · cases generated
  · next arguments decoded =>
      cases generated
      exact ⟨arguments, decoded, rfl⟩

/-- A binding is declared as it is generated. -/
theorem declareBinding_calls {binding : Object .binding}
    (declares : ∀ info, generateBindingInfo libraries binding = .ok info →
      allowed (.broker (.declareBinding binding.spec.vhost info))) :
    (BindingReconciler.declareFunc libraries binding).Calls allowed := by
  unfold BindingReconciler.declareFunc
  split
  · trivial
  · next info generated => exact calls_ask_bind (declares info generated) fun _ => trivial

/-- A binding is looked for and then deleted. -/
theorem deleteBinding_calls {binding : Object .binding}
    (lists : ∀ vhost source destination,
      allowed (.broker (.listQueueBindingsBetween vhost source destination)) ∧
      allowed (.broker (.listExchangeBindingsBetween vhost source destination)))
    (deletes : ∀ info, allowed (.broker (.deleteBinding binding.spec.vhost info))) :
    (BindingReconciler.deleteFunc libraries binding).Calls allowed := by
  refine (deletionInfo_calls libraries lists binding).bind fun found => ?_
  split
  · trivial
  · trivial
  · exact calls_ask_bind (deletes _) fun _ => trivial

/-- An upstream is put with the URI that was found in the Secret. -/
theorem declareFederation_calls {federation : Object .federation}
    (reads : ∀ key, allowed (.getSecret .cache key))
    (puts : ∀ uri, allowed (.broker (.putFederationUpstream federation.spec.vhost
      federation.spec.name (generateFederationDefinition federation uri)))) :
    (FederationReconciler.declareFunc federation).Calls allowed := by
  unfold FederationReconciler.declareFunc
  split
  · trivial
  · refine (getUri_calls (reads _)).bind fun uri => ?_
    split
    · trivial
    · exact calls_ask_bind (puts _) fun _ => trivial

/-- An upstream is deleted under its name, unless it is to be kept. -/
theorem deleteFederation_calls {federation : Object .federation}
    (deletes : allowed (.broker (.deleteFederationUpstream federation.spec.vhost
      federation.spec.name))) :
    (FederationReconciler.deleteFunc federation).Calls allowed := by
  unfold FederationReconciler.deleteFunc
  split
  · trivial
  · exact calls_ask_bind deletes fun _ => trivial

/-- A shovel is declared with the URIs that were found in the Secret. -/
theorem declareShovel_calls {shovel : Object .shovel}
    (reads : ∀ key, allowed (.getSecret .cache key))
    (declares : ∀ srcUri destUri definition,
      generateShovelDefinition libraries shovel srcUri destUri = .ok definition →
      allowed (.broker (.declareShovel shovel.spec.vhost shovel.spec.name definition))) :
    (ShovelReconciler.declareFunc libraries shovel).Calls allowed := by
  unfold ShovelReconciler.declareFunc
  split
  · trivial
  · refine (getUris_calls (reads _)).bind fun uris => ?_
    split
    · trivial
    · split
      · trivial
      · next generated => exact calls_ask_bind (declares _ _ _ generated) fun _ => trivial

/-- A shovel is deleted under its name, unless it is to be kept. -/
theorem deleteShovel_calls {shovel : Object .shovel}
    (deletes : allowed (.broker (.deleteShovel shovel.spec.vhost shovel.spec.name))) :
    (ShovelReconciler.deleteFunc shovel).Calls allowed := by
  unfold ShovelReconciler.deleteFunc
  split
  · trivial
  · exact calls_ask_bind deletes fun _ => trivial

/-- The parameters that are put were generated from the credentials that were read. -/
theorem declareSchemaReplication_calls {replication : Object .schemaReplication}
    (opens : allowed .secretStoreClient) (fetches : ∀ path, allowed (.readCredentials path))
    (reads : ∀ key, allowed (.getSecret .cache key))
    (puts : ∀ secret parameters,
      generateSchemaReplicationParameters secret replication.spec.endpoints = .ok parameters →
      allowed (.broker (.putGlobalParameter
        SchemaReplicationReconciler.schemaReplicationParameterName parameters))) :
    (SchemaReplicationReconciler.declareFunc replication).Calls allowed := by
  refine (getUpstreamEndpoints_calls opens fetches reads replication).bind_of_exec
    fun found trace exec => ?_
  split
  · trivial
  · obtain ⟨secret, generated⟩ := getUpstreamEndpoints_exec exec
    exact calls_ask_bind (puts secret _ generated) fun _ => trivial

/-- Every schema replication deletes the same parameter. -/
theorem deleteSchemaReplication_calls
    (deletes : allowed (.broker (.deleteGlobalParameter
      SchemaReplicationReconciler.schemaReplicationParameterName))) :
    SchemaReplicationReconciler.deleteFunc.Calls allowed :=
  calls_ask_bind deletes fun _ => trivial

/-- Limits are read, deleted and put by the given programs and nothing else. -/
theorem reconcileLimits_calls {keys : List String}
    {new : LimitsValues} {get : Prog Resource (Except BrokerError (List LimitsValues))}
    {delete : List String → Prog Resource BrokerReply}
    {put : LimitsValues → Prog Resource BrokerReply} (reads : get.Calls allowed)
    (deletes : ∀ limits, (delete limits).Calls allowed)
    (puts : ∀ limits, (put limits).Calls allowed) :
    (reconcileLimits keys new get delete put).Calls allowed := by
  refine reads.bind fun existing => ?_
  split
  · trivial
  · refine Calls.bind ?_ fun removed => ?_
    · unfold deleteOutdated
      split
      · trivial
      · exact (deletes _).bind fun _ => trivial
    · split
      · trivial
      · split
        · trivial
        · exact (puts _).bind fun _ => trivial

/-- A virtual host is put, and its limits are brought up to date. -/
theorem declareVhost_calls {vhost : Object .vhost}
    (puts : allowed (.broker (.putVhost vhost.spec.name (generateVhostSettings vhost))))
    (reads : allowed (.broker (.getVhostLimits vhost.spec.name)))
    (clears : ∀ limits, allowed (.broker (.deleteVhostLimits vhost.spec.name limits)))
    (sets : ∀ limits, allowed (.broker (.putVhostLimits vhost.spec.name limits))) :
    (VhostReconciler.declareFunc vhost).Calls allowed := by
  refine calls_ask_bind puts fun reply => ?_
  split
  · trivial
  · exact reconcileLimits_calls (calls_ask.mpr reads) (fun _ => calls_ask.mpr (clears _))
      (fun _ => calls_ask.mpr (sets _))

/-- A virtual host is deleted under its name, unless it is to be kept. -/
theorem deleteVhost_calls {vhost : Object .vhost}
    (deletes : allowed (.broker (.deleteVhost vhost.spec.name))) :
    (VhostReconciler.deleteFunc vhost).Calls allowed := by
  unfold VhostReconciler.deleteFunc
  split
  · trivial
  · exact calls_ask_bind deletes fun _ => trivial

/-- A user is deleted under the name in the status. -/
theorem deleteUser_calls {user : Object .user}
    (deletes : allowed (.broker (.deleteUser user.status.username))) :
    (UserReconciler.deleteFunc user).Calls allowed := by
  unfold UserReconciler.deleteFunc
  split
  · trivial
  · exact calls_ask_bind deletes fun _ => trivial

end Declare

section Helpers

/-- Retries are bounded like the attempts, if the attempts keep their state good. -/
theorem retryOnConflict_calls {σ : Type} {allowed : Request Resource → Prop} {good : σ → Prop}
    {attempt : σ → Prog Resource (σ × Except GoError Unit)}
    (attempts : ∀ state, good state → (attempt state).Calls allowed)
    (kept : ∀ state trace result, good state → (attempt state).Exec trace (.done result) →
      good result.1)
    (retries : Nat) (state : σ) (holds : good state) :
    (retryOnConflict attempt retries state).Calls allowed := by
  induction retries generalizing state with
  | zero => exact attempts state holds
  | succ retries ih =>
      refine (attempts state holds).bind_of_exec fun result trace exec => ?_
      split
      · split
        · exact ih result.1 (kept state trace result holds exec)
        · trivial
      · trivial

/-- Retries keep the state good like the attempts. -/
theorem retryOnConflict_keeps {σ : Type} {good : σ → Prop}
    {attempt : σ → Prog Resource (σ × Except GoError Unit)}
    (kept : ∀ state trace result, good state → (attempt state).Exec trace (.done result) →
      good result.1)
    {retries : Nat} {state : σ} {trace : Trace Resource} {result : σ × Except GoError Unit}
    (holds : good state)
    (exec : (retryOnConflict attempt retries state).Exec trace (.done result)) :
    good result.1 := by
  induction retries generalizing state trace with
  | zero => exact kept state trace result holds exec
  | succ retries ih =>
      rcases retryOnConflict_succ exec with last | ⟨next, err, first, rest, -, attempt, -, retry⟩
      · exact kept state trace result holds last
      · exact ih (kept state first _ holds attempt) retry

/-- Creating or updating an object asks for what its client asks for. -/
theorem createOrUpdate_calls {β : Type} [DecidableEq β] {allowed : Request Resource → Prop}
    {client : ObjectClient Resource β} {mutate : β → Except GoError β}
    (gets : ∀ object, (client.get object).Calls allowed)
    (creates : ∀ object, (client.create object).Calls allowed)
    (updates : ∀ object, (client.update object).Calls allowed) (object : β) :
    (createOrUpdate client mutate object).Calls allowed := by
  refine (gets object).bind fun found => ?_
  split
  · split
    · split
      · trivial
      · refine (creates _).bind fun created => ?_
        split <;> trivial
    · trivial
  · split
    · trivial
    · split
      · trivial
      · refine (updates _).bind fun updated => ?_
        split <;> trivial

/-- What the status writes of a reconcile leave as it is in the object. -/
structure SameNames (object written : Object kind) : Prop where
  uid : written.objectMeta.uid = object.objectMeta.uid
  username : written.status.username = object.status.username
  credentials : written.status.credentials = object.status.credentials

/-- Conditions are set without touching the names in the status. -/
theorem setStatusConditions_sameNames (object : Object kind) (conditions : List Condition) :
    SameNames object (object.setStatusConditions conditions) := by
  cases kind <;> exact ⟨rfl, rfl, rfl⟩

/-- Observations and writes of the status that keep its names. -/
def StatusOnly (object : Object kind) (request : Request (Object kind)) : Prop :=
  request.observes = true ∨ ∃ written, request = .updateStatus written ∧ SameNames object written

/-- Writing the status in memory keeps its names there. -/
theorem updateStatus_sameNames {object written : Object kind} {trace : Trace (Object kind)}
    {result : Object kind × Except GoError Unit} (same : SameNames object written)
    (exec : (updateStatus written).Exec trace (.done result)) : SameNames object result.1 := by
  obtain ⟨answer, rest, -, stops⟩ := exec_ask_bind.mp exec
  rcases answer with failure | version <;> cases stops.2
  · exact same
  · exact ⟨same.uid, same.username, same.credentials⟩

section Record

variable {allowed : Request (Object kind) → Prop} {object : Object kind}

/-- Storing the status, with retries, writes nothing but the names in memory. -/
theorem statusUpdate_calls {written : Object kind}
    (writes : ∀ state, SameNames object state → allowed (.updateStatus state))
    (same : SameNames object written) :
    (TopologyReconciler.statusUpdate written).Calls allowed := by
  have attempts : ∀ state : Object kind, SameNames object state →
      (updateStatus state).Calls allowed := by
    intro state names
    refine calls_ask_bind (writes state names) fun answer => ?_
    split <;> trivial
  exact (retryOnConflict_calls attempts (fun _ _ _ kept exec => updateStatus_sameNames kept exec)
    _ _ same).bind fun _ => trivial

/-- That the object is not ready is dated and stored. -/
theorem recordNotReady_calls (clock : allowed .now)
    (writes : ∀ written, SameNames object written → allowed (.updateStatus written))
    (msg : String) : (TopologyReconciler.recordNotReady object msg).Calls allowed :=
  (notReady_calls clock ..).bind fun _ =>
    statusUpdate_calls writes (setStatusConditions_sameNames ..)

/-- The outcome of a declaration is published and stored. -/
theorem recordDeclared_calls (clock : allowed .now) (publish : ∀ note, allowed (.eventf note))
    (writes : ∀ written, SameNames object written → allowed (.updateStatus written))
    (outcome : Except GoError Unit) :
    (TopologyReconciler.recordDeclared object outcome).Calls allowed := by
  cases outcome with
  | error err =>
      exact calls_ask_bind (publish _) fun _ =>
        (recordNotReady_calls clock writes err.error).bind fun _ => trivial
  | ok =>
      have stores : ∀ condition, (TopologyReconciler.statusUpdate
          (TopologyReconciler.setObservedGeneration
            (object.setStatusConditions [condition]))).Calls allowed := by
        intro condition
        have names := setStatusConditions_sameNames object [condition]
        exact statusUpdate_calls writes ⟨names.uid, names.username, names.credentials⟩
      exact calls_ask_bind (publish _) fun _ =>
        (ready_calls clock ..).bind fun condition => (stores condition).bind fun _ => trivial

end Record

section Writes

variable {allowed : Request (Object kind) → Prop} {object : Object kind}

/-- Adding the finalizer is one write, or none. -/
theorem addFinalizerIfNeeded_calls (writes : allowed (.update object.withFinalizer)) :
    (addFinalizerIfNeeded object).Calls allowed := by
  unfold addFinalizerIfNeeded
  split
  · refine calls_ask_bind writes fun answer => ?_
    split <;> trivial
  · trivial

/-- Removing the finalizer is one write. -/
theorem removeFinalizer_calls (writes : allowed (.update object.withoutFinalizer)) :
    (removeFinalizer object).Calls allowed := by
  refine calls_ask_bind writes fun answer => ?_
  split <;> trivial

/-- A permission is written with other owners, and as it was otherwise. -/
theorem setOwner_calls
    (owns : ∀ references, allowed (.update { object with
      objectMeta := { object.objectMeta with ownerReferences := references } }))
    (user : Object .user) : (setOwner user object).Calls allowed := by
  unfold setOwner
  split
  · trivial
  · split
    · trivial
    · next objectMeta set =>
        obtain ⟨references, rfl⟩ := setControllerReference_eq set
        refine calls_ask_bind (owns references) fun answer => ?_
        split <;> trivial

variable {specUser : String} {reference : Option LocalObjectReference}

/-- A permission is granted to the user of its spec, or else to the `User` it refers to,
which becomes its owner. -/
theorem declareForUser_calls {grant : String → Prog (Object kind) BrokerReply}
    (reads : ∀ name, allowed (.getObject .user ⟨object.objectMeta.ns, name⟩))
    (owns : ∀ references, allowed (.update { object with
      objectMeta := { object.objectMeta with ownerReferences := references } }))
    (grants : ∀ username, (reference = none → username = specUser) →
      (grant username).Calls allowed) :
    (declareForUser specUser reference object grant).Calls allowed := by
  unfold declareForUser
  split
  · split
    · trivial
    · exact (grants specUser fun _ => rfl).bind fun _ => trivial
  · refine (getUsernameFromUser_calls (reads _)).bind fun found => ?_
    split
    · trivial
    · split <;> trivial
    · split
      · trivial
      · refine (setOwner_calls owns _).bind fun owned => ?_
        split
        · trivial
        · exact (grants _ fun absent => by cases absent).bind fun _ => trivial

/-- A permission is revoked and its finalizer removed. -/
theorem deleteForUser_calls {revoke : String → Prog (Object kind) BrokerReply}
    (reads : ∀ name, allowed (.getObject .user ⟨object.objectMeta.ns, name⟩))
    (releases : allowed (.update object.withoutFinalizer))
    (revokes : ∀ username, (reference = none → username = specUser) →
      (revoke username).Calls allowed) :
    (deleteForUser specUser reference object revoke).Calls allowed := by
  refine (userToRevoke_calls reads specUser reference).bind_of_exec fun found trace exec => ?_
  split
  · trivial
  · next username =>
      have named : reference = none → username = specUser := by
        rintro rfl
        exact Except.ok.inj (Outcome.done.inj exec.2)
      split
      · exact removeFinalizer_calls releases
      · refine (revokes username named).bind fun reply => ?_
        split
        · trivial
        · exact removeFinalizer_calls releases

end Writes

/-- A permission is granted in its virtual host. -/
theorem declarePermission_calls {allowed : Request (Object .permission) → Prop}
    {permission : Object .permission}
    (reads : ∀ name, allowed (.getObject .user ⟨permission.objectMeta.ns, name⟩))
    (owns : ∀ references, allowed (.update { permission with
      objectMeta := { permission.objectMeta with ownerReferences := references } }))
    (grants : ∀ username, (permission.spec.userReference = none →
      username = permission.spec.user) → allowed (.broker (.updatePermissionsIn
        permission.spec.vhost username (generatePermissions permission)))) :
    (PermissionReconciler.declareFunc permission).Calls allowed :=
  declareForUser_calls reads owns fun username given => calls_ask.mpr (grants username given)

/-- A topic permission is granted like a permission. -/
theorem declareTopicPermission_calls {allowed : Request (Object .topicPermission) → Prop}
    {permission : Object .topicPermission}
    (reads : ∀ name, allowed (.getObject .user ⟨permission.objectMeta.ns, name⟩))
    (owns : ∀ references, allowed (.update { permission with
      objectMeta := { permission.objectMeta with ownerReferences := references } }))
    (grants : ∀ username, (permission.spec.userReference = none →
      username = permission.spec.user) → allowed (.broker (.updateTopicPermissionsIn
        permission.spec.vhost username (generateTopicPermissions permission)))) :
    (TopicPermissionReconciler.declareFunc permission).Calls allowed :=
  declareForUser_calls reads owns fun username given => calls_ask.mpr (grants username given)

end Helpers

section Finalizers

/-- The object is written with these finalizers only. -/
def KeepsFinalizers (finalizers : List String) : Request (Object kind) → Prop
  | .update written => written.objectMeta.finalizers = finalizers
  | _ => True

theorem keepsFinalizers_of_brokerOnly {finalizers : List String} {calls : BrokerCall → Prop}
    {request : Request (Object kind)} (only : BrokerOnly calls request) :
    KeepsFinalizers finalizers request := by
  rcases only with observes | ⟨call, rfl, -⟩
  · cases request <;> trivial
  · trivial

/-- After a user was put, the clock is read and the limits are brought up to date. -/
theorem finishUser_calls {allowed : Request (Object .user) → Prop} {username : String}
    (clock : allowed .now) (publish : ∀ note, allowed (.eventf note))
    (limits : ∀ call : BrokerCall, call.limitsUser = some username → allowed (.broker call))
    (user : Object .user) :
    (UserReconciler.finishUser libraries user username).Calls allowed := by
  refine (passwordSynced_calls clock ..).bind fun condition => ?_
  refine calls_ask_bind (publish _) fun _ => ?_
  exact (reconcileLimits_calls (calls_ask.mpr (limits _ rfl))
    (fun _ => calls_ask.mpr (limits _ rfl))
    (fun _ => calls_ask.mpr (limits _ rfl))).bind fun _ => trivial

/-- Finishing a user leaves the names in the status alone. -/
theorem finishUser_sameNames {user : Object .user} {username : String}
    {trace : Trace (Object .user)}
    {result : Object .user × Except GoError Unit}
    (exec : (UserReconciler.finishUser libraries user username).Exec trace (.done result)) :
    SameNames user result.1 := by
  obtain ⟨condition, _, _, -, -, exec⟩ := exec_bind_done.mp exec
  obtain ⟨_, _, -, exec⟩ := exec_ask_bind.mp exec
  obtain ⟨limits, _, _, -, -, stops⟩ := exec_bind_done.mp exec
  cases stops.2
  exact setStatusConditions_sameNames ..

/-- A user is put with fresh settings, and then finished. -/
theorem putUser_calls {allowed : Request (Object .user) → Prop} {username : String}
    (salts : allowed .passwordSalt)
    (puts : ∀ name settings, allowed (.broker (.putUser name settings)))
    (clock : allowed .now) (publish : ∀ note, allowed (.eventf note))
    (limits : ∀ call : BrokerCall, call.limitsUser = some username → allowed (.broker call))
    (user : Object .user) (credentials : UserCredentials) (failure : String) :
    (UserReconciler.putUser libraries user credentials failure username).Calls allowed := by
  refine (generateUserSettings_calls libraries salts ..).bind fun settings => ?_
  split
  · trivial
  · refine calls_ask_bind (puts _ _) fun reply => ?_
    split
    · trivial
    · exact finishUser_calls libraries clock publish limits user

/-- The names of the credentials are recorded with one write of the status. -/
theorem recordCredentials_calls {allowed : Request (Object .user) → Prop} {user : Object .user}
    {username secretName : String}
    (writes : allowed (.updateStatus (UserReconciler.withCredentials user username secretName))) :
    (UserReconciler.recordCredentials user username secretName).Calls allowed := by
  unfold UserReconciler.recordCredentials
  split
  · trivial
  · refine calls_ask_bind writes fun answer => ?_
    split <;> trivial

/-- Generated credentials are drawn at random. -/
theorem generateCredentials_calls {allowed : Request Resource → Prop}
    (draws : ∀ length, allowed (.randomEncodedString length)) (user : Object .user) :
    (UserReconciler.generateCredentials user).Calls allowed := by
  refine Calls.bind ?_ fun username => ?_
  · unfold UserReconciler.generateUsername
    split
    · trivial
    · exact calls_ask.mpr (draws _)
  · split
    · trivial
    · refine calls_ask_bind (draws _) fun password => ?_
      split <;> trivial

/-- Declaring credentials draws random strings and reads and writes Secrets. -/
theorem declareCredentials_calls {allowed : Request Resource → Prop}
    (draws : ∀ length, allowed (.randomEncodedString length))
    (reads : ∀ reader key, allowed (.getSecret reader key))
    (creates : ∀ secret, allowed (.createSecret secret))
    (updates : ∀ secret, allowed (.updateSecret secret)) (user : Object .user) :
    (UserReconciler.declareCredentials user).Calls allowed := by
  refine (generateCredentials_calls draws user).bind fun generated => ?_
  split
  · trivial
  · have attempts : ∀ secret : Secret, True →
        (createOrUpdate UserReconciler.secretClient (UserReconciler.labelAndOwn user)
          secret).Calls allowed :=
      fun secret _ => createOrUpdate_calls (fun _ => calls_ask.mpr (reads _ _))
        (fun _ => calls_ask.mpr (creates _)) (fun _ => calls_ask.mpr (updates _)) secret
    refine (retryOnConflict_calls attempts (fun _ _ _ _ _ => trivial) _ _ trivial).bind
      fun result => ?_
    split <;> trivial

/-- Imported credentials are read, recorded in the status and sent to the broker. -/
theorem declareWithImportedCredentials_calls {allowed : Request (Object .user) → Prop}
    (reads : ∀ reader key, allowed (.getSecret reader key))
    (writes : ∀ written, allowed (.updateStatus written)) (salts : allowed .passwordSalt)
    (clock : allowed .now) (publish : ∀ note, allowed (.eventf note))
    (broker : ∀ call, allowed (.broker call)) (user : Object .user)
    (reference : LocalObjectReference) :
    (UserReconciler.declareWithImportedCredentials libraries user reference).Calls allowed := by
  refine (importCredentials_calls (reads _ _)).bind fun imported => ?_
  split
  · trivial
  · split
    · trivial
    · refine (recordCredentials_calls (writes _)).bind fun recorded => ?_
      split
      · trivial
      · exact putUser_calls libraries salts (fun _ _ => broker _) clock publish
          (fun call _ => broker call) ..

/-- Declaring a user writes its status and never its metadata. -/
theorem declareUser_keepsFinalizers (finalizers : List String) (user : Object .user) :
    (UserReconciler.declareFunc libraries user).Calls (KeepsFinalizers finalizers) := by
  unfold UserReconciler.declareFunc
  split
  · trivial
  · split
    · exact declareWithImportedCredentials_calls libraries (fun _ _ => trivial) (fun _ => trivial)
        trivial trivial (fun _ => trivial) (fun _ => trivial) ..
    · refine (declareCredentials_calls (fun _ => trivial) (fun _ _ => trivial) (fun _ => trivial)
        (fun _ => trivial) user).bind fun declared => ?_
      split
      · trivial
      · refine (getUserCredentials_calls trivial).bind fun found => ?_
        split
        · trivial
        · split
          · trivial
          · split
            · trivial
            · refine (recordCredentials_calls trivial).bind fun recorded => ?_
              split
              · trivial
              · exact putUser_calls libraries trivial (fun _ _ => trivial) trivial
                  (fun _ => trivial) (fun _ _ => trivial) ..

/-- Apart from that of users, a declare function only calls the broker, or is that of a
permission. -/
theorem declareFunc_cases (object : Object kind) (other : kind ≠ .user) :
    (∃ program, declareFunc libraries object = declaring object program ∧
      program.Calls (BrokerOnly fun _ => True)) ∨
    ∃ specUser reference grant,
      declareFunc libraries object = declareForUser specUser reference object grant ∧
      ∀ username, (grant username).Calls (BrokerOnly fun _ => True) := by
  have issues : ∀ call, BrokerOnly (fun _ => True) (.broker call : Request (Object kind)) :=
    fun call => .inr ⟨call, rfl, trivial⟩
  have reads : ∀ key, BrokerOnly (fun _ => True)
      (.getSecret .cache key : Request (Object kind)) := fun _ => .inl rfl
  cases kind with
  | binding => exact .inl ⟨_, rfl, declareBinding_calls libraries fun _ _ => issues _⟩
  | exchange => exact .inl ⟨_, rfl, declareExchange_calls libraries fun _ _ => issues _⟩
  | federation => exact .inl ⟨_, rfl, declareFederation_calls reads fun _ => issues _⟩
  | operatorPolicy =>
      exact .inl ⟨_, rfl, declareOperatorPolicy_calls libraries fun _ _ => issues _⟩
  | permission =>
      exact .inr ⟨_, _, fun username => ask (.broker (.updatePermissionsIn object.spec.vhost
        username (generatePermissions object))), rfl, fun _ => calls_ask.mpr (issues _)⟩
  | policy => exact .inl ⟨_, rfl, declarePolicy_calls libraries fun _ _ => issues _⟩
  | queue => exact .inl ⟨_, rfl, declareQueue_calls libraries fun _ _ => issues _⟩
  | schemaReplication =>
      exact .inl ⟨_, rfl, declareSchemaReplication_calls (.inl rfl) (fun _ => .inl rfl) reads
        fun _ _ _ => issues _⟩
  | shovel => exact .inl ⟨_, rfl, declareShovel_calls libraries reads fun _ _ _ _ => issues _⟩
  | topicPermission =>
      exact .inr ⟨_, _, fun username => ask (.broker (.updateTopicPermissionsIn object.spec.vhost
        username (generateTopicPermissions object))), rfl, fun _ => calls_ask.mpr (issues _)⟩
  | user => exact absurd rfl other
  | vhost =>
      exact .inl ⟨_, rfl, declareVhost_calls (issues _) (issues _) (fun _ => issues _)
        fun _ => issues _⟩

/-- A declare function never writes the object with other finalizers. -/
theorem declareFunc_keepsFinalizers (object : Object kind) :
    (declareFunc libraries object).Calls (KeepsFinalizers object.objectMeta.finalizers) := by
  by_cases user : kind = .user
  · subst user
    exact declareUser_keepsFinalizers libraries _ object
  rcases declareFunc_cases libraries object user with ⟨program, same, only⟩ |
      ⟨specUser, reference, grant, same, only⟩
  · rw [same]
    exact (only.mono fun _ => keepsFinalizers_of_brokerOnly).bind fun _ => trivial
  · rw [same]
    exact declareForUser_calls (fun _ => trivial) (fun _ => rfl) fun username _ =>
      (only username).mono fun _ => keepsFinalizers_of_brokerOnly

/-- A reconcile that declares leaves the finalizers as they are. -/
theorem reconcileDeclare_keepsFinalizers (r : TopologyReconciler) (object : Object kind) :
    (r.reconcileDeclare object).Calls (KeepsFinalizers object.objectMeta.finalizers) := by
  refine (declareFunc_keepsFinalizers r.libraries object).bind fun declared => ?_
  exact recordDeclared_calls trivial (fun _ => trivial) (fun _ _ => trivial) ..

end Finalizers

section Delete

/-- What is asked for while an object is released: the broker is not asked to
create or update anything, and no other object is written. -/
def Releasing (object : Object kind) : Request (Object kind) → Prop
  | .update written => written.objectMeta.uid = object.objectMeta.uid
  | .updateStatus written => SameNames object written
  | .broker issued => issued.declares = false
  | .createSecret _ | .updateSecret _ | .createObject _ | .updateObject _ => False
  | _ => True

variable {object : Object kind}

/-- Observing is allowed while an object is released. -/
theorem releasing_of_observes {request : Request (Object kind)}
    (observes : request.observes = true) : Releasing object request := by
  cases request with
  | broker call => cases call <;> first | rfl | cases observes
  | update | updateStatus | createSecret | updateSecret | createObject | updateObject =>
      cases observes
  | _ => trivial

theorem releasing_of_brokerOnly {request : Request (Object kind)}
    (only : BrokerOnly (·.declares = false) request) : Releasing object request := by
  rcases only with observes | ⟨call, rfl, removes⟩
  · exact releasing_of_observes observes
  · exact removes

theorem releasing_of_statusOnly {request : Request (Object kind)}
    (only : StatusOnly object request) : Releasing object request := by
  rcases only with observes | ⟨written, rfl, same⟩
  · exact releasing_of_observes observes
  · exact same

/-- The object without its finalizer is still the same object. -/
theorem removeFinalizer_uid {released result : Object kind} {trace : Trace (Object kind)}
    (exec : (removeFinalizer released).Exec trace (.done (.ok result))) :
    result.objectMeta.uid = released.objectMeta.uid := by
  obtain ⟨answer, rest, -, stops⟩ := exec_ask_bind.mp exec
  rcases answer with failure | version <;> cases stops.2
  rfl

/-- The delete functions of permissions remove the finalizer themselves, after the call. All
others leave the object to the reconcile. None declares anything. -/
theorem deleteFunc_cases (object : Object kind) :
    (∃ program, deleteFunc libraries object = deleting object program ∧
      program.Calls (BrokerOnly (·.declares = false))) ∨
    ∃ specUser reference revoke,
      deleteFunc libraries object = deleteForUser specUser reference object revoke ∧
      ∀ username, (revoke username).Calls (BrokerOnly (·.declares = false)) := by
  cases kind with
  | binding =>
      exact .inl ⟨_, rfl, deleteBinding_calls libraries (fun _ _ _ => ⟨.inl rfl, .inl rfl⟩)
        fun _ => .inr ⟨_, rfl, rfl⟩⟩
  | exchange => exact .inl ⟨_, rfl, deleteExchange_calls (.inr ⟨_, rfl, rfl⟩)⟩
  | federation => exact .inl ⟨_, rfl, deleteFederation_calls (.inr ⟨_, rfl, rfl⟩)⟩
  | operatorPolicy => exact .inl ⟨_, rfl, deleteOperatorPolicy_calls (.inr ⟨_, rfl, rfl⟩)⟩
  | permission => exact .inr ⟨_, _, _, rfl, fun _ => calls_ask.mpr (.inr ⟨_, rfl, rfl⟩)⟩
  | policy => exact .inl ⟨_, rfl, deletePolicy_calls (.inr ⟨_, rfl, rfl⟩)⟩
  | queue => exact .inl ⟨_, rfl, deleteQueue_calls (.inl rfl) (.inr ⟨_, rfl, rfl⟩)⟩
  | schemaReplication => exact .inl ⟨_, rfl, deleteSchemaReplication_calls (.inr ⟨_, rfl, rfl⟩)⟩
  | shovel => exact .inl ⟨_, rfl, deleteShovel_calls (.inr ⟨_, rfl, rfl⟩)⟩
  | topicPermission => exact .inr ⟨_, _, _, rfl, fun _ => calls_ask.mpr (.inr ⟨_, rfl, rfl⟩)⟩
  | user => exact .inl ⟨_, rfl, deleteUser_calls (.inr ⟨_, rfl, rfl⟩)⟩
  | vhost => exact .inl ⟨_, rfl, deleteVhost_calls (.inr ⟨_, rfl, rfl⟩)⟩

/-- A delete function only releases. -/
theorem deleteFunc_releasing (object : Object kind) :
    (deleteFunc libraries object).Calls (Releasing object) := by
  rcases deleteFunc_cases libraries object with ⟨program, same, only⟩ |
      ⟨specUser, reference, revoke, same, only⟩
  · rw [same]
    refine (only.mono fun _ => releasing_of_brokerOnly).bind fun outcome => ?_
    split <;> trivial
  · rw [same]
    exact deleteForUser_calls (fun _ => trivial) rfl fun username _ =>
      (only username).mono fun _ => releasing_of_brokerOnly

/-- Most delete functions return the object as they got it. -/
theorem deleting_eq {program : Prog (Object kind) (Except GoError Unit)} {result : Object kind}
    {trace : Trace (Object kind)}
    (exec : (deleting object program).Exec trace (.done (.ok result))) : result = object := by
  obtain ⟨outcome, before, after, -, -, ends⟩ := exec_bind_done.mp exec
  rcases outcome with err | ⟨⟩ <;> cases ends.2
  rfl

/-- The delete function of a permission returns the object without its finalizer. -/
theorem deleteForUser_uid {specUser : String} {reference : Option LocalObjectReference}
    {permission result : Object kind} {revoke : String → Prog (Object kind) BrokerReply}
    {trace : Trace (Object kind)}
    (exec : (deleteForUser specUser reference permission revoke).Exec trace (.done (.ok result))) :
    result.objectMeta.uid = permission.objectMeta.uid := by
  obtain ⟨username, before, after, -, -, revoking⟩ := exec_bind_done.mp exec
  rcases username with err | username
  · cases revoking.2
  · dsimp only at revoking
    split at revoking
    · exact removeFinalizer_uid revoking
    · obtain ⟨reply, before, after, -, -, removing⟩ := exec_bind_done.mp revoking
      split at removing
      · cases removing.2
      · exact removeFinalizer_uid removing

/-- A delete function returns the object it was given, perhaps in a newer version. -/
theorem deleteFunc_uid {result : Object kind} {trace : Trace (Object kind)}
    (exec : (deleteFunc libraries object).Exec trace (.done (.ok result))) :
    result.objectMeta.uid = object.objectMeta.uid := by
  rcases deleteFunc_cases libraries object with ⟨program, same, -⟩ |
      ⟨specUser, reference, revoke, same, -⟩
  · rw [same] at exec
    rw [deleting_eq exec]
  · rw [same] at exec
    exact deleteForUser_uid exec

/-- A reconcile that deletes only releases. -/
theorem reconcileDelete_releasing (r : TopologyReconciler) (object : Object kind) :
    (r.reconcileDelete object).Calls (Releasing object) := by
  refine (deleteFunc_releasing r.libraries object).bind_of_exec fun outcome trace exec => ?_
  split
  · exact calls_ask_bind trivial fun _ => trivial
  · exact calls_ask_bind trivial fun _ =>
      (removeFinalizer_calls (deleteFunc_uid r.libraries exec)).bind fun _ => trivial

/-- An object is released with an event and one write. -/
theorem releaseWithoutBroker_calls {allowed : Request (Object kind) → Prop}
    (publish : ∀ note, allowed (.eventf note))
    (releases : allowed (.update object.withoutFinalizer)) :
    (TopologyReconciler.releaseWithoutBroker object).Calls allowed :=
  calls_ask_bind (publish _) fun _ => (removeFinalizer_calls releases).bind fun _ => trivial

/-- After a failed resolution, an object that is marked for deletion is released if there is
no broker to be asked. Otherwise the failure is recorded in the status, or nothing is. -/
theorem handleRMQReferenceParseError_calls {allowed : Request (Object kind) → Prop}
    {err : GoError} (clock : allowed .now) (publish : ∀ note, allowed (.eventf note))
    (writes : ∀ written, SameNames object written → allowed (.updateStatus written))
    (releases : object.objectMeta.deletionTimestamp.isSome = true ∧
      (err.is .errNoSuchRabbitmqCluster = true ∨ err.is .errClusterScaledToZero = true) →
      allowed (.update object.withoutFinalizer)) :
    (TopologyReconciler.handleRMQReferenceParseError object err).Calls allowed := by
  have recorded : ∀ msg (result : Result × Option GoError),
      (TopologyReconciler.recordNotReady object msg >>= fun _ => pure result).Calls allowed :=
    fun msg result => (recordNotReady_calls clock writes msg).bind fun _ => trivial
  unfold TopologyReconciler.handleRMQReferenceParseError
  split
  · next gone => exact releaseWithoutBroker_calls publish (releases ⟨gone.2, .inl gone.1⟩)
  split
  · trivial
  split
  · next scaled => exact releaseWithoutBroker_calls publish (releases ⟨scaled.2, .inr scaled.1⟩)
  split
  · exact calls_ask_bind (publish _) fun _ => recorded _ _
  split
  · exact recorded _ _
  · exact calls_ask_bind (publish _) fun _ => recorded _ _

/-- Unless the object is released, handling a failed resolution writes the status
only. -/
theorem handleRMQReferenceParseError_statusOnly {err : GoError}
    (kept : ¬ (object.objectMeta.deletionTimestamp.isSome = true ∧
      (err.is .errNoSuchRabbitmqCluster = true ∨ err.is .errClusterScaledToZero = true))) :
    (TopologyReconciler.handleRMQReferenceParseError object err).Calls (StatusOnly object) :=
  handleRMQReferenceParseError_calls (.inl rfl) (fun _ => .inl rfl)
    (fun written same => .inr ⟨written, rfl, same⟩) fun released => absurd released kept

/-- An object that is marked for deletion is released if its cluster is gone or has no
replicas. -/
theorem handleRMQReferenceParseError_of_release {err : GoError}
    (marked : object.objectMeta.deletionTimestamp.isSome = true)
    (sentinel : err.is .errNoSuchRabbitmqCluster = true ∨ err.is .errClusterScaledToZero = true) :
    TopologyReconciler.handleRMQReferenceParseError object err =
      TopologyReconciler.releaseWithoutBroker object := by
  unfold TopologyReconciler.handleRMQReferenceParseError
  by_cases gone : err.is .errNoSuchRabbitmqCluster = true
  · simp only [gone, marked, and_self, ↓reduceIte]
  · have scaled := sentinel.resolve_left gone
    simp [gone, scaled, marked]

/-- A reconcile of an object that is marked for deletion only releases. -/
theorem reconcileRead_releasing (r : TopologyReconciler) {object : Object kind}
    (marked : object.objectMeta.deletionTimestamp.isSome = true) :
    (r.reconcileRead object).Calls (Releasing object) := by
  refine (extractSystemCertPool_calls trivial fun _ => trivial).bind fun loaded => ?_
  split
  · trivial
  · refine ((parseReference_observes r.libraries ..).calls
      fun _ => releasing_of_observes).bind fun resolved => ?_
    split
    · exact handleRMQReferenceParseError_calls trivial (fun _ => trivial) (fun _ same => same)
        fun _ => rfl
    · refine (generateRabbitholeClient_calls (fun _ _ _ _ => trivial) ..).bind fun connected => ?_
      split
      · trivial
      · unfold TopologyReconciler.reconcileObject
        rw [if_pos marked]
        exact reconcileDelete_releasing r object

end Delete

end TopologyOperator
