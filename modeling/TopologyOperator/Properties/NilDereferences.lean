import TopologyOperator.Controller.Topology
import TopologyOperator.Webhook.Acceptance

/-!
# Nil dereferences

A reconcile of an object panics only in the declare functions, and only on account of
optional fields of its spec. A policy needs a definition, a federation or a shovel a URI
secret: without one, formatting the error that it is missing dereferences it. A permission
that names a user and refers to one as well dereferences the latter if it does not exist;
the webhooks, which can be disabled, keep such permissions out.
-/

namespace TopologyOperator

open Dialogue Program

section Helpers

variable {Resource α σ : Type} {kind : Kind} {libraries : Libraries}

/-- A Secret that cannot be read is an error, not a panic. -/
theorem returns_getUriSecret (ns : String) (reference : LocalObjectReference) :
    (getUriSecret ns reference : Prog Resource _).Returns := by
  refine returns_ask_bind fun found => ?_
  split <;> trivial

/-- A `User` that is missing is reported as such. -/
theorem returns_getUsernameFromUser (ns name : String) :
    (getUsernameFromUser ns name : Prog Resource _).Returns := by
  refine returns_ask_bind fun found => ?_
  split
  · split <;> trivial
  · trivial

/-- The limits part returns if the programs that it is given do. -/
theorem returns_reconcileLimits {keys : List String} {new : LimitsValues}
    {get : Prog Resource (Except BrokerError (List LimitsValues))}
    {delete : List String → Prog Resource BrokerReply}
    {put : LimitsValues → Prog Resource BrokerReply} (gets : get.Returns)
    (deletes : ∀ limits, (delete limits).Returns) (puts : ∀ limits, (put limits).Returns) :
    (reconcileLimits keys new get delete put).Returns := by
  refine gets.bind fun limits => ?_
  split
  · trivial
  · refine Returns.bind ?_ fun outdated => ?_
    · unfold deleteOutdated
      split
      · trivial
      · exact (deletes _).bind fun _ => trivial
    · split
      · trivial
      · split
        · trivial
        · exact (puts _).bind fun _ => trivial

/-- Setting the owner of a permission returns. -/
theorem returns_setOwner (user : Object .user) (permission : Object kind) :
    (setOwner user permission).Returns := by
  unfold setOwner
  split
  · trivial
  · split
    · trivial
    · refine returns_ask_bind fun written => ?_
      split <;> trivial

/-- One attempt to write the status returns. -/
theorem returns_updateStatus (object : Object kind) : (updateStatus object).Returns := by
  refine returns_ask_bind fun written => ?_
  split <;> trivial

end Helpers

section Users

open UserReconciler

variable {libraries : Libraries} (user : Object .user)

/-- Generating credentials and storing them returns. -/
theorem returns_declareCredentials :
    (declareCredentials user : Prog (Object .user) _).Returns := by
  have generates : (generateCredentials user : Prog (Object .user) _).Returns := by
    refine Returns.bind ?_ fun username => ?_
    · unfold generateUsername
      split
      · trivial
      · exact returns_ask _
    · split
      · trivial
      · refine returns_ask_bind fun password => ?_
        split <;> trivial
  refine generates.bind fun credentials => ?_
  split
  · trivial
  · refine (returns_retryOnConflict (returns_createOrUpdate (fun _ => returns_ask _)
      (fun _ => returns_ask _) (fun _ => returns_ask _) _) ..).bind fun result => ?_
    split <;> trivial

/-- Recording the names of the credentials returns. -/
theorem returns_recordCredentials (username secretName : String) :
    (recordCredentials user username secretName).Returns := by
  unfold recordCredentials
  split
  · trivial
  · exact returns_updateStatus _

/-- Setting the limits of a user returns. -/
theorem returns_finishUser (username : String) : (finishUser libraries user username).Returns := by
  have limits : (reconcileUserLimits user username : Prog (Object .user) _).Returns :=
    returns_reconcileLimits (returns_ask _) (fun _ => returns_ask _) fun _ => returns_ask _
  have synced : (passwordSynced user.status.conditions : Prog (Object .user) _).Returns :=
    (returns_transitionTime _ _ _).bind fun _ => trivial
  refine synced.bind fun condition => ?_
  exact returns_ask_bind fun _ => limits.bind fun _ => trivial

/-- So does putting the user before that. -/
theorem returns_putUser (credentials : UserCredentials) (failure username : String) :
    (putUser libraries user credentials failure username).Returns := by
  have settings : (generateUserSettings libraries credentials user.spec.tags :
      Prog (Object .user) _).Returns := by
    unfold generateUserSettings
    split
    · trivial
    · split
      · trivial
      · split
        · trivial
        · exact returns_ask_bind fun _ => trivial
  refine settings.bind fun generated => ?_
  split
  · trivial
  · refine returns_ask_bind fun reply => ?_
    split
    · trivial
    · exact returns_finishUser _ username

/-- A declaration of a user returns. -/
theorem returns_declareUser : (UserReconciler.declareFunc libraries user).Returns := by
  unfold UserReconciler.declareFunc
  split
  · trivial
  split
  · refine Returns.bind ?_ fun imported => ?_
    · refine returns_ask_bind fun found => ?_
      split
      · trivial
      · split <;> trivial
    · split
      · trivial
      · split
        · trivial
        · refine (returns_recordCredentials user _ _).bind fun recorded => ?_
          split
          · trivial
          · exact returns_putUser ..
  · refine (returns_declareCredentials user).bind fun declared => ?_
    split
    · trivial
    · refine Returns.bind ?_ fun found => ?_
      · refine returns_ask_bind fun found => ?_
        split <;> trivial
      · split
        · trivial
        · split
          · trivial
          · split
            · trivial
            · refine (returns_recordCredentials user _ _).bind fun recorded => ?_
              split
              · trivial
              · exact returns_putUser ..

end Users

section Declare

variable {kind : Kind} {libraries : Libraries}

/-- The optional fields that are dereferenced are given. -/
def Anchored : {kind : Kind} → Object kind → Prop
  | .permission, permission => permission.spec.userReference = none ∨ permission.spec.user = ""
  | .topicPermission, permission =>
      permission.spec.userReference = none ∨ permission.spec.user = ""
  | .federation, federation => federation.spec.uriSecret.isSome = true
  | .shovel, shovel => shovel.spec.uriSecret.isSome = true
  | .policy, policy => policy.spec.definition.isSome = true
  | .operatorPolicy, policy => policy.spec.definition.isSome = true
  | _, _ => True

/-- A permission panics exactly if it names a user and refers to one: the latter may be
missing. -/
theorem returns_declareForUser {specUser : String} {userReference : Option LocalObjectReference}
    {permission : Object kind} {grant : String → Prog (Object kind) BrokerReply}
    (grants : ∀ username, (grant username).Returns) :
    (declareForUser specUser userReference permission grant).Returns ↔
      userReference = none ∨ specUser = "" := by
  constructor
  · intro returns
    by_contra both
    obtain ⟨refers, named⟩ := not_or.mp both
    obtain ⟨reference, rfl⟩ := Option.ne_none_iff_exists'.mp refers
    -- The user that is referred to does not exist.
    have missing := returns (.error ⟨.notFound, ""⟩)
    change (if specUser = "" then _ else Program.abort).Returns at missing
    rw [if_neg named] at missing
    exact missing
  · intro anchored
    unfold declareForUser
    split
    · split
      · trivial
      · exact (grants _).bind fun _ => trivial
    · next reference =>
        have anonymous : specUser = "" := anchored.resolve_left (by simp)
        refine (returns_getUsernameFromUser _ _).bind fun found => ?_
        split
        · trivial
        · rw [if_pos anonymous]
          trivial
        · split
          · trivial
          · refine (returns_setOwner _ _).bind fun owned => ?_
            split
            · trivial
            · exact (grants _).bind fun _ => trivial

/-- A declare function returns exactly if its program does. -/
theorem returns_declaring {object : Object kind}
    {program : Prog (Object kind) (Except GoError Unit)} :
    (declaring object program).Returns ↔ program.Returns :=
  ⟨Returns.of_bind, fun returns => returns.bind fun _ => trivial⟩

/-- A federation panics exactly if it has no URI secret. -/
theorem returns_declareFederation {federation : Object .federation} :
    (FederationReconciler.declareFunc federation : Prog (Object .federation) _).Returns ↔
      federation.spec.uriSecret.isSome = true := by
  unfold FederationReconciler.declareFunc
  split
  · next absent => simp [absent, Returns]
  · next reference given =>
      refine iff_of_true ?_ (by simp [given])
      refine Returns.bind ?_ fun uri => ?_
      · refine (returns_getUriSecret _ _).bind fun found => ?_
        split <;> trivial
      · split
        · trivial
        · exact returns_ask_bind fun _ => trivial

/-- So does a shovel. -/
theorem returns_declareShovel {shovel : Object .shovel} :
    (ShovelReconciler.declareFunc libraries shovel : Prog (Object .shovel) _).Returns ↔
      shovel.spec.uriSecret.isSome = true := by
  unfold ShovelReconciler.declareFunc
  split
  · next absent => simp [absent, Returns]
  · next reference given =>
      refine iff_of_true ?_ (by simp [given])
      refine Returns.bind ?_ fun uris => ?_
      · refine (returns_getUriSecret _ _).bind fun found => ?_
        split
        · trivial
        · split
          · trivial
          · split <;> trivial
      · split
        · trivial
        · split
          · trivial
          · exact returns_ask_bind fun _ => trivial

/-- The definition of a policy is dereferenced before it is decoded. -/
theorem generatePolicyDefinition_isSome (libraries : Libraries)
    (vhost pattern applyTo name : String) (priority : Int) (definition : Option RawExtension) :
    (generatePolicyDefinition libraries vhost pattern applyTo name priority definition).isSome =
      definition.isSome := by
  unfold generatePolicyDefinition
  split
  · rfl
  · split <;> rfl

/-- A policy panics exactly if it has no definition. -/
theorem returns_declarePolicy {policy : Object .policy} :
    (PolicyReconciler.declareFunc libraries policy : Prog (Object .policy) _).Returns ↔
      policy.spec.definition.isSome = true := by
  have generated : (generatePolicy libraries policy).isSome = policy.spec.definition.isSome :=
    generatePolicyDefinition_isSome ..
  rw [← generated]
  unfold PolicyReconciler.declareFunc
  split
  · next absent => simp [absent, Returns]
  · next failed => exact iff_of_true trivial (by simp [failed])
  · next given => exact iff_of_true (returns_ask_bind fun _ => trivial) (by simp [given])

/-- So does an operator policy. -/
theorem returns_declareOperatorPolicy {policy : Object .operatorPolicy} :
    (OperatorPolicyReconciler.declareFunc libraries policy :
      Prog (Object .operatorPolicy) _).Returns ↔ policy.spec.definition.isSome = true := by
  have generated : (generateOperatorPolicy libraries policy).isSome =
      policy.spec.definition.isSome := generatePolicyDefinition_isSome ..
  rw [← generated]
  unfold OperatorPolicyReconciler.declareFunc
  split
  · next absent => simp [absent, Returns]
  · next failed => exact iff_of_true trivial (by simp [failed])
  · next given => exact iff_of_true (returns_ask_bind fun _ => trivial) (by simp [given])

/-- A schema replication checks its optional fields and never panics. -/
theorem returns_declareReplication (replication : Object .schemaReplication) :
    (SchemaReplicationReconciler.declareFunc replication :
      Prog (Object .schemaReplication) _).Returns := by
  have secret : (SchemaReplicationReconciler.getUpstreamSecret replication :
      Prog (Object .schemaReplication) _).Returns := by
    unfold SchemaReplicationReconciler.getUpstreamSecret
    split
    · refine returns_ask_bind fun opened => ?_
      split
      · trivial
      · refine returns_ask_bind fun found => ?_
        split <;> trivial
    · split
      · trivial
      · exact returns_getUriSecret _ _
  refine Returns.bind (secret.bind fun found => ?_) fun endpoints => ?_
  · split <;> trivial
  · split
    · trivial
    · exact returns_ask_bind fun _ => trivial

/-- The declare function of any kind returns exactly if the object is anchored. -/
theorem returns_declareFunc {object : Object kind} :
    (declareFunc libraries object).Returns ↔ Anchored object := by
  cases kind with
  | permission =>
      unfold declareFunc PermissionReconciler.declareFunc
      exact returns_declareForUser fun _ => returns_ask _
  | topicPermission =>
      unfold declareFunc TopicPermissionReconciler.declareFunc
      exact returns_declareForUser fun _ => returns_ask _
  | federation => exact returns_declaring.trans returns_declareFederation
  | shovel => exact returns_declaring.trans returns_declareShovel
  | policy => exact returns_declaring.trans returns_declarePolicy
  | operatorPolicy => exact returns_declaring.trans returns_declareOperatorPolicy
  | user => exact iff_of_true (returns_declareUser object) trivial
  | schemaReplication =>
      exact iff_of_true (returns_declaring.mpr (returns_declareReplication object)) trivial
  | vhost =>
      refine iff_of_true (returns_declaring.mpr (returns_ask_bind fun reply => ?_)) trivial
      split
      · trivial
      · exact returns_reconcileLimits (returns_ask _) (fun _ => returns_ask _) fun _ =>
          returns_ask _
  | binding | exchange | queue =>
      refine iff_of_true (returns_declaring.mpr ?_) trivial
      simp only [BindingReconciler.declareFunc, ExchangeReconciler.declareFunc,
        QueueReconciler.declareFunc]
      split
      · trivial
      · exact returns_ask_bind fun _ => trivial

/-- A declaration dereferences no missing field, whatever the clients answer, exactly if
the object is anchored. -/
theorem declare_returns_iff (libraries : Libraries) (object : Object kind) :
    (∀ trace outcome, (declareFunc libraries object).Exec trace outcome →
      ∃ declared, outcome = .done declared) ↔ Anchored object :=
  returns_iff.symm.trans returns_declareFunc

/-- A permission that names a user and refers to one. -/
def auditPermission : Object .permission where
  objectMeta := { name := "audit", ns := "shop" }
  spec := { user := "audit", userReference := some ⟨"auditor"⟩, vhost := "/"
            rabbitmqClusterReference := { name := "rabbit" } }

/-- The user it refers to does not exist. -/
theorem auditPermission_panics :
    (declareFunc .verbatim auditPermission).Exec
      [⟨.getObject .user ⟨"shop", "auditor"⟩, .error ⟨.notFound, "not found"⟩⟩] .abort :=
  ⟨_, _, rfl, rfl, rfl⟩

/-- The permissions that the webhooks accept are anchored. -/
theorem anchored_of_fieldsValid {permission : Object .permission}
    (valid : FieldsValid permission) : Anchored permission := by
  cases refers : permission.spec.userReference with
  | none => exact .inl refers
  | some reference => exact .inr (valid.mpr (by rw [refers]; rfl))

end Declare

section Delete

variable {kind : Kind} {libraries : Libraries}

theorem returns_removeFinalizer (object : Object kind) : (removeFinalizer object).Returns := by
  refine returns_ask_bind fun written => ?_
  split <;> trivial

/-- A delete function returns if its program does. -/
theorem returns_deleting {object : Object kind}
    {program : Prog (Object kind) (Except GoError Unit)} (returns : program.Returns) :
    (deleting object program).Returns := by
  refine returns.bind fun outcome => ?_
  split <;> trivial

/-- A permission is revoked without a panic, even one that names a user and refers to one. -/
theorem returns_deleteForUser {specUser : String} {userReference : Option LocalObjectReference}
    {permission : Object kind} {revoke : String → Prog (Object kind) BrokerReply}
    (revokes : ∀ username, (revoke username).Returns) :
    (deleteForUser specUser userReference permission revoke).Returns := by
  refine Returns.bind ?_ fun username => ?_
  · unfold userToRevoke
    split
    · trivial
    · refine (returns_getUsernameFromUser _ _).bind fun found => ?_
      split <;> trivial
  · split
    · trivial
    · split
      · exact returns_removeFinalizer permission
      · refine (revokes _).bind fun reply => ?_
        split
        · trivial
        · exact returns_removeFinalizer permission

/-- The delete functions that call the broker once, unless the policy is to retain. -/
theorem returns_deleteUnless {Resource : Type} {skips : Prop} [Decidable skips]
    {call : BrokerCall} {next : call.Answer → Except GoError Unit} :
    (if skips then .done (.ok ()) else (ask (.broker call)).bind fun reply => .done (next reply) :
      Prog Resource (Except GoError Unit)).Returns := by
  split
  · trivial
  · exact returns_ask_bind fun _ => trivial

/-- The check on quorum queues returns. -/
theorem returns_checkDeletable (queue : Object .queue) :
    (QueueReconciler.checkDeletable queue : Prog (Object .queue) _).Returns := by
  unfold QueueReconciler.checkDeletable
  split
  · refine returns_ask_bind fun found => ?_
    split
    · trivial
    · split
      · trivial
      · split <;> trivial
  · trivial

/-- The search for the binding to delete returns. -/
theorem returns_deletionInfo (binding : Object .binding) :
    (BindingReconciler.deletionInfo libraries binding : Prog (Object .binding) _).Returns := by
  unfold BindingReconciler.deletionInfo
  split
  · unfold BindingReconciler.findBindingInfo
    split
    · trivial
    · refine Returns.bind ?_ fun listed => ?_
      · unfold BindingReconciler.listBindingsBetween
        split <;> exact returns_ask _
      · split <;> trivial
  · split <;> trivial

/-- No delete function panics, whatever the object is like. -/
theorem returns_deleteFunc (object : Object kind) : (deleteFunc libraries object).Returns := by
  cases kind with
  | permission =>
      unfold deleteFunc PermissionReconciler.deleteFunc
      exact returns_deleteForUser fun _ => returns_ask _
  | topicPermission =>
      unfold deleteFunc TopicPermissionReconciler.deleteFunc
      exact returns_deleteForUser fun _ => returns_ask _
  | exchange | policy | operatorPolicy | schemaReplication =>
      exact returns_deleting (returns_ask_bind fun _ => trivial)
  | federation | shovel | user | vhost => exact returns_deleting returns_deleteUnless
  | binding =>
      refine returns_deleting ((returns_deletionInfo object).bind fun found => ?_)
      split
      · trivial
      · trivial
      · exact returns_ask_bind fun _ => trivial
  | queue =>
      apply returns_deleting
      unfold QueueReconciler.deleteFunc
      split
      · trivial
      · refine (returns_checkDeletable object).bind fun checked => ?_
        split
        · trivial
        · exact returns_ask_bind fun _ => trivial

end Delete

section Reconcile

variable {Resource : Type} {kind : Kind} {libraries : Libraries}

/-- A cluster without a default user is an error, not a panic. -/
theorem returns_readDefaultUser (cluster : RabbitmqCluster) (ns : String) :
    (readDefaultUser cluster ns : Prog Resource _).Returns := by
  unfold readDefaultUser
  split
  · refine returns_ask_bind fun opened => ?_
    split
    · trivial
    · refine returns_ask_bind fun found => ?_
      split <;> trivial
  · split
    · trivial
    · refine returns_ask_bind fun found => ?_
      split
      · split <;> trivial
      · trivial

/-- A cluster without a Service is an error, not a panic. -/
theorem returns_readEndpoint (cluster : RabbitmqCluster) (reference : LocalObjectReference)
    (ns clusterDomain : String) (connectUsingHTTP : Bool) :
    (readEndpoint libraries cluster reference ns clusterDomain connectUsingHTTP :
      Prog Resource _).Returns := by
  unfold readEndpoint
  split
  · trivial
  · refine returns_ask_bind fun found => ?_
    split
    · split <;> trivial
    · split
      · trivial
      · split <;> trivial

/-- What a cluster lacks in its status is checked before it is used. -/
theorem returns_parseCluster (cluster : RabbitmqCluster) (ns clusterDomain : String)
    (connectUsingHTTP : Bool) :
    (parseCluster libraries cluster ns clusterDomain connectUsingHTTP :
      Prog Resource _).Returns := by
  unfold parseCluster
  split
  · trivial
  · split
    · trivial
    · refine (returns_readDefaultUser cluster ns).bind fun credentials => ?_
      split
      · trivial
      · refine (returns_readEndpoint cluster _ ns _ _).bind fun located => ?_
        split <;> trivial

/-- Resolving a reference returns. -/
theorem returns_parseReference (rmq : RabbitmqClusterReference)
    (requestNamespace clusterDomain : String) (connectUsingHTTP : Bool) :
    (parseReference libraries rmq requestNamespace clusterDomain connectUsingHTTP :
      Prog Resource _).Returns := by
  unfold parseReference
  split
  · refine returns_ask_bind fun found => ?_
    split
    · trivial
    · split <;> trivial
  · refine returns_ask_bind fun found => ?_
    split
    · trivial
    · split
      · exact returns_parseCluster _ _ _ _
      · trivial

/-- Creating a client checks the credentials that it uses. -/
theorem returns_generateRabbitholeClient (creds : ConnectionCreds) (tlsEnabled : Bool) :
    (generateRabbitholeClient creds tlsEnabled : Prog Resource _).Returns := by
  unfold generateRabbitholeClient
  split
  · trivial
  · split
    · trivial
    · split
      · trivial
      · refine returns_ask_bind fun created => ?_
        split <;> trivial

open TopologyReconciler

variable (r : TopologyReconciler)

/-- Storing the status returns after its retries. -/
theorem returns_statusUpdate (object : Object kind) : (statusUpdate object).Returns :=
  (returns_retryOnConflict returns_updateStatus _ _).bind fun _ => trivial

theorem returns_recordNotReady (object : Object kind) (msg : String) :
    (recordNotReady object msg).Returns := by
  have condition : (notReady msg object.status.conditions : Prog (Object kind) _).Returns :=
    (returns_transitionTime _ _ _).bind fun _ => trivial
  exact condition.bind fun _ => returns_statusUpdate _

/-- Recording the outcome of a declaration returns. -/
theorem returns_recordDeclared (object : Object kind) (outcome : Except GoError Unit) :
    (recordDeclared object outcome).Returns := by
  cases outcome with
  | error err =>
      exact returns_ask_bind fun _ => (returns_recordNotReady _ _).bind fun _ => trivial
  | ok =>
      have condition : (ready object.status.conditions : Prog (Object kind) _).Returns :=
        (returns_transitionTime _ _ _).bind fun _ => trivial
      refine returns_ask_bind fun _ => condition.bind fun _ => ?_
      exact (returns_statusUpdate _).bind fun _ => trivial

/-- Every error of the resolution is handled without a panic. -/
theorem returns_handleRMQReferenceParseError (object : Object kind) (err : GoError) :
    (handleRMQReferenceParseError object err).Returns := by
  have releases : (releaseWithoutBroker object).Returns :=
    returns_ask_bind fun _ => (returns_removeFinalizer object).bind fun _ => trivial
  unfold handleRMQReferenceParseError
  split
  · exact releases
  split
  · trivial
  split
  · exact releases
  split
  · exact returns_ask_bind fun _ => (returns_recordNotReady _ _).bind fun _ => trivial
  split
  · exact (returns_recordNotReady _ _).bind fun _ => trivial
  · exact returns_ask_bind fun _ => (returns_recordNotReady _ _).bind fun _ => trivial

/-- The finalizer is no field that is dereferenced. -/
theorem anchored_withFinalizer {object : Object kind} (anchored : Anchored object)
    (version : Version) : Anchored (object.withFinalizer.withVersion version) := by
  cases kind <;> exact anchored

/-- Once there is a client, a reconcile of an anchored or marked object returns. -/
theorem returns_reconcileObject {object : Object kind}
    (sound : object.objectMeta.deletionTimestamp.isSome = true ∨ Anchored object) :
    (r.reconcileObject object).Returns := by
  have declares : ∀ stored : Object kind, Anchored stored → (r.reconcileDeclare stored).Returns :=
    fun stored anchored => (returns_declareFunc.mpr anchored).bind fun _ =>
      returns_recordDeclared _ _
  unfold reconcileObject
  split
  · refine (returns_deleteFunc object).bind fun deleted => ?_
    split
    · exact returns_ask_bind fun _ => trivial
    · exact returns_ask_bind fun _ => (returns_removeFinalizer _).bind fun _ => trivial
  · next unmarked =>
      have anchored := sound.resolve_left unmarked
      unfold addFinalizerIfNeeded
      split
      · intro written
        cases written with
        | error => trivial
        | ok version => exact declares _ (anchored_withFinalizer anchored version)
      · exact declares object anchored

/-- Whatever it is answered, a reconcile of an anchored object returns, and so does one of
an object that is marked for deletion. -/
theorem returns_reconcileRead {object : Object kind}
    (sound : object.objectMeta.deletionTimestamp.isSome = true ∨ Anchored object) :
    (r.reconcileRead object).Returns := by
  refine Returns.bind ?_ fun loaded => ?_
  · refine returns_ask_bind fun loaded => ?_
    split
    · exact returns_ask_bind fun _ => trivial
    · trivial
  split
  · trivial
  refine (returns_parseReference _ _ _ _).bind fun resolved => ?_
  split
  · exact returns_handleRMQReferenceParseError object _
  · refine (returns_generateRabbitholeClient _ _).bind fun created => ?_
    split
    · trivial
    · exact returns_reconcileObject r sound

end Reconcile

end TopologyOperator
