import TopologyOperator.ApiServer.Surroundings
import TopologyOperator.Properties.OrphanedEntities

/-!
# Convergence

Whatever happened before, one reconcile that nobody disturbs is enough: if the cluster
reference of an object resolves and its spec can be declared, the reconcile returns
without an error, the status says that the object is ready and which generation was
observed, and the broker holds the entity as the spec prescribes it.

`Declarable` lists what each kind needs around it for that.
-/

namespace TopologyOperator.Deployment

open Dialogue Environment Program BrokerStore

variable {kind : Kind} {around : Surroundings} {key : NamespacedName} {target : Entity}
  {admits : Object kind → Prop} {world : World kind} {r : TopologyReconciler}
  {libraries : Libraries}

section Resolve

/-- The default user is found where the cluster says. -/
theorem readDefaultUser_settles {cluster : RabbitmqCluster} {ns : String}
    (user : around.HasDefaultUser cluster ns) :
    (calm around key target admits).Settles
      (fun result now => now = world ∧ ∃ credentials, result = .ok credentials)
      (readDefaultUser cluster ns) world := by
  unfold Surroundings.HasDefaultUser at user
  unfold readDefaultUser
  split at user
  · next stored =>
      obtain ⟨credentials, found⟩ := user
      rw [if_pos stored]
      refine settles_lookup rfl (fun _ => Iff.rfl) ?_
      exact settles_lookup rfl (fun _ => found_iff found) ⟨rfl, credentials, rfl⟩
  · next unstored =>
      obtain ⟨binding, secret, bound, found⟩ := user
      rw [if_neg unstored, bound]
      exact settles_lookup rfl (fun _ => found_iff found) ⟨rfl, _, rfl⟩

/-- The endpoint of the cluster is found and well formed. -/
theorem readEndpoint_settles {cluster : RabbitmqCluster} {serviceReference : LocalObjectReference}
    {ns : String} (endpoint : around.HasEndpoint r cluster serviceReference ns) :
    (calm around key target admits).Settles
      (fun result now => now = world ∧ ∃ endpoint, result = .ok endpoint)
      (readEndpoint r.libraries cluster serviceReference ns r.kubernetesClusterDomain
        r.connectUsingPlainHTTP) world := by
  unfold Surroundings.HasEndpoint at endpoint
  unfold readEndpoint
  cases annotated : cluster.objectMeta.annotations.lookup uriAnnotationKey with
  | some uriAnnotation =>
      rw [annotated] at endpoint
      exact ⟨rfl, endpoint⟩
  | none =>
      rw [annotated] at endpoint
      obtain ⟨svc, additionalConfig, endpoint, found, configured, served⟩ := endpoint
      refine settles_lookup rfl (fun _ => found_iff found) ?_
      simp only [done_bind, configured, served]
      exact ⟨rfl, _, rfl⟩

/-- A Secret that is accepted describes a connection in full. -/
theorem connectionCreds_of_secret {secret : Secret} {credentials : ConnectionCreds × Bool}
    (usable : readCredentialsFromKubernetesSecret libraries secret = .ok credentials) :
    ∃ username password uri tls, credentials = (connectionCreds username password uri, tls) := by
  unfold readCredentialsFromKubernetesSecret at usable
  split at usable
  · cases usable
  · split at usable
    · cases usable
    · cases usable
      exact ⟨_, _, _, _, rfl⟩

/-- A reference that connects resolves, to credentials with all that a client needs. -/
theorem resolve_settles {object : Object kind}
    (connects : around.Connects r object.rabbitReference object.objectMeta.ns) :
    (calm around key target admits).Settles
      (fun result now => now = world ∧ ∃ username password uri tls,
        result = .ok (connectionCreds username password uri, tls))
      (r.resolve object) world := by
  unfold TopologyReconciler.resolve parseReference
  cases connects with
  | bySecret reference secret credentials given found allowed usable =>
      obtain ⟨username, password, uri, tls, rfl⟩ := connectionCreds_of_secret usable
      rw [given]
      refine settles_lookup rfl (fun _ => found_iff found) ?_
      simp only [done_bind, allowed, usable, if_true]
      exact ⟨rfl, username, password, uri, tls, rfl⟩
  | byName cluster serviceReference given found allowed served user endpoint =>
      rw [given]
      refine settles_lookup rfl (fun _ => found_iff found) ?_
      simp only [done_bind, allowed, if_true, parseCluster,
        if_neg (around.runs _ cluster found), served]
      refine settles_bind.mpr ((readDefaultUser_settles user).weaken ?_)
      rintro _ _ ⟨rfl, ⟨username, password⟩, rfl⟩
      refine settles_bind.mpr ((readEndpoint_settles endpoint).weaken ?_)
      rintro _ _ ⟨rfl, ⟨uri, tls⟩, rfl⟩
      exact ⟨rfl, username, password, uri, tls, rfl⟩

/-- A connection that is described in full gets its client. -/
theorem generateRabbitholeClient_settles (username password uri : String) (tls : Bool) :
    (calm around key target admits).Settles (fun result now => now = world ∧ result = .ok ())
      (generateRabbitholeClient (connectionCreds username password uri) tls) world :=
  settles_lookup rfl (fun _ => Iff.rfl) ⟨rfl, rfl⟩

end Resolve

section Declarable

/-- The user of a permission is known, and may own the permission. -/
def Grantable (around : Surroundings) (specUser : String)
    (userReference : Option LocalObjectReference) (objectMeta : ObjectMeta) : Prop :=
  match userReference with
  | none => specUser ≠ ""
  | some reference => ∃ user, around.user ⟨objectMeta.ns, reference.name⟩ = some user ∧
      user.status.username ≠ "" ∧ (user.objectMeta.name ≠ "" →
        ∃ owned, setControllerReference apiVersion "User" user.objectMeta objectMeta = .ok owned)

/-- The Secret with the credentials of an upstream. -/
def upstreamSecret (around : Surroundings) (replication : Object .schemaReplication) :
    Option Secret :=
  if SchemaReplicationReconciler.vaultSecretPath replication ≠ "" then
    (around.credentials (SchemaReplicationReconciler.vaultSecretPath replication)).map
      fun credentials => ⟨{ name := "", ns := "" },
        [("username", credentials.1), ("password", credentials.2)]⟩
  else replication.spec.upstreamSecret.bind fun reference =>
    around.secret .cache ⟨replication.objectMeta.ns, reference.name⟩

/-- The spec can be turned into settings, with what is found around the object. -/
def Declarable (around : Surroundings) (libraries : Libraries) : {kind : Kind} → Object kind → Prop
  | .federation, object => ∃ reference secret uri, object.spec.uriSecret = some reference ∧
      around.secret .cache ⟨object.objectMeta.ns, reference.name⟩ = some secret ∧
      secretKey secret "uri" = .ok uri
  | .permission, object =>
      Grantable around object.spec.user object.spec.userReference object.objectMeta
  | .schemaReplication, object => ∃ secret parameters,
      upstreamSecret around object = some secret ∧
      generateSchemaReplicationParameters secret object.spec.endpoints = .ok parameters
  | .shovel, object => ∃ reference secret srcUri destUri definition,
      object.spec.uriSecret = some reference ∧
      around.secret .cache ⟨object.objectMeta.ns, reference.name⟩ = some secret ∧
      secretKey secret "srcUri" = .ok srcUri ∧ secretKey secret "destUri" = .ok destUri ∧
      generateShovelDefinition libraries object srcUri destUri = .ok definition
  | .topicPermission, object =>
      Grantable around object.spec.user object.spec.userReference object.objectMeta
  | _, object => ∃ issued, Prescribes libraries object issued

/-- Whether an object may be owned depends on its namespace and its owners. -/
theorem setControllerReference_congr {apiVersion kind : String}
    {owner controlled other owned : ObjectMeta} (ns : other.ns = controlled.ns)
    (owners : other.ownerReferences = controlled.ownerReferences)
    (set : setControllerReference apiVersion kind owner controlled = .ok owned) :
    ∃ result, setControllerReference apiVersion kind owner other = .ok result := by
  unfold setControllerReference at set ⊢
  rw [ns, owners]
  split at set
  · cases set
  next inside =>
  rw [if_neg inside]
  split at set
  · split at set
    · next same => exact ⟨_, if_pos same⟩
    · cases set
  · exact ⟨_, rfl⟩

theorem Grantable.congr {specUser : String} {userReference : Option LocalObjectReference}
    {objectMeta other : ObjectMeta} (ns : other.ns = objectMeta.ns)
    (owners : other.ownerReferences = objectMeta.ownerReferences)
    (grantable : Grantable around specUser userReference objectMeta) :
    Grantable around specUser userReference other := by
  cases userReference with
  | none => exact grantable
  | some reference =>
      obtain ⟨user, found, named, ownable⟩ := grantable
      refine ⟨user, by rw [ns]; exact found, named, fun known => ?_⟩
      obtain ⟨owned, set⟩ := ownable known
      exact setControllerReference_congr ns owners set

/-- Whether an object can be declared depends on its spec, its namespace and its owners. -/
theorem Declarable.congr {object other : Object kind} (spec : other.spec = object.spec)
    (ns : other.objectMeta.ns = object.objectMeta.ns)
    (owners : other.objectMeta.ownerReferences = object.objectMeta.ownerReferences)
    (declarable : Declarable around libraries object) : Declarable around libraries other := by
  obtain ⟨objectMeta, required, status⟩ := object
  obtain ⟨objectMeta', required', status'⟩ := other
  cases spec
  cases kind with
  | permission | topicPermission => exact Grantable.congr ns owners declarable
  | federation =>
      obtain ⟨reference, secret, uri, given, found, read⟩ := declarable
      exact ⟨reference, secret, uri, given, by rw [ns]; exact found, read⟩
  | shovel =>
      obtain ⟨reference, secret, srcUri, destUri, definition, given, found, read⟩ := declarable
      exact ⟨reference, secret, srcUri, destUri, definition, given, by rw [ns]; exact found, read⟩
  | schemaReplication =>
      obtain ⟨secret, parameters, found, generated⟩ := declarable
      refine ⟨secret, parameters, ?_, generated⟩
      unfold upstreamSecret at found ⊢
      rw [ns]
      exact found
  | _ => exact declarable

end Declarable

section Declare

/-- The object in memory is the one that is stored, asks for the same, and has lost no
finalizer. -/
structure Stays (object memory : Object kind) (now : World kind) : Prop where
  stored : now.server.stored = some memory
  spec : memory.spec = object.spec
  generation : memory.objectMeta.generation = object.objectMeta.generation
  unmarked : memory.objectMeta.deletionTimestamp = none
  finalizers : object.objectMeta.finalizers ⊆ memory.objectMeta.finalizers

/-- An object that is stored as it is in memory stays. -/
theorem Stays.refl {object : Object kind} {now : World kind}
    (stored : now.server.stored = some object)
    (unmarked : object.objectMeta.deletionTimestamp = none) : Stays object object now :=
  ⟨stored, rfl, rfl, unmarked, List.Subset.refl _⟩

/-- What stays over two parts stays over both. -/
theorem Stays.trans {object memory final : Object kind} {now later : World kind}
    (first : Stays object memory now) (second : Stays memory final later) :
    Stays object final later where
  stored := second.stored
  spec := second.spec.trans first.spec
  generation := second.generation.trans first.generation
  unmarked := second.unmarked
  finalizers := List.Subset.trans first.finalizers second.finalizers

/-- What leaves the API server alone leaves an object that stays. -/
theorem Stays.congr {object memory : Object kind} {now later : World kind}
    (stays : Stays object memory now) (same : later.server = now.server) :
    Stays object memory later :=
  { stays with stored := same ▸ stays.stored }

/-- The limits of a virtual host are brought up to date without an error. -/
theorem reconcileLimits_settles {name : String} {keys : List String} {new : LimitsValues} :
    (calm around key target admits).Settles
      (fun result now => result = .ok () ∧ now.server = world.server)
      (reconcileLimits keys new (ask (.broker (.getVhostLimits name)))
        (fun limits => ask (.broker (.deleteVhostLimits name limits)))
        (fun limits => ask (.broker (.putVhostLimits name limits)))) world := by
  refine settles_broker fun reply store accepts => ?_
  obtain ⟨limits, rfl⟩ := accepts.told
  have known : ∃ existing, currentLimits (.ok limits) = .ok existing := by
    cases limits with
    | nil => exact ⟨[], rfl⟩
    | cons first _ => exact ⟨first, rfl⟩
  obtain ⟨existing, current⟩ := known
  simp only [done_bind, current]
  have outdated : (calm around key target admits).Settles
      (fun result now => result = .ok () ∧ now.server = world.server)
      (deleteOutdated (limitsToDelete keys existing new)
        fun limits => ask (.broker (.deleteVhostLimits name limits))) ⟨world.server, store⟩ := by
    unfold deleteOutdated
    split
    · exact ⟨rfl, rfl⟩
    · exact settles_broker fun reply _ accepts =>
        ⟨deleted_of_valid (accepts.valid reply rfl), rfl⟩
  refine settles_bind.mpr (outdated.weaken ?_)
  rintro _ ⟨server, store⟩ ⟨rfl, same⟩
  cases same
  dsimp only
  split
  · exact ⟨rfl, rfl⟩
  · exact settles_broker fun reply _ accepts => ⟨accepts.valid reply rfl, rfl⟩

/-- The permission is written with its owner, and stays. -/
theorem setOwner_settles {object : Object kind} {user : Object .user}
    (stored : world.server.stored = some object)
    (unmarked : object.objectMeta.deletionTimestamp = none)
    (ownable : user.objectMeta.name ≠ "" → ∃ owned,
      setControllerReference apiVersion "User" user.objectMeta object.objectMeta = .ok owned) :
    (calm around key target admits).Settles
      (fun owned now => owned.2 = .ok () ∧ Stays object owned.1 now) (setOwner user object)
      world := by
  unfold setOwner
  split
  · exact ⟨rfl, .refl stored unmarked⟩
  · next known =>
      obtain ⟨objectMeta, set⟩ := ownable known
      obtain ⟨references, rfl⟩ := setControllerReference_eq set
      rw [set]
      refine settles_update stored rfl rfl unmarked rfl rfl rfl fun version server left gen => ?_
      exact ⟨rfl, left, rfl, gen, unmarked, List.Subset.refl _⟩

/-- A permission whose user is known is granted. -/
theorem declareForUser_settles {object : Object kind} {specUser : String}
    {userReference : Option LocalObjectReference} {grant : String → Prog (Object kind) BrokerReply}
    (stored : world.server.stored = some object)
    (unmarked : object.objectMeta.deletionTimestamp = none)
    (grantable : Grantable around specUser userReference object.objectMeta)
    (grants : ∀ username (now : World kind), (calm around key target admits).Settles
      (fun response later => validateResponse response = .ok () ∧ later.server = now.server)
      (grant username) now) :
    (calm around key target admits).Settles
      (fun declared now => declared.2 = .ok () ∧ Stays object declared.1 now)
      (declareForUser specUser userReference object grant) world := by
  have granted : ∀ username (owned : Object kind) (now : World kind), Stays object owned now →
      (calm around key target admits).Settles
        (fun declared now => declared.2 = .ok () ∧ Stays object declared.1 now)
        ((grant username).bind fun reply => .done (owned, validateResponse reply)) now := by
    intro username owned now stays
    refine settles_bind.mpr ((grants username now).weaken ?_)
    rintro response later ⟨valid, same⟩
    exact ⟨valid, stays.congr same⟩
  unfold declareForUser
  cases userReference with
  | none =>
      dsimp only
      rw [if_neg (show specUser ≠ "" from grantable)]
      exact granted specUser object world (.refl stored unmarked)
  | some reference =>
      obtain ⟨user, found, named, ownable⟩ := grantable
      refine settles_lookup rfl (fun _ => found_iff found) ?_
      simp only [done_bind, pure_eq, if_neg named]
      refine settles_bind.mpr ((setOwner_settles stored unmarked ownable).weaken ?_)
      rintro ⟨owned, _⟩ now ⟨rfl, stays⟩
      exact granted user.status.username owned now stays

/-- A declaration that succeeds leaves the object as it is stored. -/
theorem declaring_settles {object : Object kind}
    {program : Prog (Object kind) (Except GoError Unit)}
    (stored : world.server.stored = some object)
    (unmarked : object.objectMeta.deletionTimestamp = none)
    (settles : (calm around key target admits).Settles
      (fun result now => result = .ok () ∧ now.server = world.server) program world) :
    (calm around key target admits).Settles
      (fun declared now => declared.2 = .ok () ∧ Stays object declared.1 now)
      (declaring object program) world := by
  refine settles_bind.mpr (settles.weaken ?_)
  rintro result now ⟨rfl, same⟩
  exact ⟨rfl, (Stays.refl stored unmarked).congr same⟩

/-- What can be declared is declared. -/
theorem declareFunc_settles {object : Object kind} (other : kind ≠ .user)
    (stored : world.server.stored = some object)
    (unmarked : object.objectMeta.deletionTimestamp = none)
    (declarable : Declarable around libraries object) :
    (calm around key target admits).Settles
      (fun declared now => declared.2 = .ok () ∧ Stays object declared.1 now)
      (declareFunc libraries object) world := by
  cases kind with
  | user => exact absurd rfl other
  | binding =>
      obtain ⟨_, info, generated, -⟩ := declarable
      refine declaring_settles stored unmarked ?_
      unfold BindingReconciler.declareFunc
      rw [generated]
      exact settles_broker fun reply _ accepts => ⟨accepts.valid reply rfl, rfl⟩
  | exchange =>
      obtain ⟨_, settings, generated, -⟩ := declarable
      refine declaring_settles stored unmarked ?_
      unfold ExchangeReconciler.declareFunc
      rw [generated]
      exact settles_broker fun reply _ accepts => ⟨accepts.valid reply rfl, rfl⟩
  | queue =>
      obtain ⟨_, settings, generated, -⟩ := declarable
      refine declaring_settles stored unmarked ?_
      unfold QueueReconciler.declareFunc
      rw [generated]
      exact settles_broker fun reply _ accepts => ⟨accepts.valid reply rfl, rfl⟩
  | policy =>
      obtain ⟨_, definition, generated, -⟩ := declarable
      refine declaring_settles stored unmarked ?_
      unfold PolicyReconciler.declareFunc
      rw [generated]
      exact settles_broker fun reply _ accepts => ⟨accepts.valid reply rfl, rfl⟩
  | operatorPolicy =>
      obtain ⟨_, definition, generated, -⟩ := declarable
      refine declaring_settles stored unmarked ?_
      unfold OperatorPolicyReconciler.declareFunc
      rw [generated]
      exact settles_broker fun reply _ accepts => ⟨accepts.valid reply rfl, rfl⟩
  | vhost =>
      refine declaring_settles stored unmarked (settles_broker fun reply store accepts => ?_)
      simp only [done_bind, accepts.valid reply rfl]
      exact reconcileLimits_settles
  | federation =>
      obtain ⟨reference, secret, uri, given, found, read⟩ := declarable
      refine declaring_settles stored unmarked ?_
      unfold FederationReconciler.declareFunc
      rw [given]
      refine settles_lookup rfl (fun _ => found_iff found) ?_
      simp only [done_bind, pure_eq, read]
      exact settles_broker fun reply _ accepts => ⟨accepts.valid reply rfl, rfl⟩
  | shovel =>
      obtain ⟨reference, secret, srcUri, destUri, definition, given, found, source, destination,
        generated⟩ := declarable
      refine declaring_settles stored unmarked ?_
      unfold ShovelReconciler.declareFunc
      rw [given]
      refine settles_lookup rfl (fun _ => found_iff found) ?_
      simp only [done_bind, pure_eq, source, destination, generated]
      exact settles_broker fun reply _ accepts => ⟨accepts.valid reply rfl, rfl⟩
  | schemaReplication =>
      obtain ⟨secret, parameters, found, generated⟩ := declarable
      refine declaring_settles stored unmarked ?_
      have supplied : (calm around key target admits).Settles
          (fun result now => result = .ok secret ∧ now = world)
          (SchemaReplicationReconciler.getUpstreamSecret object) world := by
        unfold upstreamSecret at found
        unfold SchemaReplicationReconciler.getUpstreamSecret
        split at found
        · next vault =>
            rw [if_pos vault]
            obtain ⟨credentials, read, rfl⟩ := Option.map_eq_some_iff.mp found
            refine settles_lookup rfl (fun _ => Iff.rfl) ?_
            exact settles_lookup rfl (fun _ => found_iff read) ⟨rfl, rfl⟩
        · next plain =>
            rw [if_neg plain]
            obtain ⟨reference, given, read⟩ := Option.bind_eq_some_iff.mp found
            rw [given]
            exact settles_lookup rfl (fun _ => found_iff read) ⟨rfl, rfl⟩
      refine settles_bind.mpr (settles_bind.mpr (supplied.weaken ?_))
      rintro _ _ ⟨rfl, rfl⟩
      simp only [generated]
      exact settles_broker fun reply _ accepts => ⟨accepts.valid reply rfl, rfl⟩
  | permission =>
      change Settles _ _ (PermissionReconciler.declareFunc object) world
      refine declareForUser_settles stored unmarked declarable fun username now => ?_
      exact settles_broker fun reply _ accepts => ⟨accepts.valid reply rfl, rfl⟩
  | topicPermission =>
      change Settles _ _ (TopicPermissionReconciler.declareFunc object) world
      refine declareForUser_settles stored unmarked declarable fun username now => ?_
      exact settles_broker fun reply _ accepts => ⟨accepts.valid reply rfl, rfl⟩

end Declare

section Delete

variable {object : Object kind}

/-- No object is stored that carries the finalizer. -/
def Released (now : World kind) : Prop :=
  ∀ final, now.server.stored = some final → kind.finalizer ∉ final.objectMeta.finalizers

/-- A current object is released by one write. -/
theorem removeFinalizer_settles (stored : world.server.stored = some object) :
    (calm around key target admits).Settles
      (fun result now => (∃ later, result = .ok later) ∧ Released now) (removeFinalizer object)
      world := by
  have same : ApiServer.SameRequest object object.withoutFinalizer := ⟨rfl, rfl⟩
  have lacks : kind.finalizer ∉ object.withoutFinalizer.objectMeta.finalizers :=
    ObjectMeta.not_mem_removeFinalizer object.objectMeta kind.finalizer
  have written : ApiServer.updated object.withoutFinalizer object = object.withoutFinalizer :=
    updated_eq rfl rfl
  constructor
  · refine ⟨.ok ⟨world.server.nextVersion, object.objectMeta.generation⟩,
      ⟨(world.server.recordRelease object.withoutFinalizer).replace object.withoutFinalizer
        ⟨world.server.nextVersion, object.objectMeta.generation⟩, world.store⟩,
      ⟨⟨object, ⟨stored, rfl, rfl⟩, ?_⟩, ?_⟩, rfl, _, rfl⟩
    · rw [written]
      exact .changed _ (ApiServer.World.recordRelease_nextVersion ..).symm
    · exact generations_of_same stored (fun later left => ApiServer.settled_eq_some left) same rfl
  · rintro reply ⟨server, store⟩ ⟨⟨applied, -⟩, -, version, rfl⟩
    obtain ⟨held, ⟨found, -⟩, stores⟩ := applied
    cases stored.symm.trans found
    rw [written] at stores
    refine ⟨⟨_, rfl⟩, fun final left => ?_⟩
    cases stores with
    | changed =>
        cases ApiServer.settled_eq_some left
        exact lacks
    | unchanged already =>
        cases already.symm.trans left
        exact lacks

/-- A deletion that succeeds leaves the object to be released. -/
theorem deleting_settles {program : Prog (Object kind) (Except GoError Unit)}
    (settles : (calm around key target admits).Settles
      (fun result now => result = .ok () ∧ now.server = world.server) program world) :
    (calm around key target admits).Settles
      (fun result now => result = .ok object ∧ now.server = world.server)
      (deleting object program) world := by
  refine settles_bind.mpr (settles.weaken ?_)
  rintro _ now ⟨rfl, same⟩
  exact ⟨rfl, same⟩

/-- The end of the delete functions, unless they do nothing. -/
theorem skipping_settles {skips : Prop} [Decidable skips]
    {program : Prog (Object kind) (Except GoError Unit)}
    (settles : (calm around key target admits).Settles
      (fun result now => result = .ok () ∧ now.server = world.server) program world) :
    (calm around key target admits).Settles
      (fun result now => result = .ok () ∧ now.server = world.server)
      (if skips then return .ok () else program) world := by
  split
  · exact ⟨rfl, rfl⟩
  · exact settles

/-- The search for a binding whose arguments decode is answered. -/
theorem deletionInfo_settles {binding : Object .binding} {admits : Object .binding → Prop}
    {world : World .binding} (named : Designates libraries target binding) :
    (calm around key target admits).Settles
      (fun result now => (∃ info, result = .ok info) ∧ now.server = world.server)
      (BindingReconciler.deletionInfo libraries binding) world := by
  unfold BindingReconciler.deletionInfo
  split
  · next extension given =>
      have decoded : ∃ arguments, Encoding.Json.unmarshalMap extension.raw = some arguments := by
        simp only [Designates, Object.target, given, unmarshalArguments] at named
        cases read : Encoding.Json.unmarshalMap extension.raw with
        | none => rw [read] at named; cases named
        | some arguments => exact ⟨arguments, rfl⟩
      obtain ⟨arguments, read⟩ := decoded
      unfold BindingReconciler.findBindingInfo BindingReconciler.listBindingsBetween
      rw [read]
      dsimp only
      split
      · refine settles_broker fun reply store accepts => ?_
        obtain ⟨listed, rfl⟩ := accepts.told
        exact ⟨⟨_, rfl⟩, rfl⟩
      · refine settles_broker fun reply store accepts => ?_
        obtain ⟨listed, rfl⟩ := accepts.told
        exact ⟨⟨_, rfl⟩, rfl⟩
  · next given =>
      unfold generateBindingInfo
      rw [given]
      exact ⟨⟨_, rfl⟩, rfl⟩

/-- The broker tells of no messages and no consumers, and the queue passes the check. -/
theorem checkDeletable_settles {queue : Object .queue} {admits : Object .queue → Prop}
    {world : World .queue} :
    (calm around key target admits).Settles
      (fun result now => result = .ok () ∧ now.server = world.server)
      (QueueReconciler.checkDeletable queue) world := by
  unfold QueueReconciler.checkDeletable
  split
  · refine settles_broker fun reply store accepts => ?_
    obtain ⟨info, rfl, empty, unused⟩ := accepts.told
    simp only [done_bind, empty, unused, Int.lt_irrefl, false_and, if_false]
    exact ⟨rfl, rfl⟩
  · exact ⟨rfl, rfl⟩

/-- The delete functions that leave the finalizer to the reconciler. -/
theorem deleteFunc_settles (other : kind ≠ .user)
    (plain : kind ≠ .permission ∧ kind ≠ .topicPermission)
    (named : Designates libraries target object) :
    (calm around key target admits).Settles
      (fun result now => result = .ok object ∧ now.server = world.server)
      (deleteFunc libraries object) world := by
  cases kind with
  | user => exact absurd rfl other
  | permission => exact absurd rfl plain.1
  | topicPermission => exact absurd rfl plain.2
  | binding =>
      refine deleting_settles (settles_bind.mpr ((deletionInfo_settles named).weaken ?_))
      rintro _ ⟨server, store⟩ ⟨⟨info, rfl⟩, rfl⟩
      cases info with
      | none => exact ⟨rfl, rfl⟩
      | some info =>
          exact settles_broker fun reply _ accepts =>
            ⟨deleted_of_valid (accepts.valid reply rfl), rfl⟩
  | queue =>
      refine deleting_settles (skipping_settles (settles_bind.mpr
        (checkDeletable_settles.weaken ?_)))
      rintro _ ⟨server, store⟩ ⟨rfl, rfl⟩
      exact settles_broker fun reply _ accepts =>
        ⟨deleted_of_valid (accepts.valid reply rfl), rfl⟩
  | exchange | policy | operatorPolicy | schemaReplication =>
      refine deleting_settles (settles_broker fun reply _ accepts => ?_)
      exact ⟨deleted_of_valid (accepts.valid reply rfl), rfl⟩
  | vhost | federation | shovel =>
      refine deleting_settles (skipping_settles (settles_broker fun reply _ accepts => ?_))
      exact ⟨deleted_of_valid (accepts.valid reply rfl), rfl⟩

end Delete

section Reconcile

variable {object : Object kind}

/-- Afterwards the object carries the finalizer and can still be declared. -/
theorem addFinalizerIfNeeded_settles (stored : world.server.stored = some object)
    (unmarked : object.objectMeta.deletionTimestamp = none)
    (declarable : Declarable around libraries object) :
    (calm around key target admits).Settles
      (fun result now => ∃ memory, result = .ok memory ∧ Stays object memory now ∧
        kind.finalizer ∈ memory.objectMeta.finalizers ∧ Declarable around libraries memory)
      (addFinalizerIfNeeded object) world := by
  unfold addFinalizerIfNeeded
  split
  · next lacks =>
      have added : object.withFinalizer.objectMeta = { object.objectMeta with
          finalizers := object.objectMeta.finalizers ++ [kind.finalizer] } :=
        if_neg (Bool.eq_false_iff.mp lacks.2)
      refine settles_update stored (by rw [added]) (by rw [added]) unmarked (by rw [added]) rfl rfl
        fun version server left generation => ?_
      have spec : (object.withFinalizer.withVersion version).spec = object.spec := rfl
      refine ⟨_, rfl, ⟨left, spec, generation, ?_, ?_⟩, ?_, declarable.congr spec ?_ ?_⟩
      · change object.withFinalizer.objectMeta.deletionTimestamp = none
        rw [added]
        exact unmarked
      · change object.objectMeta.finalizers ⊆ object.withFinalizer.objectMeta.finalizers
        rw [added]
        exact List.subset_append_left _ _
      · change kind.finalizer ∈ object.withFinalizer.objectMeta.finalizers
        rw [added]
        exact List.mem_append_right _ (List.mem_singleton.mpr rfl)
      · change object.withFinalizer.objectMeta.ns = object.objectMeta.ns
        rw [added]
      · change object.withFinalizer.objectMeta.ownerReferences = object.objectMeta.ownerReferences
        rw [added]
  · next carries =>
      refine ⟨object, rfl, .refl stored unmarked, ?_, declarable⟩
      rw [unmarked] at carries
      simpa using carries

/-- The object carries the finalizer, and its status says that it is ready and that its
generation was observed. -/
structure Attained (object final : Object kind) : Prop where
  spec : final.spec = object.spec
  unmarked : final.objectMeta.deletionTimestamp = none
  carries : kind.finalizer ∈ final.objectMeta.finalizers
  generation : final.objectMeta.generation = object.objectMeta.generation
  observed : final.status.observedGeneration = final.objectMeta.generation
  ready : ∃ condition ∈ final.status.conditions, ReadyTrue condition

/-- The condition that is set is in the status. -/
theorem mem_setStatusConditions (other : kind ≠ .user) (object : Object kind)
    (condition : Condition) :
    condition ∈ (object.setStatusConditions [condition]).status.conditions := by
  cases kind with
  | user => exact absurd rfl other
  | _ => exact List.mem_singleton.mpr rfl

theorem setStatusConditions_meta (object : Object kind) (conditions : List Condition) :
    (object.setStatusConditions conditions).objectMeta = object.objectMeta := by
  cases kind <;> rfl

theorem setStatusConditions_spec (object : Object kind) (conditions : List Condition) :
    (object.setStatusConditions conditions).spec = object.spec := by
  cases kind <;> rfl

/-- The condition that is built says that the object is ready. -/
theorem ready_settles (conditions : List Condition) :
    (calm around key target admits).Settles
      (fun condition now => ReadyTrue condition ∧ now = world)
      (ready conditions : Prog (Object kind) Condition) world := by
  refine settles_bind.mpr ?_
  unfold transitionTime
  split
  · exact ⟨⟨rfl, rfl⟩, rfl⟩
  · exact settles_quiet rfl ⟨0, trivial⟩ fun _ _ => ⟨⟨rfl, rfl⟩, rfl⟩

/-- The success is stored with the generation that was declared. -/
theorem recordDeclared_settles {memory : Object kind} (other : kind ≠ .user)
    (stays : Stays object memory world)
    (carries : kind.finalizer ∈ memory.objectMeta.finalizers) :
    (calm around key target admits).Settles
      (fun result now => result = ({}, none) ∧
        ∃ final, now.server.stored = some final ∧ Attained object final)
      (TopologyReconciler.recordDeclared memory (.ok ())) world := by
  refine settles_quiet rfl ⟨(), trivial⟩ fun _ _ => ?_
  simp only [done_bind]
  refine settles_bind.mpr ((ready_settles memory.status.conditions).weaken ?_)
  rintro condition _ ⟨ready, rfl⟩
  have objectMeta := setStatusConditions_meta memory [condition]
  have spec := setStatusConditions_spec memory [condition]
  refine settles_updateStatus stays.stored objectMeta stays.unmarked spec
    fun version server left generation => ?_
  refine ⟨rfl, _, left, ?_⟩
  constructor
  · exact spec.trans stays.spec
  · change (memory.setStatusConditions [condition]).objectMeta.deletionTimestamp = none
    rw [objectMeta, stays.unmarked]
  · change kind.finalizer ∈ (memory.setStatusConditions [condition]).objectMeta.finalizers
    rw [objectMeta]
    exact carries
  · exact generation.trans stays.generation
  · change (memory.setStatusConditions [condition]).objectMeta.generation = version.generation
    rw [objectMeta, generation]
  · exact ⟨condition, mem_setStatusConditions other memory condition, ready⟩

/-- A reconcile of an object whose reference connects comes to the object. -/
theorem reconcileRead_settles {post : Result × Option GoError → World kind → Prop}
    (stored : world.server.stored = some object)
    (connects : around.Connects r object.rabbitReference object.objectMeta.ns)
    (settles : (calm around key target admits).Settles post (r.reconcileObject object) world) :
    (calm around key target admits).Settles post (r.reconcile key) world := by
  refine settles_get stored (settles_lookup rfl (fun _ => Iff.rfl) ?_)
  simp only [done_bind, pure_eq]
  refine settles_bind.mpr ((resolve_settles connects).weaken ?_)
  rintro _ _ ⟨rfl, username, password, uri, tls, rfl⟩
  refine settles_bind.mpr ((generateRabbitholeClient_settles username password uri tls).weaken ?_)
  rintro _ _ ⟨rfl, rfl⟩
  exact settles

/-- An undisturbed reconcile of an object that can be declared attains it. -/
theorem reconcile_settles (other : kind ≠ .user) (stored : world.server.stored = some object)
    (unmarked : object.objectMeta.deletionTimestamp = none)
    (connects : around.Connects r object.rabbitReference object.objectMeta.ns)
    (declarable : Declarable around r.libraries object) :
    (calm around key target admits).Settles
      (fun result now => result = ({}, none) ∧
        ∃ final, now.server.stored = some final ∧ Attained object final)
      (r.reconcile key) world := by
  refine reconcileRead_settles stored connects ?_
  unfold TopologyReconciler.reconcileObject
  rw [unmarked]
  refine settles_bind.mpr ((addFinalizerIfNeeded_settles stored unmarked declarable).weaken ?_)
  rintro _ now ⟨memory, rfl, stays, carries, able⟩
  refine settles_bind.mpr ((declareFunc_settles other stays.stored stays.unmarked able).weaken ?_)
  rintro ⟨declared, _⟩ later ⟨rfl, kept⟩
  exact recordDeclared_settles other (stays.trans kept) (kept.finalizers carries)

/-- An undisturbed reconcile of a marked object releases it. -/
theorem reconcile_releases (other : kind ≠ .user)
    (plain : kind ≠ .permission ∧ kind ≠ .topicPermission)
    (named : Designates r.libraries target object) (stored : world.server.stored = some object)
    (marked : object.objectMeta.deletionTimestamp.isSome = true)
    (connects : around.Connects r object.rabbitReference object.objectMeta.ns) :
    (calm around key target admits).Settles
      (fun result now => result = ({}, none) ∧ Released now) (r.reconcile key) world := by
  refine reconcileRead_settles stored connects ?_
  unfold TopologyReconciler.reconcileObject
  rw [if_pos marked]
  refine settles_bind.mpr ((deleteFunc_settles other plain named).weaken ?_)
  rintro _ ⟨server, store⟩ ⟨rfl, rfl⟩
  refine settles_quiet rfl ⟨(), trivial⟩ fun _ _ => ?_
  simp only [done_bind]
  have here : (⟨world.server, store⟩ : World kind).server.stored = some object := stored
  refine settles_bind.mpr ((removeFinalizer_settles here).weaken ?_)
  rintro _ now ⟨⟨later, rfl⟩, released⟩
  exact ⟨rfl, released⟩

end Reconcile

section Runs

variable {object : Object kind} {store : Store}

/-- In calm surroundings, a cluster that is there is found. -/
theorem calm_sighted {request : Request (Object kind)} {reply : request.Answer}
    (fine : Calm around request reply) : Sighted request reply := by
  cases request with
  | getRabbitmqCluster =>
      obtain ⟨cluster, found, rfl⟩ := fine
      exact ⟨cluster, rfl, around.runs _ cluster found⟩
  | getSecret reader =>
      obtain ⟨secret, found, rfl⟩ := fine
      cases reader with
      | cache => trivial
      | api => exact fun _ absent => by cases absent
  | getService =>
      obtain ⟨service, found, rfl⟩ := fine
      exact fun _ absent => by cases absent
  | _ => trivial

/-- From every state that can be reached, whatever failed on the way: a reconcile that
nobody disturbs ends without an error, the object then carries the finalizer and is ready
with its generation observed, and the broker holds the entity as the spec prescribes it. -/
theorem undisturbed_converges (r : TopologyReconciler) (around : Surroundings)
    (reachable : (environment key target (Designates r.libraries target) fun _ _ => True).Reachable
      (r.reconcile key) ⟨.empty, store⟩ ⟨world, none⟩)
    (stored : world.server.stored = some object)
    (unmarked : object.objectMeta.deletionTimestamp = none)
    (numbered : object.objectMeta.generation ≠ 0)
    (connects : around.Connects r object.rabbitReference object.objectMeta.ns)
    (declarable : Declarable around r.libraries object) :
    (calm around key target (Designates r.libraries target)).Settles
      (fun result now => result = ({}, none) ∧ ∃ final, now.server.stored = some final ∧
        Attained object final ∧
        ∃ issued, now.store target = some issued ∧ Prescribes r.libraries final issued)
      (r.reconcile key) world := by
  have kept : ∀ object other : Object kind, ApiServer.SameRequest object other →
      Designates r.libraries target object → Designates r.libraries target other :=
    designates_congr
  have named := reachable_admitted kept reachable object stored
  have other : kind ≠ .user := ne_user_of_target named
  have settles : (calm around key target (Designates r.libraries target)).Settles _ _ world :=
    reconcile_settles other stored unmarked connects declarable
  refine (Reachable.settles (.tail reachable .start) settles ?_).weaken ?_
  · exact fun _ _ _ _ answered => ⟨answered.1, answered.2.1, trivial⟩
  rintro _ now ⟨⟨rfl, final, left, attained⟩, trace, reached⟩
  have latest : ApiServer.UpToDate final := by
    refine ⟨?_, attained.observed⟩
    rw [attained.observed, attained.generation]
    exact numbered
  obtain ⟨-, held⟩ :=
    (reachable_mirrored kept (fun _ => id) other reached).mirrors final left latest
  exact ⟨rfl, final, left, attained, held⟩

/-- From every state that can be reached while the cluster is there, from a broker without
the entity: a reconcile of a marked object that nobody disturbs ends without an error and
releases the object, and the broker no longer has the entity. -/
theorem undisturbed_releases (r : TopologyReconciler) (around : Surroundings)
    (plain : kind ≠ .permission ∧ kind ≠ .topicPermission) (unbound : kind ≠ .binding)
    (vacant : store target = none)
    (reachable : (attended r.libraries key target).Reachable (r.reconcile key) ⟨.empty, store⟩
      ⟨world, none⟩)
    (stored : world.server.stored = some object)
    (marked : object.objectMeta.deletionTimestamp.isSome = true)
    (connects : around.Connects r object.rabbitReference object.objectMeta.ns) :
    (calm around key target (Managed r.libraries target)).Settles
      (fun result now => result = ({}, none) ∧ Released now ∧ now.store target = none)
      (r.reconcile key) world := by
  have named := (reachable_admitted managed_congr reachable object stored).names
  have other : kind ≠ .user := ne_user_of_target named
  have settles : (calm around key target (Managed r.libraries target)).Settles _ _ world :=
    reconcile_releases other plain named stored marked connects
  refine (Reachable.settles (.tail reachable .start) settles ?_).weaken ?_
  · exact fun _ _ _ _ answered => ⟨answered.1, answered.2.1, calm_sighted answered.2.2⟩
  rintro _ now ⟨⟨rfl, released⟩, trace, reached⟩
  refine ⟨rfl, released, Classical.not_not.mp fun held => ?_⟩
  obtain ⟨final, left, carries⟩ := (reachable_owned other unbound vacant reached).owner held
  exact released final left carries

end Runs

section Example

open ApiServer (invoiceExchange)

/-- The Secret through which the broker of the shop is reached. -/
def rabbitSecret : Secret where
  objectMeta := { name := "rabbit", ns := "shop" }
  data := [("uri", "http://rabbit")]

def shopSurroundings : Surroundings where
  cluster _ := none
  runs _ _ absent := by cases absent
  secret _ key := if key = ⟨"shop", "rabbit"⟩ then some rabbitSecret else none
  service _ := none
  user _ := none
  credentials _ := none

/-- The exchange of a user who has asked for the finalizer in advance. -/
def heldExchange : Object .exchange :=
  { invoiceExchange with objectMeta := { invoiceExchange.objectMeta with
    finalizers := [Kind.exchange.finalizer] } }

/-- The exchange as it is stored at first. -/
def createdWorld (exchange : Object .exchange) : World .exchange :=
  ⟨⟨some (exchange.withVersion ⟨1, 1⟩), 2, 2, []⟩, fun _ => none⟩

/-- The exchanges of the shop reach their broker through the Secret. -/
theorem shop_connects {exchange : Object .exchange} (spec : exchange.spec = invoiceExchange.spec)
    (ns : exchange.objectMeta.ns = "shop") :
    shopSurroundings.Connects ⟨.verbatim, "", false⟩ exchange.rabbitReference
      exchange.objectMeta.ns := by
  have reference : exchange.rabbitReference = invoiceExchange.rabbitReference := by
    change exchange.spec.rabbitmqClusterReference = invoiceExchange.spec.rabbitmqClusterReference
    rw [spec]
  rw [reference, ns]
  exact .bySecret ⟨"rabbit"⟩ rabbitSecret _ rfl rfl rfl rfl

/-- A user creates the exchange. -/
theorem shop_creates {admits : Object .exchange → Prop}
    {answering : (request : Request (Object .exchange)) → request.Answer → Prop}
    {exchange : Object .exchange} (named : exchange.objectMeta.key = ⟨"shop", "invoices"⟩)
    (uid : exchange.objectMeta.uid = 1) (unmarked : exchange.objectMeta.deletionTimestamp = none)
    (status : exchange.status = {}) (admitted : admits (exchange.withVersion ⟨1, 1⟩)) :
    (environment ⟨"shop", "invoices"⟩ (.exchange "/" "invoices") admits answering).Reachable
      (TopologyReconciler.reconcile ⟨.verbatim, "", false⟩ ⟨"shop", "invoices"⟩)
      ⟨.empty, fun _ => none⟩ ⟨createdWorld exchange, none⟩ := by
  have settled : ApiServer.settled (exchange.withVersion ⟨1, 1⟩) =
      some (exchange.withVersion ⟨1, 1⟩) := by
    refine if_neg fun gone => ?_
    have marked := gone.1
    rw [show (exchange.withVersion ⟨1, 1⟩).objectMeta.deletionTimestamp = none from unmarked]
      at marked
    cases marked
  have created : ApiServer.Foreign ⟨"shop", "invoices"⟩ ApiServer.World.empty
      (createdWorld exchange).server := by
    have moved : ApiServer.Foreign _ ApiServer.World.empty _ :=
      .create exchange ⟨1, 1⟩ rfl named uid unmarked status rfl
    unfold ApiServer.World.replace at moved
    rw [settled] at moved
    exact moved
  refine .tail .refl (.foreign (.user ⟨created, fun _ _ absent => by cases absent⟩ ?_ rfl))
  intro object stored
  cases stored
  exact admitted

/-- The exchange that a user creates is declared. -/
theorem invoices_converge :
    (calm shopSurroundings ⟨"shop", "invoices"⟩ (.exchange "/" "invoices")
      (Designates .verbatim (.exchange "/" "invoices"))).Settles
      (fun result now => result = ({}, none) ∧ ∃ final, now.server.stored = some final ∧
        Attained (invoiceExchange.withVersion ⟨1, 1⟩) final ∧
        ∃ issued, now.store (.exchange "/" "invoices") = some issued ∧
          Prescribes .verbatim final issued)
      (TopologyReconciler.reconcile ⟨.verbatim, "", false⟩ ⟨"shop", "invoices"⟩)
      (createdWorld invoiceExchange) :=
  undisturbed_converges ⟨.verbatim, "", false⟩ shopSurroundings
    (shop_creates rfl rfl rfl rfl rfl) rfl rfl (by decide) (shop_connects rfl rfl)
    ⟨_, _, rfl, rfl⟩

/-- The world after a user has deleted the exchange. -/
def deletedWorld : World .exchange :=
  ⟨⟨some { heldExchange.withVersion ⟨2, 2⟩ with objectMeta :=
    { (heldExchange.withVersion ⟨2, 2⟩).objectMeta with deletionTimestamp := some 5 } }, 3, 2, []⟩,
    fun _ => none⟩

/-- An exchange that a user has deleted is released. -/
theorem invoices_released :
    (calm shopSurroundings ⟨"shop", "invoices"⟩ (.exchange "/" "invoices")
      (Managed .verbatim (.exchange "/" "invoices"))).Settles
      (fun result now => result = ({}, none) ∧ Released now ∧
        now.store (.exchange "/" "invoices") = none)
      (TopologyReconciler.reconcile ⟨.verbatim, "", false⟩ ⟨"shop", "invoices"⟩) deletedWorld := by
  have created : (attended .verbatim ⟨"shop", "invoices"⟩ (.exchange "/" "invoices")).Reachable _ _
      ⟨createdWorld heldExchange, none⟩ := shop_creates rfl rfl rfl rfl ⟨rfl, rfl⟩
  have deleted : ApiServer.Foreign ⟨"shop", "invoices"⟩ (createdWorld heldExchange).server
      deletedWorld.server := .delete (heldExchange.withVersion ⟨1, 1⟩) 5 ⟨2, 2⟩ rfl rfl
  have moved : Foreign ⟨"shop", "invoices"⟩ (.exchange "/" "invoices")
      (Managed .verbatim (.exchange "/" "invoices")) (createdWorld heldExchange) deletedWorld := by
    refine .user ⟨deleted, fun before after found present _ => ?_⟩ (fun object stored => ?_) rfl
    · cases found
      cases present
      exact ⟨by decide, by decide⟩
    · cases stored
      exact ⟨rfl, rfl⟩
  exact undisturbed_releases ⟨.verbatim, "", false⟩ shopSurroundings (by decide) (by decide) rfl
    (.tail created (.foreign moved)) rfl rfl (shop_connects rfl rfl)

end Example

end TopologyOperator.Deployment
