import TopologyOperator.ApiServer.Deployment

/-!
# A reconcile that nobody disturbs

`Surroundings` are the clusters, Secrets, Services and users that the operator finds,
`Calm` the answers of an environment in which they are found, every write is accepted and
the broker carries out what it is asked for.

`Connects` says when a cluster reference resolves in the surroundings. The rules of this
module are those of total correctness, one for each sort of request.
-/

namespace TopologyOperator

namespace BrokerCall

/-- A call that reads is told what it asks for; queues are empty and not in use. -/
def Told : (call : BrokerCall) → call.Answer → Prop
  | getUserLimits _, reply => ∃ limits, reply = .ok limits
  | getVhostLimits _, reply => ∃ limits, reply = .ok limits
  | listQueueBindingsBetween .., reply => ∃ listed, reply = .ok listed
  | listExchangeBindingsBetween .., reply => ∃ listed, reply = .ok listed
  | getQueue .., reply => ∃ info, reply = .ok info ∧ info.messages = 0 ∧ info.consumers = 0
  | _, _ => True

/-- The broker does as it is asked. -/
structure Accepts (call : BrokerCall) (reply : call.Answer) : Prop where
  told : call.Told reply
  valid : ∀ response, call.response reply = some response → validateResponse response = .ok ()

/-- An answer of a broker that does as it is asked. -/
def acceptance : (call : BrokerCall) → call.Answer
  | getUserLimits _ | getVhostLimits _ | listQueueBindingsBetween ..
  | listExchangeBindingsBetween .. => .ok []
  | getQueue .. => .ok ⟨0, 0⟩
  | putUser .. | deleteUser _ | putUserLimits .. | deleteUserLimits .. | declareBinding ..
  | deleteBinding .. | updatePermissionsIn .. | clearPermissionsIn .. | putPolicy ..
  | deletePolicy .. | declareQueue .. | deleteQueue .. | declareExchange .. | deleteExchange ..
  | putVhost .. | deleteVhost _ | putVhostLimits .. | deleteVhostLimits .. | putGlobalParameter ..
  | deleteGlobalParameter _ | putFederationUpstream .. | deleteFederationUpstream ..
  | declareShovel .. | deleteShovel .. | putOperatorPolicy .. | deleteOperatorPolicy ..
  | updateTopicPermissionsIn .. | deleteTopicPermissionsIn .. => ⟨some ⟨204, ""⟩, none⟩

/-- There is always an answer of a broker that does as it is asked. -/
theorem acceptance_accepts (call : BrokerCall) : call.Accepts call.acceptance := by
  cases call <;>
    first
      | exact ⟨⟨_, rfl⟩, fun _ absent => by cases absent⟩
      | exact ⟨⟨_, rfl, rfl, rfl⟩, fun _ absent => by cases absent⟩
      | exact ⟨trivial, fun _ same => by cases same; rfl⟩

/-- It lists the bindings that were asked for. -/
theorem acceptance_lists (call : BrokerCall) : call.Lists call.acceptance := by
  cases call <;>
    first
      | trivial
      | (intro listed same info member; cases same; cases member)

/-- A call that defines is about an entity. -/
theorem entity_of_defines {call : BrokerCall} (defines : call.defines = true) :
    ∃ entity, call.entity = some entity := by
  cases call <;> first | exact ⟨_, rfl⟩ | cases defines

/-- So is a call that removes. -/
theorem entity_of_removes {call : BrokerCall} (removes : call.removes = true) :
    ∃ entity, call.entity = some entity := by
  cases call <;> first | exact ⟨_, rfl⟩ | cases removes

end BrokerCall

/-- Every call can be carried out. -/
theorem BrokerStore.exists_effect (store : Store) (call : BrokerCall) :
    ∃ after, Effect store call after := by
  classical
  by_cases defines : call.defines = true
  · obtain ⟨entity, about⟩ := BrokerCall.entity_of_defines defines
    exact ⟨Function.update store entity (some call), .define defines about
      (Function.update_self ..) fun other different => Function.update_of_ne different ..⟩
  by_cases removes : call.removes = true
  · obtain ⟨entity, about⟩ := BrokerCall.entity_of_removes removes
    refine ⟨Function.update store entity none, .remove removes about
      (fun _ => Function.update_self ..) fun other => ?_⟩
    by_cases same : other = entity
    · subst same
      exact .inr ⟨Function.update_self .., .inl rfl⟩
    · exact .inl (Function.update_of_ne same ..)
  · exact ⟨store, .neither (Bool.eq_false_of_not_eq_true defines)
      (Bool.eq_false_of_not_eq_true removes)⟩

/-- What the operator finds around an object; no cluster is scaled to zero. -/
structure Surroundings where
  cluster : NamespacedName → Option RabbitmqCluster
  runs : ∀ key found, cluster key = some found → found.replicas ≠ some 0
  secret : Reader → NamespacedName → Option Secret
  service : NamespacedName → Option Service
  user : NamespacedName → Option (Object .user)
  credentials : String → Option (String × String)

namespace Surroundings

variable (around : Surroundings) (r : TopologyReconciler)

/-- The credentials of the default user of a cluster are there. -/
def HasDefaultUser (cluster : RabbitmqCluster) (ns : String) : Prop :=
  if vaultPath cluster ≠ "" then
    ∃ credentials, around.credentials (vaultPath cluster) = some credentials
  else ∃ binding secret, cluster.binding = some binding ∧
    around.secret .api ⟨ns, binding.name⟩ = some secret

/-- The management endpoint of a cluster is known. -/
def HasEndpoint (cluster : RabbitmqCluster) (serviceReference : LocalObjectReference)
    (ns : String) : Prop :=
  match cluster.objectMeta.annotations.lookup uriAnnotationKey with
  | some uriAnnotation => ∃ endpoint, extractURIandScheme r.libraries uriAnnotation = .ok endpoint
  | none => ∃ svc additionalConfig endpoint,
      around.service ⟨ns, serviceReference.name⟩ = some svc ∧
      r.libraries.iniKeys cluster.additionalConfig = .ok additionalConfig ∧
      managementURI r.libraries svc (useTLSForConnection cluster r.connectUsingPlainHTTP)
        r.kubernetesClusterDomain ((additionalConfig.lookup "management.path_prefix").getD "") =
          .ok endpoint

/-- The cluster reference of an object in a namespace resolves. -/
inductive Connects (rmq : RabbitmqClusterReference) (requestNamespace : String) : Prop where
  | bySecret (reference : LocalObjectReference) (secret : Secret)
      (credentials : ConnectionCreds × Bool) (given : rmq.connectionSecret = some reference)
      (found : around.secret .cache
        ⟨rmq.connectionSecretNamespace requestNamespace, reference.name⟩ = some secret)
      (allowed : allowedNamespaceSecret rmq requestNamespace secret = true)
      (usable : readCredentialsFromKubernetesSecret r.libraries secret = .ok credentials)
  | byName (cluster : RabbitmqCluster) (serviceReference : LocalObjectReference)
      (given : rmq.connectionSecret = none)
      (found : around.cluster ⟨rmq.connectionSecretNamespace requestNamespace, rmq.name⟩ =
        some cluster)
      (allowed : allowedNamespace rmq requestNamespace cluster = true)
      (served : cluster.serviceReference = some serviceReference)
      (user : around.HasDefaultUser cluster (rmq.connectionSecretNamespace requestNamespace))
      (endpoint : around.HasEndpoint r cluster serviceReference
        (rmq.connectionSecretNamespace requestNamespace))

end Surroundings

namespace Deployment

open Dialogue Environment Program BrokerStore

variable {kind : Kind}

/-- The answers of an environment in which nothing fails. -/
def Calm (around : Surroundings) : (request : Request (Object kind)) → request.Answer → Prop
  | .get _, reply => ∃ object, reply = .ok object
  | .update _, reply => ∃ version, reply = .ok version
  | .updateStatus _, reply => ∃ version, reply = .ok version
  | .getRabbitmqCluster key, reply =>
      ∃ cluster, around.cluster key = some cluster ∧ reply = .ok cluster
  | .getSecret reader key, reply =>
      ∃ secret, around.secret reader key = some secret ∧ reply = .ok secret
  | .getService key, reply => ∃ service, around.service key = some service ∧ reply = .ok service
  | .getObject .user key, reply => ∃ user, around.user key = some user ∧ reply = .ok user
  | .systemCertPool, reply => reply = .ok ()
  | .secretStoreClient, reply => reply = .ok ()
  | .readCredentials path, reply =>
      ∃ credentials, around.credentials path = some credentials ∧ reply = .ok credentials
  | .newClient .., reply => reply = .ok ()
  | .broker issued, reply => issued.Accepts reply
  | _, _ => True

/-- The API server and a broker, when nothing fails. -/
abbrev calm (around : Surroundings) (key : NamespacedName) (target : Entity)
    (admits : Object kind → Prop) : Environment (@Request.Answer (Object kind)) (World kind) :=
  environment key target admits (Calm around)

variable {around : Surroundings} {key : NamespacedName} {target : Entity}
  {admits : Object kind → Prop} {world : World kind} {α : Type} {post : α → World kind → Prop}

section Lookups

/-- Requests that concern neither the object nor the broker. -/
def quiet : Request (Object kind) → Bool
  | .get _ | .update _ | .updateStatus _ | .broker _ => false
  | _ => true

/-- A request that concerns neither the object nor the broker changes nothing. -/
theorem answers_quiet {answering : (request : Request (Object kind)) → request.Answer → Prop}
    {request : Request (Object kind)} {reply : request.Answer} {after : World kind}
    (aside : quiet request = true) :
    (environment key target admits answering).answers world request reply after ↔
      after = world ∧ answering request reply := by
  have unmoved : (ApiServer.generational key).answers world.server request reply after.server ∧
      BrokerStore.Answers world.store request reply after.store ↔
      after.server = world.server ∧ after.store = world.store := by
    cases request with
    | get | update | updateStatus | broker => cases aside
    | _ =>
        refine ⟨fun answered => ⟨answered.1.1, answered.2⟩, fun same => ⟨⟨same.1, ?_⟩, same.2⟩⟩
        rw [same.1]
        exact ApiServer.generations_refl _
  constructor
  · rintro ⟨server, store, answered⟩
    obtain ⟨sameServer, sameStore⟩ := unmoved.mp ⟨server, store⟩
    cases world
    cases after
    cases sameServer
    cases sameStore
    exact ⟨rfl, answered⟩
  · rintro ⟨rfl, answered⟩
    obtain ⟨server, store⟩ := unmoved.mpr ⟨rfl, rfl⟩
    exact ⟨server, store, answered⟩

/-- The rule for such a request: it is answered, and the program goes on after every answer. -/
theorem settles_quiet {request : Request (Object kind)} {next : request.Answer → Prog _ α}
    (aside : quiet request = true) (answered : ∃ reply, Calm around request reply)
    (goesOn : ∀ reply, Calm around request reply →
      (calm around key target admits).Settles post (next reply) world) :
    (calm around key target admits).Settles post (.call request next) world := by
  constructor
  · obtain ⟨reply, fine⟩ := answered
    exact ⟨reply, world, (answers_quiet aside).mpr ⟨rfl, fine⟩⟩
  · intro reply after answered
    obtain ⟨rfl, fine⟩ := (answers_quiet aside).mp answered
    exact goesOn reply fine

/-- A lookup of something that is there. -/
theorem settles_lookup {request : Request (Object kind)} {next : request.Answer → Prog _ α}
    (aside : quiet request = true) {value : request.Answer}
    (determined : ∀ reply, Calm around request reply ↔ reply = value)
    (goesOn : (calm around key target admits).Settles post (next value) world) :
    (calm around key target admits).Settles post (.call request next) world := by
  refine settles_quiet aside ⟨value, (determined value).mpr rfl⟩ fun reply fine => ?_
  rw [(determined reply).mp fine]
  exact goesOn

theorem found_iff {β ε : Type} {held : Option β} {value : β} {reply : Except ε β}
    (found : held = some value) :
    (∃ other, held = some other ∧ reply = .ok other) ↔ reply = .ok value := by
  subst found
  refine ⟨?_, fun same => ⟨value, rfl, same⟩⟩
  rintro ⟨other, equal, same⟩
  cases equal
  exact same

end Lookups

section Writes

variable {server after : ApiServer.World kind} {object current : Object kind} {version : Version}

/-- An object that is not marked for deletion stays after a write. -/
theorem stored_of_stores (stores : ApiServer.Stores server object version after)
    (unmarked : object.objectMeta.deletionTimestamp = none) :
    after.stored = some (object.withVersion version) := by
  cases stores with
  | changed =>
      refine if_neg fun gone => ?_
      have marked := gone.1
      rw [show (object.withVersion version).objectMeta.deletionTimestamp = none from unmarked]
        at marked
      cases marked
  | unchanged same => exact same

/-- A write that asks for the same keeps the generation. -/
theorem generation_of_generations (generations : ApiServer.Generations server after)
    (stored : server.stored = some current)
    (left : after.stored = some (object.withVersion version))
    (uid : object.objectMeta.uid = current.objectMeta.uid)
    (same : ApiServer.SameRequest current object) :
    version.generation = current.objectMeta.generation :=
  (generations current _ stored left uid).2.mpr ⟨same.spec, same.marked⟩

/-- A write of the same request keeps the generation. -/
theorem generations_of_same (stored : server.stored = some current)
    (left : ∀ later, after.stored = some later → later = object.withVersion version)
    (same : ApiServer.SameRequest current object)
    (generation : version.generation = current.objectMeta.generation) :
    ApiServer.Generations server after := by
  intro before later found present _
  cases stored.symm.trans found
  cases left later present
  exact ⟨Int.le_of_eq generation.symm, iff_of_true generation ⟨same.spec, same.marked⟩⟩

/-- The rule for reading the object: what is stored is found. -/
theorem settles_get {next : Except ApiError (Object kind) → Prog (Object kind) α}
    (stored : world.server.stored = some object)
    (goesOn : (calm around key target admits).Settles post (next (.ok object)) world) :
    (calm around key target admits).Settles post (.call (.get key) next) world := by
  constructor
  · refine ⟨.ok object, world, ⟨⟨rfl, fun other same => ?_⟩, ApiServer.generations_refl _⟩, rfl,
      object, rfl⟩
    cases same
    exact stored
  · rintro reply after ⟨⟨⟨sameServer, found⟩, -⟩, sameStore, other, rfl⟩
    cases stored.symm.trans (found other rfl)
    cases world
    cases after
    cases sameServer
    cases sameStore
    exact goesOn

/-- A write that leaves the status and the timestamp stores what was written. -/
theorem updated_eq {written : Object kind}
    (timestamp : written.objectMeta.deletionTimestamp = current.objectMeta.deletionTimestamp)
    (status : written.status = current.status) : ApiServer.updated written current = written := by
  rw [ApiServer.updated, ← timestamp, ← status]

/-- A write of the object as it is stored, but for other metadata. -/
theorem settles_update {written : Object kind}
    {next : Except ApiError Version → Prog (Object kind) α}
    (stored : world.server.stored = some current)
    (uid : written.objectMeta.uid = current.objectMeta.uid)
    (resourceVersion : written.objectMeta.resourceVersion = current.objectMeta.resourceVersion)
    (unmarked : current.objectMeta.deletionTimestamp = none)
    (timestamp : written.objectMeta.deletionTimestamp = current.objectMeta.deletionTimestamp)
    (status : written.status = current.status) (spec : written.spec = current.spec)
    (goesOn : ∀ version server, server.stored = some (written.withVersion version) →
      version.generation = current.objectMeta.generation →
      (calm around key target admits).Settles post (next (.ok version)) ⟨server, world.store⟩) :
    (calm around key target admits).Settles post (.call (.update written) next) world := by
  have same : ApiServer.SameRequest current written := ⟨spec, by rw [timestamp]⟩
  have rests : written.objectMeta.deletionTimestamp = none := timestamp.trans unmarked
  constructor
  · refine ⟨.ok ⟨world.server.nextVersion, current.objectMeta.generation⟩,
      ⟨(world.server.recordRelease written).replace written
        ⟨world.server.nextVersion, current.objectMeta.generation⟩, world.store⟩, ⟨⟨current, ?_, ?_⟩,
      ?_⟩, rfl, _, rfl⟩
    · exact ⟨stored, uid.symm, resourceVersion.symm⟩
    · rw [updated_eq timestamp status]
      exact .changed _ (ApiServer.World.recordRelease_nextVersion ..).symm
    · exact generations_of_same stored (fun later left => ApiServer.settled_eq_some left) same rfl
  · rintro reply ⟨server, store⟩ ⟨⟨applied, generations⟩, sameStore, version, rfl⟩
    obtain ⟨held, ⟨found, -⟩, stores⟩ := applied
    cases stored.symm.trans found
    rw [updated_eq timestamp status] at stores
    have left := stored_of_stores stores rests
    cases sameStore
    exact goesOn version server left (generation_of_generations generations stored left uid same)

/-- A write of the status of the object as it is stored. -/
theorem settles_updateStatus {written : Object kind}
    {next : Except ApiError Version → Prog (Object kind) α}
    (stored : world.server.stored = some current)
    (objectMeta : written.objectMeta = current.objectMeta)
    (unmarked : current.objectMeta.deletionTimestamp = none) (spec : written.spec = current.spec)
    (goesOn : ∀ version server, server.stored = some (written.withVersion version) →
      version.generation = current.objectMeta.generation →
      (calm around key target admits).Settles post (next (.ok version)) ⟨server, world.store⟩) :
    (calm around key target admits).Settles post (.call (.updateStatus written) next) world := by
  have same : ApiServer.SameRequest current written := ⟨spec, by rw [objectMeta]⟩
  have stated : ApiServer.statusUpdated written current = written := by
    rw [ApiServer.statusUpdated, ← objectMeta, ← spec]
  constructor
  · refine ⟨.ok ⟨world.server.nextVersion, current.objectMeta.generation⟩,
      ⟨world.server.replace written ⟨world.server.nextVersion, current.objectMeta.generation⟩,
        world.store⟩, ⟨⟨current, ?_, ?_⟩, ?_⟩, rfl, _, rfl⟩
    · exact ⟨stored, by rw [objectMeta], by rw [objectMeta]⟩
    · rw [stated]
      exact .changed _ rfl
    · exact generations_of_same stored (fun later left => ApiServer.settled_eq_some left) same rfl
  · rintro reply ⟨server, store⟩ ⟨⟨applied, generations⟩, sameStore, version, rfl⟩
    obtain ⟨held, ⟨found, -⟩, stores⟩ := applied
    cases stored.symm.trans found
    rw [stated] at stores
    have left := stored_of_stores stores (by rw [objectMeta, unmarked])
    cases sameStore
    exact goesOn version server left
      (generation_of_generations generations stored left (by rw [objectMeta]) same)

/-- A call of the broker. -/
theorem settles_broker {call : BrokerCall} {next : call.Answer → Prog (Object kind) α}
    (goesOn : ∀ reply store, call.Accepts reply →
      (calm around key target admits).Settles post (next reply) ⟨world.server, store⟩) :
    (calm around key target admits).Settles post (.call (.broker call) next) world := by
  constructor
  · obtain ⟨store, effect⟩ := exists_effect world.store call
    exact ⟨call.acceptance, ⟨world.server, store⟩, ⟨rfl, ApiServer.generations_refl _⟩,
      ⟨call.acceptance_lists, .inl effect⟩, call.acceptance_accepts⟩
  · rintro reply ⟨server, store⟩ ⟨⟨same, -⟩, -, accepts⟩
    cases (same : server = world.server)
    exact goesOn reply store accepts

end Writes

end Deployment

end TopologyOperator
