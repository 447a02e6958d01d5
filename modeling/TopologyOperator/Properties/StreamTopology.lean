import TopologyOperator.Properties.BuiltTopology
import TopologyOperator.Properties.SharedBroker

/-!
# A super stream on the broker

The reconciler of a super stream, the reconcilers of its children, users and other clients
of the broker, all at the same time. The super stream reconciler creates the children and
keeps their specs, their reconcilers declare them at the broker. To these the super stream
reconciler is one more user, so that what holds of objects on one broker holds of the
children.
-/

namespace TopologyOperator.StreamTopology

open Dialogue Program SuperStreamReconciler

open SuperStreamServer (Called CalledFor builderOf referenceOf routingKeysOf slotOf resolution)

section Writes

variable {stream read : SuperStream} {resource : ResourceBuilder} {trace : Trace SuperStream}
  {key : NamespacedName} {rmqClusterRef : RabbitmqClusterReference}

/-- The super stream as it is specified, under any version and with any status. -/
structure SameStream (stream read : SuperStream) : Prop where
  key : read.objectMeta.key = stream.objectMeta.key
  spec : read.spec = stream.spec

/-- The builder of the children. -/
def builderFor (stream : SuperStream) : Builder := builderOf stream (referenceOf stream)

/-- The child has the name and the fields that its builder sets. -/
structure Shaped (stream : SuperStream) (resource : ResourceBuilder)
    (child : Object resource.kind) : Prop where
  named : child.objectMeta.key = ((builderFor stream).build resource).objectMeta.key
  spec : (builderFor stream).updateSpec resource child.spec = child.spec

theorem name_of_key {objectMeta other : ObjectMeta} (same : objectMeta.key = other.key) :
    objectMeta.name = other.name :=
  congrArg NamespacedName.name same

theorem ns_of_key {objectMeta other : ObjectMeta} (same : objectMeta.key = other.key) :
    objectMeta.ns = other.ns :=
  congrArg NamespacedName.ns same

/-- Nothing but the name and the spec of the super stream goes into the children. -/
theorem build_key (same : SameStream stream read) (resource : ResourceBuilder) :
    ((builderOf read rmqClusterRef).build resource).objectMeta.key =
      ((builderFor stream).build resource).objectMeta.key := by
  have name := name_of_key same.key
  have ns := ns_of_key same.key
  cases resource <;>
    simp only [Builder.build, Builder.childMeta, ObjectMeta.key, Builder.generateChildResourceName,
      builderFor, builderOf, name, ns]

/-- The cluster reference is taken from the spec. -/
theorem referenceOf_congr (same : SameStream stream read) :
    referenceOf read = referenceOf stream := by
  rw [referenceOf, referenceOf, same.spec, ns_of_key same.key]

/-- So are the routing keys. -/
theorem routingKeysOf_congr (same : SameStream stream read) :
    routingKeysOf read = routingKeysOf stream := by
  rw [routingKeysOf, routingKeysOf, same.spec]

/-- The builders of two readings of one super stream set the same fields. -/
theorem updateSpec_congr (same : SameStream stream read) (spec : Spec resource.kind) :
    (builderOf read (referenceOf read)).updateSpec resource spec =
      (builderFor stream).updateSpec resource spec := by
  have name := name_of_key same.key
  have reference := referenceOf_congr same
  cases resource <;>
    simp only [Builder.updateSpec, builderFor, builderOf, name, same.spec, reference]

/-- The child is what was found, but for its owner and its spec. -/
structure Reworked {kind : Kind} (found child : Object kind) : Prop where
  key : child.objectMeta.key = found.objectMeta.key
  uid : child.objectMeta.uid = found.objectMeta.uid
  resourceVersion : child.objectMeta.resourceVersion = found.objectMeta.resourceVersion
  finalizers : child.objectMeta.finalizers = found.objectMeta.finalizers

/-- Updating a child sets its owner and its spec. -/
theorem reworked_of_update {builder : Builder} {found child : Object resource.kind}
    (updated : builder.update resource found = .ok child) : Reworked found child := by
  unfold Builder.update at updated
  split at updated
  · cases updated
  · next objectMeta set =>
      obtain ⟨references, rfl⟩ := setControllerReference_eq set
      cases updated
      exact ⟨rfl, rfl, rfl, rfl⟩

/-- A child that is updated gets the shape that the super stream asks for. -/
theorem shaped_of_update (same : SameStream stream read) {found child : Object resource.kind}
    (named : found.objectMeta.key = ((builderFor stream).build resource).objectMeta.key)
    (updated : (builderOf read (referenceOf read)).update resource found = .ok child) :
    Shaped stream resource child := by
  refine ⟨(reworked_of_update updated).key.trans named, ?_⟩
  rw [(SuperStreamServer.update_eq_ok updated).2, updateSpec_congr same,
    SuperStreamServer.updateSpec_updateSpec]

/-- What a reconcile asks for: it creates children as they are specified, or updates one
that it has found. -/
inductive Crafts (stream : SuperStream) (trace : Trace SuperStream) :
    Request SuperStream → Prop where
  | creates {resource : ResourceBuilder} (member : resource ∈ builders (routingKeysOf stream))
      (child : Object resource.kind) (shaped : Shaped stream resource child) :
      Crafts stream trace (.createObject child)
  | updates {resource : ResourceBuilder} (member : resource ∈ builders (routingKeysOf stream))
      (found child : Object resource.kind)
      (asked : (⟨.getObject resource.kind found.objectMeta.key, .ok found⟩ : Event _) ∈ trace)
      (reworked : Reworked found child) (shaped : Shaped stream resource child) :
      Crafts stream trace (.updateObject child)
  | aside {request : Request SuperStream} (aside : slotOf request = none) :
      Crafts stream trace request

/-- What a reconcile is told: the super stream as it is specified, and children of the
names it has asked for. -/
def Told (stream : SuperStream) (trace : Trace SuperStream) : Prop :=
  Called trace ∧ ∀ key read, (⟨.get key, .ok read⟩ : Event _) ∈ trace → SameStream stream read

/-- What holds of all answers holds of the earlier ones. -/
theorem Told.left {suffix : Trace SuperStream} (told : Told stream (trace ++ suffix)) :
    Told stream trace :=
  ⟨(SuperStreamServer.called_append.mp told.1).1,
    fun key read member => told.2 key read (List.mem_append_left _ member)⟩

/-- The requests of a reconcile, as long as it is told so. -/
def Crafting (stream : SuperStream) (trace : Trace SuperStream) (request : Request SuperStream) :
    Prop :=
  Told stream trace → Crafts stream trace request

/-- Parts of a reconcile that are not about children. -/
theorem crafting_of_aside {α : Type} {program : Prog SuperStream α}
    (aside : program.Calls fun request => SuperStreamServer.Aside request) :
    program.Guarded (Crafting stream)
      (fun value later => ∃ suffix, later = trace ++ suffix ∧ program.Exec suffix (.done value))
      trace := by
  refine Guarded.of_calls aside fun suffix request apart _ => .aside ?_
  cases request with
  | createObject | updateObject => exact absurd trivial apart
  | _ => rfl

variable {object : Object resource.kind}

/-- The object in memory has the name of the child. -/
def Named (stream : SuperStream) (resource : ResourceBuilder) (object : Object resource.kind)
    (trace : Trace SuperStream) : Prop :=
  Told stream trace →
    object.objectMeta.key = ((builderFor stream).build resource).objectMeta.key

theorem Named.append (named : Named stream resource object trace) (suffix : Trace SuperStream) :
    Named stream resource object (trace ++ suffix) :=
  fun told => named told.left

/-- One attempt on a child creates it as it is specified, or updates the one found. -/
theorem createOrUpdate_crafts (same : SameStream stream read)
    (member : resource ∈ builders (routingKeysOf stream))
    (named : Named stream resource object trace) :
    (createOrUpdate (objectClient resource.kind)
      ((builderOf read (referenceOf read)).update resource) object).Guarded (Crafting stream)
      (fun result later => Named stream resource result.1 later) trace := by
  refine ⟨fun _ => .aside rfl, fun reply => ?_⟩
  cases reply with
  | error err =>
      simp only [done_bind, pure_eq]
      split
      · split
        · exact named.append _
        · next mutated updated =>
            have shaped := fun told => shaped_of_update same (named told) updated
            have kept : Named stream resource mutated trace := fun told => (shaped told).named
            refine ⟨fun told => .creates member mutated (shaped told.left), fun reply => ?_⟩
            cases reply with
            | error => exact (kept.append _).append _
            | ok version => exact (kept.append _).append _
      · exact named.append _
  | ok found =>
      have here : Named stream resource found
          (trace ++ [⟨.getObject resource.kind object.objectMeta.key, .ok found⟩]) := by
        intro told
        have called : found.objectMeta.key = object.objectMeta.key :=
          told.1 _ (List.mem_append_right _ (.head _))
        exact called.trans (named told.left)
      simp only [done_bind, pure_eq]
      split
      · exact here
      · next mutated updated =>
          split
          · exact here
          · have shaped := fun told => shaped_of_update same (here told) updated
            have kept : Named stream resource mutated _ := fun told => (shaped told).named
            refine ⟨fun told => ?_, fun reply => ?_⟩
            · refine .updates member found mutated ?_ (reworked_of_update updated) (shaped told)
              have called : found.objectMeta.key = object.objectMeta.key :=
                told.1 _ (List.mem_append_right _ (.head _))
              rw [called]
              exact List.mem_append_right _ (.head _)
            · cases reply with
              | error => exact kept.append _
              | ok version => exact kept.append _

/-- So does the builder loop, child by child. -/
theorem createChildren_crafts (same : SameStream stream read) {resources : List ResourceBuilder}
    {collected : List String}
    (members : ∀ resource ∈ resources, resource ∈ builders (routingKeysOf stream)) :
    (createChildren (builderOf read (referenceOf read)) resources collected).Guarded
      (Crafting stream) (fun _ _ => True) trace := by
  induction resources generalizing collected trace with
  | nil => trivial
  | cons resource rest ih =>
      have started : Named stream resource ((builderOf read (referenceOf read)).build resource)
          trace := fun _ => build_key same resource
      have attempts := retryOnConflict_guarded (fun object later named =>
        createOrUpdate_crafts same (members resource (.head _)) named) defaultRetry started
      refine Guarded.bind attempts fun result later _ => ?_
      split
      · trivial
      · exact ih fun other member => members other (.tail _ member)

/-- A part that is not about children crafts trivially. -/
theorem crafting_of_restates {α : Type} {program : Prog SuperStream α}
    (calls : program.Calls (SuperStreamServer.Restates fun _ => True)) :
    program.Guarded (Crafting stream) (fun _ _ => True) trace :=
  (crafting_of_aside (calls.mono fun _ restates => restates.1)).weaken fun _ _ _ => trivial

/-- Before and after the builder loop, nothing about children is asked for. -/
theorem reconcileChildren_crafts (same : SameStream stream read) {routingKeys : List String}
    (keyed : routingKeys = routingKeysOf stream) :
    (reconcileChildren read (referenceOf read) routingKeys).Guarded (Crafting stream)
      (fun _ _ => True) trace := by
  subst keyed
  have blind : ∀ first second : SuperStream, SuperStreamServer.Restated first second →
      True → True := fun _ _ _ => id
  refine (createChildren_crafts same fun _ member => member).bind fun result later _ => ?_
  split
  · refine crafting_of_restates ((SuperStreamServer.setNotReady_restates blind trivial _).bind ?_)
    exact fun _ => trivial
  · refine crafting_of_restates ((SuperStreamServer.storeStatus_restates blind trivial).bind
      fun _ => (ready_calls (SuperStreamServer.restates_of_observes id rfl) ..).bind fun _ => ?_)
    exact (SuperStreamServer.setReconcileSuccess_restates blind trivial _).bind fun _ => trivial

/-- A reconcile that is told something else. -/
theorem crafting_of_untold {α : Type} {program : Prog SuperStream α}
    (never : ∀ suffix, ¬ Told stream (trace ++ suffix)) :
    program.Guarded (Crafting stream) (fun _ _ => True) trace := by
  induction program generalizing trace with
  | done | abort => trivial
  | call request rest ih =>
      refine ⟨fun told => ?_, fun reply => ih reply fun suffix => ?_⟩
      · rw [← List.append_nil trace] at told
        exact absurd told (never [])
      · rw [List.append_assoc]
        exact never _

/-- Every write of a reconcile is one of a child as it is specified. -/
theorem reconcile_crafts (stream : SuperStream) (key : NamespacedName) :
    (reconcile key).Guarded (Crafting stream) (fun _ _ => True) [] := by
  have blind : ∀ first second : SuperStream, SuperStreamServer.Restated first second →
      True → True := fun _ _ _ => id
  have refuses : ∀ (read : SuperStream) (msg : String),
      (setNotReady read msg).Calls (SuperStreamServer.Restates fun _ => True) :=
    fun _ msg => SuperStreamServer.setNotReady_restates blind trivial msg
  refine ⟨fun _ => .aside rfl, fun found => ?_⟩
  simp only [done_bind]
  split
  · trivial
  next read =>
  by_cases same : SameStream stream read
  swap
  · exact crafting_of_untold fun suffix told => same (told.2 key read (.head _))
  change ((resolution read).bind _).Guarded _ _ _
  refine (crafting_of_aside (SuperStreamServer.resolution_calls (fun _ => id) read)).bind ?_
  rintro result _ ⟨resolved, rfl, resolves⟩
  split
  · exact crafting_of_restates (SuperStreamServer.handleRMQReferenceParseError_restates blind
      trivial)
  obtain rfl := SuperStreamServer.resolution_eq resolves
  split
  · exact crafting_of_restates (calls_ask_bind (SuperStreamServer.restates_of_observes id rfl)
      fun _ => (refuses read _).bind fun _ => trivial)
  split
  · next generated =>
      refine reconcileChildren_crafts same ?_
      rw [← routingKeysOf_congr same, routingKeysOf, if_pos generated, generateRoutingKeys]
  split
  · exact crafting_of_restates ((refuses read _).bind fun _ => trivial)
  · next given _ =>
      refine reconcileChildren_crafts same ?_
      rw [← routingKeysOf_congr same, routingKeysOf, if_neg given]

end Writes

section Layout

open Encoding BrokerStore SharedBroker

deriving instance DecidableEq for ResourceBuilder

/-- A super stream with routing keys that differ, no more of them than an `int` counts. -/
structure Layout where
  stream : SuperStream
  distinct : (routingKeysOf stream).Nodup
  bounded : (routingKeysOf stream).length ≤ 2 ^ 63

/-- The arguments of a binding: the order of the partition. -/
def orderArguments (index : Nat) : Arguments :=
  ((Json.Float64.ofRatio false index 1).map fun order =>
    [("x-stream-partition-order", .number order)]).getD []

/-- The arguments of a binding decode to the order of its partition. -/
theorem partitionOrderArguments_eq {index : Nat} (bounded : index < 2 ^ 63) :
    Json.unmarshalMap (partitionOrderArguments index).raw = some (orderArguments index) := by
  obtain ⟨order, converted⟩ := Json.Float64.exists_ofRatio bounded
  rw [SuperStreamServer.partitionOrderArguments_decode, orderArguments, converted]
  rfl

/-- So they do in the controller of bindings. -/
theorem unmarshal_partitionOrder {index : Nat} (bounded : index < 2 ^ 63) (libraries : Libraries)
    (what : String) : unmarshalArguments libraries what (some (partitionOrderArguments index)) =
      .ok (orderArguments index) := by
  unfold unmarshalArguments
  simp only [partitionOrderArguments_eq bounded]

namespace Layout

variable (layout : Layout)

/-- The children of the super stream. -/
abbrev Child : Type :=
  { resource : ResourceBuilder // resource ∈ builders (routingKeysOf layout.stream) }

/-- The entity of the broker that a child is about. -/
def target : ResourceBuilder → Entity
  | .superStreamExchange => .exchange layout.stream.spec.vhost layout.stream.objectMeta.name
  | .superStreamPartition _ routingKey => .queue layout.stream.spec.vhost
      (routingKeyToPartitionName layout.stream.objectMeta.name routingKey)
  | .superStreamBinding index routingKey => .binding layout.stream.spec.vhost
      layout.stream.objectMeta.name
      (routingKeyToPartitionName layout.stream.objectMeta.name routingKey) "queue" routingKey
      (orderArguments index)

variable {layout} {resource other : ResourceBuilder}

/-- A routing key is one of one partition. -/
theorem index_unique {first second : Nat} {routingKey : String}
    (found : (routingKeysOf layout.stream)[first]? = some routingKey)
    (there : (routingKeysOf layout.stream)[second]? = some routingKey) : first = second := by
  obtain ⟨within, -⟩ := List.getElem?_eq_some_iff.mp found
  exact (List.getElem?_inj within layout.distinct).mp (found.trans there.symm)

/-- Routing keys that differ name partitions that differ. -/
theorem partitionName_injective {parent first second : String}
    (same : routingKeyToPartitionName parent first = routingKeyToPartitionName parent second) :
    first = second := by
  rw [← SuperStreamServer.partitionNameToRoutingKey_partitionName parent first, same,
    SuperStreamServer.partitionNameToRoutingKey_partitionName]

/-- No two children are about the same entity. -/
theorem target_injective (member : resource ∈ builders (routingKeysOf layout.stream))
    (otherMember : other ∈ builders (routingKeysOf layout.stream))
    (same : layout.target resource = layout.target other) : resource = other := by
  rcases SuperStreamServer.mem_builders.mp member with
      rfl | ⟨index, routingKey, found, rfl | rfl⟩ <;>
    rcases SuperStreamServer.mem_builders.mp otherMember with
      rfl | ⟨position, held, there, rfl | rfl⟩
  case inl.inl => rfl
  case inr.inl.inr.inl =>
    obtain ⟨-, names⟩ := Entity.queue.inj same
    cases partitionName_injective names
    cases index_unique found there
    rfl
  case inr.inr.inr.inr =>
    obtain ⟨-, -, -, -, rfl, -⟩ := Entity.binding.inj same
    cases index_unique found there
    rfl
  all_goals cases same

/-- The deletion of a binding leaves the other children alone. -/
theorem eq_of_touches (member : resource ∈ builders (routingKeysOf layout.stream))
    (otherMember : other ∈ builders (routingKeysOf layout.stream))
    (binding : resource.kind = .binding)
    (touches : (layout.target resource).Touches (layout.target other)) : resource = other := by
  rcases touches with same | falls
  · exact target_injective member otherMember same.symm
  rcases SuperStreamServer.mem_builders.mp member with
      rfl | ⟨index, routingKey, found, rfl | rfl⟩
  · cases binding
  · cases binding
  obtain ⟨key, arguments, same⟩ := falls
  rcases SuperStreamServer.mem_builders.mp otherMember with
      rfl | ⟨position, held, there, rfl | rfl⟩
  · cases same
  · cases same
  · obtain ⟨-, -, names, -⟩ := Entity.binding.inj same
    cases partitionName_injective names
    cases index_unique found there
    rfl

variable (layout)

/-- The children on one broker. Nobody deletes the exchange or a partition. -/
def fleet : Fleet layout.Child where
  kind i := i.1.kind
  key i := ((builderFor layout.stream).build i.1).objectMeta.key
  target i := layout.target i.1
  lasting i := i.1.kind ≠ .binding
  other i := by cases i.1 <;> intro absurd <;> cases absurd
  distinct i j different same := different (Subtype.ext (target_injective i.2 j.2 same.symm))
  apart i j different touches binding :=
    different (Subtype.ext (eq_of_touches i.2 j.2 binding touches))

/-- What a child of a super stream always asks for. -/
def Solid : {kind : Kind} → Object kind → Prop
  | .exchange, object => object.spec.durable = true
  | .queue, object => object.spec.durable = some true ∧ object.spec.type = "stream"
  | _, _ => True

/-- The specs that are those of the child: users may change what the super stream leaves
open, and how the arguments are written. -/
structure Admits (libraries : Libraries) (i : layout.Child) (object : Object i.1.kind) : Prop where
  placed : Fleet.Placed libraries (layout.target i.1) object
  solid : Solid object

variable {layout}

theorem solid_congr {kind : Kind} {object other : Object kind}
    (same : ApiServer.SameRequest object other) (solid : Solid object) : Solid other := by
  obtain ⟨objectMeta, spec, status⟩ := object
  obtain ⟨objectMeta', spec', status'⟩ := other
  cases same.spec
  cases kind <;> exact solid

/-- What a child may ask for is decided by what it asks for. -/
theorem admits_congr {libraries : Libraries} (i : layout.Child) (object other : Object i.1.kind)
    (same : ApiServer.SameRequest object other) (admitted : layout.Admits libraries i object) :
    layout.Admits libraries i other :=
  ⟨⟨Deployment.designates_congr object other same admitted.placed.names,
    Fleet.schemaValid_congr same admitted.placed.schema⟩, solid_congr same admitted.solid⟩

/-- What the super stream reconciler writes is the spec of the child. -/
theorem admits_of_shaped {libraries : Libraries} (i : layout.Child) {child : Object i.1.kind}
    (shaped : Shaped layout.stream i.1 child) : layout.Admits libraries i child := by
  obtain ⟨resource, member⟩ := i
  have spec := shaped.spec
  rcases SuperStreamServer.mem_builders.mp member with
      rfl | ⟨index, routingKey, found, rfl | rfl⟩
  · refine ⟨⟨?_, trivial⟩, (congrArg ExchangeSpec.durable spec).symm⟩
    change some (Entity.exchange child.spec.vhost child.spec.name) = _
    rw [← spec]
    rfl
  · refine ⟨⟨?_, trivial⟩, (congrArg QueueSpec.durable spec).symm,
      (congrArg QueueSpec.type spec).symm⟩
    change some (Entity.queue child.spec.vhost child.spec.name) = _
    rw [← spec]
    rfl
  · obtain ⟨within, -⟩ := List.getElem?_eq_some_iff.mp found
    have decoded : unmarshalArguments libraries "binding arguments" child.spec.arguments =
        .ok (orderArguments index) := by
      have arguments : child.spec.arguments = some (partitionOrderArguments index) :=
        (congrArg BindingSpec.arguments spec).symm
      rw [arguments]
      exact unmarshal_partitionOrder (Nat.lt_of_lt_of_le within layout.bounded) ..
    refine ⟨⟨?_, .inl ?_⟩, trivial⟩
    · simp only [Deployment.Designates, Object.target, decoded, bindingEntity]
      rw [← spec]
      rfl
    · exact (congrArg BindingSpec.destinationType spec).symm

end Layout

end Layout

section Servers

variable {kind : Kind} {server after : ApiServer.World kind} {found child : Object kind}
  {key : NamespacedName}

/-- What was found may be outdated, but it is not mistaken for what is stored. -/
structure Remembered (server : ApiServer.World kind) (found : Object kind) : Prop where
  earlier : found.objectMeta.resourceVersion < server.nextVersion
  same : ∀ current, server.stored = some current →
    current.objectMeta.resourceVersion = found.objectMeta.resourceVersion → current = found

/-- What is stored was stored before, or has a new version. -/
def Ages (server after : ApiServer.World kind) : Prop :=
  server.nextVersion ≤ after.nextVersion ∧ ∀ current, after.stored = some current →
    server.stored = some current ∨ server.nextVersion ≤ current.objectMeta.resourceVersion

theorem Ages.refl (server : ApiServer.World kind) : Ages server server :=
  ⟨Nat.le_refl _, fun _ stored => .inl stored⟩

/-- What was found stays distinguishable as the server goes on. -/
theorem Remembered.ages (remembered : Remembered server found) (ages : Ages server after) :
    Remembered after found := by
  refine ⟨Nat.lt_of_lt_of_le remembered.earlier ages.1, fun current stored version => ?_⟩
  rcases ages.2 current stored with before | fresh
  · exact remembered.same current before version
  · rw [version] at fresh
    exact absurd remembered.earlier (Nat.not_lt_of_le fresh)

/-- Whatever users do, new content comes with a new version. -/
theorem ages_of_foreign (move : ApiServer.Foreign key server after) : Ages server after := by
  obtain ⟨grows, fresh⟩ := move.fresh
  refine ⟨?_, fun current stored => .inr (Nat.le_of_eq (fresh current stored).symm)⟩
  rw [grows]
  exact Nat.le_succ _

/-- A write stores its object under a new version. -/
theorem ages_of_stores {version : Version} {object : Object kind}
    (stores : ApiServer.Stores server object version after) : Ages server after := by
  cases stores with
  | changed version fresh =>
      refine ⟨Nat.le_succ _, fun current stored => .inr ?_⟩
      rw [ApiServer.settled_eq_some stored]
      exact Nat.le_of_eq fresh.symm
  | unchanged => exact .refl _

/-- The record of releases does not concern what is stored. -/
theorem ages_of_recordRelease {written : Object kind}
    (ages : Ages (server.recordRelease written) after) : Ages server after := by
  rw [Ages, ApiServer.World.recordRelease_nextVersion, ApiServer.World.recordRelease_stored] at ages
  exact ages

/-- Whatever a controller asks, new content comes with a new version. -/
theorem ages_of_answers {request : Request (Object kind)} {reply : request.Answer}
    (answered : ApiServer.Answers server request reply after) : Ages server after := by
  cases request with
  | update written =>
      rcases ApiServer.Writes.cases answered with rfl | ⟨version, current, -, stores⟩
      · exact .refl _
      · exact ages_of_recordRelease (ages_of_stores stores)
  | updateStatus written =>
      rcases ApiServer.Writes.cases answered with rfl | ⟨version, current, -, stores⟩
      · exact .refl _
      · exact ages_of_stores stores
  | get =>
      obtain ⟨rfl, -⟩ := answered
      exact .refl _
  | _ =>
      cases answered
      exact .refl _

/-- `Create` stores an object under a new UID, without a status. -/
def created (server : ApiServer.World kind) (child : Object kind) : Object kind :=
  { child with
    objectMeta := { child.objectMeta with uid := server.nextUid, deletionTimestamp := none }
    status := {} }

def Creates (server : ApiServer.World kind) (child : Object kind) (version : Version)
    (after : ApiServer.World kind) : Prop :=
  server.stored = none ∧ version.resourceVersion = server.nextVersion ∧
    after = { server.replace (created server child) version with nextUid := server.nextUid + 1 }

/-- `Update` of an object by another controller than its own. -/
def Edits (server : ApiServer.World kind) (child : Object kind) (version : Version)
    (after : ApiServer.World kind) : Prop :=
  ∃ current, ApiServer.Current server child current ∧
    ApiServer.Stores server (ApiServer.updated child current) version after

/-- To the child's own controller, its creation is the move of somebody else. -/
theorem foreign_of_creates {version : Version} (named : child.objectMeta.key = key)
    (creates : Creates server child version after) : ApiServer.Foreign key server after := by
  obtain ⟨absent, fresh, rfl⟩ := creates
  exact .create (created server child) version absent named rfl rfl rfl fresh

/-- After a creation, the child is stored. -/
theorem stored_of_creates {version : Version} (creates : Creates server child version after) :
    after.stored = some ((created server child).withVersion version) := by
  obtain ⟨-, -, rfl⟩ := creates
  change ApiServer.settled ((created server child).withVersion version) = _
  unfold ApiServer.settled
  rw [if_neg]
  rintro ⟨marked, -⟩
  cases marked

theorem ages_of_edits {version : Version} (edits : Edits server child version after) :
    Ages server after := by
  obtain ⟨current, -, stores⟩ := edits
  exact ages_of_stores stores

/-- The object asks for what the child does, and is marked if the other is. -/
structure Follows (child found object : Object kind) : Prop where
  key : object.objectMeta.key = child.objectMeta.key
  spec : object.spec = child.spec
  timestamp : object.objectMeta.deletionTimestamp = found.objectMeta.deletionTimestamp

/-- An update of what is stored is one that a user can make. -/
theorem foreign_of_edits {version : Version} (remembered : Remembered server found)
    (reworked : Reworked found child) (edits : Edits server child version after) :
    after = server ∨ ApiServer.Foreign key server after ∧ server.stored = some found ∧
      ∀ object, after.stored = some object → Follows child found object := by
  obtain ⟨current, ⟨stored, -, resourceVersion⟩, stores⟩ := edits
  cases remembered.same current stored (resourceVersion.trans reworked.resourceVersion)
  cases stores with
  | changed version fresh =>
      refine .inr ⟨.update found (ApiServer.updated child found) version stored ?_ rfl fresh,
        stored, fun object left => ?_⟩
      · refine ⟨reworked.uid, reworked.key, rfl, ?_, id⟩
        change kind.finalizer ∈ child.objectMeta.finalizers ↔ _
        rw [reworked.finalizers]
      · cases ApiServer.settled_eq_some left
        exact ⟨rfl, rfl, rfl⟩
  | unchanged => exact .inl rfl

end Servers

namespace Layout

open SharedBroker

variable (layout : Layout)

/-- One child is written, and nothing else changes. -/
structure Applied
    (write : (kind : Kind) → ApiServer.World kind → Object kind → Version →
      ApiServer.World kind → Prop)
    (world : layout.fleet.World) {kind : Kind} (child : Object kind) (version : Version)
    (after : layout.fleet.World) (i : layout.Child) (same : kind = layout.fleet.kind i) : Prop where
  named : child.objectMeta.key = layout.fleet.key i
  written : write _ (world.servers i) (same ▸ child) version (after.servers i)
  generations : ApiServer.Generations (world.servers i) (after.servers i)
  rest : ∀ j, j ≠ i → after.servers j = world.servers j
  store : after.store = world.store

/-- How the super stream reconciler is answered. It reads the super stream as it is
specified, with any status. A child is read from a cache. -/
def Answers (world : layout.fleet.World) :
    (request : Request SuperStream) → request.Answer → layout.fleet.World → Prop
  | .get _, reply, after =>
      after = world ∧ ∀ read, reply = .ok read → SameStream layout.stream read
  | .getObject kind key, reply, after => after = world ∧ ∀ child, reply = .ok child →
      child.objectMeta.key = key ∧ ∀ (i : layout.Child) (same : kind = layout.fleet.kind i),
        key = layout.fleet.key i → Remembered (world.servers i) (same ▸ child)
  | .createObject child, reply, after => ApiServer.Writes world
      (fun version after => ∃ i same,
        layout.Applied (fun _ => Creates) world child version after i same) reply after
  | .updateObject child, reply, after => ApiServer.Writes world
      (fun version after => ∃ i same,
        layout.Applied (fun _ => Edits) world child version after i same) reply after
  | _, _, after => after = world

/-- The reconcilers of the children, side by side. -/
abbrev children (r : TopologyReconciler) :
    System (fun i : layout.Child => @Request.Answer (Object i.1.kind))
      (fun _ => Result × Option GoError) layout.fleet.World :=
  layout.fleet.system r (layout.Admits r.libraries) fun _ _ _ => True

abbrev Call : Option layout.Child → Type
  | none => Request SuperStream
  | some i => Request (Object i.1.kind)

abbrev Answer : ∀ i, layout.Call i → Type
  | none => @Request.Answer SuperStream
  | some i => @Request.Answer (Object i.1.kind)

/-- The reconciler of the super stream and those of its children. -/
def system (r : TopologyReconciler) :
    System layout.Answer (fun _ => Result × Option GoError) layout.fleet.World where
  foreign := (layout.children r).foreign
  answers
    | none => layout.Answers
    | some i => (layout.children r).answers i
  launches
    | none => fun world program after =>
        program = reconcile layout.stream.objectMeta.key ∧ after = world
    | some i => (layout.children r).launches i
  retires
    | none => fun world _ _ after => after = world
    | some i => (layout.children r).retires i

variable {layout} {r : TopologyReconciler} {initial world after : layout.fleet.World}
  {config next : System.Config layout.Answer (fun _ => Result × Option GoError) layout.fleet.World}

/-- Writing one child ages its server and leaves the others. -/
theorem Applied.ages
    {write : (kind : Kind) → ApiServer.World kind → Object kind → Version →
      ApiServer.World kind → Prop}
    {kind : Kind} {child : Object kind} {version : Version} {i : layout.Child}
    {same : kind = layout.fleet.kind i}
    (applied : layout.Applied write world child version after i same)
    (ages : ∀ written, write _ (world.servers i) written version (after.servers i) →
      Ages (world.servers i) (after.servers i)) (j : layout.Child) :
    Ages (world.servers j) (after.servers j) := by
  by_cases here : j = i
  · subst here
    exact ages _ applied.written
  · rw [applied.rest j here]
    exact .refl _

/-- Every answer to the super stream's reconcile lets the children age. -/
theorem ages_of_superStream {request : Request SuperStream} {reply : request.Answer}
    (answered : layout.Answers world request reply after) (j : layout.Child) :
    Ages (world.servers j) (after.servers j) := by
  cases request with
  | createObject child =>
      rcases ApiServer.Writes.cases answered with rfl | ⟨version, i, same, applied⟩
      · exact .refl _
      · refine applied.ages (fun written creates => ?_) j
        exact ages_of_foreign (foreign_of_creates rfl creates)
  | updateObject child =>
      rcases ApiServer.Writes.cases answered with rfl | ⟨version, i, same, applied⟩
      · exact .refl _
      · exact applied.ages (fun written edits => ages_of_edits edits) j
  | get | getObject =>
      obtain ⟨rfl, -⟩ := answered
      exact .refl _
  | _ =>
      cases answered
      exact .refl _

/-- In every step, what is stored of a child was stored before or has a new version. -/
theorem ages_of_step (step : (layout.system r).Step config next) (j : layout.Child) :
    Ages (config.world.servers j) (next.world.servers j) := by
  cases step with
  | foreign move =>
      cases move with
      | user i moved admitted rest same =>
          by_cases here : j = i
          · subst here
            exact ages_of_foreign moved.1
          · rw [rest j here]
            exact .refl _
      | others same => rw [same]; exact .refl _
  | launch i idle launched =>
      cases i with
      | none => cases launched.2; exact .refl _
      | some i => cases launched.2; exact .refl _
  | retire i running retired =>
      cases i with
      | none => cases retired; exact .refl _
      | some i => cases retired; exact .refl _
  | answer i running answered =>
      cases i with
      | none => exact ages_of_superStream answered j
      | some i =>
          obtain ⟨⟨⟨server, -⟩, -⟩, rest⟩ := answered
          by_cases here : j = i
          · subst here
            exact ages_of_answers server
          · rw [rest j here]
            exact .refl _

/-- What the super stream reconciler in flight was told. -/
structure Informed (layout : Layout) (world : layout.fleet.World) (trace : Trace SuperStream) :
    Prop where
  told : Told layout.stream trace
  remembered : ∀ (i : layout.Child) (found : Object i.1.kind),
    (⟨.getObject i.1.kind (layout.fleet.key i), .ok found⟩ : Event _) ∈ trace →
      Remembered (world.servers i) found

/-- What the reconcile has found is still remembered when the servers have aged. -/
theorem Informed.ages {trace : Trace SuperStream} (informed : layout.Informed world trace)
    (ages : ∀ j, Ages (world.servers j) (after.servers j)) : layout.Informed after trace :=
  ⟨informed.told, fun i found member => (informed.remembered i found member).ages (ages i)⟩

/-- After one more answer, the reconcile is still informed. -/
theorem Informed.answer {trace : Trace SuperStream} {request : Request SuperStream}
    {reply : request.Answer} (informed : layout.Informed world trace)
    (answered : layout.Answers world request reply after) :
    layout.Informed after (trace ++ [⟨request, reply⟩]) := by
  have called : CalledFor request reply := by
    cases request with
    | getObject kind key =>
        cases reply with
        | error => trivial
        | ok child => exact (answered.2 child rfl).1
    | _ => trivial
  refine ⟨⟨SuperStreamServer.called_append.mpr ⟨informed.told.1, ?_⟩, ?_⟩, ?_⟩
  · intro event member
    cases List.mem_singleton.mp member
    exact called
  · intro key read member
    rcases List.mem_append.mp member with earlier | last
    · exact informed.told.2 key read earlier
    · cases List.mem_singleton.mp last
      exact answered.2 read rfl
  · intro i found member
    rcases List.mem_append.mp member with earlier | last
    · exact (informed.remembered i found earlier).ages (ages_of_superStream answered i)
    · cases List.mem_singleton.mp last
      obtain ⟨rfl, read⟩ := answered
      exact (read found rfl).2 i rfl rfl

/-- In every run, the super stream reconciler in flight was told the truth, and goes on
by it. -/
theorem reachable_informed (reachable : (layout.system r).Reachable initial config) :
    ∀ activity, config.activities none = some activity →
      layout.Informed config.world activity.1 ∧
        activity.2.Guarded (Crafting layout.stream) (fun _ _ => True) activity.1 := by
  refine System.Reachable.member (i := none) (fun world trace program =>
    layout.Informed world trace ∧
      program.Guarded (Crafting layout.stream) (fun _ _ => True) trace) ?_ ?_ ?_ reachable
  · rintro world program _ ⟨rfl, rfl⟩
    refine ⟨⟨⟨fun _ absent => (by cases absent), fun _ _ absent => (by cases absent)⟩,
      fun _ _ absent => (by cases absent)⟩, ?_⟩
    exact reconcile_crafts layout.stream _
  · rintro config next trace request resume reply - - - ⟨informed, guarded⟩ answered
    exact ⟨informed.answer answered, guarded.2 reply⟩
  · rintro config next trace program - step ⟨informed, guarded⟩
    exact ⟨informed.ages (ages_of_step step), guarded⟩

/-- A child is known by its kind and its name. -/
theorem eq_of_key {i j : layout.Child} (kinds : layout.fleet.kind i = layout.fleet.kind j)
    (keys : layout.fleet.key i = layout.fleet.key j) : i = j :=
  Subtype.ext (SuperStreamServer.builders_eq_of_slot i.2 j.2 (Prod.ext kinds keys))

/-- A child is known by its kind and its name. -/
theorem eq_of_named {resource : ResourceBuilder}
    (member : resource ∈ builders (routingKeysOf layout.stream)) {child : Object resource.kind}
    (shaped : Shaped layout.stream resource child) {i : layout.Child}
    (same : resource.kind = layout.fleet.kind i)
    (named : child.objectMeta.key = layout.fleet.key i) : i = ⟨resource, member⟩ :=
  eq_of_key same.symm (named.symm.trans shaped.named)

/-- Each child sees the others as its environment. -/
theorem children_project {store : BrokerStore.Store} :
    (layout.children r).Projects (fun i => r.reconcile (layout.fleet.key i))
      (fun i => Deployment.environment (layout.fleet.key i) (layout.fleet.target i)
        (layout.fleet.Admits (layout.Admits r.libraries) i) fun _ _ => True)
      layout.fleet.view ⟨fun _ => .empty, store⟩ :=
  Fleet.projects admits_congr fun _ _ admitted => ⟨admitted.placed.names, admitted.placed.schema⟩

/-- In every reachable state, a stored child asks for what the super stream has for it. -/
theorem stored_admitted {store : BrokerStore.Store} {config : System.Config
      (fun i : layout.Child => @Request.Answer (Object i.1.kind))
      (fun _ => Result × Option GoError) layout.fleet.World}
    (reachable : (layout.children r).Reachable ⟨fun _ => .empty, store⟩ config) (i : layout.Child)
    {object : Object i.1.kind} (stored : (config.world.servers i).stored = some object) :
    layout.fleet.Admits (layout.Admits r.libraries) i object :=
  Deployment.reachable_admitted
    (fun object other same => Fleet.admits_congr (admits_congr i object other same) same)
    (children_project.reachable reachable i) object stored

/-- What the super stream reconciler does to the children, users may do as well. -/
theorem superStream_absorbed {store : BrokerStore.Store} {trace : Trace SuperStream}
    {request : Request SuperStream} {reply : request.Answer}
    {resume : request.Answer → Prog SuperStream (Result × Option GoError)}
    (reachable : (layout.system r).Reachable initial config)
    (inner : (layout.children r).Reachable ⟨fun _ => .empty, store⟩ config.others)
    (running : config.activities none = some (trace, .call request resume))
    (answered : layout.Answers config.world request reply after) :
    Relation.ReflTransGen (layout.children r).foreign config.world after := by
  obtain ⟨informed, crafts, -⟩ := reachable_informed reachable _ running
  cases crafts informed.told with
  | creates member child shaped =>
      rcases ApiServer.Writes.cases answered with rfl | ⟨version, i, same, applied⟩
      · exact .refl
      obtain rfl := eq_of_named member shaped same applied.named
      refine .single (.user ⟨_, member⟩ ⟨foreign_of_creates applied.named applied.written,
        applied.generations⟩ (fun object stored => ?_) applied.rest applied.store)
      cases (stored_of_creates applied.written).symm.trans stored
      exact ⟨admits_of_shaped ⟨_, member⟩ ⟨shaped.named, shaped.spec⟩, fun _ => rfl⟩
  | updates member found child asked reworked shaped =>
      rcases ApiServer.Writes.cases answered with rfl | ⟨version, i, same, applied⟩
      · exact .refl
      obtain rfl := eq_of_named member shaped same applied.named
      have remembered := informed.remembered ⟨_, member⟩ found
        ((reworked.key.symm.trans applied.named) ▸ asked)
      rcases foreign_of_edits remembered reworked applied.written with
          unmoved | ⟨moved, stored, follows⟩
      · refine .single (.others (funext fun j => ?_) fun j => congrFun applied.store _)
        by_cases here : j = ⟨_, member⟩
        · rw [here]
          exact unmoved
        · exact applied.rest j here
      refine .single (.user ⟨_, member⟩ ⟨moved, applied.generations⟩ (fun object left => ?_)
        applied.rest applied.store)
      have followed := follows object left
      have before := stored_admitted inner ⟨_, member⟩ stored
      refine ⟨admits_of_shaped ⟨_, member⟩ ⟨followed.key.trans shaped.named, ?_⟩, fun lasting => ?_⟩
      · rw [followed.spec, shaped.spec]
      · rw [followed.timestamp, before.2 lasting]
  | aside aside =>
      have unmoved : after = config.world := by
        cases request with
        | createObject | updateObject => cases aside
        | get | getObject => exact answered.1
        | _ => exact answered
      rw [unmoved]

/-- The reconcilers of the children have a run of their own, with the super stream
reconciler among the users. -/
theorem children_reachable {store : BrokerStore.Store}
    (reachable : (layout.system r).Reachable ⟨fun _ => .empty, store⟩ config) :
    (layout.children r).Reachable ⟨fun _ => .empty, store⟩ config.others := by
  refine System.Reachable.absorb ?_ ?_ ?_ ?_ ⟨?_, ?_⟩ ?_ reachable
  · exact fun _ _ move => move
  · exact fun _ _ _ _ _ answered => answered
  · exact fun _ _ _ _ launched => launched
  · exact fun _ _ _ _ _ retired => retired
  · exact fun _ _ _ launched => launched.2
  · exact fun _ _ _ _ retired => retired
  · exact fun _ _ _ _ _ _ reached inner running answered =>
      superStream_absorbed reached inner running answered

/-- What the broker holds of a child that is up to date. -/
theorem child_held {store : BrokerStore.Store}
    (reachable : (layout.system r).Reachable ⟨fun _ => .empty, store⟩ config) (i : layout.Child)
    {object : Object i.1.kind} (stored : (config.world.servers i).stored = some object)
    (upToDate : ApiServer.UpToDate object) :
    layout.Admits r.libraries i object ∧
      ∃ issued, config.world.store (layout.target i.1) = some issued ∧
        Prescribes r.libraries object issued := by
  have inner := children_reachable reachable
  obtain ⟨-, held⟩ := (Deployment.reachable_mirrored
    (fun object other same => Fleet.admits_congr (admits_congr i object other same) same)
    (fun _ admitted => admitted.1.placed.names) (layout.fleet.other i)
    (children_project.reachable inner i)).mirrors object stored upToDate
  exact ⟨(stored_admitted inner i stored).1, held⟩

end Layout

end TopologyOperator.StreamTopology
