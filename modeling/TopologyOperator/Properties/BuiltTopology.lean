import TopologyOperator.ApiServer.FreshChildren

/-!
# The topology of a super stream

When a reconcile of a super stream returns from its success exit, the exchange, the
queues and the bindings are stored as the spec that it read demands, whatever children
there were before. Meanwhile users update the super stream and other controllers write
the children, but they leave the spec and the owners of a child alone; every call may
fail, and a write that fails may have been applied. Children are read as they are
stored.
-/

namespace TopologyOperator.SuperStreamServer

open Dialogue Environment ApiServer Program SuperStreamReconciler Encoding

variable {permitted : SuperStream → SuperStream → Prop} {key : NamespacedName}
  {initial world next after : World} {builder : Builder} {resource other : ResourceBuilder}
  {read : SuperStream} {names routingKeys : List String} {trace : Trace SuperStream}
  {result : Result × Option GoError}
  {config : Config (@Request.Answer SuperStream) World (Result × Option GoError)}

/-- A child that is found is the latest version of the child of this name. -/
def ReadsLatest (world : World) : (request : Request SuperStream) → request.Answer → Prop
  | .getObject kind key, .ok child =>
      child.objectMeta.key = key ∧ (world.children (kind, key)).head? = some child
  | _, _ => True

/-- The latest version of each child keeps its name, its spec and its owners. -/
def LeavesChildren (world next : World) : Prop :=
  ∀ place latest earlier, world.children place = latest :: earlier →
    ∃ child rest, next.children place = child :: rest ∧
      child.objectMeta.key = latest.objectMeta.key ∧ child.spec = latest.spec ∧
      child.objectMeta.ownerReferences = latest.objectMeta.ownerReferences

/-- The API server, with others that leave the children alone. -/
def attentive (permitted : SuperStream → SuperStream → Prop) :
    Environment (@Request.Answer SuperStream) World where
  foreign world next := Foreign permitted world next ∧ LeavesChildren world next
  answers world request reply after :=
    Answers world request reply after ∧ ReadsLatest world request reply

section Standing

/-- The child is stored as it is made. -/
def Stands (builder : Builder) (resource : ResourceBuilder) (world : World) : Prop :=
  ∃ child earlier, Made builder resource child ∧
    world.children (resource.kind, child.objectMeta.key) = child :: earlier

/-- If the request writes the child, it writes it as it is made. -/
def Upholds (builder : Builder) (resource : ResourceBuilder) (request : Request SuperStream) :
    Prop :=
  slotOf request = some (slot (builder.build resource)) →
    ∃ child, Made builder resource child ∧ Written child request

/-- Controllers that leave the children alone leave them standing. -/
theorem Stands.foreign (stands : Stands builder resource world)
    (leaves : LeavesChildren world next) : Stands builder resource next := by
  obtain ⟨latest, earlier, made, stored⟩ := stands
  obtain ⟨child, rest, now, named, spec, owners⟩ :=
    leaves (resource.kind, latest.objectMeta.key) latest earlier stored
  refine ⟨child, rest, made.congr named spec owners, ?_⟩
  rw [named]
  exact now

/-- A child that was just written as it is made stands. -/
theorem stands_of_push {child : Object resource.kind} (made : Made builder resource child)
    (version : Version) : Stands builder resource (world.push (child.withVersion version)) :=
  ⟨child.withVersion version, _, made.withVersion version, Function.update_self ..⟩

/-- Other slots are left alone. -/
theorem children_of_answers {request : Request SuperStream} {reply : request.Answer}
    {place : Kind × NamespacedName} (answered : Answers world request reply after)
    (elsewhere : slotOf request ≠ some place) : after.children place = world.children place := by
  have pushed : ∀ {kind : Kind} {child : Object kind} {version : Version},
      some (slot child) ≠ some place →
      (world.push (child.withVersion version)).children place = world.children place := by
    intro kind child version different
    exact Function.update_of_ne (fun same => different (congrArg some same.symm)) ..
  cases request with
  | createObject child =>
      rcases Writes.cases answered with rfl | ⟨version, -, rfl⟩
      · rfl
      · exact pushed elsewhere
  | updateObject child =>
      rcases Writes.cases answered with rfl | ⟨version, _, _, -, -, rfl⟩
      · rfl
      · exact pushed elsewhere
  | update written =>
      rcases Writes.cases answered with rfl | ⟨version, -, -, -, rfl⟩ <;> rfl
  | updateStatus written =>
      rcases Writes.cases answered with rfl | ⟨version, -, ⟨-, rfl⟩ | ⟨-, -, rfl⟩⟩ <;> rfl
  | get | getObject =>
      obtain ⟨rfl, -⟩ := answered
      rfl
  | _ =>
      cases answered
      rfl

/-- A request that upholds the child keeps it as it is made. -/
theorem Stands.answers {request : Request SuperStream} {reply : request.Answer}
    (stands : Stands builder resource world) (upholds : Upholds builder resource request)
    (answered : Answers world request reply after) : Stands builder resource after := by
  by_cases here : slotOf request = some (slot (builder.build resource))
  · obtain ⟨child, made, rfl | rfl⟩ := upholds here
    · rcases Writes.cases answered with rfl | ⟨version, -, rfl⟩
      · exact stands
      · exact stands_of_push made version
    · rcases Writes.cases answered with rfl | ⟨version, _, _, -, -, rfl⟩
      · exact stands
      · exact stands_of_push made version
  · obtain ⟨child, earlier, made, stored⟩ := stands
    refine ⟨child, earlier, made, ?_⟩
    rw [children_of_answers answered, stored]
    rw [made.named]
    exact here

/-- After an event that vouches for the child it is stored as it is made. -/
theorem stands_of_vouches {request : Request SuperStream} {reply : request.Answer}
    (vouches : Vouches builder resource ⟨request, reply⟩)
    (answered : (attentive permitted).answers world request reply after) :
    Stands builder resource after := by
  obtain ⟨answered, latest⟩ := answered
  cases vouches with
  | found child made key =>
      obtain ⟨rfl, head⟩ := latest
      obtain ⟨rfl, -⟩ := answered
      obtain ⟨earlier, stored⟩ := List.head?_eq_some_iff.mp head
      exact ⟨child, earlier, made, stored⟩
  | created child made version =>
      obtain ⟨-, rfl⟩ := answered
      exact stands_of_push made version
  | updated child made version =>
      obtain ⟨_, _, -, -, rfl⟩ := answered
      exact stands_of_push made version

/-- In every run, a child for which an event vouches stays as it is made while each
later request upholds it. -/
theorem stands_of_reachable (reachable : (attentive permitted).Reachable (reconcile key) initial
    config) : ∀ activity, config.activity = some activity → ∀ before event after,
      activity.1 = before ++ event :: after → Vouches builder resource event →
      (∀ later ∈ after, Upholds builder resource later.request) →
      Stands builder resource config.world := by
  induction reachable with
  | refl => exact fun _ absent => by cases absent
  | tail _ step ih =>
      cases step with
      | foreign move =>
          intro activity running before event after split vouches upholds
          exact (ih activity running before event after split vouches upholds).foreign move.2
      | start =>
          intro activity running before event after split
          cases running
          exact absurd split (by simp)
      | answer answered =>
          intro activity running before event after split vouches upholds
          cases running
          rcases List.eq_nil_or_concat after with rfl | ⟨others, last, rfl⟩
          · obtain ⟨rfl, rfl⟩ := List.append_singleton_inj.mp split
            exact stands_of_vouches vouches answered
          · rw [List.concat_eq_append] at split upholds
            rw [← List.cons_append, ← List.append_assoc] at split
            obtain ⟨whole, rfl⟩ := List.append_singleton_inj.mp split
            have stood := ih _ rfl before event others whole vouches fun later member =>
              upholds later (List.mem_append_left _ member)
            have upheld := upholds _ (List.mem_append_right _ List.mem_cons_self)
            exact stood.answers upheld answered.1
      | stop => exact fun _ absent => by cases absent

end Standing

section Exit

/-- A loop of distinct builders writes every child only as it is made. -/
theorem upholds_of_makes {request : Request SuperStream} (member : resource ∈ builders routingKeys)
    (otherMember : other ∈ builders routingKeys) (makes : Makes builder other request) :
    Upholds builder resource request := by
  intro here
  rcases makes with none | ⟨child, made, written⟩
  · rw [none] at here
    cases here
  · have place : slot child = slot (builder.build other) := Prod.ext rfl made.named
    have same : slot (builder.build other) = slot (builder.build resource) := by
      rw [← place]
      exact Option.some.inj (written.slotOf.symm.trans here)
    cases builders_eq_of_slot otherMember member same
    exact ⟨child, made, written⟩

/-- Children are found under the names that they were asked for by. -/
theorem called_of_reachable
    (reachable : (attentive permitted).Reachable (reconcile key) initial config) :
    ∀ activity, config.activity = some activity → Called activity.1 := by
  refine Reachable.events (fun event => CalledFor event.request event.answer) ?_ reachable
  rintro world request reply after ⟨-, latest⟩
  cases request with
  | getObject kind key =>
      cases reply with
      | error => trivial
      | ok child => exact latest.1
  | _ => trivial

/-- The builder of a reconcile. -/
def builderOf (read : SuperStream) (rmqClusterRef : RabbitmqClusterReference) : Builder :=
  ⟨read.objectMeta, read.spec.vhost, rmqClusterRef⟩

/-- At the success exit all children are stored as they are made. -/
theorem stands_of_exit
    (reachable : (attentive permitted).Reachable (reconcile key) initial config)
    (returned : config.activity = some (trace, .done result))
    (ended : LoopEnded key trace read names) :
    ∃ rmqClusterRef routingKeys resolved, keysFor read = some routingKeys ∧
      (resolution read).Exec resolved (.done (.ok rmqClusterRef)) ∧
      names = routingKeys.map (routingKeyToPartitionName read.objectMeta.name) ∧
      ∀ resource ∈ builders routingKeys,
        Stands (builderOf read rmqClusterRef) resource config.world := by
  have exec := reachable.exec _ returned [] (.done result) ⟨rfl, rfl⟩
  rw [List.append_nil] at exec
  have called := called_of_reachable reachable _ returned
  obtain ⟨resolved, loop, rest, rmqClusterRef, routingKeys, rfl, resolves, keyed, looped,
    concludes⟩ := concludes_of_loopEnded exec ended
  refine ⟨rmqClusterRef, routingKeys, resolved, keyed, resolves, builderLoop_exec looped, ?_⟩
  intro resource member
  have calledLoop : Called loop := fun event within =>
    called event (.tail _ (List.mem_append_right _ (List.mem_append_left _ within)))
  obtain ⟨before, event, after, rfl, vouches, makes⟩ :=
    (createChildren_vouched calledLoop looped).2 resource member
  apply stands_of_reachable reachable _ returned (⟨.get key, .ok read⟩ :: (resolved ++ before))
    event (after ++ rest)
  · simp only [List.cons_append, List.append_assoc]
  · exact vouches
  · intro later within
    rcases List.mem_append.mp within with inLoop | concluding
    · obtain ⟨other, otherMember, made⟩ := makes later inLoop
      exact upholds_of_makes member otherMember made
    · intro here
      rw [(concludes.records later concluding).1] at here
      cases here

/-- The status that a reconcile writes has these partitions. -/
def RecordsOnly (names : List String) (trace : Trace SuperStream) : Prop :=
  (∃ written reply, (⟨.updateStatus written, reply⟩ : Event _) ∈ trace) ∧
    ∀ written reply, (⟨.updateStatus written, reply⟩ : Event _) ∈ trace →
      written.status.partitions = names

/-- The success exit writes the status with the partitions of the loop. -/
theorem recordsOnly_of_exit (exec : (reconcile key).Exec trace (.done result))
    (ended : LoopEnded key trace read names) :
    result = ({}, none) ∧ RecordsOnly names trace := by
  obtain ⟨resolved, loop, rest, rmqClusterRef, routingKeys, rfl, resolves, -, looped,
    concludes⟩ := concludes_of_loopEnded exec ended
  obtain ⟨written, reply, recorded⟩ := concludes.recorded
  refine ⟨concludes.returned, ⟨written, reply, ?_⟩, fun written reply member => ?_⟩
  · exact .tail _ (List.mem_append_right _ (List.mem_append_right _ recorded))
  · rcases List.mem_cons.mp member with same | later
    · cases same
    rcases List.mem_append.mp later with resolving | later
    · have observes : Observes (resolution read) := resolution_calls (fun _ => rfl) read
      cases observes.of_exec resolves _ resolving
    rcases List.mem_append.mp later with inLoop | concluding
    · exact ((createChildren_calls ..).of_exec looped _ inLoop).elim
    · exact (concludes.records _ concluding).2 written rfl

end Exit

section Topology

/-- The routing keys of a super stream: those of the spec, or the numerals of the
partitions. -/
def routingKeysOf (stream : SuperStream) : List String :=
  if stream.spec.routingKeys = [] then (List.range stream.spec.partitions.toNat).map toString
  else stream.spec.routingKeys

/-- The cluster reference with its namespace. -/
def referenceOf (stream : SuperStream) : RabbitmqClusterReference where
  name := stream.spec.rabbitmqClusterReference.name
  ns := stream.spec.rabbitmqClusterReference.connectionSecretNamespace stream.objectMeta.ns

/-- The super stream is the controller of the object. -/
def Controls (stream : SuperStream) (objectMeta : ObjectMeta) : Prop :=
  getControllerOf objectMeta.ownerReferences = some (ownerReference stream.objectMeta)

/-- The arguments decode to the index as the order of the partition: the `float64`
nearest to it, which is the index itself below `2 ^ 53`. An index is an `int`. -/
def HoldsOrder (index : Nat) (arguments : Option RawExtension) : Prop :=
  ∃ extension, arguments = some extension ∧ (index < 2 ^ 63 → ∃ order,
    Json.unmarshalMap extension.raw = some [("x-stream-partition-order", .number order)] ∧
    Json.Float64.ofRatio false index 1 = some order ∧ (index < 2 ^ 53 → order.toRat = index))

structure ExchangeFor (stream : SuperStream) (exchange : Object .exchange) : Prop where
  name : exchange.spec.name = stream.objectMeta.name
  vhost : exchange.spec.vhost = stream.spec.vhost
  cluster : exchange.spec.rabbitmqClusterReference = referenceOf stream
  controlled : Controls stream exchange.objectMeta

structure PartitionFor (stream : SuperStream) (routingKey : String) (queue : Object .queue) :
    Prop where
  name : queue.spec.name = routingKeyToPartitionName stream.objectMeta.name routingKey
  durable : queue.spec.durable = some true
  type : queue.spec.type = "stream"
  vhost : queue.spec.vhost = stream.spec.vhost
  cluster : queue.spec.rabbitmqClusterReference = referenceOf stream
  controlled : Controls stream queue.objectMeta
  restored : partitionNameToRoutingKey stream.objectMeta.name queue.spec.name = routingKey

structure BindingFor (stream : SuperStream) (exchange : Object .exchange) (queue : Object .queue)
    (index : Nat) (routingKey : String) (binding : Object .binding) : Prop where
  source : binding.spec.source = exchange.spec.name
  destinationType : binding.spec.destinationType = "queue"
  destination : binding.spec.destination = queue.spec.name
  routingKey : binding.spec.routingKey = routingKey
  order : HoldsOrder index binding.spec.arguments
  vhost : binding.spec.vhost = stream.spec.vhost
  cluster : binding.spec.rabbitmqClusterReference = referenceOf stream
  controlled : Controls stream binding.objectMeta

/-- The children of a super stream: an exchange, and for each routing key a queue and a
binding from the exchange to the queue. -/
def Topology (stream : SuperStream) (world : World) : Prop :=
  ∃ exchange exchanges,
    world.children (.exchange, ⟨stream.objectMeta.ns, stream.objectMeta.name ++ "-exchange"⟩) =
      exchange :: exchanges ∧ ExchangeFor stream exchange ∧
    ∀ index routingKey, (routingKeysOf stream)[index]? = some routingKey →
      ∃ queue queues binding bindings,
        world.children (.queue, partitionKey stream.objectMeta.key index) = queue :: queues ∧
        world.children (.binding, bindingKey stream.objectMeta.key index) = binding :: bindings ∧
        PartitionFor stream routingKey queue ∧
        BindingFor stream exchange queue index routingKey binding

/-- The arguments decode to the `float64` nearest to the index. -/
theorem partitionOrderArguments_decode (index : Nat) :
    Json.unmarshalMap (partitionOrderArguments index).raw =
      (Json.Float64.ofRatio false index 1).map fun order =>
        [("x-stream-partition-order", .number order)] := by
  have plain : "x-stream-partition-order".toList.all Json.isPlain = true := by decide
  have opened : "\x7b\"x-stream-partition-order\": ".toList =
      '{' :: '"' :: ("x-stream-partition-order".toList ++ ['"', ':', ' ']) := by decide
  exact Json.unmarshalMap_numeral plain opened (by decide) index

/-- Every binding holds the order of its partition. -/
theorem holdsOrder (index : Nat) : HoldsOrder index (some (partitionOrderArguments index)) := by
  refine ⟨partitionOrderArguments index, rfl, fun bounded => ?_⟩
  obtain ⟨order, converted⟩ := Json.Float64.exists_ofRatio bounded
  refine ⟨order, ?_, converted, fun small => ?_⟩
  · rw [partitionOrderArguments_decode, converted]
    rfl
  · obtain ⟨value, same, exact⟩ := Json.Float64.ofRatio_exact small
    cases converted.symm.trans same
    exact exact

/-- The routing key is recovered from the name of its partition. -/
theorem partitionNameToRoutingKey_partitionName (parentObjectName routingKey : String) :
    partitionNameToRoutingKey parentObjectName
      (routingKeyToPartitionName parentObjectName routingKey) = routingKey := by
  have printed : (routingKeyToPartitionName parentObjectName routingKey).toList =
      (parentObjectName ++ "-").toList ++ routingKey.toList := by
    rw [routingKeyToPartitionName, String.toList_append]
  have starts : (parentObjectName ++ "-").toList.isPrefixOf
      (routingKeyToPartitionName parentObjectName routingKey).toList = true := by
    rw [printed, List.isPrefixOf_iff_prefix]
    exact List.prefix_append ..
  rw [partitionNameToRoutingKey, trimPrefix, if_pos starts, printed, List.drop_left,
    String.ofList_toList]

/-- A reconcile that goes on has one routing key for each partition. -/
theorem keysFor_eq (keyed : keysFor read = some routingKeys) :
    routingKeys = routingKeysOf read ∧ (routingKeys.length : Int) = read.spec.partitions := by
  obtain ⟨grows, ⟨generated, rfl⟩ | ⟨given, length, rfl⟩⟩ := keysFor_cases keyed
  · refine ⟨by rw [routingKeysOf, if_pos generated, generateRoutingKeys], ?_⟩
    rw [generateRoutingKeys, List.length_map, List.length_range]
    omega
  · exact ⟨by rw [routingKeysOf, if_neg given], length⟩

/-- A reference that was resolved has its namespace filled in. -/
theorem resolution_eq {rmqClusterRef : RabbitmqClusterReference}
    (resolves : (resolution read).Exec trace (.done (.ok rmqClusterRef))) :
    rmqClusterRef = referenceOf read := by
  obtain ⟨reply, rest, -, ends⟩ := resolves
  cases reply with
  | error err => cases ends.2
  | ok cluster =>
      simp only [done_bind] at ends
      split at ends
      · cases ends.2
        rfl
      · cases ends.2

/-- The exchange stands as the spec demands. -/
theorem Stands.exchangeFor
    (stands : Stands (builderOf read (referenceOf read)) .superStreamExchange world) :
    ∃ exchange exchanges,
      world.children (.exchange, ⟨read.objectMeta.ns, read.objectMeta.name ++ "-exchange"⟩) =
        exchange :: exchanges ∧ ExchangeFor read exchange := by
  obtain ⟨exchange, exchanges, made, stored⟩ := stands
  rw [made.named] at stored
  exact ⟨exchange, exchanges, stored, (congrArg ExchangeSpec.name made.spec).symm,
    (congrArg ExchangeSpec.vhost made.spec).symm,
    (congrArg ExchangeSpec.rabbitmqClusterReference made.spec).symm, made.controlled⟩

/-- So does the queue of each routing key. -/
theorem Stands.partitionFor {index : Nat} {routingKey : String}
    (stands : Stands (builderOf read (referenceOf read)) (.superStreamPartition index routingKey)
      world) :
    ∃ queue queues,
      world.children (.queue, partitionKey read.objectMeta.key index) = queue :: queues ∧
        PartitionFor read routingKey queue := by
  obtain ⟨queue, queues, made, stored⟩ := stands
  have name : queue.spec.name = routingKeyToPartitionName read.objectMeta.name routingKey :=
    (congrArg QueueSpec.name made.spec).symm
  rw [made.named] at stored
  refine ⟨queue, queues, stored, name, (congrArg QueueSpec.durable made.spec).symm,
    (congrArg QueueSpec.type made.spec).symm, (congrArg QueueSpec.vhost made.spec).symm,
    (congrArg QueueSpec.rabbitmqClusterReference made.spec).symm, made.controlled, ?_⟩
  rw [name, partitionNameToRoutingKey_partitionName]

/-- So does the binding between the two. -/
theorem Stands.bindingFor {exchange : Object .exchange} {queue : Object .queue} {index : Nat}
    {routingKey : String} (exchangeFor : ExchangeFor read exchange)
    (partitionFor : PartitionFor read routingKey queue)
    (stands : Stands (builderOf read (referenceOf read)) (.superStreamBinding index routingKey)
      world) :
    ∃ binding bindings,
      world.children (.binding, bindingKey read.objectMeta.key index) = binding :: bindings ∧
        BindingFor read exchange queue index routingKey binding := by
  obtain ⟨binding, bindings, made, stored⟩ := stands
  have arguments : binding.spec.arguments = some (partitionOrderArguments index) :=
    (congrArg BindingSpec.arguments made.spec).symm
  rw [made.named] at stored
  refine ⟨binding, bindings, stored, ?_, (congrArg BindingSpec.destinationType made.spec).symm, ?_,
    (congrArg BindingSpec.routingKey made.spec).symm, arguments ▸ holdsOrder index,
    (congrArg BindingSpec.vhost made.spec).symm,
    (congrArg BindingSpec.rabbitmqClusterReference made.spec).symm, made.controlled⟩
  · rw [exchangeFor.name]
    exact (congrArg BindingSpec.source made.spec).symm
  · rw [partitionFor.name]
    exact (congrArg BindingSpec.destination made.spec).symm

/-- If all children stand, the topology is there. -/
theorem topology_of_stands (stands : ∀ resource ∈ builders (routingKeysOf read),
    Stands (builderOf read (referenceOf read)) resource world) : Topology read world := by
  obtain ⟨exchange, exchanges, stored, exchangeFor⟩ :=
    (stands .superStreamExchange (mem_builders.mpr (.inl rfl))).exchangeFor
  refine ⟨exchange, exchanges, stored, exchangeFor, fun index routingKey found => ?_⟩
  obtain ⟨queue, queues, queued, partitionFor⟩ := (stands (.superStreamPartition index routingKey)
    (mem_builders.mpr (.inr ⟨index, routingKey, found, .inl rfl⟩))).partitionFor
  obtain ⟨binding, bindings, bound, bindingFor⟩ := (stands (.superStreamBinding index routingKey)
    (mem_builders.mpr (.inr ⟨index, routingKey, found, .inr rfl⟩))).bindingFor exchangeFor
    partitionFor
  exact ⟨queue, queues, binding, bindings, queued, bound, partitionFor, bindingFor⟩

/-- When a reconcile returns from its success exit, the children are stored as the super
stream that it read demands, and the status that it wrote lists the queues in the order
of their indices. -/
theorem reconcile_builds_topology (permitted : SuperStream → SuperStream → Prop)
    (key : NamespacedName) (initial : World)
    (config : Config (@Request.Answer SuperStream) World (Result × Option GoError))
    (trace : Trace SuperStream) (result : Result × Option GoError) (read : SuperStream)
    (names : List String)
    (reachable : (attentive permitted).Reachable (reconcile key) initial config)
    (returned : config.activity = some (trace, .done result))
    (ended : LoopEnded key trace read names) :
    result = ({}, none) ∧ Topology read config.world ∧ RecordsOnly names trace ∧
      (names.length : Int) = read.spec.partitions ∧
      ∀ index routingKey, (routingKeysOf read)[index]? = some routingKey →
        ∃ queue queues name,
          config.world.children (.queue, partitionKey read.objectMeta.key index) =
            queue :: queues ∧
          names[index]? = some name ∧ queue.spec.name = name ∧
          partitionNameToRoutingKey read.objectMeta.name name = routingKey := by
  obtain ⟨rmqClusterRef, routingKeys, resolved, keyed, resolves, rfl, stands⟩ :=
    stands_of_exit reachable returned ended
  obtain ⟨rfl, length⟩ := keysFor_eq keyed
  cases resolution_eq resolves
  have exec := reachable.exec _ returned [] (.done result) ⟨rfl, rfl⟩
  rw [List.append_nil] at exec
  obtain ⟨success, recorded⟩ := recordsOnly_of_exit exec ended
  have topology := topology_of_stands stands
  refine ⟨success, topology, recorded, by rw [List.length_map, length], ?_⟩
  intro index routingKey found
  obtain ⟨_, _, _, _, partitions⟩ := topology
  obtain ⟨queue, queues, _, _, stored, _, partitionFor, _⟩ := partitions index routingKey found
  refine ⟨queue, queues, _, stored, ?_, partitionFor.name, ?_⟩
  · rw [List.getElem?_map, found]
    rfl
  · exact partitionNameToRoutingKey_partitionName ..

end Topology

section Example

/-- The API server lets children be created while others leave them alone. -/
theorem fertile_attentive (permitted : SuperStream → SuperStream → Prop) :
    Fertile (attentive permitted) where
  reads world key := ⟨(fertile_environment permitted).reads world key, trivial⟩
  misses world kind key vacant :=
    ⟨(fertile_environment permitted).misses world kind key vacant, trivial⟩
  creates world _ child vacant := by
    obtain ⟨version, stored, kept, created⟩ :=
      (fertile_environment permitted).creates world child vacant
    exact ⟨version, stored, kept, created, trivial⟩
  records world written current := by
    obtain ⟨version, after, recorded, rest⟩ :=
      (fertile_environment permitted).records world written current
    exact ⟨version, after, ⟨recorded, trivial⟩, rest⟩
  ticks _ := ⟨rfl, trivial⟩

/-- A reconcile of a super stream that was just created returns from its success exit. -/
theorem exists_exit {stream : SuperStream} {routingKeys : List String} {cluster : RabbitmqCluster}
    (keyed : keysFor (World.fresh stream).stream = some routingKeys)
    (allowed : allowedNamespace stream.spec.rabbitmqClusterReference stream.objectMeta.ns cluster =
      true) (key : NamespacedName) :
    ∃ config : Config (@Request.Answer SuperStream) World (Result × Option GoError),
      ∃ trace result,
      (attentive Accepts).Reachable (reconcile key) (World.fresh stream) config ∧
      config.activity = some (trace, .done result) ∧
      LoopEnded key trace (World.fresh stream).stream
        (partitionsOf (World.fresh stream).stream routingKeys) ∧
      config.world.stream.status.partitions =
        partitionsOf (World.fresh stream).stream routingKeys := by
  obtain ⟨rest, after, reconciled⟩ := exists_reconciled (fertile_attentive Accepts)
    (untouched_fresh cluster keyed allowed ⟨rfl, trivial⟩) key
  exact ⟨_, _, _, reconciled.answered.reachable (.tail .refl .start), rfl, reconciled.ended,
    reconciled.partitions⟩

/-- A super stream with two partitions. -/
def regionsStream : SuperStream where
  objectMeta := { name := "regions", ns := "shop", uid := 1, resourceVersion := 1 }
  spec := {
    name := "regions"
    vhost := "/"
    partitions := 2
    routingKeys := ["eu-west", "us-east"]
    rabbitmqClusterReference := { name := "rabbit" } }

/-- The cluster that the super stream refers to. -/
def regionsCluster : RabbitmqCluster where
  objectMeta := { name := "rabbit", ns := "shop" }

/-- The super stream has its topology. -/
theorem regionsStream_topology :
    ∃ config : Config (@Request.Answer SuperStream) World (Result × Option GoError),
      Topology regionsStream config.world := by
  have allowed : allowedNamespace regionsStream.spec.rabbitmqClusterReference "shop"
      regionsCluster = true := rfl
  obtain ⟨config, trace, result, reachable, returned, ended, -⟩ :=
    exists_exit rfl allowed ⟨"shop", "regions"⟩
  obtain ⟨-, topology, -⟩ := reconcile_builds_topology Accepts ⟨"shop", "regions"⟩
    (World.fresh regionsStream) config trace result regionsStream _ reachable returned ended
  exact ⟨config, topology⟩

end Example

end TopologyOperator.SuperStreamServer
