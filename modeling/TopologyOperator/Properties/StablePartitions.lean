import TopologyOperator.ApiServer.FreshChildren
import TopologyOperator.Properties.BuilderLoop

/-!
# Stable partitions

The partitions of a super stream are only ever appended. Everything that a
reconcile derives from the routing key of an index is fixed, because the key is.
`stable_partitions` states this over all runs of the reconciler, with updates that
the webhook accepts in between. Without the webhook, the recorded list of
partitions still never gets shorter.
-/

namespace TopologyOperator.SuperStreamServer

open Dialogue Environment ApiServer SuperStreamReconciler

variable {key : NamespacedName} {world next : World} {read : SuperStream}

theorem partition_mem_builders {routingKeys : List String} {index : Nat} {routingKey : String}
    (found : routingKeys[index]? = some routingKey) :
    ResourceBuilder.superStreamPartition index routingKey ∈ builders routingKeys := by
  refine .tail _ (List.mem_flatMap.mpr ⟨(routingKey, index), ?_, .head _⟩)
  exact List.mem_zipIdx_iff_getElem?.mpr found

/-- What holds when a reconcile writes its status after the builder loop. -/
structure Recorded (key : NamespacedName) (read : SuperStream) (routingKeys : List String)
    (written : SuperStream) (world : World) : Prop where
  inFlight : InFlight key written world
  spec : written.spec = read.spec
  names : written.status.partitions = routingKeys.map (routingKeyToPartitionName key.name)
  created : CreatedBelow key routingKeys.length world

section Recorded

variable {routingKeys : List String} {rmqClusterRef : RabbitmqClusterReference}
  (keyed : keysFor read = some routingKeys)
include keyed

/-- The names of the partitions of a reconcile. -/
theorem getElem?_names {index : Nat} {name : String} :
    (routingKeys.map (routingKeyToPartitionName key.name))[index]? = some name ↔
      ∃ routingKey, keyAt read.spec index = some routingKey ∧
        name = routingKeyToPartitionName key.name routingKey := by
  rw [List.getElem?_map, (keysFor_spec keyed).1 index, Option.map_eq_some_iff]
  simp only [eq_comm]

/-- The recorded partitions are the first of those that a reconcile collects. -/
theorem Named.initial (named : Named key read.spec read.status.partitions) :
    read.status.partitions <+: routingKeys.map (routingKeyToPartitionName key.name) := by
  rw [List.prefix_iff_getElem?]
  intro index within
  have found : read.status.partitions[index]? = some read.status.partitions[index] :=
    List.getElem?_eq_getElem within
  exact (getElem?_names keyed).mpr (named index _ found)

theorem builderLoop_safe {trace : Trace SuperStream} (valid : Valid key world)
    (inFlight : InFlight key read world) :
    (environment Accepts).Safe (Valid key) (Respects key)
      (fun result now _ => InFlight key read now ∧ ∀ names, result = .ok names →
        Recorded key read routingKeys
          { read with status := { read.status with partitions := names } } now)
      (builderLoop read rmqClusterRef routingKeys) world trace := by
  have looping : (environment Accepts).Safe (Valid key) (Respects key) _
      (builderLoop read rmqClusterRef routingKeys) world trace :=
    createChildren_safe inFlight.keyed (fun _ member => builders_fit keyed member) valid
      ⟨inFlight, fun _ none => absurd none List.not_mem_nil⟩
  refine looping.exec.weaken ?_
  rintro result now _ - ⟨⟨inFlightNow, complete⟩, loop, -, exec⟩
  refine ⟨inFlightNow, ?_⟩
  rintro names rfl
  have collected : names = routingKeys.map (routingKeyToPartitionName key.name) := by
    rw [builderLoop_exec exec, ← inFlight.keyed]
    rfl
  refine ⟨⟨inFlightNow.keyed, ?_, inFlightNow.extended, ?_, inFlightNow.bounded⟩, rfl,
    collected, ?_⟩
  · refine inFlightNow.ready.record (fun _ _ _ => List.IsPrefix.trans) ?_
    rw [collected]
    exact inFlightNow.named.initial keyed
  · intro index name found
    rw [collected] at found
    exact (getElem?_names keyed).mp found
  · intro index
    obtain ⟨keys, within, -⟩ := keysFor_spec keyed
    refine ⟨fun created => (within index).mpr (inFlightNow.bounded index created), fun below => ?_⟩
    have member := partition_mem_builders (List.getElem?_eq_getElem below)
    have created := complete _ rfl _ (.inr member)
    rw [← inFlight.keyed]
    exact created

theorem recorded_statusRules {resolved loop : Trace SuperStream} {names : List String}
    (resolves : (resolution read).Exec resolved (.done (.ok rmqClusterRef)))
    (exec : (builderLoop read rmqClusterRef routingKeys).Exec loop (.done (.ok names)))
    (named : read.objectMeta.key = key) :
    StatusRules Accepts (Valid key) (Respects key) (Recorded key read routingKeys)
      (⟨.get key, .ok read⟩ :: (resolved ++ loop)) where
  stable written world next valid recorded move :=
    ⟨inFlight_stable written world next valid recorded.inFlight move, recorded.spec,
      recorded.names, createdBelow_stable _ world next valid recorded.created move⟩
  rest written status world same recorded :=
    ⟨recorded.inFlight.rest same, recorded.spec, same.trans recorded.names, recorded.created⟩
  guarded written now suffix valid recorded := by
    refine ⟨recorded.inFlight.appends, fun other names' ended => ?_⟩
    rw [List.cons_append, List.append_assoc] at ended
    cases ended.outcome resolves keyed exec
    have collected : names = routingKeys.map (routingKeyToPartitionName key.name) := by
      rw [builderLoop_exec exec, ← named]
      rfl
    refine ⟨recorded.names.trans collected.symm, ?_, fun index queue member => ?_⟩
    · rw [collected, List.length_map]
      exact recorded.created
    · obtain ⟨queueKey, rightful⟩ := valid.children _ queue member
      obtain ⟨-, routingKey, found, queueName⟩ := rightful index queueKey
      have below := (recorded.created index).mp (List.ne_nil_of_mem member)
      have own : keyAt read.spec index = some routingKeys[index] :=
        ((keysFor_spec keyed).1 index).symm.trans (List.getElem?_eq_getElem below)
      have extended : Extends read.spec now.stream.spec :=
        recorded.spec ▸ recorded.inFlight.extended
      cases found.symm.trans (extended.keys index _ own)
      rw [collected, queueName]
      exact (getElem?_names keyed).mpr ⟨_, own, rfl⟩
  stored written now version after valid recorded updates := by
    obtain ⟨validAfter, stamped, kept⟩ := recorded.inFlight.stored valid updates
    have created : CreatedBelow key routingKeys.length after := by
      obtain ⟨_, ⟨_, rfl⟩ | ⟨_, _, rfl⟩⟩ := updates <;> exact recorded.created
    exact ⟨validAfter, ⟨stamped, recorded.spec, recorded.names, created⟩,
      ⟨kept, recorded.spec, recorded.names, created⟩⟩

end Recorded

/-- A reconcile respects the partitions there are. -/
theorem reconcile_respects (key : NamespacedName) (world : World) (valid : Valid key world) :
    (environment Accepts).Safe (Valid key) (Respects key) (fun _ _ _ => True)
      (SuperStreamReconciler.reconcile key) world [] := by
  refine (inFlight_rules key).reconcile_safe ?_ valid
  intro read resolved rmqClusterRef routingKeys now resolves keyed validNow inFlight
  exact (inFlight_rules key).reconcileChildren_safe resolves keyed
    (fun loop names exec => recorded_statusRules keyed resolves exec inFlight.keyed)
    (builderLoop_safe keyed validNow inFlight) validNow

section Runs

/-- The partitions of one world are those of another, which may have more. -/
structure PartitionsKept (key : NamespacedName) (before after : World) : Prop where
  queues : ∀ index, ∀ queue ∈ before.children (.queue, partitionKey key index),
    ∀ later ∈ after.children (.queue, partitionKey key index), later.spec.name = queue.spec.name
  bindings : ∀ index, ∀ binding ∈ before.children (.binding, bindingKey key index),
    ∀ later ∈ after.children (.binding, bindingKey key index),
      later.spec.routingKey = binding.spec.routingKey ∧
        later.spec.destination = binding.spec.destination ∧
        later.spec.arguments = binding.spec.arguments
  recorded : before.stream.status.partitions <+: after.stream.status.partitions

/-- Children with the same index have the same routing key. -/
theorem Valid.kept {key : NamespacedName} {before after : World} (valid : Valid key before)
    (validAfter : Valid key after) (grows : Grows before after) :
    PartitionsKept key before after where
  queues index queue member later found := by
    obtain ⟨queueKey, rightful⟩ := valid.children _ queue member
    obtain ⟨laterKey, laterRightful⟩ := validAfter.children _ later found
    obtain ⟨-, routingKey, keyed, name⟩ := rightful index queueKey
    obtain ⟨-, laterRoutingKey, laterKeyed, laterName⟩ := laterRightful index laterKey
    cases laterKeyed.symm.trans (grows.1.keys index routingKey keyed)
    rw [name, laterName]
  bindings index binding member later found := by
    obtain ⟨bindingKey, rightful⟩ := valid.children _ binding member
    obtain ⟨laterKey, laterRightful⟩ := validAfter.children _ later found
    obtain ⟨routingKey, keyed, key, destination, arguments⟩ := rightful index bindingKey
    obtain ⟨laterRoutingKey, laterKeyed, sameKey, sameDestination, sameArguments⟩ :=
      laterRightful index laterKey
    cases laterKeyed.symm.trans (grows.1.keys index routingKey keyed)
    exact ⟨sameKey.trans key.symm, sameDestination.trans destination.symm,
      sameArguments.trans arguments.symm⟩
  recorded := grows.2

variable {stream : SuperStream} {permitted : SuperStream → SuperStream → Prop}
  {before after : Config (@Request.Answer SuperStream) World (Result × Option GoError)}

theorem reachable_respects (reachable : (environment Accepts).Reachable
      (SuperStreamReconciler.reconcile stream.objectMeta.key) (World.fresh stream) before) :
    Valid stream.objectMeta.key before.world ∧
      ∀ trace request next, before.activity = some (trace, .call request next) →
        Respects stream.objectMeta.key before.world trace request :=
  reachable_safe (valid_fresh stream) (valid_stable _) (reconcile_respects _) reachable

theorem reachable_keepsLength (reachable : (environment permitted).Reachable
      (SuperStreamReconciler.reconcile stream.objectMeta.key) (World.fresh stream) before) :
    Versioned before.world ∧
      ∀ trace request next, before.activity = some (trace, .call request next) →
        KeepsLength before.world trace request :=
  reachable_safe (valid_fresh stream).versioned versioned_stable (reconcile_keepsLength _) reachable

/-- A run with accepted updates extends the spec and appends partitions. -/
theorem grows_of_steps (reachable : (environment Accepts).Reachable
      (SuperStreamReconciler.reconcile stream.objectMeta.key) (World.fresh stream) before)
    (steps : Relation.ReflTransGen ((environment Accepts).Step
      (SuperStreamReconciler.reconcile stream.objectMeta.key)) before after) :
    Grows before.world after.world := by
  refine (environment Accepts).steps_respect Grows
    (fun config => (environment Accepts).Reachable
      (SuperStreamReconciler.reconcile stream.objectMeta.key) (World.fresh stream) config)
    Grows.refl Grows.trans ?_ ?_ steps
    fun config later => Relation.ReflTransGen.trans reachable later
  · intro world next activity _ move
    exact foreign_grows move
  · intro world trace request next reply final here answered
    obtain ⟨valid, respects⟩ := reachable_respects here
    exact (valid.answers (respects trace request next rfl) answered).2

/-- A run with any updates does not shorten the recorded list of partitions. -/
theorem noLonger_of_steps (reachable : (environment permitted).Reachable
      (SuperStreamReconciler.reconcile stream.objectMeta.key) (World.fresh stream) before)
    (steps : Relation.ReflTransGen ((environment permitted).Step
      (SuperStreamReconciler.reconcile stream.objectMeta.key)) before after) :
    NoLonger before.world.stream.status.partitions after.world.stream.status.partitions := by
  refine (environment permitted).steps_respect
    (fun world next => NoLonger world.stream.status.partitions next.stream.status.partitions)
    (fun config => (environment permitted).Reachable
      (SuperStreamReconciler.reconcile stream.objectMeta.key) (World.fresh stream) config)
    (fun _ => Nat.le_refl _) (noLonger_trans _ _ _) ?_ ?_ steps
    fun config later => Relation.ReflTransGen.trans reachable later
  · intro world next activity _ move
    cases move with
    | update stream allowed named status => exact Nat.le_of_eq (by rw [← status]; rfl)
    | touch => exact Nat.le_refl _
  · intro world trace request next reply final here answered
    exact (reachable_keepsLength here).2 trace request next rfl |>.answers answered

/-- In every run with updates that the webhook accepts, partitions keep what they
are, recorded partitions are only appended, and a status that is written after the
builder loop lists exactly the partition queues there are. With any updates, the
recorded list of partitions never gets shorter. -/
theorem stable_partitions (stream : SuperStream) :
    (∀ before after : Config (@Request.Answer SuperStream) World (Result × Option GoError),
      (environment Accepts).Reachable (SuperStreamReconciler.reconcile stream.objectMeta.key)
        (World.fresh stream) before →
      Relation.ReflTransGen ((environment Accepts).Step
        (SuperStreamReconciler.reconcile stream.objectMeta.key)) before after →
      PartitionsKept stream.objectMeta.key before.world after.world ∧
        ∀ trace written next read names,
          before.activity = some (trace, .call (.updateStatus written) next) →
          LoopEnded stream.objectMeta.key trace read names →
          written.status.partitions = names ∧ Lists stream.objectMeta.key before.world names) ∧
    ∀ permitted,
      ∀ before after : Config (@Request.Answer SuperStream) World (Result × Option GoError),
      (environment permitted).Reachable (SuperStreamReconciler.reconcile stream.objectMeta.key)
        (World.fresh stream) before →
      Relation.ReflTransGen ((environment permitted).Step
        (SuperStreamReconciler.reconcile stream.objectMeta.key)) before after →
      before.world.stream.status.partitions.length ≤
        after.world.stream.status.partitions.length := by
  refine ⟨fun before after reachable steps => ?_, fun permitted before after => noLonger_of_steps⟩
  obtain ⟨valid, respects⟩ := reachable_respects reachable
  obtain ⟨validAfter, -⟩ := reachable_respects (Relation.ReflTransGen.trans reachable steps)
  refine ⟨valid.kept validAfter (grows_of_steps reachable steps), ?_⟩
  intro trace written next read names running ended
  exact (respects trace _ next running).2 read names ended

end Runs

section Example

/-- A super stream with two partitions. -/
def ordersStream : SuperStream where
  objectMeta := { name := "orders", ns := "shop", uid := 1, resourceVersion := 1 }
  spec := {
    name := "orders"
    vhost := "/"
    partitions := 2
    routingKeys := ["eu", "us"]
    rabbitmqClusterReference := { name := "rabbit" } }

/-- The operator has created the children of the super stream and is about to record
its partitions. -/
theorem ordersStream_created :
    ∃ config : Config (@Request.Answer SuperStream) World (Result × Option GoError),
      ∃ trace written next,
      (environment Accepts).Reachable (SuperStreamReconciler.reconcile ⟨"shop", "orders"⟩)
        (World.fresh ordersStream) config ∧
      config.activity = some (trace, .call (.updateStatus written) next) ∧
      LoopEnded ⟨"shop", "orders"⟩ trace ordersStream ["orders-eu", "orders-us"] := by
  have started : (environment Accepts).Reachable
      (SuperStreamReconciler.reconcile ⟨"shop", "orders"⟩) (World.fresh ordersStream) _ :=
    .tail .refl .start
  have untouched : Untouched (environment Accepts) (World.fresh ordersStream) _ ["eu", "us"] :=
    untouched_fresh { objectMeta := { name := "rabbit", ns := "shop" } } rfl rfl rfl
  obtain ⟨loop, after, looped, ended, -, -⟩ :=
    exists_looped (fertile_environment Accepts) untouched ⟨"shop", "orders"⟩
  have final := ended []
  rw [List.append_nil] at final
  exact ⟨_, _, _, _, looped.reachable started, rfl, final⟩

/-- In that run the status lists the two queues that were created. -/
theorem ordersStream_recorded :
    ∃ config : Config (@Request.Answer SuperStream) World (Result × Option GoError),
      ∃ trace written next,
      config.activity = some (trace, .call (.updateStatus written) next) ∧
      written.status.partitions = ["orders-eu", "orders-us"] ∧
      Lists ⟨"shop", "orders"⟩ config.world ["orders-eu", "orders-us"] := by
  obtain ⟨config, trace, written, next, reachable, running, ended⟩ := ordersStream_created
  obtain ⟨-, recorded⟩ := (stable_partitions ordersStream).1 config config reachable .refl
  obtain ⟨partitions, lists⟩ := recorded trace written next ordersStream _ running ended
  exact ⟨config, trace, written, next, running, partitions, lists⟩

end Example

end TopologyOperator.SuperStreamServer
