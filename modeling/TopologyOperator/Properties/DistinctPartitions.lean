import Mathlib.Data.List.Nodup
import TopologyOperator.Properties.BuiltTopology

/-!
# Distinct partitions

Neither the webhook nor the reconciler compares the routing keys of a super stream with
each other. Generated keys are distinct; keys of the spec that are not lead to several
`Queue` objects for one queue of the broker, and to a status that lists it several
times.
-/

namespace TopologyOperator.SuperStreamServer

open Dialogue Environment SuperStreamReconciler SuperStreamCustomValidator

variable {stream read : SuperStream} {world : World} {names routingKeys : List String}

/-- The queue of the broker that a `Queue` object manages. -/
def brokerQueue (queue : Object .queue) : RabbitmqClusterReference × String × String :=
  (queue.spec.rabbitmqClusterReference, queue.spec.vhost, queue.spec.name)

/-- The listed partitions are pairwise distinct, and no two `Queue` objects of the super
stream manage the same queue of the broker. -/
def PartitionsDistinct (stream : SuperStream) (names : List String) (world : World) : Prop :=
  names.Nodup ∧ ∀ first second, first < names.length → second < names.length →
    ∀ queue queues other others,
      world.children (.queue, partitionKey stream.objectMeta.key first) = queue :: queues →
      world.children (.queue, partitionKey stream.objectMeta.key second) = other :: others →
      brokerQueue queue = brokerQueue other → first = second

theorem routingKeyToPartitionName_injective (parentObjectName : String) :
    Function.Injective (routingKeyToPartitionName parentObjectName) := by
  intro first second same
  exact String.append_right_inj _ |>.mp same

/-- Generated keys are distinct. -/
theorem nodup_routingKeysOf : (routingKeysOf stream).Nodup ↔ stream.spec.routingKeys.Nodup := by
  by_cases generated : stream.spec.routingKeys = []
  · rw [routingKeysOf, if_pos generated, generated]
    exact iff_of_true ((List.nodup_map_iff toString_injective).mpr List.nodup_range)
      List.nodup_nil
  · rw [routingKeysOf, if_neg generated]

/-- The queue of an index is named after the routing key of the index. -/
theorem Topology.queue_name {index : Nat} {queue : Object .queue} {queues : List (Object .queue)}
    (topology : Topology stream world) (within : index < (routingKeysOf stream).length)
    (stored : world.children (.queue, partitionKey stream.objectMeta.key index) =
      queue :: queues) :
    queue.spec.name =
      routingKeyToPartitionName stream.objectMeta.name (routingKeysOf stream)[index] := by
  obtain ⟨_, _, _, _, partitions⟩ := topology
  obtain ⟨held, _, _, _, found, _, partitionFor, _⟩ :=
    partitions index _ (List.getElem?_eq_getElem within)
  cases found.symm.trans stored
  exact partitionFor.name

theorem partitionsDistinct_of_topology (topology : Topology stream world)
    (named : names = (routingKeysOf stream).map
      (routingKeyToPartitionName stream.objectMeta.name)) :
    PartitionsDistinct stream names world ↔ stream.spec.routingKeys.Nodup := by
  have injective := routingKeyToPartitionName_injective stream.objectMeta.name
  have listed : names.Nodup ↔ (routingKeysOf stream).Nodup := by
    rw [named, List.nodup_map_iff injective]
  have length : names.length = (routingKeysOf stream).length := by rw [named, List.length_map]
  rw [← nodup_routingKeysOf, ← listed]
  constructor
  · intro distinct
    exact distinct.1
  · intro nodup
    refine ⟨nodup, ?_⟩
    intro first second firstWithin secondWithin queue queues other others found there same
    rw [length] at firstWithin secondWithin
    have names : queue.spec.name = other.spec.name :=
      congrArg (fun managed => managed.2.2) same
    rw [topology.queue_name firstWithin found, topology.queue_name secondWithin there] at names
    exact (listed.mp nodup).getElem_inj_iff.mp (injective names)

/-- When a reconcile of a super stream succeeds, its partitions are distinct exactly if
the routing keys of its spec are. -/
theorem partitions_distinct_iff (permitted : SuperStream → SuperStream → Prop)
    (key : NamespacedName) (initial : World)
    (config : Config (@Request.Answer SuperStream) World (Result × Option GoError))
    (trace : Trace SuperStream) (result : Result × Option GoError) (read : SuperStream)
    (names : List String)
    (reachable : (attentive permitted).Reachable (reconcile key) initial config)
    (returned : config.activity = some (trace, .done result))
    (ended : LoopEnded key trace read names) :
    PartitionsDistinct read names config.world ↔ read.spec.routingKeys.Nodup := by
  obtain ⟨rmqClusterRef, routingKeys, resolved, keyed, resolves, named, stands⟩ :=
    stands_of_exit reachable returned ended
  obtain ⟨rfl, -⟩ := keysFor_eq keyed
  cases resolution_eq resolves
  exact partitionsDistinct_of_topology (topology_of_stands stands) named

section Example

/-- With two different routing keys the partitions are distinct. -/
theorem regionsStream_distinct :
    ∃ config : Config (@Request.Answer SuperStream) World (Result × Option GoError),
      PartitionsDistinct regionsStream ["regions-eu-west", "regions-us-east"] config.world := by
  have allowed : allowedNamespace regionsStream.spec.rabbitmqClusterReference "shop"
      regionsCluster = true := rfl
  obtain ⟨config, trace, result, reachable, returned, ended, -⟩ :=
    exists_exit rfl allowed ⟨"shop", "regions"⟩
  have distinct : regionsStream.spec.routingKeys.Nodup := by decide
  exact ⟨config, (partitions_distinct_iff Accepts ⟨"shop", "regions"⟩ (World.fresh regionsStream)
    config trace result regionsStream _ reachable returned ended).mpr distinct⟩

/-- A super stream with the same routing key twice. -/
def twinStream : SuperStream where
  objectMeta := { name := "twin", ns := "shop", uid := 1, resourceVersion := 1 }
  spec := {
    name := "twin"
    vhost := "/"
    partitions := 2
    routingKeys := ["eu", "eu"]
    rabbitmqClusterReference := { name := "rabbit" } }

/-- The webhook admits the super stream, a reconcile of it succeeds, and lists one queue
twice. -/
theorem twinStream_shares_queue :
    SuperStreamCustomValidator.validateCreate twinStream = .ok () ∧
    ∃ config : Config (@Request.Answer SuperStream) World (Result × Option GoError),
      ∃ trace result names,
      (attentive Accepts).Reachable (reconcile ⟨"shop", "twin"⟩) (World.fresh twinStream) config ∧
      config.activity = some (trace, .done result) ∧
      LoopEnded ⟨"shop", "twin"⟩ trace twinStream names ∧
      config.world.stream.status.partitions = names ∧ ¬ names.Nodup := by
  have allowed : allowedNamespace twinStream.spec.rabbitmqClusterReference "shop"
      regionsCluster = true := rfl
  obtain ⟨config, trace, result, reachable, returned, ended, recorded⟩ :=
    exists_exit rfl allowed ⟨"shop", "twin"⟩
  exact ⟨rfl, config, trace, result, _, reachable, returned, ended, recorded, by decide⟩

end Example

end TopologyOperator.SuperStreamServer
