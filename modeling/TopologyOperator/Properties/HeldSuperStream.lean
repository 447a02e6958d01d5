import TopologyOperator.Properties.StreamRounds

/-!
# Super streams that the broker holds

Once all children of a super stream are up to date, the broker holds its exchange, its
partitions and the bindings that lead to them. One reconcile of each child brings this
about, in any order and whatever happened before, if nobody disturbs it.
-/

namespace TopologyOperator.StreamTopology.Layout

open Dialogue Program SuperStreamReconciler SharedBroker

open SuperStreamServer (nodup_builders routingKeysOf)

section Content

variable {libraries : Libraries}

/-- An exchange is declared durable if its spec says so. -/
theorem exchange_content {exchange : Object .exchange} {issued : BrokerCall} {vhost name : String}
    (names : Deployment.Designates libraries (.exchange vhost name) exchange)
    (prescribes : Prescribes libraries exchange issued) :
    ∃ settings, issued = .declareExchange vhost name settings ∧
      settings.durable = exchange.spec.durable := by
  obtain ⟨settings, generated, rfl⟩ := prescribes
  obtain ⟨rfl, rfl⟩ := Entity.exchange.inj (Option.some.inj names)
  unfold generateExchangeSettings at generated
  split at generated <;> cases generated
  exact ⟨_, rfl, rfl⟩

/-- A queue is declared durable and with its type, as its spec says. -/
theorem queue_content {queue : Object .queue} {issued : BrokerCall} {vhost name : String}
    (names : Deployment.Designates libraries (.queue vhost name) queue)
    (prescribes : Prescribes libraries queue issued) :
    ∃ settings, issued = .declareQueue vhost name settings ∧
      settings.durable = queue.spec.durable.getD false ∧ settings.type = queue.spec.type := by
  obtain ⟨settings, generated, rfl⟩ := prescribes
  obtain ⟨rfl, rfl⟩ := Entity.queue.inj (Option.some.inj names)
  unfold generateQueueSettings at generated
  split at generated <;> cases generated
  exact ⟨_, rfl, rfl, rfl⟩

/-- A binding is declared with the arguments that its spec decodes to. -/
theorem binding_content {binding : Object .binding} {issued : BrokerCall}
    {vhost source destination destinationType routingKey : String} {arguments : Arguments}
    (names : Deployment.Designates libraries
      (.binding vhost source destination destinationType routingKey arguments) binding)
    (prescribes : Prescribes libraries binding issued) :
    issued = .declareBinding vhost
      { vhost, source, destination, destinationType, routingKey, arguments } := by
  obtain ⟨info, generated, rfl⟩ := prescribes
  unfold generateBindingInfo at generated
  split at generated <;> cases generated
  next decoded =>
    simp only [Deployment.Designates, Object.target, decoded, bindingEntity] at names
    cases names
    rfl

end Content

section Held

variable (layout : Layout) (store : BrokerStore.Store)

def ExchangeHeld : Prop :=
  ∃ settings, store (.exchange layout.stream.spec.vhost layout.stream.objectMeta.name) =
      some (.declareExchange layout.stream.spec.vhost layout.stream.objectMeta.name settings) ∧
    settings.durable = true

def PartitionHeld (routingKey : String) : Prop :=
  ∃ settings, store (.queue layout.stream.spec.vhost
      (routingKeyToPartitionName layout.stream.objectMeta.name routingKey)) =
      some (.declareQueue layout.stream.spec.vhost
        (routingKeyToPartitionName layout.stream.objectMeta.name routingKey) settings) ∧
    settings.durable = true ∧ settings.type = "stream"

/-- The binding that leads to a partition. -/
def partitionBinding (index : Nat) (routingKey : String) : BindingInfo where
  vhost := layout.stream.spec.vhost
  source := layout.stream.objectMeta.name
  destination := routingKeyToPartitionName layout.stream.objectMeta.name routingKey
  destinationType := "queue"
  routingKey := routingKey
  arguments := orderArguments index

def BindingHeld (index : Nat) (routingKey : String) : Prop :=
  store (.binding layout.stream.spec.vhost layout.stream.objectMeta.name
    (routingKeyToPartitionName layout.stream.objectMeta.name routingKey) "queue" routingKey
    (orderArguments index)) =
    some (.declareBinding layout.stream.spec.vhost (layout.partitionBinding index routingKey))

/-- What the broker holds for a super stream: a durable exchange, for each routing key a
durable stream, and a binding from the one to the other with the order of the partition. -/
structure Held : Prop where
  exchange : layout.ExchangeHeld store
  partition : ∀ routingKey ∈ routingKeysOf layout.stream, layout.PartitionHeld store routingKey
  binding : ∀ (index : Nat) (routingKey : String),
    (routingKeysOf layout.stream)[index]? = some routingKey →
      layout.BindingHeld store index routingKey

/-- All children are stored, with their generations observed. -/
def UpToDate (world : layout.fleet.World) : Prop :=
  ∀ i, Observed (world.servers i)

variable {layout store} {r : TopologyReconciler}
  {config : System.Config layout.Answer (fun _ => Result × Option GoError) layout.fleet.World}

/-- Once the children are up to date, the broker holds the exchange. -/
theorem exchange_held (reachable : (layout.system r).Reachable ⟨fun _ => .empty, store⟩ config)
    (upToDate : layout.UpToDate config.world) : layout.ExchangeHeld config.world.store := by
  obtain ⟨object, stored, observed⟩ := upToDate
    ⟨.superStreamExchange, SuperStreamServer.mem_builders.mpr (.inl rfl)⟩
  obtain ⟨admitted, issued, held, prescribes⟩ := child_held reachable _ stored observed
  obtain ⟨settings, rfl, durable⟩ := exchange_content admitted.placed.names prescribes
  exact ⟨settings, held, durable.trans admitted.solid⟩

/-- It holds a partition for each routing key. -/
theorem partition_held (reachable : (layout.system r).Reachable ⟨fun _ => .empty, store⟩ config)
    (upToDate : layout.UpToDate config.world) {routingKey : String}
    (listed : routingKey ∈ routingKeysOf layout.stream) :
    layout.PartitionHeld config.world.store routingKey := by
  obtain ⟨index, found⟩ := List.mem_iff_getElem?.mp listed
  obtain ⟨object, stored, observed⟩ := upToDate ⟨.superStreamPartition index routingKey,
    SuperStreamServer.mem_builders.mpr (.inr ⟨index, routingKey, found, .inl rfl⟩)⟩
  obtain ⟨admitted, issued, held, prescribes⟩ := child_held reachable _ stored observed
  obtain ⟨settings, rfl, durable, type⟩ := queue_content admitted.placed.names prescribes
  refine ⟨settings, held, ?_, type.trans admitted.solid.2⟩
  rw [durable, admitted.solid.1]
  rfl

/-- It holds the binding that leads to each partition. -/
theorem binding_held (reachable : (layout.system r).Reachable ⟨fun _ => .empty, store⟩ config)
    (upToDate : layout.UpToDate config.world) {index : Nat} {routingKey : String}
    (found : (routingKeysOf layout.stream)[index]? = some routingKey) :
    layout.BindingHeld config.world.store index routingKey := by
  obtain ⟨object, stored, observed⟩ := upToDate ⟨.superStreamBinding index routingKey,
    SuperStreamServer.mem_builders.mpr (.inr ⟨index, routingKey, found, .inr rfl⟩)⟩
  obtain ⟨admitted, issued, held, prescribes⟩ := child_held reachable _ stored observed
  cases binding_content admitted.placed.names prescribes
  exact held

/-- The children that are up to date make up the super stream. -/
theorem held_of_upToDate (reachable : (layout.system r).Reachable ⟨fun _ => .empty, store⟩ config)
    (upToDate : layout.UpToDate config.world) : layout.Held config.world.store where
  exchange := exchange_held reachable upToDate
  partition _ listed := partition_held reachable upToDate listed
  binding _ _ found := binding_held reachable upToDate found

end Held

section Example

/-- A super stream of two partitions. -/
def ordersStream : SuperStream where
  objectMeta := { name := "orders", ns := "shop" }
  spec := {
    vhost := "/"
    partitions := 2
    routingKeys := ["eu", "us"]
    rabbitmqClusterReference := { name := "rabbit" } }

def orders : Layout where
  stream := ordersStream
  distinct := by decide
  bounded := by decide

/-- A cluster that tells where it is reached. -/
def rabbitCluster : RabbitmqCluster where
  objectMeta := { name := "rabbit", ns := "shop", annotations := [(uriAnnotationKey, "http://r")] }
  serviceReference := some ⟨"rabbit"⟩
  binding := some ⟨"rabbit-default-user"⟩

def clusterSurroundings : Surroundings where
  cluster _ := some rabbitCluster
  runs _ _ found := by cases found; decide
  secret _ _ := some { objectMeta := { name := "rabbit-default-user", ns := "shop" }, data := [] }
  service _ := none
  user _ := none
  credentials _ := none

/-- The operator of the example. -/
abbrev plainOperator : TopologyReconciler := ⟨.verbatim, "", false⟩

theorem orders_same : SameStream orders.stream ordersStream := ⟨rfl, rfl⟩

/-- The super stream of the example can be reconciled in its cluster. -/
theorem orders_valid : Valid clusterSurroundings ordersStream where
  unscaled := by decide
  sized := .inr rfl
  allowed := ⟨rabbitCluster, rfl, rfl⟩

/-- Its children reach the broker of that cluster. -/
theorem orders_connects : clusterSurroundings.Connects plainOperator
    (SuperStreamServer.referenceOf orders.stream) orders.stream.objectMeta.ns :=
  .byName rabbitCluster ⟨"rabbit"⟩ rfl rfl rfl rfl ⟨_, _, rfl, rfl⟩ ⟨_, rfl⟩

/-- All children of a super stream. -/
def every (layout : Layout) : List layout.Child := (builders (routingKeysOf layout.stream)).attach

/-- No child is listed twice. -/
theorem nodup_every (layout : Layout) : layout.every.Nodup :=
  List.nodup_attach.mpr (nodup_builders _)

theorem mem_every (layout : Layout) (i : layout.Child) : i ∈ layout.every := List.mem_attach ..

/-- The reconcile of the super stream has created the children. -/
theorem orders_prepared : ∃ world,
    (orders.system plainOperator).Reachable ⟨fun _ => .empty, fun _ => none⟩
      ⟨world, fun _ => none⟩ ∧
    ∀ i, Prepared clusterSurroundings plainOperator (world.servers i) := by
  have fresh : (orders.system plainOperator).Reachable ⟨fun _ => .empty, fun _ => none⟩
      ⟨⟨fun _ => .empty, fun _ => none⟩, fun _ => none⟩ := .refl
  obtain ⟨_, world, -, prepared, reachable⟩ := (superStream_prepares fresh rfl orders_same
    orders_valid orders_connects fun _ => .inl rfl).exists_returned
  exact ⟨world, reachable, prepared⟩

/-- Then the children were reconciled. -/
theorem orders_upToDate : ∃ world,
    (orders.system plainOperator).Reachable ⟨fun _ => .empty, fun _ => none⟩
      ⟨world, fun _ => none⟩ ∧ orders.UpToDate world := by
  obtain ⟨world, reachable, prepared⟩ := orders_prepared
  obtain ⟨now, reached, observed, -⟩ := (rounds_settle reachable (fun _ => rfl)
    orders.nodup_every fun i _ => prepared i).exists_returned
  exact ⟨now, reached, fun i => observed i (orders.mem_every i)⟩

end Example

section Results

/-- In every interleaving of the reconciles of a super stream and of its children with one
another, with users and with other clients of the broker: if all children are up to date,
the broker holds the super stream, with all its partitions in their order. -/
theorem superStream_held (layout : Layout) (r : TopologyReconciler) (store : BrokerStore.Store)
    {config : System.Config layout.Answer (fun _ => Result × Option GoError) layout.fleet.World}
    (reachable : (layout.system r).Reachable ⟨fun _ => .empty, store⟩ config)
    (upToDate : layout.UpToDate config.world) : layout.Held config.world.store :=
  held_of_upToDate reachable upToDate

/-- The broker comes to hold the super stream of the example. -/
theorem orders_held : ∃ world, orders.UpToDate world ∧ orders.Held world.store := by
  obtain ⟨world, reachable, upToDate⟩ := orders_upToDate
  exact ⟨world, upToDate, superStream_held orders plainOperator (fun _ => none) reachable upToDate⟩

/-- From every state of such an interleaving in which the children are stored and at rest:
if they can be declared, one undisturbed reconcile of each, in any order, ends without an
error, and then the broker holds the super stream. -/
theorem superStream_completes (layout : Layout) (r : TopologyReconciler) (around : Surroundings)
    (store : BrokerStore.Store)
    {config : System.Config layout.Answer (fun _ => Result × Option GoError) layout.fleet.World}
    (reachable : (layout.system r).Reachable ⟨fun _ => .empty, store⟩ config)
    (idle : ∀ i, config.activities (some i) = none)
    (prepared : ∀ i, Prepared around r (config.world.servers i))
    (order : List layout.Child) (once : order.Nodup) (all : ∀ i, i ∈ order) :
    layout.Rounds r around order (fun now => layout.Held now.store) config.world := by
  refine (rounds_settle reachable idle once fun i _ => prepared i).weaken ?_
  rintro now ⟨reached, observed, -⟩
  exact held_of_upToDate reached fun i => observed i (all i)

/-- A state in which one round for each child of the example is enough. -/
theorem orders_complete : ∃ world,
    (∀ i, Prepared clusterSurroundings plainOperator (world.servers i)) ∧
    orders.Rounds plainOperator clusterSurroundings orders.every
      (fun now => orders.Held now.store) world := by
  obtain ⟨world, reachable, prepared⟩ := orders_prepared
  exact ⟨world, prepared, superStream_completes orders plainOperator clusterSurroundings
    (fun _ => none) reachable (fun _ => rfl) prepared _ orders.nodup_every orders.mem_every⟩

/-- From every state in which the super stream and its children rest, and each child is
either not there or as the super stream specifies it: one undisturbed reconcile of the
super stream creates the children that it lacks, and one of each child after that, in any
order, brings the super stream to the broker. -/
theorem superStream_converges (layout : Layout) (r : TopologyReconciler) (around : Surroundings)
    (store : BrokerStore.Store) (read : SuperStream)
    {config : System.Config layout.Answer (fun _ => Result × Option GoError) layout.fleet.World}
    (reachable : (layout.system r).Reachable ⟨fun _ => .empty, store⟩ config)
    (idle : ∀ i, config.activities i = none)
    (fits : ∀ i, Fits around r read i (config.world.servers i))
    (same : SameStream layout.stream read) (valid : Valid around read)
    (connects : around.Connects r (SuperStreamServer.referenceOf layout.stream)
      layout.stream.objectMeta.ns)
    (order : List layout.Child) (once : order.Nodup) (all : ∀ i, i ∈ order) :
    (layout.undisturbed around read).Settles
      (fun result now => result = ({}, none) ∧
        layout.Rounds r around order (fun final => layout.Held final.store) now)
      (reconcile layout.stream.objectMeta.key) config.world := by
  refine (superStream_prepares reachable (idle none) same valid connects fits).weaken ?_
  rintro _ now ⟨rfl, prepared, reached⟩
  refine ⟨rfl, (rounds_settle reached (fun i => idle (some i)) once
    fun i _ => prepared i).weaken ?_⟩
  rintro final ⟨ended, observed, -⟩
  exact held_of_upToDate ended fun i => observed i (all i)

/-- From an empty cluster, one reconcile of the super stream and one of each child are
enough. -/
theorem orders_converge :
    (orders.undisturbed clusterSurroundings ordersStream).Settles
      (fun result now => result = ({}, none) ∧ orders.Rounds plainOperator clusterSurroundings
        orders.every (fun final => orders.Held final.store) now)
      (reconcile ⟨"shop", "orders"⟩) ⟨fun _ => .empty, fun _ => none⟩ :=
  superStream_converges orders plainOperator clusterSurroundings (fun _ => none) ordersStream .refl
    (fun _ => rfl) (fun _ => .inl rfl) orders_same orders_valid orders_connects _ orders.nodup_every
    orders.mem_every

end Results

end TopologyOperator.StreamTopology.Layout
