import TopologyOperator.Controller.Children
import TopologyOperator.Dialogue.History

/-!
# Super streams whose children are created

A reconcile of a super stream without children creates all of them and records them in
the status. `Fertile` is what an environment has to answer for such a run, `exists_looped`
the run until all children are there, and `exists_reconciled` the run until it returns.
-/

namespace TopologyOperator.SuperStreamServer

open Dialogue Program Environment SuperStreamReconciler

/-- An environment in which children that are not there can be created, and a status can
be stored. -/
structure Fertile (env : Environment (@Request.Answer SuperStream) World) : Prop where
  reads : ∀ world key, env.answers world (.get key) (.ok world.stream) world
  misses : ∀ (world : World) kind key, world.children (kind, key) = [] →
    env.answers world (.getObject kind key) (.error ⟨.notFound, ""⟩) world
  creates : ∀ (world : World) {kind : Kind} (child : Object kind),
    world.children (slot child) = [] → ∃ version, ∃ stored : Object kind,
      slot stored = slot child ∧
        env.answers world (.createObject child) (.ok version) (world.push stored)
  records : ∀ (world : World) (written : SuperStream),
    world.stream.objectMeta.resourceVersion = written.objectMeta.resourceVersion →
      ∃ version after, env.answers world (.updateStatus written) (.ok version) after ∧
        version.generation = world.stream.objectMeta.generation ∧
        after.stream = stamp { world.stream with status := written.status } version
  ticks : ∀ world, env.answers world .now 7 world

/-- Nothing in the event is in the way of a builder loop. -/
def Unhindered (owner : ObjectMeta) (event : Event (@Request.Answer SuperStream)) : Prop :=
  ¬ Hinders owner event.request event.answer ∧
    ∀ place, conflicts place event.request event.answer = false

variable {env : Environment (@Request.Answer SuperStream) World} {world : World}

/-- A first attempt that succeeds is not repeated. -/
theorem retryOnConflict_answered {σ : Type}
    {attempt : σ → Prog SuperStream (σ × Except GoError Unit)} {state result : σ}
    {trace : Trace SuperStream} {after : World}
    (answered : env.Answered (attempt state) world trace (.done (result, .ok ())) after)
    (retries : Nat) : env.Answered (retryOnConflict attempt retries state) world trace
      (.done (result, .ok ())) after := by
  cases retries with
  | zero => exact answered
  | succ retries =>
      exact answered.bind_done rfl

section Children

variable (builder : Builder)

/-- A child that is not there is created. -/
theorem createChild_created (fertile : Fertile env) {resource : ResourceBuilder}
    (vacant : world.children (slot (builder.build resource)) = []) :
    ∃ trace child, ∃ stored : Object resource.kind,
      env.Answered (createChild builder resource) world trace (.done (child, .ok ()))
        (world.push stored) ∧
      slot stored = slot (builder.build resource) ∧
      ∀ event ∈ trace, Unhindered builder.objectOwner event := by
  obtain ⟨mutated, updated⟩ := exists_update_build builder resource
  have named : slot mutated = slot (builder.build resource) :=
    congrArg (Prod.mk resource.kind) (update_eq_ok updated).1
  obtain ⟨version, stored, kept, created⟩ := fertile.creates world mutated (named ▸ vacant)
  have attempt : env.Answered (createOrUpdate (objectClient resource.kind)
      (builder.update resource) (builder.build resource)) world
      [⟨.getObject resource.kind (builder.build resource).objectMeta.key, .error ⟨.notFound, ""⟩⟩,
        ⟨.createObject mutated, .ok version⟩]
      (.done (mutated.withVersion version, .ok ())) (world.push stored) := by
    simp only [createOrUpdate, updated]
    exact .call (fertile.misses world _ _ vacant) (.call created (.refl ..))
  refine ⟨_, _, stored, retryOnConflict_answered attempt defaultRetry, kept.trans named, ?_⟩
  simp [Unhindered, Hinders, conflicts]

/-- Children that are not there are created one after the other. -/
theorem createChildren_created (fertile : Fertile env) {routingKeys : List String}
    {resources : List ResourceBuilder} (distinct : resources.Nodup)
    (listed : ∀ resource ∈ resources, resource ∈ builders routingKeys)
    (vacant : ∀ resource ∈ resources, world.children (slot (builder.build resource)) = [])
    (collected : List String) :
    ∃ trace names after,
      env.Answered (createChildren builder resources collected) world trace (.done (.ok names))
        after ∧
      after.stream = world.stream ∧ ∀ event ∈ trace, Unhindered builder.objectOwner event := by
  induction resources generalizing world collected with
  | nil => exact ⟨[], collected, world, .refl .., rfl, List.forall_mem_nil _⟩
  | cons resource rest ih =>
      obtain ⟨apart, distinct⟩ := List.nodup_cons.mp distinct
      obtain ⟨here, listedRest⟩ := List.forall_mem_cons.mp listed
      obtain ⟨free, vacantRest⟩ := List.forall_mem_cons.mp vacant
      obtain ⟨first, child, stored, created, kept, smooth⟩ :=
        createChild_created builder fertile free
      -- The new child is in no other child's slot.
      have remaining : ∀ other ∈ rest,
          (world.push stored).children (slot (builder.build other)) = [] := by
        intro other member
        by_contra occupied
        rcases push_ne_nil.mp occupied with same | before
        · cases builders_eq_of_slot here (listedRest other member) (kept.symm.trans same)
          exact apart member
        · exact before (vacantRest other member)
      obtain ⟨later, names, after, others, same, smoothRest⟩ :=
        ih distinct listedRest remaining (collected ++ partitionNames resource child)
      exact ⟨first ++ later, names, after, created.bind others, same,
        List.forall_mem_append.mpr ⟨smooth, smoothRest⟩⟩

end Children

section Status

/-- A status can be stored that was computed from the super stream as it is stored. -/
theorem storeStatus_answered (fertile : Fertile env) (written : SuperStream)
    (current : world.stream.objectMeta.resourceVersion = written.objectMeta.resourceVersion)
    (owner : ObjectMeta) :
    ∃ trace version after,
      env.Answered (storeStatus written) world trace (.done (stamp written version)) after ∧
      version.generation = world.stream.objectMeta.generation ∧
      after.stream = stamp { world.stream with status := written.status } version ∧
      ∀ event ∈ trace, Unhindered owner event := by
  obtain ⟨version, after, answered, generation, stored⟩ := fertile.records world written current
  have attempt : env.Answered (SuperStreamReconciler.updateStatus written) world
      [⟨.updateStatus written, .ok version⟩] (.done (stamp written version, .ok ())) after :=
    .call answered (.refl ..)
  refine ⟨_, version, after, (retryOnConflict_answered attempt defaultRetry).bind_done rfl,
    generation, stored, ?_⟩
  simp [Unhindered, Hinders, conflicts]

theorem ready_answered (fertile : Fertile env) (world : World) (conditions : List Condition)
    (owner : ObjectMeta) :
    ∃ trace condition,
      env.Answered (ready conditions : Prog SuperStream Condition) world trace (.done condition)
        world ∧
      ∀ event ∈ trace, Unhindered owner event := by
  unfold ready transitionTime
  split
  · exact ⟨[], _, .refl .., List.forall_mem_nil _⟩
  · refine ⟨_, _, .call (fertile.ticks world) (.refl ..), ?_⟩
    simp [Unhindered, Hinders, conflicts]

/-- What follows the builder loop of a reconcile. -/
def conclusion (read : SuperStream) (names : List String) :
    Prog SuperStream (Result × Option GoError) := do
  let superStream ← storeStatus { read with status := { read.status with partitions := names } }
  let condition ← ready superStream.status.conditions
  setReconcileSuccess superStream condition
  return ({}, none)

/-- The partitions and the generation are recorded. -/
theorem conclusion_answered (fertile : Fertile env) {read : SuperStream} (names : List String)
    (same : world.stream = read) :
    ∃ trace after,
      env.Answered (conclusion read names) world trace (.done ({}, none)) after ∧
      Identified read after.stream ∧ after.stream.status.partitions = names ∧
      after.stream.status.observedGeneration = read.objectMeta.generation ∧
      ∀ event ∈ trace, Unhindered read.objectMeta event := by
  subst same
  obtain ⟨storing, version, middle, stores, generation, left, smoothStoring⟩ :=
    storeStatus_answered fertile { world.stream with status :=
      { world.stream.status with partitions := names } } rfl world.stream.objectMeta
  obtain ⟨timing, condition, times, smoothTiming⟩ :=
    ready_answered fertile middle world.stream.status.conditions world.stream.objectMeta
  obtain ⟨finishing, _, after, finishes, -, final, smoothFinishing⟩ :=
    storeStatus_answered fertile (stamp { world.stream with status := { world.stream.status with
      partitions := names
      conditions := [condition]
      observedGeneration := version.generation } } version)
      (congrArg (fun stream => stream.objectMeta.resourceVersion) left) world.stream.objectMeta
  have succeeds : env.Answered (setReconcileSuccess (stamp { world.stream with status :=
      { world.stream.status with partitions := names } } version) condition) middle finishing
      (.done ()) after := finishes.bind_done rfl
  refine ⟨storing ++ (timing ++ finishing), after,
    stores.bind (times.bind (succeeds.bind_done rfl)), ?_, ?_, ?_, ?_⟩
  · rw [final, left]
    exact ⟨rfl, rfl, rfl, rfl⟩
  · rw [final]
    rfl
  · rw [final]
    exact generation
  · exact List.forall_mem_append.mpr ⟨smoothStoring,
      List.forall_mem_append.mpr ⟨smoothTiming, smoothFinishing⟩⟩

end Status

section Reconcile

variable {key : NamespacedName} {routingKeys : List String} {resolving : Trace SuperStream}
  {rmqClusterRef : RabbitmqClusterReference}

/-- The reference to the cluster is resolved with the given answers, there are routing keys
to work with, and there are no children yet. -/
structure Untouched (env : Environment (@Request.Answer SuperStream) World) (world : World)
    (resolving : Trace SuperStream) (routingKeys : List String) : Prop where
  resolves : ∃ rmqClusterRef,
    (resolution world.stream).Exec resolving (.done (.ok rmqClusterRef))
  looks : ∀ event ∈ resolving, env.answers world event.request event.answer world
  keyed : keysFor world.stream = some routingKeys
  childless : ∀ place, world.children place = []

/-- The names of the partitions. -/
abbrev partitionsOf (read : SuperStream) (routingKeys : List String) : List String :=
  routingKeys.map (routingKeyToPartitionName read.objectMeta.name)

/-- The reconcile creates the children. -/
theorem exists_looped (fertile : Fertile env)
    (untouched : Untouched env world resolving routingKeys) (key : NamespacedName) :
    ∃ loop after,
      env.Answered (reconcile key) world (⟨.get key, .ok world.stream⟩ :: (resolving ++ loop))
        (conclusion world.stream (partitionsOf world.stream routingKeys)) after ∧
      (∀ rest, LoopEnded key (⟨.get key, .ok world.stream⟩ :: (resolving ++ (loop ++ rest)))
        world.stream (partitionsOf world.stream routingKeys)) ∧
      after.stream = world.stream ∧
      ∀ event ∈ loop, Unhindered world.stream.objectMeta event := by
  obtain ⟨⟨rmqClusterRef, resolves⟩, looks, keyed, childless⟩ := untouched
  obtain ⟨loop, names, after, looped, same, smooth⟩ := createChildren_created
    ⟨world.stream.objectMeta, world.stream.spec.vhost, rmqClusterRef⟩ fertile
    (nodup_builders routingKeys) (fun _ => id) (fun _ _ => childless _) []
  have collects : (builderLoop world.stream rmqClusterRef routingKeys).Exec loop
      (.done (.ok names)) := looped.exec
  obtain rfl := builderLoop_exec collects
  have resolved : env.Answered (resolution world.stream) world resolving _ world :=
    .of_exec resolves looks
  refine ⟨loop, after, .call (fertile.reads world key) (resolved.bind ?_),
    fun rest => ⟨resolving, loop, rest, _, _, rfl, resolves, keyed, collects⟩, same, smooth⟩
  have concludes : env.Answered (reconcileChildren world.stream rmqClusterRef routingKeys) world
      (loop ++ []) (conclusion world.stream (partitionsOf world.stream routingKeys)) after :=
    looped.bind (.refl ..)
  rw [List.append_nil] at concludes
  obtain ⟨grows, ⟨generated, rfl⟩ | ⟨given, length, rfl⟩⟩ := keysFor_cases keyed
  · simpa only [if_neg grows, if_pos generated] using concludes
  · simpa only [if_neg grows, if_neg given, if_neg (not_not.mpr length)] using concludes

/-- A reconcile that has created the children and recorded them. -/
structure Reconciled (env : Environment (@Request.Answer SuperStream) World)
    (key : NamespacedName) (world : World) (names : List String)
    (resolving rest : Trace SuperStream) (after : World) : Prop where
  answered : env.Answered (reconcile key) world
    (⟨.get key, .ok world.stream⟩ :: (resolving ++ rest)) (.done ({}, none)) after
  ended : LoopEnded key (⟨.get key, .ok world.stream⟩ :: (resolving ++ rest)) world.stream names
  same : Identified world.stream after.stream
  partitions : after.stream.status.partitions = names
  observed : after.stream.status.observedGeneration = world.stream.objectMeta.generation
  smooth : ∀ event ∈ rest, Unhindered world.stream.objectMeta event

/-- The reconcile creates the children, records them and returns. -/
theorem exists_reconciled (fertile : Fertile env)
    (untouched : Untouched env world resolving routingKeys) (key : NamespacedName) :
    ∃ rest after,
      Reconciled env key world (partitionsOf world.stream routingKeys) resolving rest after := by
  obtain ⟨loop, middle, looped, ended, same, smooth⟩ := exists_looped fertile untouched key
  obtain ⟨rest, after, concludes, identified, partitions, observed, smoothRest⟩ :=
    conclusion_answered fertile (partitionsOf world.stream routingKeys) same
  have answered := looped.trans concludes
  rw [List.cons_append, List.append_assoc] at answered
  exact ⟨loop ++ rest, after, answered, ended rest, identified, partitions, observed,
    List.forall_mem_append.mpr ⟨smooth, smoothRest⟩⟩

/-- A super stream that was just created is untouched. -/
theorem untouched_fresh {stream : SuperStream} (cluster : RabbitmqCluster)
    (keyed : keysFor (World.fresh stream).stream = some routingKeys)
    (allowed : allowedNamespace stream.spec.rabbitmqClusterReference stream.objectMeta.ns cluster =
      true)
    (found : env.answers (.fresh stream) (.getRabbitmqCluster
      ⟨stream.spec.rabbitmqClusterReference.connectionSecretNamespace stream.objectMeta.ns,
        stream.spec.rabbitmqClusterReference.name⟩) (.ok cluster) (.fresh stream)) :
    Untouched env (.fresh stream) [⟨.getRabbitmqCluster
      ⟨stream.spec.rabbitmqClusterReference.connectionSecretNamespace stream.objectMeta.ns,
        stream.spec.rabbitmqClusterReference.name⟩, .ok cluster⟩] routingKeys where
  resolves := ⟨_, resolution_exec allowed⟩
  looks := List.forall_mem_singleton.mpr found
  keyed := keyed
  childless _ := rfl

end Reconcile

/-- The API server answers so. -/
theorem fertile_environment (permitted : SuperStream → SuperStream → Prop) :
    Fertile (environment permitted) where
  reads _ _ := ⟨rfl, fun _ same => Except.ok.inj same⟩
  misses _ _ _ _ := ⟨rfl, fun _ found => by cases found⟩
  creates _ _ child vacant := ⟨⟨1, 1⟩, child.withVersion ⟨1, 1⟩, rfl, vacant, rfl⟩
  records world _ current := ⟨⟨world.nextVersion, world.stream.objectMeta.generation⟩, _,
    ⟨current, .inl ⟨rfl, rfl⟩⟩, rfl, rfl⟩
  ticks _ := rfl

end TopologyOperator.SuperStreamServer
