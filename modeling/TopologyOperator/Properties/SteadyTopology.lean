import TopologyOperator.Properties.RestingChildren

/-!
# Reconciling a steady super stream

After a successful reconcile nobody touches a super stream or its children, and it is
reconciled again. The exchange and the queues are left alone, but every binding is
updated: its arguments are written with a blank that the API server does not store. So
nothing is written exactly if there is no binding.
-/

namespace TopologyOperator.SuperStreamServer

open Dialogue Environment ApiServer Program SuperStreamReconciler Encoding

variable {clusters : NamespacedName → Option RabbitmqCluster} {key : NamespacedName}
  {before world after : World} {read : SuperStream} {trace : Trace SuperStream}
  {routingKeys : List String} {result : Result × Option GoError}

section Opening

/-- The cluster that a super stream refers to exists and admits its namespace. -/
def Admits (clusters : NamespacedName → Option RabbitmqCluster) (stream : SuperStream) : Prop :=
  ∃ cluster, clusters ⟨stream.spec.rabbitmqClusterReference.connectionSecretNamespace
      stream.objectMeta.ns, stream.spec.rabbitmqClusterReference.name⟩ = some cluster ∧
    allowedNamespace stream.spec.rabbitmqClusterReference stream.objectMeta.ns cluster = true

/-- Whether the cluster admits a super stream is decided by its spec and its namespace. -/
theorem Admits.identified {stream other : SuperStream} (admits : Admits clusters stream)
    (same : Identified stream other) : Admits clusters other := by
  unfold Admits
  rw [same.spec, same.ns]
  exact admits

/-- The reference is resolved exactly if the cluster admits the super stream. -/
theorem resolution_along {resolved : Except GoError RabbitmqClusterReference}
    (resolves : (resolution read).Exec trace (.done resolved))
    (along : (steady clusters).Along trace world after) :
    after = world ∧ ((∃ reference, resolved = .ok reference) ↔ Admits clusters read) := by
  obtain ⟨reply, rest, rfl, ends⟩ := resolves
  obtain ⟨_, ⟨rfl, found, missing⟩, later⟩ := along
  cases reply with
  | error err =>
      obtain ⟨rfl, stops⟩ := ends
      cases stops
      refine ⟨later, iff_of_false (fun ⟨_, absurd⟩ => by cases absurd) ?_⟩
      rintro ⟨cluster, present, -⟩
      rw [missing err rfl] at present
      cases present
  | ok cluster =>
      simp only [done_bind] at ends
      split at ends
      · next allowed =>
          obtain ⟨rfl, stops⟩ := ends
          cases stops
          exact ⟨later, iff_of_true ⟨_, rfl⟩ ⟨cluster, found cluster rfl, allowed⟩⟩
      · next refused =>
          obtain ⟨rfl, stops⟩ := ends
          cases stops
          refine ⟨later, iff_of_false (fun ⟨_, absurd⟩ => by cases absurd) ?_⟩
          rintro ⟨other, present, allowed⟩
          cases present.symm.trans (found cluster rfl)
          exact refused allowed

theorem steady_read (key : NamespacedName) (world : World) :
    (steady clusters).answers world (.get key) (.ok world.stream) world :=
  ⟨rfl, fun _ same => (Except.ok.inj same).symm, fun _ same => by cases same⟩

theorem steady_cluster {cluster : RabbitmqCluster} (present : clusters key = some cluster) :
    (steady clusters).answers world (.getRabbitmqCluster key) (.ok cluster) world :=
  ⟨rfl, fun _ same => by cases same; exact present, fun _ same => by cases same⟩

/-- A super stream that is admitted is resolved without a write. -/
theorem Admits.exists_resolution (admits : Admits clusters read) (world : World) :
    ∃ trace, (resolution read).Exec trace (.done (.ok (referenceOf read))) ∧
      (steady clusters).Along trace world world := by
  obtain ⟨cluster, present, allowed⟩ := admits
  exact ⟨_, resolution_exec allowed, world, steady_cluster present, rfl⟩

end Opening

section Stream

variable {required : SuperStream → Prop}

/-- A super stream that is written as required is stored as required, and no child is
touched on the way. -/
theorem restates_along
    (updates : ∀ held written version, required held → required written →
      required (stamp { written with status := held.status } version))
    (statuses : ∀ held written version, required held → required written →
      required (stamp { held with status := written.status } version))
    (restates : ∀ event ∈ trace, Restates required event.request)
    (along : (steady clusters).Along trace world after) (holds : required world.stream) :
    required after.stream ∧ after.children = world.children := by
  apply along.invariant (fun now => required now.stream ∧ now.children = world.children) _
    ⟨holds, rfl⟩
  · rintro ⟨request, answer⟩ member now next ⟨holds, same⟩ answered
    obtain ⟨aside, written⟩ := restates _ member
    cases request with
    | getObject | createObject | updateObject => exact absurd trivial aside
    | update stream =>
        rcases Writes.cases answered with rfl | ⟨version, -, -, -, rfl⟩
        · exact ⟨holds, same⟩
        · exact ⟨updates _ _ version holds (written stream (.inl rfl)), same⟩
    | updateStatus stream =>
        rcases Writes.cases answered with rfl | ⟨version, -, ⟨-, rfl⟩ | ⟨-, -, rfl⟩⟩
        · exact ⟨holds, same⟩
        · exact ⟨statuses _ _ version holds (written stream (.inr rfl)), same⟩
        · exact ⟨holds, same⟩
    | get | getRabbitmqCluster =>
        obtain ⟨rfl, -⟩ := answered
        exact ⟨holds, same⟩
    | _ =>
        cases answered
        exact ⟨holds, same⟩

/-- Parts that are not about children leave the super stream its identity, and the children
as they are. -/
theorem identified_along (restates : ∀ event ∈ trace, Restates (Identified read) event.request)
    (along : (steady clusters).Along trace world after) (same : Identified read world.stream) :
    Identified read after.stream ∧ after.children = world.children :=
  restates_along (fun _ _ _ _ written => ⟨written.name, written.ns, written.uid, written.spec⟩)
    (fun _ _ _ held _ => ⟨held.name, held.ns, held.uid, held.spec⟩) restates along same

/-- If they also keep the partitions, so does the stored super stream. -/
theorem restated_along (restates : ∀ event ∈ trace, Restates (Restated read) event.request)
    (along : (steady clusters).Along trace world after) (same : Restated read world.stream) :
    Restated read after.stream ∧ after.children = world.children :=
  restates_along
    (fun _ _ _ held written => ⟨⟨written.name, written.ns, written.uid, written.spec⟩,
      held.partitions⟩)
    (fun _ _ _ held written => ⟨⟨held.name, held.ns, held.uid, held.spec⟩, written.partitions⟩)
    restates along same

/-- Conditions do not decide on the routing keys. -/
theorem Restated.keysFor {stream other : SuperStream} (same : Restated stream other) :
    SuperStreamServer.keysFor other = SuperStreamServer.keysFor stream := by
  unfold SuperStreamServer.keysFor generateRoutingKeys
  rw [same.spec, same.partitions]

end Stream

section First

/-- The super stream and its children are as a successful reconcile leaves them. -/
structure AtRest (clusters : NamespacedName → Option RabbitmqCluster) (world : World) : Prop where
  compact : CompactlyStored world
  rests : Admits clusters world.stream → ∀ routingKeys, keysFor world.stream = some routingKeys →
    ∀ resource ∈ builders routingKeys,
      RestsIn (builderOf world.stream (referenceOf world.stream)) resource world

/-- Without a builder loop a successful reconcile leaves a super stream that has none. -/
theorem Skips.atRest (skips : Skips key trace (.done result)) (succeeded : result.2 = none)
    (compact : CompactlyStored before) (along : (steady clusters).Along trace before world) :
    AtRest clusters world := by
  cases skips with
  | unread err =>
      obtain ⟨_, ⟨-, -, present⟩, -⟩ := along
      have found : (GoError.api err).isNotFound = false :=
        Bool.eq_false_iff.mpr fun notFound => present err rfl (isNotFound_api.mp notFound)
      simp [GoError.ignoreNotFound, found] at succeeded
  | unresolved read err resolves restates =>
      obtain ⟨_, ⟨rfl, found, -⟩, later⟩ := along
      obtain ⟨_, resolving, handling⟩ := along_append.mp later
      obtain ⟨rfl, admitted⟩ := resolution_along resolves resolving
      cases found read rfl
      obtain ⟨same, children⟩ := restated_along restates handling (.refl _)
      refine ⟨fun place => by rw [children]; exact compact place, fun admits => ?_⟩
      obtain ⟨_, absurd⟩ := admitted.mpr (admits.identified same.toIdentified.symm)
      cases absurd
  | unkeyed read rmqClusterRef resolves unkeyed restates =>
      obtain ⟨_, ⟨rfl, found, -⟩, later⟩ := along
      obtain ⟨_, resolving, refusing⟩ := along_append.mp later
      obtain ⟨rfl, -⟩ := resolution_along resolves resolving
      cases found read rfl
      obtain ⟨same, children⟩ := restated_along restates refusing (.refl _)
      refine ⟨fun place => by rw [children]; exact compact place, fun _ routingKeys keyed => ?_⟩
      rw [same.keysFor, unkeyed] at keyed
      cases keyed

/-- What rests for a builder rests for one of the same super stream. -/
theorem RestsIn.identified {stream other : SuperStream} {resource : ResourceBuilder}
    (rests : RestsIn (builderOf stream (referenceOf stream)) resource world)
    (same : Identified stream other) :
    RestsIn (builderOf other (referenceOf other)) resource world := by
  obtain ⟨child, earlier, resting, stored⟩ := rests
  refine ⟨child, earlier, resting.congr same.name same.ns same.uid ?_ ?_, stored⟩
  · exact congrArg SuperStreamSpec.vhost same.spec
  · rw [builderOf, builderOf, referenceOf, referenceOf, same.spec, same.ns]

/-- The routing keys are taken from the spec. -/
theorem routingKeysOf_identified {stream other : SuperStream} (same : Identified stream other) :
    routingKeysOf other = routingKeysOf stream := by
  rw [routingKeysOf, routingKeysOf, same.spec]

/-- A builder loop that ends leaves its children at rest. -/
theorem Loops.atRest {opening loop rest : Trace SuperStream}
    {rmqClusterRef : RabbitmqClusterReference}
    {ended : Outcome (Except (ResourceBuilder × GoError) (List String))}
    (looped : Loops key trace (.done result) read opening loop rest rmqClusterRef routingKeys ended)
    (succeeded : result.2 = none) (compact : CompactlyStored before)
    (along : (steady clusters).Along trace before world) : AtRest clusters world := by
  obtain ⟨rfl, ⟨resolved, rfl, resolves⟩, keyed, exec, restates, returned⟩ := looped
  obtain ⟨names, rfl⟩ := returned result rfl succeeded
  obtain ⟨_, ⟨_, ⟨rfl, found, -⟩, resolving⟩, later⟩ := along_append.mp along
  obtain ⟨rfl, -⟩ := resolution_along resolves resolving
  obtain ⟨middle, looping, concluding⟩ := along_append.mp later
  cases found read rfl
  have step := createChildren_step (fun _ => id) compact exec looping
  have here : Identified _ middle.stream := ⟨by rw [step.stream], by rw [step.stream],
    by rw [step.stream], by rw [step.stream]⟩
  obtain ⟨same, children⟩ := identified_along restates concluding here
  refine ⟨fun place => by rw [children]; exact step.compact place, fun _ keys keyedNow => ?_⟩
  obtain rfl : keys = routingKeys := by
    rw [(keysFor_eq keyedNow).1, (keysFor_eq keyed).1, routingKeysOf_identified same]
  intro resource member
  obtain ⟨child, earlier, resting, stored⟩ := step.rests names rfl resource member
  rw [resolution_eq resolves] at resting
  rw [← children] at stored
  exact RestsIn.identified ⟨child, earlier, resting, stored⟩ same

/-- A successful reconcile leaves the super stream at rest. -/
theorem atRest_of_success (compact : CompactlyStored before) (succeeded : result.2 = none)
    (answered : (steady clusters).Answered (reconcile key) before trace (.done result) world) :
    AtRest clusters world := by
  obtain ⟨exec, along⟩ := answered_iff.mp answered
  rcases skips_or_loops exec with skips | ⟨read, opening, loop, rest, rmqClusterRef, routingKeys,
    ended, looped⟩
  · exact skips.atRest succeeded compact along
  · exact looped.atRest succeeded compact along

end First

section Second

/-- At rest, a reconcile writes no child but bindings, which it updates. -/
theorem AtRest.writes (atRest : AtRest clusters world)
    (answered : (steady clusters).Answered (reconcile key) world trace (.done result) after)
    {event : Event (@Request.Answer SuperStream)} (member : event ∈ trace)
    (written : slotOf event.request ≠ none) :
    Admits clusters world.stream ∧ ∃ routingKeys, keysFor world.stream = some routingKeys ∧
      ∃ resource ∈ builders routingKeys, Binds resource ∧
        ∃ child : Object resource.kind, event.request = .updateObject child := by
  obtain ⟨exec, along⟩ := answered_iff.mp answered
  have near : ¬ Aside event.request := by
    intro aside
    obtain ⟨request, answer⟩ := event
    cases request with
    | createObject | updateObject => exact aside trivial
    | _ => exact written rfl
  rcases skips_or_loops exec with skips | ⟨read, opening, loop, rest, rmqClusterRef, routingKeys,
    ended, looped⟩
  · exact absurd (skips.aside event member) near
  have inLoop := looped.mem_loop member near
  obtain ⟨rfl, ⟨resolved, rfl, resolves⟩, keyed, looping, -, -⟩ := looped
  obtain ⟨_, ⟨_, ⟨rfl, found, -⟩, resolving⟩, later⟩ := along_append.mp along
  obtain ⟨rfl, admitted⟩ := resolution_along resolves resolving
  obtain ⟨middle, alongLoop, -⟩ := along_append.mp later
  cases found read rfl
  have admits := admitted.mp ⟨_, rfl⟩
  obtain ⟨ended, rfl⟩ := returns_iff.mp (createChildren_returns ..) _ _ looping
  have step := createChildren_step (fun _ => id) atRest.compact looping alongLoop
  have resting := atRest.rests admits routingKeys keyed
  rw [← resolution_eq resolves] at resting
  exact ⟨admits, routingKeys, keyed, step.writes resting event inLoop written⟩

/-- After the builder loop only the status is written, at a time that is asked for. -/
def Concluding : Request SuperStream → Prop
  | .updateStatus _ | .now => True
  | _ => False

/-- Such a program can run without changing the world. -/
theorem exists_refused {α : Type} {program : Prog SuperStream α} (calls : program.Calls Concluding)
    (returns : program.Returns) (clusters : NamespacedName → Option RabbitmqCluster)
    (world : World) : ∃ rest value, program.Exec rest (.done value) ∧
      (steady clusters).Along rest world world := by
  obtain ⟨rest, exec, refused⟩ := exists_exec_outcome Request.refusal program
  obtain ⟨value, ended⟩ := returns_iff.mp returns _ _ exec
  rw [ended] at exec
  refine ⟨rest, value, exec, (answered_iff.mp (Answered.of_exec exec ?_)).2⟩
  rintro ⟨request, answer⟩ member
  have concluding := calls.of_exec exec _ member
  cases request with
  | updateStatus =>
      cases refused _ member
      exact .inl rfl
  | now => rfl
  | _ => exact concluding.elim

/-- Storing the status is all that a conclusion does, and it returns. -/
theorem storeStatus_concluding (superStream : SuperStream) :
    (storeStatus superStream).Calls Concluding ∧ (storeStatus superStream).Returns := by
  have attempts : ∀ state : SuperStream, True →
      (SuperStreamReconciler.updateStatus state).Calls Concluding := by
    intro state _
    refine calls_ask_bind trivial fun answer => ?_
    split <;> trivial
  have returns : ∀ state : SuperStream, (SuperStreamReconciler.updateStatus state).Returns := by
    intro state
    refine returns_ask_bind fun answer => ?_
    split <;> trivial
  exact ⟨(retryOnConflict_calls attempts (fun _ _ _ _ _ => trivial) _ _ trivial).bind
    fun _ => trivial, (returns_retryOnConflict returns ..).bind fun _ => trivial⟩

/-- A reconcile goes on from its builder loop even if it cannot write the status. -/
theorem exists_reconcileChildren {superStream : SuperStream}
    {rmqClusterRef : RabbitmqClusterReference} {names : List String} {loop : Trace SuperStream}
    (looped : (builderLoop superStream rmqClusterRef routingKeys).Exec loop (.done (.ok names)))
    (clusters : NamespacedName → Option RabbitmqCluster) (world : World) :
    ∃ rest returned, (reconcileChildren superStream rmqClusterRef routingKeys).Exec (loop ++ rest)
      (.done returned) ∧ (steady clusters).Along rest world world := by
  have concludes := fun stream => storeStatus_concluding stream
  have ready : ∀ conditions, (ready conditions : Prog SuperStream Condition).Returns :=
    fun conditions => (returns_transitionTime ..).bind fun _ => trivial
  have success : ∀ stream condition, (setReconcileSuccess stream condition).Calls Concluding ∧
      (setReconcileSuccess stream condition).Returns := fun stream condition =>
    ⟨(concludes _).1.bind fun _ => trivial, (concludes _).2.bind fun _ => trivial⟩
  obtain ⟨storing, stored, stores, alongFirst⟩ := exists_refused (concludes _).1 (concludes
    { superStream with status := { superStream.status with partitions := names } }).2 clusters world
  obtain ⟨timing, condition, times, alongSecond⟩ := exists_refused (ready_calls trivial _)
    (ready stored.status.conditions) clusters world
  obtain ⟨finishing, finished, finishes, alongThird⟩ := exists_refused
    (success stored condition).1 (success stored condition).2 clusters world
  refine ⟨storing ++ (timing ++ (finishing ++ [])), ({}, none), ?_, ?_⟩
  · exact exec_bind_done.mpr ⟨.ok names, loop, _, rfl, looped, exec_bind_done.mpr
      ⟨stored, storing, _, rfl, stores, exec_bind_done.mpr ⟨condition, timing, _, rfl, times,
        exec_bind_done.mpr ⟨finished, finishing, [], rfl, finishes, rfl, rfl⟩⟩⟩⟩
  · exact along_append.mpr ⟨world, alongFirst, along_append.mpr ⟨world, alongSecond,
      along_append.mpr ⟨world, alongThird, rfl⟩⟩⟩

/-- A reconcile resolves the reference, and works on the children if it has routing keys. -/
theorem exec_reconcile {resolved rest : Trace SuperStream}
    {rmqClusterRef : RabbitmqClusterReference}
    (resolves : (resolution read).Exec resolved (.done (.ok rmqClusterRef)))
    (keyed : keysFor read = some routingKeys)
    (works : (reconcileChildren read rmqClusterRef routingKeys).Exec rest (.done result))
    (key : NamespacedName) :
    (reconcile key).Exec (⟨.get key, .ok read⟩ :: (resolved ++ rest)) (.done result) := by
  refine ⟨.ok read, _, rfl, ?_⟩
  change ((resolution read).bind _).Exec _ _
  refine exec_bind_done.mpr ⟨.ok rmqClusterRef, resolved, rest, rfl, resolves, ?_⟩
  obtain ⟨grows, ⟨generated, rfl⟩ | ⟨given, length, rfl⟩⟩ := keysFor_cases keyed
  · simpa only [if_neg grows, if_pos generated] using works
  · simpa only [if_neg grows, if_neg given, if_neg (not_not.mpr length)] using works

/-- At rest, a super stream with a partition can be reconciled such that a child is
written. -/
theorem AtRest.exists_write (atRest : AtRest clusters world) (admits : Admits clusters world.stream)
    {routingKey : String} (keyed : keysFor world.stream = some (routingKey :: routingKeys))
    (key : NamespacedName) :
    ∃ later returned after,
      (steady clusters).Answered (reconcile key) world later (.done returned) after ∧
      ∃ event ∈ later, slotOf event.request ≠ none := by
  obtain ⟨loop, names, after, looped, alongLoop, writes⟩ := exists_createChildren clusters []
    (fun _ => id) atRest.compact (atRest.rests admits _ keyed)
  obtain ⟨rest, returned, works, alongRest⟩ := exists_reconcileChildren looped clusters after
  obtain ⟨resolved, resolves, alongResolved⟩ := admits.exists_resolution world
  have bound : ResourceBuilder.superStreamBinding 0 routingKey ∈
      builders (routingKey :: routingKeys) :=
    mem_builders.mpr (.inr ⟨0, routingKey, rfl, .inr rfl⟩)
  obtain ⟨event, member, written⟩ := writes _ bound trivial
  refine ⟨_, returned, after, answered_iff.mpr ⟨exec_reconcile resolves keyed works key, ?_⟩,
    event, ?_, written⟩
  · exact ⟨world, steady_read .., along_append.mpr ⟨world, alongResolved,
      along_append.mpr ⟨after, alongLoop, alongRest⟩⟩⟩
  · exact List.mem_cons_of_mem _ (List.mem_append_right _ (List.mem_append_left _ member))

/-- After a successful reconcile, no reconcile writes to the children exactly if the
super stream has no partition, or is not reconciled at all. -/
theorem steady_superStream_iff (clusters : NamespacedName → Option RabbitmqCluster)
    (key : NamespacedName) (before world : World) (trace : Trace SuperStream)
    (result : Result × Option GoError) (compact : CompactlyStored before)
    (first : (steady clusters).Answered (reconcile key) before trace (.done result) world)
    (succeeded : result.2 = none) :
    (∀ later returned after,
      (steady clusters).Answered (reconcile key) world later (.done returned) after →
      ∀ event ∈ later, slotOf event.request = none) ↔
    ¬ (Admits clusters world.stream ∧
      ∃ routingKey rest, keysFor world.stream = some (routingKey :: rest)) := by
  have atRest := atRest_of_success compact succeeded first
  constructor
  · rintro silent ⟨admits, routingKey, rest, keyed⟩
    obtain ⟨later, returned, after, second, event, member, written⟩ :=
      atRest.exists_write admits keyed key
    exact written (silent later returned after second event member)
  · intro idle later returned after second event member
    by_contra written
    obtain ⟨admits, routingKeys, keyed, resource, built, binds, -⟩ :=
      atRest.writes second member written
    rcases mem_builders.mp built with rfl | ⟨index, routingKey, found, -⟩
    · exact binds
    · cases routingKeys with
      | nil => cases found
      | cons first rest => exact idle ⟨admits, first, rest, keyed⟩

end Second

section Example

/-- A cluster in the namespace of every super stream. -/
def shopClusters : NamespacedName → Option RabbitmqCluster :=
  fun _ => some { objectMeta := { name := "rabbit", ns := "shop" } }

theorem compactlyStored_fresh (stream : SuperStream) : CompactlyStored (World.fresh stream) :=
  fun _ _ none => by cases none

/-- The API server lets children be created while nobody else writes. -/
theorem fertile_steady (clusters : NamespacedName → Option RabbitmqCluster) :
    Fertile (steady clusters) where
  reads world key := steady_read key world
  misses _ _ _ vacant := ⟨rfl, fun _ found => (by cases found), fun _ _ _ => vacant⟩
  creates _ _ child vacant := ⟨⟨1, 1⟩, (asStored child).withVersion ⟨1, 1⟩, rfl, vacant, rfl⟩
  records world written current := (fertile_environment Accepts).records world written current
  ticks _ := rfl

/-- A super stream that was just created is reconciled. -/
theorem exists_steady_exit {stream : SuperStream}
    (keyed : keysFor (World.fresh stream).stream = some routingKeys)
    (admits : Admits clusters stream) (key : NamespacedName) :
    ∃ trace world,
      (steady clusters).Answered (reconcile key) (World.fresh stream) trace (.done ({}, none))
        world ∧
      Identified stream world.stream ∧
      world.stream.status.partitions = partitionsOf stream routingKeys := by
  obtain ⟨cluster, present, allowed⟩ := admits
  obtain ⟨rest, world, reconciled⟩ := exists_reconciled (fertile_steady clusters)
    (untouched_fresh cluster keyed allowed (steady_cluster present)) key
  obtain ⟨name, ns, uid, spec⟩ := reconciled.same
  exact ⟨_, world, reconciled.answered, ⟨name, ns, uid, spec⟩, reconciled.partitions⟩

/-- The super stream with no partition. -/
def noRegionsStream : SuperStream :=
  { regionsStream with spec := { regionsStream.spec with partitions := 0, routingKeys := [] } }

/-- A super stream with no partition gets its exchange, and then nothing is written. -/
theorem noRegionsStream_silent :
    ∃ trace result world,
      (steady shopClusters).Answered (reconcile ⟨"shop", "regions"⟩) (World.fresh noRegionsStream)
        trace (.done result) world ∧
      result.2 = none ∧
      ∀ later returned after,
        (steady shopClusters).Answered (reconcile ⟨"shop", "regions"⟩) world later
          (.done returned) after →
        ∀ event ∈ later, slotOf event.request = none := by
  have admits : Admits shopClusters noRegionsStream := ⟨_, rfl, rfl⟩
  obtain ⟨trace, world, answered, same, partitions⟩ :=
    exists_steady_exit rfl admits ⟨"shop", "regions"⟩
  refine ⟨trace, _, world, answered, rfl, (steady_superStream_iff _ _ _ _ _ _
    (compactlyStored_fresh _) answered rfl).mpr ?_⟩
  rintro ⟨-, routingKey, rest, keyed⟩
  rw [keysFor, generateRoutingKeys, same.spec, partitions] at keyed
  cases keyed

/-- A binding of a super stream with two partitions is updated by a reconcile that
directly follows a successful one. -/
theorem regionsStream_rewritten :
    ∃ trace result world,
      (steady shopClusters).Answered (reconcile ⟨"shop", "regions"⟩) (World.fresh regionsStream)
        trace (.done result) world ∧
      result.2 = none ∧
      ∃ later returned after,
        (steady shopClusters).Answered (reconcile ⟨"shop", "regions"⟩) world later
          (.done returned) after ∧
        ∃ event ∈ later, ∃ binding : Object .binding, event.request = .updateObject binding := by
  have admits : Admits shopClusters regionsStream := ⟨_, rfl, rfl⟩
  obtain ⟨trace, world, answered, same, partitions⟩ :=
    exists_steady_exit rfl admits ⟨"shop", "regions"⟩
  have atRest := atRest_of_success (compactlyStored_fresh _) rfl answered
  have keyed : keysFor world.stream = some ["eu-west", "us-east"] := by
    rw [keysFor, same.spec, partitions]
    rfl
  refine ⟨trace, _, world, answered, rfl, ?_⟩
  obtain ⟨later, returned, after, second, event, member, written⟩ :=
    atRest.exists_write (admits.identified same) keyed ⟨"shop", "regions"⟩
  refine ⟨later, returned, after, second, event, member, ?_⟩
  obtain ⟨-, routingKeys, -, resource, -, binds, child, updated⟩ :=
    atRest.writes second member written
  cases resource with
  | superStreamExchange | superStreamPartition => exact binds.elim
  | superStreamBinding => exact ⟨child, updated⟩

end Example

end TopologyOperator.SuperStreamServer
