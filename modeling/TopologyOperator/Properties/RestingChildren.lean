import TopologyOperator.Client.Resolution
import TopologyOperator.Dialogue.History
import TopologyOperator.Encoding.Compaction
import TopologyOperator.Properties.BuiltTopology

/-!
# A super stream that nobody else touches

An API server with one client, the super stream reconciler. Children are read as they
are stored, and JSON is stored in its compact form. Which clusters there are is fixed.
Writes may fail, whether they were applied or not. `Rests` is the state in which a
builder loop leaves a child: the next `Update` changes its arguments at most.
-/

namespace TopologyOperator.SuperStreamServer

open Dialogue Environment ApiServer Program SuperStreamReconciler Encoding

section Storage

/-- Raw JSON in the API server. -/
def compacted (extension : RawExtension) : RawExtension := ⟨Json.compact extension.raw⟩

/-- The spec of a child in the API server; children are exchanges, queues and bindings. -/
def storedSpec : {kind : Kind} → Spec kind → Spec kind
  | .exchange, spec => { spec with arguments := spec.arguments.map compacted }
  | .queue, spec => { spec with arguments := spec.arguments.map compacted }
  | .binding, spec => { spec with arguments := spec.arguments.map compacted }
  | .federation, spec | .operatorPolicy, spec | .permission, spec | .policy, spec
  | .schemaReplication, spec | .shovel, spec | .topicPermission, spec | .user, spec
  | .vhost, spec => spec

/-- The child that the API server stores if this one is written. -/
def asStored {kind : Kind} (child : Object kind) : Object kind :=
  { child with spec := storedSpec child.spec }

variable {kind : Kind}

/-- What is stored in compact form is read back as it is. -/
theorem compacted_compacted (extension : RawExtension) :
    compacted (compacted extension) = compacted extension :=
  congrArg RawExtension.mk (Json.compact_compact _)

/-- A spec that was stored is stored unchanged. -/
theorem storedSpec_storedSpec (spec : Spec kind) :
    storedSpec (storedSpec spec) = storedSpec spec := by
  have again : compacted ∘ compacted = compacted := funext compacted_compacted
  cases kind <;> simp [storedSpec, again]

end Storage

/-- How the requests of the operator are answered. Reads are answered by what there is,
though a child may not be readable. -/
def SteadyAnswers (clusters : NamespacedName → Option RabbitmqCluster) (world : World) :
    (request : Request SuperStream) → request.Answer → World → Prop
  | .get _, reply, after => after = world ∧ (∀ stream, reply = .ok stream → stream = world.stream) ∧
      ∀ err, reply = .error err → err.reason ≠ .notFound
  | .getRabbitmqCluster key, reply, after => after = world ∧
      (∀ cluster, reply = .ok cluster → clusters key = some cluster) ∧
      ∀ err, reply = .error err → clusters key = none
  | .getObject kind key, reply, after => after = world ∧
      (∀ child, reply = .ok child → child.objectMeta.key = key ∧
        (world.children (kind, key)).head? = some child) ∧
      ∀ err, reply = .error err → err.reason = .notFound → world.children (kind, key) = []
  | .createObject child, reply, after => Answers world (.createObject (asStored child)) reply after
  | .updateObject child, reply, after => Answers world (.updateObject (asStored child)) reply after
  | request, reply, after => Answers world request reply after

/-- The API server while nobody else writes. -/
def steady (clusters : NamespacedName → Option RabbitmqCluster) :
    Environment (@Request.Answer SuperStream) World where
  foreign _ _ := False
  answers := SteadyAnswers clusters

/-- All children are stored in compact form. -/
def CompactlyStored (world : World) : Prop :=
  ∀ place, ∀ child ∈ world.children place, storedSpec child.spec = child.spec

section Rests

variable {builder : Builder} {resource : ResourceBuilder} {object mutated : Object resource.kind}
  {objectMeta result : ObjectMeta} {owner : ObjectMeta}

/-- `SetControllerReference` has nothing to do. -/
structure Owned (owner objectMeta : ObjectMeta) : Prop where
  inside : ¬ Outside owner objectMeta
  controlled : getControllerOf objectMeta.ownerReferences = some (ownerReference owner)
  listed : upsertOwnerReference (ownerReference owner) objectMeta.ownerReferences =
    objectMeta.ownerReferences

theorem referSameObject_ownerReference (owner : ObjectMeta) :
    referSameObject (ownerReference owner) (ownerReference owner) = true := by
  have group : apiGroup "rabbitmq.com/v1alpha1" = some "rabbitmq.com" := by decide
  simp [referSameObject, ownerReference, controllerReference, group]

/-- An owner that is set is not added twice. -/
theorem upsertOwnerReference_again {reference : OwnerReference}
    (same : referSameObject reference reference = true) (references : List OwnerReference) :
    upsertOwnerReference reference (upsertOwnerReference reference references) =
      upsertOwnerReference reference references := by
  induction references with
  | nil => simp [upsertOwnerReference, same]
  | cons held rest ih =>
      rw [upsertOwnerReference]
      by_cases replaced : referSameObject held reference = true
      · rw [if_pos replaced, upsertOwnerReference, if_pos same]
      · rw [if_neg replaced, upsertOwnerReference, if_neg replaced, ih]

/-- After `SetControllerReference`, the next one has nothing to do. -/
theorem owned_of_set (set : setControllerReference "rabbitmq.com/v1alpha1" "SuperStream" owner
    objectMeta = .ok result) : Owned owner result := by
  have controlled := setControllerReference_controller set
  unfold setControllerReference at set
  split at set
  · cases set
  next inside =>
  have upserted : result = { objectMeta with
      ownerReferences := upsertOwnerReference (ownerReference owner)
        objectMeta.ownerReferences } := by
    split at set
    · split at set
      · exact (Except.ok.inj set).symm
      · cases set
    · exact (Except.ok.inj set).symm
  subst upserted
  exact ⟨inside, controlled, upsertOwnerReference_again (referSameObject_ownerReference owner) _⟩

/-- A child that is owned passes `SetControllerReference` unchanged. -/
theorem set_of_owned (owned : Owned owner objectMeta) :
    setControllerReference "rabbitmq.com/v1alpha1" "SuperStream" owner objectMeta =
      .ok objectMeta := by
  have inside := owned.inside
  unfold Outside at inside
  have same := referSameObject_ownerReference owner
  have listed := owned.listed
  unfold ownerReference at same listed
  rw [setControllerReference, if_neg inside, owned.controlled]
  unfold ownerReference
  simp only [same, ↓reduceIte, listed]

/-- The child is stored as the builder leaves it. -/
structure Rests (builder : Builder) (resource : ResourceBuilder) (child : Object resource.kind) :
    Prop where
  named : child.objectMeta.key = (builder.build resource).objectMeta.key
  owned : Owned builder.objectOwner child.objectMeta
  spec : storedSpec (builder.updateSpec resource child.spec) = child.spec

theorem Rests.withVersion (rests : Rests builder resource object) (version : Version) :
    Rests builder resource (object.withVersion version) :=
  ⟨rests.named, ⟨rests.owned.inside, rests.owned.controlled, rests.owned.listed⟩, rests.spec⟩

/-- Of the owner only the name, the namespace and the UID matter. -/
theorem Rests.congr {other : Builder} (rests : Rests builder resource object)
    (name : other.objectOwner.name = builder.objectOwner.name)
    (ns : other.objectOwner.ns = builder.objectOwner.ns)
    (uid : other.objectOwner.uid = builder.objectOwner.uid) (vhost : other.vhost = builder.vhost)
    (rabbitmqCluster : other.rabbitmqCluster = builder.rabbitmqCluster) :
    Rests other resource object := by
  have key : ∀ builder : Builder, (builder.build resource).objectMeta.key =
      ⟨builder.objectOwner.ns, builder.objectOwner.name ++ Builder.suffix resource⟩ := by
    intro builder
    cases resource <;> rfl
  have reference : ownerReference other.objectOwner = ownerReference builder.objectOwner := by
    rw [ownerReference, controllerReference, name, uid]
    rfl
  have spec : other.updateSpec resource object.spec = builder.updateSpec resource object.spec := by
    cases resource <;> simp only [Builder.updateSpec, name, vhost, rabbitmqCluster]
  refine ⟨?_, ⟨?_, ?_, ?_⟩, ?_⟩
  · rw [rests.named, key, key, ns, name]
  · rw [Outside, ns]
    exact rests.owned.inside
  · rw [reference, rests.owned.controlled]
  · rw [reference, rests.owned.listed]
  · rw [spec, rests.spec]

/-- What `Update` makes of a child at rest is stored as it was. -/
theorem storedSpec_updateSpec_again (spec : Spec resource.kind) :
    storedSpec (builder.updateSpec resource (storedSpec (builder.updateSpec resource spec))) =
      storedSpec (builder.updateSpec resource spec) := by
  have again : compacted ∘ compacted = compacted := funext compacted_compacted
  cases resource <;> simp [storedSpec, Builder.updateSpec, again]

/-- What `Update` leaves is stored at rest. -/
theorem rests_of_update
    (named : object.objectMeta.key = (builder.build resource).objectMeta.key)
    (updated : builder.update resource object = .ok mutated) :
    Rests builder resource (asStored mutated) := by
  obtain ⟨sameKey, spec⟩ := update_eq_ok updated
  refine ⟨sameKey.trans named, ?_, ?_⟩
  · unfold Builder.update at updated
    split at updated
    · cases updated
    · next set =>
        cases updated
        exact owned_of_set set
  · rw [asStored, spec, storedSpec_updateSpec_again]

/-- `Update` of a child at rest sets its spec at most. -/
theorem update_of_rests (rests : Rests builder resource object) :
    builder.update resource object =
      .ok { object with spec := builder.updateSpec resource object.spec } := by
  rw [Builder.update, set_of_owned rests.owned]

/-- The builder makes a binding. -/
def Binds : ResourceBuilder → Prop
  | .superStreamBinding .. => True
  | .superStreamExchange | .superStreamPartition .. => False

/-- The arguments of a binding are not in compact form. -/
theorem compacted_ne_partitionOrderArguments (extension : RawExtension) (partitionIndex : Nat) :
    compacted extension ≠ partitionOrderArguments partitionIndex := by
  have opening : "\x7b\"x-stream-partition-order\": ".toList =
      "\x7b\"x-stream-partition-order\":".toList ++ [' '] := by decide
  have blank : (Json.Scan.between.run "\x7b\"x-stream-partition-order\":".toList).drops ' ' =
      true := by decide
  intro same
  have raw : Json.compact extension.raw = (partitionOrderArguments partitionIndex).raw := by
    rw [← same, compacted]
  exact Json.compact_ne opening blank raw

/-- The builders of the exchange and of the queues set no field that storing changes. -/
theorem updateSpec_storedSpec (spec : Spec resource.kind) (plain : ¬ Binds resource) :
    builder.updateSpec resource (storedSpec (builder.updateSpec resource spec)) =
      storedSpec (builder.updateSpec resource spec) := by
  cases resource with
  | superStreamBinding => exact absurd trivial plain
  | superStreamExchange => rfl
  | superStreamPartition => rfl

/-- The next `Update` changes a child at rest exactly if it is a binding. -/
theorem updateSpec_eq_iff (rests : Rests builder resource object) :
    builder.updateSpec resource object.spec = object.spec ↔ ¬ Binds resource := by
  constructor
  · intro same binds
    have stored := rests.spec
    cases resource with
    | superStreamBinding partitionIndex routingKey =>
        have arguments := (congrArg BindingSpec.arguments stored).trans
          (congrArg BindingSpec.arguments same).symm
        exact compacted_ne_partitionOrderArguments _ partitionIndex (Option.some.inj arguments)
    | superStreamExchange | superStreamPartition => exact binds
  · intro plain
    have again : builder.updateSpec resource (storedSpec (builder.updateSpec resource
        object.spec)) = storedSpec (builder.updateSpec resource object.spec) :=
      updateSpec_storedSpec object.spec plain
    rwa [rests.spec] at again

end Rests

section Steps

variable {builder : Builder} {resource : ResourceBuilder} {object : Object resource.kind}
  {clusters : NamespacedName → Option RabbitmqCluster} {world after : World}
  {trace : Trace SuperStream} {result : Object resource.kind × Except GoError Unit}

/-- The child of the builder is stored, at rest. -/
def RestsIn (builder : Builder) (resource : ResourceBuilder) (world : World) : Prop :=
  ∃ child earlier, Rests builder resource child ∧
    world.children (resource.kind, child.objectMeta.key) = child :: earlier

/-- A child that was just stored at rest is the latest one. -/
theorem restsIn_push {child : Object resource.kind} (rests : Rests builder resource child) :
    RestsIn builder resource (world.push child) :=
  ⟨child, _, rests, Function.update_self ..⟩

/-- A child in compact form may be added. -/
theorem CompactlyStored.push {kind : Kind} {child : Object kind} (compact : CompactlyStored world)
    (stored : storedSpec child.spec = child.spec) : CompactlyStored (world.push child) := by
  intro place held member
  rcases mem_push member with earlier | ⟨rfl, rfl⟩
  · exact compact place held earlier
  · exact stored

/-- What happens to the children while one of them is created or updated. -/
structure ChildStep (builder : Builder) (resource : ResourceBuilder) (trace : Trace SuperStream)
    (world after : World) (result : Object resource.kind × Except GoError Unit) : Prop where
  named : result.1.objectMeta.key = (builder.build resource).objectMeta.key
  compact : CompactlyStored after
  stream : after.stream = world.stream
  elsewhere : ∀ place, place ≠ slot (builder.build resource) →
    after.children place = world.children place
  rests : result.2 = .ok () → RestsIn builder resource after
  kept : RestsIn builder resource world → RestsIn builder resource after
  /-- A child at rest is written only if it is a binding, and then it is updated. -/
  writes : RestsIn builder resource world → ∀ event ∈ trace, slotOf event.request ≠ none →
    Binds resource ∧ ∃ child : Object resource.kind, event.request = .updateObject child

/-- A step that reads the child and leaves it. -/
theorem ChildStep.of_read {reply : Except ApiError (Object resource.kind)} {key : NamespacedName}
    (named : result.1.objectMeta.key = (builder.build resource).objectMeta.key)
    (compact : CompactlyStored world) (rests : result.2 = .ok () → RestsIn builder resource world) :
    ChildStep builder resource [⟨.getObject resource.kind key, reply⟩] world world result where
  named := named
  compact := compact
  stream := rfl
  elsewhere _ _ := rfl
  rests := rests
  kept := id
  writes _ event member writes := by
    cases List.mem_singleton.mp member
    exact absurd rfl writes

/-- What a write of a child has stored. -/
def Wrote (made : Object resource.kind) (answer : Except ApiError Version) (world after : World) :
    Prop :=
  after = world ∧ (∀ version, answer ≠ .ok version) ∨
    ∃ version, after = world.push ((asStored made).withVersion version)

/-- A step that reads the child and writes what `Update` makes of it. -/
theorem ChildStep.of_write {made : Object resource.kind} {answer : Except ApiError Version}
    {event : Event (@Request.Answer SuperStream)} {key : NamespacedName}
    {reply : Except ApiError (Object resource.kind)}
    (named : object.objectMeta.key = (builder.build resource).objectMeta.key)
    (updated : builder.update resource object = .ok made) (compact : CompactlyStored world)
    (wrote : Wrote made answer world after)
    (writes : RestsIn builder resource world →
      Binds resource ∧ ∃ child : Object resource.kind, event.request = .updateObject child) :
    ChildStep builder resource [⟨.getObject resource.kind key, reply⟩, event] world after
      (TopologyOperator.SuperStreamServer.wrote made answer) := by
  have rests := rests_of_update named updated
  have pushed : ∀ version, RestsIn builder resource
      (world.push ((asStored made).withVersion version)) :=
    fun version => restsIn_push (rests.withVersion version)
  constructor
  · cases answer <;> exact rests.named
  · rcases wrote with ⟨rfl, -⟩ | ⟨version, rfl⟩
    · exact compact
    · exact compact.push (storedSpec_storedSpec made.spec)
  · rcases wrote with ⟨rfl, -⟩ | ⟨version, rfl⟩ <;> rfl
  · intro place different
    rcases wrote with ⟨rfl, -⟩ | ⟨version, rfl⟩
    · rfl
    · apply Function.update_of_ne
      intro here
      apply different
      rw [here]
      exact Prod.ext rfl rests.named
  · intro succeeded
    rcases wrote with ⟨-, failed⟩ | ⟨version, rfl⟩
    · cases answer with
      | error err => cases succeeded
      | ok version => exact absurd rfl (failed version)
    · exact pushed version
  · intro before
    rcases wrote with ⟨rfl, -⟩ | ⟨version, rfl⟩
    · exact before
    · exact pushed version
  · intro before other member written
    rcases List.mem_cons.mp member with rfl | last
    · exact absurd rfl written
    · cases List.mem_singleton.mp last
      exact writes before

/-- A creation stores the child, or is answered with an error. -/
theorem wrote_of_creates {made : Object resource.kind} {answer : Except ApiError Version}
    (answered : (steady clusters).answers world (.createObject made) answer after) :
    Wrote made answer world after := by
  cases answer with
  | ok version => exact .inr ⟨version, answered.2⟩
  | error err =>
      rcases answered with same | ⟨version, -, pushed⟩
      · exact .inl ⟨same, fun _ absurd => by cases absurd⟩
      · exact .inr ⟨version, pushed⟩

/-- So does an update. -/
theorem wrote_of_updates {made : Object resource.kind} {answer : Except ApiError Version}
    (answered : (steady clusters).answers world (.updateObject made) answer after) :
    Wrote made answer world after := by
  cases answer with
  | ok version =>
      obtain ⟨_, _, -, -, pushed⟩ := answered
      exact .inr ⟨version, pushed⟩
  | error err =>
      rcases answered with same | ⟨version, _, _, -, -, pushed⟩
      · exact .inl ⟨same, fun _ absurd => by cases absurd⟩
      · exact .inr ⟨version, pushed⟩

/-- A child is created only if it was not found. -/
theorem notFound_of_exec {mutate : Object resource.kind → Except GoError (Object resource.kind)}
    {missing : ApiError} {key : NamespacedName} {event : Event (@Request.Answer SuperStream)}
    {outcome : Outcome (Object resource.kind × Except GoError Unit)}
    (exec : (createOrUpdate (objectClient resource.kind) mutate object).Exec
      [⟨.getObject resource.kind key, .error missing⟩, event] outcome) :
    missing.reason = .notFound := by
  obtain ⟨reply, rest, same, remaining⟩ := exec
  cases same
  apply isNotFound_api.mp
  by_contra found
  simp only [done_bind] at remaining
  rw [if_neg found] at remaining
  cases remaining.1

/-- A child is updated only if the mutation changes it. -/
theorem changed_of_exec {mutate : Object resource.kind → Except GoError (Object resource.kind)}
    {existing : Object resource.kind} {key : NamespacedName}
    {event : Event (@Request.Answer SuperStream)}
    {outcome : Outcome (Object resource.kind × Except GoError Unit)}
    (exec : (createOrUpdate (objectClient resource.kind) mutate object).Exec
      [⟨.getObject resource.kind key, .ok existing⟩, event] outcome) :
    mutate existing ≠ .ok existing := by
  obtain ⟨reply, rest, same, remaining⟩ := exec
  cases same
  intro unchanged
  simp only [done_bind, unchanged, ↓reduceIte] at remaining
  cases remaining.1

/-- The child at rest is the one that is found. -/
theorem RestsIn.rests (rests : RestsIn builder resource world) {existing : Object resource.kind}
    (named : existing.objectMeta.key = (builder.build resource).objectMeta.key)
    (head : (world.children (resource.kind, existing.objectMeta.key)).head? = some existing) :
    Rests builder resource existing := by
  obtain ⟨child, earlier, resting, stored⟩ := rests
  rw [named, ← resting.named, stored] at head
  cases head
  exact resting

/-- An attempt that succeeds leaves its child at rest, and no other child is touched. -/
theorem createOrUpdate_step
    (named : object.objectMeta.key = (builder.build resource).objectMeta.key)
    (compact : CompactlyStored world)
    (exec : (createOrUpdate (objectClient resource.kind) (builder.update resource) object).Exec
      trace (.done result)) (along : (steady clusters).Along trace world after) :
    ChildStep builder resource trace world after result := by
  have run := childRun_of_exec exec
  cases run with
  | unread err | unmade missing err =>
      obtain ⟨_, ⟨rfl, -⟩, rfl⟩ := along
      exact .of_read named compact fun succeeded => by cases succeeded
  | created missing made mutated answer =>
      obtain ⟨_, ⟨rfl, -, absent⟩, _, answered, rfl⟩ := along
      have notFound := notFound_of_exec exec
      refine .of_write named mutated compact (wrote_of_creates answered) fun rests => ?_
      obtain ⟨child, earlier, resting, stored⟩ := rests
      have empty := absent missing rfl notFound
      rw [named, ← resting.named, stored] at empty
      cases empty
  | unmutated existing err =>
      obtain ⟨_, ⟨rfl, found, -⟩, rfl⟩ := along
      exact .of_read ((found existing rfl).1.trans named) compact fun succeeded => by
        cases succeeded
  | unchanged existing updated =>
      obtain ⟨_, ⟨rfl, found, -⟩, rfl⟩ := along
      obtain ⟨here, head⟩ := found existing rfl
      have member := List.mem_of_mem_head? (Option.mem_def.mpr head)
      have spec : storedSpec existing.spec = existing.spec :=
        compact (resource.kind, object.objectMeta.key) existing member
      have stored : asStored existing = existing := by rw [asStored, spec]
      have rests := rests_of_update (here.trans named) updated
      rw [stored] at rests
      obtain ⟨earlier, latest⟩ := List.head?_eq_some_iff.mp head
      refine .of_read rests.named compact fun _ => ⟨existing, earlier, rests, ?_⟩
      rw [here]
      exact latest
  | updated existing made mutated answer =>
      obtain ⟨_, ⟨rfl, found, -⟩, _, answered, rfl⟩ := along
      obtain ⟨here, head⟩ := found existing rfl
      refine .of_write (here.trans named) mutated compact (wrote_of_updates answered)
        fun rests => ⟨?_, made, rfl⟩
      rw [← here] at head
      have resting := rests.rests (here.trans named) head
      have changed := changed_of_exec exec
      rw [update_of_rests resting] at changed
      by_contra unbound
      rw [(updateSpec_eq_iff resting).mpr unbound] at changed
      exact changed rfl

/-- One step after another. -/
theorem ChildStep.trans {middle : World} {later : Trace SuperStream}
    {attempted : Object resource.kind × Except GoError Unit}
    (first : ChildStep builder resource trace world middle attempted)
    (second : ChildStep builder resource later middle after result) :
    ChildStep builder resource (trace ++ later) world after result where
  named := second.named
  compact := second.compact
  stream := second.stream.trans first.stream
  elsewhere place different := (second.elsewhere place different).trans
    (first.elsewhere place different)
  rests := second.rests
  kept before := second.kept (first.kept before)
  writes before event member := by
    rcases List.mem_append.mp member with early | late
    · exact first.writes before event early
    · exact second.writes (first.kept before) event late

/-- The attempts after a conflict leave their child at rest as well. -/
theorem retryOnConflict_step {retries : Nat}
    (named : object.objectMeta.key = (builder.build resource).objectMeta.key)
    (compact : CompactlyStored world)
    (exec : (retryOnConflict (createOrUpdate (objectClient resource.kind) (builder.update resource))
      retries object).Exec trace (.done result))
    (along : (steady clusters).Along trace world after) :
    ChildStep builder resource trace world after result := by
  induction retries generalizing object trace world with
  | zero => exact createOrUpdate_step named compact exec along
  | succ retries ih =>
      rcases retryOnConflict_succ exec with last | ⟨kept, err, first, rest, rfl, attempt, -, retry⟩
      · exact createOrUpdate_step named compact last along
      · obtain ⟨middle, alongFirst, alongRest⟩ := along_append.mp along
        have attempted := createOrUpdate_step named compact attempt alongFirst
        exact attempted.trans (ih attempted.named attempted.compact retry alongRest)

end Steps

section Loop

variable {builder : Builder} {clusters : NamespacedName → Option RabbitmqCluster}
  {world after : World} {trace : Trace SuperStream} {routingKeys collected : List String}
  {resource other : ResourceBuilder}
  {result : Except (ResourceBuilder × GoError) (List String)}

/-- A step for one child leaves the others at rest. -/
theorem ChildStep.restsIn {returned : Object resource.kind × Except GoError Unit}
    (step : ChildStep builder resource trace world after returned)
    (member : resource ∈ builders routingKeys) (otherMember : other ∈ builders routingKeys)
    (rests : RestsIn builder other world) : RestsIn builder other after := by
  by_cases same : slot (builder.build other) = slot (builder.build resource)
  · cases builders_eq_of_slot otherMember member same
    exact step.kept rests
  · obtain ⟨child, earlier, resting, stored⟩ := rests
    refine ⟨child, earlier, resting, ?_⟩
    rw [step.elsewhere, stored]
    rw [resting.named]
    exact same

/-- What happens to the children in a builder loop. -/
structure LoopStep (builder : Builder) (routingKeys : List String)
    (resources : List ResourceBuilder) (trace : Trace SuperStream) (world after : World)
    (result : Except (ResourceBuilder × GoError) (List String)) : Prop where
  compact : CompactlyStored after
  stream : after.stream = world.stream
  kept : ∀ other ∈ builders routingKeys, RestsIn builder other world → RestsIn builder other after
  rests : ∀ names, result = .ok names → ∀ resource ∈ resources, RestsIn builder resource after
  /-- If all children are at rest, only bindings are written, and they are updated. -/
  writes : (∀ other ∈ builders routingKeys, RestsIn builder other world) →
    ∀ event ∈ trace, slotOf event.request ≠ none → ∃ resource ∈ resources, Binds resource ∧
      ∃ child : Object resource.kind, event.request = .updateObject child

/-- A builder loop that ends leaves all its children at rest. -/
theorem createChildren_step {resources : List ResourceBuilder}
    (within : ∀ resource ∈ resources, resource ∈ builders routingKeys)
    (compact : CompactlyStored world)
    (exec : (createChildren builder resources collected).Exec trace (.done result))
    (along : (steady clusters).Along trace world after) :
    LoopStep builder routingKeys resources trace world after result := by
  induction resources generalizing collected trace world with
  | nil =>
      obtain ⟨rfl, -⟩ := exec
      cases along
      exact ⟨compact, rfl, fun _ _ => id, fun _ _ _ none => (by cases none),
        fun _ _ none => (by cases none)⟩
  | cons resource rest ih =>
      obtain ⟨⟨child, outcome⟩, first, later, rfl, created, goes⟩ := exec_bind_done.mp exec
      obtain ⟨middle, alongFirst, alongLater⟩ := along_append.mp along
      obtain ⟨member, others⟩ := List.forall_mem_cons.mp within
      have step := retryOnConflict_step rfl compact created alongFirst
      have keeps : ∀ other ∈ builders routingKeys, RestsIn builder other world →
          RestsIn builder other middle := fun other otherMember =>
        step.restsIn member otherMember
      have early : (∀ other ∈ builders routingKeys, RestsIn builder other world) →
          ∀ event ∈ first, slotOf event.request ≠ none → ∃ maker ∈ resource :: rest,
            Binds maker ∧ ∃ child : Object maker.kind, event.request = .updateObject child :=
        fun resting event inFirst written =>
          ⟨resource, .head _, step.writes (resting resource member) event inFirst written⟩
      cases outcome with
      | error err =>
          obtain ⟨rfl, ends⟩ := goes
          cases ends
          cases alongLater
          rw [List.append_nil]
          exact ⟨step.compact, step.stream, keeps, fun _ absurd => (by cases absurd), early⟩
      | ok =>
          have loop := ih others step.compact goes alongLater
          refine ⟨loop.compact, loop.stream.trans step.stream,
            fun other otherMember resting => loop.kept other otherMember
              (keeps other otherMember resting), fun names ended => ?_, fun resting event => ?_⟩
          · rw [List.forall_mem_cons]
            exact ⟨loop.kept resource member (step.rests rfl), loop.rests names ended⟩
          · intro inTrace written
            rcases List.mem_append.mp inTrace with inFirst | inLater
            · exact early resting event inFirst written
            · obtain ⟨maker, inRest, updated⟩ := loop.writes
                (fun other otherMember => keeps other otherMember (resting other otherMember))
                event inLater written
              exact ⟨maker, .tail _ inRest, updated⟩

/-- A child at rest can be read, and updated if it is a binding. -/
theorem exists_createChild (clusters : NamespacedName → Option RabbitmqCluster)
    (rests : RestsIn builder resource world) :
    ∃ trace child after, (createChild builder resource).Exec trace (.done (child, .ok ())) ∧
      (steady clusters).Along trace world after ∧
      (Binds resource → ∃ event ∈ trace, slotOf event.request ≠ none) := by
  obtain ⟨child, earlier, resting, stored⟩ := rests
  have updated := update_of_rests resting
  have found : (steady clusters).answers world (.getObject resource.kind
      (builder.build resource).objectMeta.key) (.ok child) world := by
    refine ⟨rfl, fun other same => ?_, fun _ absurd => by cases absurd⟩
    cases same
    refine ⟨resting.named, ?_⟩
    rw [← resting.named, stored]
    rfl
  by_cases binds : Binds resource
  · obtain ⟨made, same⟩ : ∃ made : Object resource.kind,
        made = { child with spec := builder.updateSpec resource child.spec } := ⟨_, rfl⟩
    have changed : child ≠ made := by
      intro unchanged
      have spec := (congrArg Object.spec (unchanged.trans same)).symm
      exact (updateSpec_eq_iff resting).mp spec binds
    have attempt : (createOrUpdate (objectClient resource.kind) (builder.update resource)
        (builder.build resource)).Exec
        [⟨.getObject resource.kind (builder.build resource).objectMeta.key, .ok child⟩,
          ⟨.updateObject made, .ok ⟨world.nextVersion, 0⟩⟩]
        (.done (made.withVersion ⟨world.nextVersion, 0⟩, .ok ())) := by
      rw [← same] at updated
      refine ⟨.ok child, _, rfl, ?_⟩
      simp only [done_bind, updated, changed, ↓reduceIte]
      exact ⟨.ok ⟨world.nextVersion, 0⟩, [], rfl, rfl, rfl⟩
    have written : (steady clusters).answers world (.updateObject made)
        (.ok ⟨world.nextVersion, 0⟩)
        (world.push ((asStored made).withVersion ⟨world.nextVersion, 0⟩)) := by
      subst same
      exact ⟨child, earlier, stored, rfl, rfl⟩
    exact ⟨_, _, _, exec_retryOnConflict attempt, ⟨world, found, _, written, rfl⟩,
      fun _ => ⟨_, .tail _ (.head _), Option.some_ne_none _⟩⟩
  · have same : builder.updateSpec resource child.spec = child.spec :=
      (updateSpec_eq_iff resting).mpr binds
    rw [same] at updated
    refine ⟨[⟨.getObject resource.kind (builder.build resource).objectMeta.key, .ok child⟩], child,
      world, exec_retryOnConflict ?_, ⟨world, found, rfl⟩, fun is => absurd is binds⟩
    refine ⟨.ok child, [], rfl, ?_⟩
    simp only [done_bind, updated, ↓reduceIte]
    exact ⟨rfl, rfl⟩

/-- A builder loop can run over children at rest, and then writes the bindings. -/
theorem exists_createChildren (clusters : NamespacedName → Option RabbitmqCluster)
    (collected : List String) {resources : List ResourceBuilder}
    (within : ∀ resource ∈ resources, resource ∈ builders routingKeys)
    (compact : CompactlyStored world)
    (resting : ∀ other ∈ builders routingKeys, RestsIn builder other world) :
    ∃ trace names after,
      (createChildren builder resources collected).Exec trace (.done (.ok names)) ∧
      (steady clusters).Along trace world after ∧
      ∀ resource ∈ resources, Binds resource → ∃ event ∈ trace, slotOf event.request ≠ none := by
  induction resources generalizing collected world with
  | nil => exact ⟨[], collected, world, ⟨rfl, rfl⟩, rfl, fun _ none => by cases none⟩
  | cons resource rest ih =>
      obtain ⟨member, others⟩ := List.forall_mem_cons.mp within
      obtain ⟨first, child, middle, created, alongFirst, wrote⟩ :=
        exists_createChild clusters (resting resource member)
      have step := retryOnConflict_step rfl compact created alongFirst
      obtain ⟨later, names, after, goes, alongLater, written⟩ :=
        ih (collected ++ partitionNames resource child) others step.compact
        fun other otherMember => step.restsIn member otherMember (resting other otherMember)
      refine ⟨first ++ later, names, after,
        exec_bind_done.mpr ⟨_, first, later, rfl, created, goes⟩,
        along_append.mpr ⟨middle, alongFirst, alongLater⟩, List.forall_mem_cons.mpr ⟨?_, ?_⟩⟩
      · intro binds
        obtain ⟨event, inFirst, writes⟩ := wrote binds
        exact ⟨event, List.mem_append_left _ inFirst, writes⟩
      · intro maker inRest binds
        obtain ⟨event, inLater, writes⟩ := written maker inRest binds
        exact ⟨event, List.mem_append_right _ inLater, writes⟩

end Loop

end TopologyOperator.SuperStreamServer
