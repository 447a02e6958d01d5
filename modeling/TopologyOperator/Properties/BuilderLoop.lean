import TopologyOperator.Properties.RecordedPartitions

/-!
# The builder loop

What a super stream reconcile keeps while it creates its children, with updates
that the webhook accepts in between: every child is derived from the routing key of
its index, and when the loop ends the children of all its builders exist. Children
may be read from a cache that lags behind, and every write may fail or be applied
although it failed.
-/

namespace TopologyOperator.SuperStreamServer

open Dialogue Environment ApiServer SuperStreamReconciler

/-- The listed partitions are named after the routing keys of their indices. -/
def Named (key : NamespacedName) (spec : SuperStreamSpec) (partitions : List String) : Prop :=
  ∀ index name, partitions[index]? = some name →
    ∃ routingKey, keyAt spec index = some routingKey ∧
      name = routingKeyToPartitionName key.name routingKey

/-- The super stream with the given key, its children and the recorded partitions
are as its spec has it. -/
structure Valid (key : NamespacedName) (world : World) : Prop where
  versioned : Versioned world
  keyed : world.stream.objectMeta.key = key
  named : Named key world.stream.spec world.stream.status.partitions
  children : ∀ place, ∀ child ∈ world.children place,
    child.objectMeta.key = place.2 ∧ Rightful key world.stream.spec child

/-- A queue was created for each index below the bound, and for no other. -/
def CreatedBelow (key : NamespacedName) (bound : Nat) (world : World) : Prop :=
  ∀ index, world.children (.queue, partitionKey key index) ≠ [] ↔ index < bound

/-- The created partition queues are those with the given names, in the order of
their indices. -/
def Lists (key : NamespacedName) (world : World) (names : List String) : Prop :=
  CreatedBelow key names.length world ∧
    ∀ index, ∀ queue ∈ world.children (.queue, partitionKey key index),
      names[index]? = some queue.spec.name

/-- What every write of a reconcile respects. -/
def Respects (key : NamespacedName) (world : World) (trace : Trace SuperStream) :
    Request SuperStream → Prop
  | .update written =>
      world.stream.objectMeta.resourceVersion = written.objectMeta.resourceVersion →
        world.stream.spec = written.spec
  | .updateStatus written =>
      (world.stream.objectMeta.resourceVersion = written.objectMeta.resourceVersion →
        world.stream.status.partitions <+: written.status.partitions ∧
          Named key world.stream.spec written.status.partitions) ∧
      ∀ read names, LoopEnded key trace read names →
        written.status.partitions = names ∧ Lists key world names
  | .createObject child | .updateObject child => Rightful key world.stream.spec child
  | _ => True

variable {key : NamespacedName} {kind : Kind} {world next : World}

/-- A spec that is extended keeps the routing keys of the earlier indices. -/
theorem Named.extends {old new : SuperStreamSpec} {partitions : List String}
    (named : Named key old partitions) (extended : Extends old new) : Named key new partitions := by
  intro index name found
  obtain ⟨routingKey, keyed, rfl⟩ := named index name found
  exact ⟨routingKey, extended.keys index routingKey keyed, rfl⟩

/-- A super stream that was just created has no children and no partitions. -/
theorem valid_fresh (stream : SuperStream) :
    Valid stream.objectMeta.key (World.fresh stream) where
  versioned := Nat.lt_succ_self _
  keyed := rfl
  named index name found := by simp [World.fresh] at found
  children place child member := by simp [World.fresh] at member

/-- A rightful child may be added. -/
theorem Valid.push (valid : Valid key world) {child : Object kind}
    (rightful : Rightful key world.stream.spec child) : Valid key (world.push child) where
  versioned := valid.versioned.push child
  keyed := valid.keyed
  named := valid.named
  children place held member := by
    rcases mem_push member with earlier | ⟨rfl, rfl⟩
    · exact valid.children place held earlier
    · exact ⟨rfl, rightful⟩

/-- The super stream may be stored anew, if its partitions are named by its spec. -/
theorem Valid.replace (valid : Valid key world) {stream : SuperStream}
    (fresh : stream.objectMeta.resourceVersion = world.nextVersion)
    (sameKey : stream.objectMeta.key = key) (extended : Extends world.stream.spec stream.spec)
    (named : Named key stream.spec stream.status.partitions) :
    Valid key (world.replace stream) where
  versioned := Versioned.replace fresh
  keyed := sameKey
  named := named
  children place child member :=
    ⟨(valid.children place child member).1, (valid.children place child member).2.extends extended⟩

/-- A touched child is as rightful as its latest version. -/
theorem Valid.touch (valid : Valid key world) {child latest : Object kind}
    {earlier : List (Object kind)} (found : world.children (slot child) = latest :: earlier)
    (spec : child.spec = latest.spec) : Rightful key world.stream.spec child := by
  have member : latest ∈ world.children (slot child) := found ▸ .head _
  obtain ⟨keyed, rightful⟩ := valid.children (slot child) latest member
  exact rightful.congr keyed.symm spec

/-- What users may do keeps the world valid. -/
theorem valid_stable (key : NamespacedName) :
    (environment Accepts).Stable (Valid key) (Valid key) := by
  intro world next valid _ move
  cases move with
  | update stream allowed named status fresh =>
      exact valid.replace fresh (named.trans valid.keyed) allowed.extends
        (status ▸ valid.named.extends allowed.extends)
  | touch child latest earlier found spec => exact valid.push (valid.touch found spec)

/-- Users create no partition queues. -/
theorem createdBelow_stable (bound : Nat) :
    (environment Accepts).Stable (Valid key) (CreatedBelow key bound) := by
  intro world next _ created move
  cases move with
  | update => exact created
  | touch child latest earlier found =>
      intro index
      rw [push_ne_nil, ← created index, or_iff_right_iff_imp]
      rintro same
      rw [← same, found]
      exact List.cons_ne_nil _ _

/-- Specs are extended and recorded partitions appended. -/
def Grows (world next : World) : Prop :=
  Extends world.stream.spec next.stream.spec ∧
    world.stream.status.partitions <+: next.stream.status.partitions

theorem Grows.refl (world : World) : Grows world world := ⟨.refl _, List.prefix_rfl⟩

theorem Grows.trans {first second third : World} (earlier : Grows first second)
    (later : Grows second third) : Grows first third :=
  ⟨earlier.1.trans later.1, earlier.2.trans later.2⟩

/-- Users extend the super stream and keep its status. -/
theorem foreign_grows (move : Foreign Accepts world next) : Grows world next := by
  cases move with
  | update stream allowed named status => exact ⟨allowed.extends, status ▸ List.prefix_rfl⟩
  | touch => exact .refl world

/-- A status that appends partitions may be stored. -/
theorem Valid.stored (valid : Valid key world) {written : SuperStream} {version : Version}
    (appends : world.stream.objectMeta.resourceVersion = written.objectMeta.resourceVersion →
      world.stream.status.partitions <+: written.status.partitions ∧
        Named key world.stream.spec written.status.partitions)
    (updates : UpdatesStatus world written version next) : Valid key next ∧ Grows world next := by
  obtain ⟨current, ⟨fresh, rfl⟩ | ⟨_, _, rfl⟩⟩ := updates
  · obtain ⟨appended, named⟩ := appends current
    exact ⟨valid.replace fresh valid.keyed (.refl _) named, .refl _, appended⟩
  · exact ⟨valid, .refl _⟩

/-- An update that leaves the spec alone may be stored. -/
theorem Valid.updated (valid : Valid key world) {written : SuperStream} {version : Version}
    (unchanged : world.stream.objectMeta.resourceVersion = written.objectMeta.resourceVersion →
      world.stream.spec = written.spec)
    (updates : Updates world written version next) : Valid key next ∧ Grows world next := by
  obtain ⟨current, sameKey, fresh, rfl⟩ := updates
  have extended : Extends world.stream.spec written.spec := unchanged current ▸ .refl _
  exact ⟨valid.replace fresh (sameKey.symm.trans valid.keyed) extended
    (valid.named.extends extended), extended, List.prefix_rfl⟩

/-- All that a request of a reconcile can do. -/
theorem Valid.answers (valid : Valid key world) {trace : Trace SuperStream}
    {request : Request SuperStream} {reply : request.Answer}
    (respects : Respects key world trace request)
    (answered : Answers world request reply next) : Valid key next ∧ Grows world next := by
  have pushed : ∀ {kind : Kind} {child : Object kind}, Rightful key world.stream.spec child →
      ∀ version, next = world.push (child.withVersion version) →
      Valid key next ∧ Grows world next := by
    rintro kind child rightful version rfl
    exact ⟨valid.push (rightful.congr rfl rfl), .refl _⟩
  cases request with
  | update written =>
      rcases Writes.cases answered with rfl | ⟨version, updates⟩
      · exact ⟨valid, .refl _⟩
      · exact valid.updated respects updates
  | updateStatus written =>
      rcases Writes.cases answered with rfl | ⟨version, updates⟩
      · exact ⟨valid, .refl _⟩
      · exact valid.stored respects.1 updates
  | createObject child =>
      rcases Writes.cases answered with rfl | ⟨version, _, stored⟩
      · exact ⟨valid, .refl _⟩
      · exact pushed respects version stored
  | updateObject child =>
      rcases Writes.cases answered with rfl | ⟨version, _, _, _, _, stored⟩
      · exact ⟨valid, .refl _⟩
      · exact pushed respects version stored
  | get | getObject =>
      obtain ⟨rfl, -⟩ := answered
      exact ⟨valid, .refl _⟩
  | _ =>
      cases answered
      exact ⟨valid, .refl _⟩

/-- What a reconcile knows of the world after it read the super stream. -/
structure InFlight (key : NamespacedName) (read : SuperStream) (world : World) : Prop where
  keyed : read.objectMeta.key = key
  ready : Ready (· <+: ·) read world
  extended : Extends read.spec world.stream.spec
  named : Named key read.spec read.status.partitions
  bounded : ∀ index, world.children (.queue, partitionKey key index) ≠ [] →
    (index : Int) < read.spec.partitions

variable {read : SuperStream}

/-- A reconcile begins with what is stored. -/
theorem Valid.opened (valid : Valid key world) : InFlight key world.stream world where
  keyed := valid.keyed
  ready := ⟨valid.versioned, fun _ => ⟨rfl, List.prefix_rfl⟩⟩
  extended := .refl _
  named := valid.named
  bounded index created := by
    obtain ⟨queue, member⟩ := List.exists_mem_of_ne_nil _ created
    obtain ⟨keyed, rightful⟩ := valid.children _ queue member
    exact (rightful index keyed).1

/-- Creating a rightful child changes nothing of what the reconcile knows. -/
theorem InFlight.push (inFlight : InFlight key read world) {child : Object kind}
    (rightful : Rightful key read.spec child) : InFlight key read (world.push child) where
  keyed := inFlight.keyed
  ready := inFlight.ready.push child
  extended := inFlight.extended
  named := inFlight.named
  bounded index created := by
    rcases push_ne_nil.mp created with same | earlier
    · obtain ⟨rfl, keyed⟩ := Prod.mk.inj same
      exact (rightful index keyed).1
    · exact inFlight.bounded index earlier

/-- Users may extend the spec meanwhile, and what was read is still a part of it. -/
theorem inFlight_stable (read : SuperStream) :
    (environment Accepts).Stable (Valid key) (InFlight key read) := by
  intro world next valid inFlight move
  refine ⟨inFlight.keyed, inFlight.ready.foreign move,
    inFlight.extended.trans (foreign_grows move).1,
    inFlight.named, fun index created => inFlight.bounded index ?_⟩
  cases move with
  | update => exact created
  | touch child latest earlier found =>
      rcases push_ne_nil.mp created with same | earlier
      · rw [← same, found]
        exact List.cons_ne_nil _ _
      · exact earlier

/-- A status that is still current only appends partitions. -/
theorem InFlight.appends (inFlight : InFlight key read world)
    (current : world.stream.objectMeta.resourceVersion = read.objectMeta.resourceVersion) :
    world.stream.status.partitions <+: read.status.partitions ∧
      Named key world.stream.spec read.status.partitions :=
  ⟨(inFlight.ready.2 current).2, inFlight.named.extends inFlight.extended⟩

/-- Conditions may be set in memory. -/
theorem InFlight.rest (inFlight : InFlight key read world) {status : SuperStreamStatus}
    (same : status.partitions = read.status.partitions) :
    InFlight key { read with status := status } world where
  keyed := inFlight.keyed
  ready := ⟨inFlight.ready.1, fun current => by simpa only [same] using inFlight.ready.2 current⟩
  extended := inFlight.extended
  named := by simpa only [same] using inFlight.named
  bounded := inFlight.bounded

/-- After its own status write, the reconcile is still in flight. -/
theorem InFlight.stored (inFlight : InFlight key read world) (valid : Valid key world)
    {version : Version} (updates : UpdatesStatus world read version next) :
    Valid key next ∧ InFlight key (stamp read version) next ∧ InFlight key read next := by
  obtain ⟨validNext, grows⟩ := valid.stored inFlight.appends updates
  obtain ⟨stamped, kept⟩ := inFlight.ready.stored (fun _ => List.prefix_rfl) updates
  have children : next.children = world.children := by
    obtain ⟨_, ⟨_, rfl⟩ | ⟨_, _, rfl⟩⟩ := updates <;> rfl
  have extended := inFlight.extended.trans grows.1
  have bounded : ∀ index, next.children (.queue, partitionKey key index) ≠ [] →
      (index : Int) < read.spec.partitions := by
    rw [children]
    exact inFlight.bounded
  exact ⟨validNext, ⟨inFlight.keyed, stamped, extended, inFlight.named, bounded⟩,
    ⟨inFlight.keyed, kept, extended, inFlight.named, bounded⟩⟩

/-- Before the loop has ended, a reconcile may store the status that it has read. -/
theorem inFlight_statusRules {trace : Trace SuperStream} (never : NoLoopEnds key trace) :
    StatusRules Accepts (Valid key) (Respects key) (InFlight key) trace where
  stable := inFlight_stable
  rest _ _ _ same inFlight := inFlight.rest same
  guarded _ _ suffix _ inFlight :=
    ⟨inFlight.appends, fun read names ended => absurd ended (never suffix read names)⟩
  stored _ _ _ _ valid inFlight updates := inFlight.stored valid updates

/-- What the reconcile of a super stream keeps before its loop and after it. -/
theorem inFlight_rules (key : NamespacedName) :
    Rules key Accepts (Valid key) (Respects key) (InFlight key) where
  kept := valid_stable key
  quiet _ _ request observes _ := by cases request <;> trivial
  opened _ valid := valid.opened
  status _ never := inFlight_statusRules never
  stable := inFlight_stable
  release superStream now trace valid inFlight := by
    have unchanged : now.stream.objectMeta.resourceVersion =
        (released superStream).objectMeta.resourceVersion →
        now.stream.spec = (released superStream).spec :=
      fun current => (inFlight.ready.2 current).1
    exact ⟨unchanged, fun version after updates => (valid.updated unchanged updates).1⟩

/-- The children of these builders were created. -/
def Built (builder : Builder) (resources : List ResourceBuilder) (world : World) : Prop :=
  ∀ resource ∈ resources, world.children (slot (builder.build resource)) ≠ []

theorem Built.push {builder : Builder} {resources : List ResourceBuilder}
    (built : Built builder resources world) (child : Object kind) :
    Built builder resources (world.push child) :=
  fun resource member => push_ne_nil.mpr (.inr (built resource member))

/-- One more child was created. -/
theorem Built.cons {builder : Builder} {resources : List ResourceBuilder}
    {resource : ResourceBuilder} (built : Built builder resources world)
    (created : world.children (slot (builder.build resource)) ≠ []) :
    Built builder (resource :: resources) world := by
  intro other member
  rcases List.mem_cons.mp member with rfl | earlier
  · exact created
  · exact built other earlier

/-- Users take no child away. -/
theorem built_stable (builder : Builder) (resources : List ResourceBuilder) :
    (environment Accepts).Stable (Valid key) (Built builder resources) := by
  intro world next _ built move
  cases move with
  | update => exact built
  | touch child => exact built.push child

/-- What a reconcile knows in its builder loop. -/
def InLoop (key : NamespacedName) (read : SuperStream) (builder : Builder)
    (resources : List ResourceBuilder) (world : World) : Prop :=
  InFlight key read world ∧ Built builder resources world

theorem inLoop_stable (read : SuperStream) (builder : Builder)
    (resources : List ResourceBuilder) :
    (environment Accepts).Stable (Valid key) (InLoop key read builder resources) :=
  (inFlight_stable read).and (built_stable builder resources)

section Loop

variable {builder : Builder} {resource : ResourceBuilder} {earlier : List ResourceBuilder}
  {trace : Trace SuperStream} (owner : builder.objectOwner.key = key)
  (fits : Fits read.spec resource)
include owner fits

/-- What a reconcile writes for a child is rightful, now and for the spec it read. -/
theorem InLoop.rightful {child mutated : Object resource.kind}
    (inLoop : InLoop key read builder earlier world)
    (named : child.objectMeta.key = (builder.build resource).objectMeta.key)
    (updated : builder.update resource child = .ok mutated) :
    Rightful key read.spec mutated ∧ Rightful key world.stream.spec mutated := by
  have rightful : Rightful key read.spec mutated := owner ▸ rightful_of_update fits named updated
  exact ⟨rightful, rightful.extends inLoop.1.extended⟩

/-- The loop goes on after a child was written, whether or not the write succeeded. -/
theorem InLoop.written {child mutated : Object resource.kind} {applied : Version → World → Prop}
    {reply : Except ApiError Version} (inLoop : InLoop key read builder earlier world)
    (valid : Valid key world)
    (named : child.objectMeta.key = (builder.build resource).objectMeta.key)
    (updated : builder.update resource child = .ok mutated)
    (writes : Writes world applied reply next)
    (pushes : ∀ version, applied version next → next = world.push (mutated.withVersion version)) :
    Valid key next ∧ InLoop key read builder earlier next ∧
      ∀ version, reply = .ok version → InLoop key read builder (resource :: earlier) next := by
  obtain ⟨first, now⟩ := inLoop.rightful owner fits named updated
  have mutatedKey : mutated.objectMeta.key = (builder.build resource).objectMeta.key :=
    (update_eq_ok updated).1.trans named
  have stored : ∀ version, next = world.push (mutated.withVersion version) →
      Valid key next ∧ InLoop key read builder (resource :: earlier) next := by
    rintro version rfl
    have same : slot (mutated.withVersion version) = slot (builder.build resource) :=
      Prod.ext rfl mutatedKey
    exact ⟨valid.push (now.congr rfl rfl), inLoop.1.push (first.congr rfl rfl),
      (inLoop.2.push _).cons (push_ne_nil.mpr (.inl same))⟩
  cases reply with
  | error err =>
      rcases writes with rfl | ⟨version, wrote⟩
      · exact ⟨valid, inLoop, fun _ absurd => by cases absurd⟩
      · obtain ⟨validNext, inFlight, built⟩ := stored version (pushes version wrote)
        exact ⟨validNext, ⟨inFlight, fun other member => built other (.tail _ member)⟩,
          fun _ absurd => by cases absurd⟩
  | ok version =>
      obtain ⟨validNext, inFlight, built⟩ := stored version (pushes version writes)
      exact ⟨validNext, ⟨inFlight, fun other member => built other (.tail _ member)⟩,
        fun _ _ => ⟨inFlight, built⟩⟩

/-- What holds after an attempt to create or update a child: the child in memory
keeps its name, and if the attempt succeeded the child was created. -/
def Attempted (key : NamespacedName) (read : SuperStream) (builder : Builder)
    (earlier : List ResourceBuilder) (resource : ResourceBuilder)
    (result : Object resource.kind × Except GoError Unit) (now : World)
    (_ : Trace SuperStream) : Prop :=
  InLoop key read builder earlier now ∧
    result.1.objectMeta.key = (builder.build resource).objectMeta.key ∧
    (result.2 = .ok () → InLoop key read builder (resource :: earlier) now)

omit owner fits in
/-- An attempt may fail at any time. -/
theorem attempted_error {held : Object resource.kind} {err : GoError}
    (heldKey : held.objectMeta.key = (builder.build resource).objectMeta.key)
    (valid : Valid key world) (inLoop : InLoop key read builder earlier world) :
    (environment Accepts).Safe (Valid key) (Respects key)
      (Attempted key read builder earlier resource) (.done (held, .error err)) world trace :=
  Safe.done (valid_stable key) (inLoop_stable read builder earlier) valid inLoop
    fun _ _ holds => ⟨holds, heldKey, fun absurd => by cases absurd⟩

omit owner fits in
/-- An attempt succeeds only if the child was created. -/
theorem attempted_ok {held : Object resource.kind}
    (heldKey : held.objectMeta.key = (builder.build resource).objectMeta.key)
    (valid : Valid key world) (inLoop : InLoop key read builder (resource :: earlier) world) :
    (environment Accepts).Safe (Valid key) (Respects key)
      (Attempted key read builder earlier resource) (.done (held, .ok ())) world trace :=
  Safe.done (valid_stable key) (inLoop_stable read builder (resource :: earlier)) valid inLoop
    fun _ _ holds => ⟨⟨holds.1, fun other member => holds.2 other (.tail _ member)⟩, heldKey,
      fun _ => holds⟩

/-- One attempt creates the child rightfully, or finds that it was created. -/
theorem createOrUpdate_safe {child : Object resource.kind}
    (named : child.objectMeta.key = (builder.build resource).objectMeta.key)
    (valid : Valid key world) (inLoop : InLoop key read builder earlier world) :
    (environment Accepts).Safe (Valid key) (Respects key)
      (Attempted key read builder earlier resource)
      (createOrUpdate (objectClient resource.kind) (builder.update resource) child)
      world trace := by
  have kept := valid_stable key
  have stable : (environment Accepts).Stable (Valid key) (InLoop key read builder earlier) :=
    inLoop_stable read builder earlier
  refine Safe.call kept stable valid inLoop (fun _ _ _ => trivial)
    fun now reply after validNow inLoopNow answered => ?_
  obtain ⟨rfl, found⟩ := answered
  refine ⟨validNow, ?_⟩
  rw [Program.done_bind]
  cases reply with
  | error err =>
      by_cases missing : (GoError.api err).isNotFound
      · simp only [missing, if_true]
        split
        · exact attempted_error named validNow inLoopNow
        · next mutated updated =>
            have mutatedKey := (update_eq_ok updated).1.trans named
            refine Safe.call kept stable validNow inLoopNow
              (fun _ _ inLoopLater => (inLoopLater.rightful owner fits named updated).2)
              fun later reply final validLater inLoopLater answered => ?_
            obtain ⟨validFinal, remains, completes⟩ := inLoopLater.written owner fits validLater
              named updated answered fun _ creates => creates.2
            refine ⟨validFinal, ?_⟩
            cases reply with
            | error err => exact attempted_error mutatedKey validFinal remains
            | ok version => exact attempted_ok mutatedKey validFinal (completes version rfl)
      · simp only [missing]
        exact attempted_error named validNow inLoopNow
  | ok existing =>
      have member : existing ∈ after.children (resource.kind, child.objectMeta.key) :=
        found existing rfl
      have existingKey : existing.objectMeta.key = (builder.build resource).objectMeta.key :=
        (validNow.children (resource.kind, child.objectMeta.key) existing member).1.trans named
      dsimp only
      split
      · exact attempted_error existingKey validNow inLoopNow
      next mutated updated =>
      split
      · have created : after.children (slot (builder.build resource)) ≠ [] := by
          rw [named] at member
          exact List.ne_nil_of_mem member
        exact attempted_ok existingKey validNow ⟨inLoopNow.1, inLoopNow.2.cons created⟩
      · have mutatedKey := (update_eq_ok updated).1.trans existingKey
        refine Safe.call kept stable validNow inLoopNow
          (fun _ _ inLoopLater => (inLoopLater.rightful owner fits existingKey updated).2)
          fun later reply final validLater inLoopLater answered => ?_
        obtain ⟨validFinal, remains, completes⟩ := inLoopLater.written owner fits validLater
          existingKey updated answered fun _ updates => updates.choose_spec.choose_spec.2.2
        refine ⟨validFinal, ?_⟩
        cases reply with
        | error err => exact attempted_error mutatedKey validFinal remains
        | ok version => exact attempted_ok mutatedKey validFinal (completes version rfl)

/-- Creating or updating a child, with retries. -/
theorem createChild_safe (valid : Valid key world)
    (inLoop : InLoop key read builder earlier world) :
    (environment Accepts).Safe (Valid key) (Respects key)
      (Attempted key read builder earlier resource) (createChild builder resource) world trace := by
  have retried : ∀ retries child now later,
      child.objectMeta.key = (builder.build resource).objectMeta.key → Valid key now →
      InLoop key read builder earlier now →
      (environment Accepts).Safe (Valid key) (Respects key)
        (Attempted key read builder earlier resource)
        (retryOnConflict (createOrUpdate (objectClient resource.kind) (builder.update resource))
          retries child) now later := by
    intro retries
    induction retries with
    | zero =>
        intro child now later named validNow inLoopNow
        exact createOrUpdate_safe owner fits named validNow inLoopNow
    | succ retries ih =>
        intro child now later named validNow inLoopNow
        refine Safe.bind (createOrUpdate_safe owner fits named validNow inLoopNow) validNow
          fun result final longer validFinal attempted => ?_
        obtain ⟨held, outcome⟩ := result
        obtain ⟨remains, heldKey, completes⟩ := attempted
        cases outcome with
        | error err =>
            dsimp only
            split
            · exact ih held final longer heldKey validFinal remains
            · exact attempted_error heldKey validFinal remains
        | ok => exact attempted_ok heldKey validFinal (completes rfl)
  exact retried defaultRetry _ world trace rfl valid inLoop

end Loop

/-- A builder loop that ends has created the children of all its builders. -/
theorem createChildren_safe {builder : Builder} (owner : builder.objectOwner.key = key)
    {resources earlier : List ResourceBuilder} {collected : List String}
    {trace : Trace SuperStream} (fits : ∀ resource ∈ resources, Fits read.spec resource)
    (valid : Valid key world) (inLoop : InLoop key read builder earlier world) :
    (environment Accepts).Safe (Valid key) (Respects key)
      (fun result now _ => InFlight key read now ∧ ∀ names, result = .ok names →
        ∀ resource, resource ∈ earlier ∨ resource ∈ resources →
          now.children (slot (builder.build resource)) ≠ [])
      (createChildren builder resources collected) world trace := by
  induction resources generalizing earlier collected world trace with
  | nil =>
      refine Safe.done (valid_stable key) (inLoop_stable read builder earlier) valid inLoop ?_
      rintro now - ⟨inFlight, built⟩
      refine ⟨inFlight, fun _ _ resource member => ?_⟩
      rcases member with before | none
      · exact built resource before
      · cases none
  | cons resource rest ih =>
      refine Safe.bind (createChild_safe owner (fits resource (.head _)) valid inLoop) valid ?_
      rintro ⟨child, outcome⟩ now later validNow ⟨remains, -, completes⟩
      cases outcome with
      | error err =>
          refine Safe.done (valid_stable key) (inFlight_stable read) validNow remains.1 ?_
          exact fun _ _ inFlight => ⟨inFlight, fun _ absurd => by cases absurd⟩
      | ok =>
          refine (ih (fun other member => fits other (.tail _ member)) validNow
            (completes rfl)).weaken fun result final _ _ reached => ?_
          refine ⟨reached.1, fun names ended other member => reached.2 names ended other ?_⟩
          rcases member with before | within
          · exact .inl (.tail _ before)
          · rcases List.mem_cons.mp within with rfl | after
            · exact .inl (.head _)
            · exact .inr after

end TopologyOperator.SuperStreamServer
