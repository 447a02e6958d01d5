import TopologyOperator.Controller.Partitions

/-!
# Recorded partitions

The list of partitions in the status of a super stream never gets shorter. A
reconcile writes the status of the version it read, or of a version it wrote
itself, so a write that is applied replaces a list that the reconcile knows. This
needs no assumption on the updates that users make.
-/

namespace TopologyOperator.SuperStreamServer

open Dialogue Environment ApiServer SuperStreamReconciler

section Status

/-- What has to hold to write the status of a super stream in memory: unless
someone else wrote it in between, it is the stored one, with a list of partitions
that is no less than the stored list. -/
def Ready (le : List String → List String → Prop) (superStream : SuperStream)
    (world : World) : Prop :=
  superStream.objectMeta.resourceVersion < world.nextVersion ∧
    (world.stream.objectMeta.resourceVersion = superStream.objectMeta.resourceVersion →
      world.stream.spec = superStream.spec ∧
        le world.stream.status.partitions superStream.status.partitions)

variable {le : List String → List String → Prop} {permitted : SuperStream → SuperStream → Prop}
  {superStream : SuperStream} {world next : World}

theorem Ready.push (ready : Ready le superStream world) {kind : Kind} (child : Object kind) :
    Ready le superStream (world.push child) :=
  ⟨Nat.lt_succ_of_lt ready.1, ready.2⟩

/-- A new version of the super stream is not the one in memory. -/
theorem Ready.replace (ready : Ready le superStream world) {stream : SuperStream}
    (fresh : stream.objectMeta.resourceVersion = world.nextVersion) :
    Ready le superStream (world.replace stream) :=
  ⟨Nat.lt_succ_of_lt ready.1, fun same => absurd (fresh.symm.trans same) (Nat.ne_of_gt ready.1)⟩

/-- A write of somebody else makes the copy in memory outdated, which is no harm. -/
theorem Ready.foreign (ready : Ready le superStream world) (move : Foreign permitted world next) :
    Ready le superStream next := by
  cases move with
  | update stream allowed named status fresh => exact ready.replace fresh
  | touch child => exact ready.push child

/-- After a status write, the copy in memory is the stored one under its new version. -/
theorem Ready.stored (refl : ∀ partitions, le partitions partitions)
    (ready : Ready le superStream world) {version : Version}
    (updates : UpdatesStatus world superStream version next) :
    Ready le (stamp superStream version) next ∧ Ready le superStream next := by
  obtain ⟨current, ⟨fresh, rfl⟩ | ⟨same, _, rfl⟩⟩ := updates
  · refine ⟨⟨?_, fun _ => ⟨(ready.2 current).1, refl _⟩⟩, ready.replace fresh⟩
    exact Nat.lt_succ_of_le (Nat.le_of_eq fresh)
  · refine ⟨⟨?_, fun _ => ready.2 current⟩, ready⟩
    exact lt_of_eq_of_lt (same.trans current) ready.1

/-- The names that the builder loop collected may be recorded. -/
theorem Ready.record (ready : Ready le superStream world)
    (trans : ∀ first second third, le first second → le second third → le first third)
    {names : List String}
    (grows : le superStream.status.partitions names) :
    Ready le { superStream with status := { superStream.status with partitions := names } } world :=
  ⟨ready.1, fun same => ⟨(ready.2 same).1, trans _ _ _ (ready.2 same).2 grows⟩⟩

end Status

section Bypass

/-- The version of the stored super stream was assigned by the API server. -/
def Versioned (world : World) : Prop :=
  world.stream.objectMeta.resourceVersion < world.nextVersion

/-- A write of the status that is applied does not shorten the list of partitions. -/
def KeepsLength (world : World) (_ : Trace SuperStream) : Request SuperStream → Prop
  | .updateStatus written =>
      world.stream.objectMeta.resourceVersion = written.objectMeta.resourceVersion →
        world.stream.status.partitions.length ≤ written.status.partitions.length
  | _ => True

/-- Comparison of lists by their length. -/
def NoLonger (first second : List String) : Prop := first.length ≤ second.length

theorem noLonger_trans (first second third : List String) (earlier : NoLonger first second)
    (later : NoLonger second third) : NoLonger first third :=
  Nat.le_trans earlier later

variable {permitted : SuperStream → SuperStream → Prop} {world next : World}

theorem Versioned.push (versioned : Versioned world) {kind : Kind} (child : Object kind) :
    Versioned (world.push child) :=
  Nat.lt_succ_of_lt versioned

/-- A new version is assigned on every write. -/
theorem Versioned.replace {stream : SuperStream}
    (fresh : stream.objectMeta.resourceVersion = world.nextVersion) :
    Versioned (world.replace stream) :=
  Nat.lt_succ_of_le (Nat.le_of_eq fresh)

/-- Whatever users do, versions are assigned by the API server. -/
theorem versioned_stable :
    (environment permitted).Stable Versioned Versioned := by
  intro world next versioned _ move
  cases move with
  | update stream allowed named status fresh => exact Versioned.replace fresh
  | touch child => exact versioned.push child

/-- A status that is written is based on the stored list, or rejected. -/
theorem keepsLength_statusRules (trace : Trace SuperStream) :
    StatusRules permitted Versioned KeepsLength (Ready NoLonger) trace where
  stable _ _ _ _ ready move := ready.foreign move
  rest _ status _ same ready := ⟨ready.1, fun current => by
    simpa only [same] using ready.2 current⟩
  guarded _ _ _ _ ready current := (ready.2 current).2
  stored superStream now version after versioned ready updates := by
    obtain ⟨stamped, kept⟩ := ready.stored (fun _ => Nat.le_refl _) updates
    refine ⟨?_, stamped, kept⟩
    obtain ⟨_, ⟨fresh, rfl⟩ | ⟨_, _, rfl⟩⟩ := updates
    · exact Versioned.replace fresh
    · exact versioned

/-- So a reconcile never shortens the list. -/
theorem keepsLength_rules (key : NamespacedName) :
    Rules key permitted Versioned KeepsLength (Ready NoLonger) where
  kept := versioned_stable
  quiet _ _ request observes _ := by cases request <;> trivial
  opened _ versioned := ⟨versioned, fun _ => ⟨rfl, Nat.le_refl _⟩⟩
  status trace _ := keepsLength_statusRules trace
  stable _ _ _ _ ready move := ready.foreign move
  release superStream now trace versioned ready := by
    refine ⟨trivial, fun version after updates => ?_⟩
    obtain ⟨_, _, fresh, rfl⟩ := updates
    exact Versioned.replace fresh

/-- Whoever updates the spec, a reconcile does not shorten the list of partitions. -/
theorem reconcile_keepsLength (key : NamespacedName) (world : World) (versioned : Versioned world) :
    (environment permitted).Safe Versioned KeepsLength (fun _ _ _ => True)
      (SuperStreamReconciler.reconcile key) world [] := by
  refine (keepsLength_rules key).reconcile_safe ?_ versioned
  intro read resolved rmqClusterRef routingKeys now resolves keyed versionedNow ready
  refine (keepsLength_rules key).reconcileChildren_safe resolves keyed
    (fun loop names _ => keepsLength_statusRules _) ?_ versionedNow
  refine Safe.of_calls versioned_stable (fun _ _ _ ready move => Ready.foreign ready move)
    (createChildren_calls ..) ?_ ?_ versionedNow ready ?_
  · intro later suffix request _ asked _ _
    cases request <;> trivial
  · intro later request reply after asked versionedLater readyLater answered
    rcases answers_of_childRequest asked answered with rfl | ⟨kind, child, rfl⟩
    · exact ⟨versionedLater, readyLater⟩
    · exact ⟨versionedLater.push child, readyLater.push child⟩
  · rintro result later suffix exec - readyLater
    refine ⟨readyLater, fun names ended => ?_⟩
    subst ended
    refine readyLater.record noLonger_trans ?_
    rw [NoLonger, builderLoop_exec exec, List.length_map]
    exact (keysFor_spec keyed).2.2

/-- What is answered to a request that keeps the length keeps the length. -/
theorem KeepsLength.answers {trace : Trace SuperStream} {request : Request SuperStream}
    {reply : request.Answer} (keeps : KeepsLength world trace request)
    (answered : Answers world request reply next) :
    NoLonger world.stream.status.partitions next.stream.status.partitions := by
  have same : next.stream.status = world.stream.status →
      NoLonger world.stream.status.partitions next.stream.status.partitions :=
    fun status => status ▸ Nat.le_refl _
  cases request with
  | update written =>
      rcases Writes.cases answered with rfl | ⟨version, _, _, _, rfl⟩ <;> exact same rfl
  | updateStatus written =>
      rcases Writes.cases answered with rfl | ⟨version, current, ⟨_, rfl⟩ | ⟨_, _, rfl⟩⟩
      · exact same rfl
      · exact keeps current
      · exact same rfl
  | createObject | updateObject | getObject =>
      rcases answers_of_childRequest (by exact trivial) answered with rfl | ⟨kind, child, rfl⟩ <;>
        exact same rfl
  | get =>
      obtain ⟨rfl, -⟩ := answered
      exact same rfl
  | _ =>
      cases answered
      exact same rfl

end Bypass

end TopologyOperator.SuperStreamServer
