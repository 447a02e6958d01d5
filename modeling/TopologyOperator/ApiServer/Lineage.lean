import TopologyOperator.Controller.Prescription
import TopologyOperator.Properties.HonestStatus

/-!
# The request that a reconcile works on

An object asks for a spec, or for its deletion. Users may change the request while a
reconcile is in flight, which goes on with the one that it has read. But a version that
the reconcile was told belongs to the request that it has read, so that no write of the
reconcile is accepted once the request is another one; and an object whose observed
generation is its generation still asks for what the reconcile has read.
-/

namespace TopologyOperator.ApiServer

open Dialogue Environment Program

variable {kind : Kind} {key : NamespacedName} {r : TopologyReconciler}
  {world next after : World kind} {read current object written : Object kind}
  {rest trace : Trace (Object kind)}

/-- The object asks for the same. -/
structure SameRequest (read object : Object kind) : Prop where
  spec : object.spec = read.spec
  marked : object.objectMeta.deletionTimestamp.isSome = read.objectMeta.deletionTimestamp.isSome

theorem SameRequest.refl (object : Object kind) : SameRequest object object := ⟨rfl, rfl⟩

theorem SameRequest.trans (first : SameRequest read current) (second : SameRequest current object) :
    SameRequest read object :=
  ⟨second.spec.trans first.spec, second.marked.trans first.marked⟩

/-- The status says that the spec was declared as it is. -/
def UpToDate (object : Object kind) : Prop :=
  object.status.observedGeneration ≠ 0 ∧
    object.status.observedGeneration = object.objectMeta.generation

/-- The observed generation is an earlier generation or the current one. -/
def Observed (object : Object kind) : Prop :=
  object.status.observedGeneration ≠ 0 →
    object.status.observedGeneration ≤ object.objectMeta.generation

/-- As long as its observed generation is kept, an object that is up to date was so
before, with the same request. -/
theorem UpToDate.before (upToDate : UpToDate object) (observed : Observed current)
    (generations : Generations world next) (found : world.stored = some current)
    (stored : next.stored = some object)
    (sameUid : object.objectMeta.uid = current.objectMeta.uid)
    (kept : object.status.observedGeneration = current.status.observedGeneration) :
    UpToDate current ∧ SameRequest current object := by
  obtain ⟨positive, latest⟩ := upToDate
  obtain ⟨grows, unchanged⟩ := generations current object found stored sameUid
  rw [kept] at positive latest
  have bounded := observed positive
  have same : object.objectMeta.generation = current.objectMeta.generation := by omega
  obtain ⟨spec, marked⟩ := unchanged.mp same
  exact ⟨⟨positive, latest.trans same⟩, spec, marked⟩

/-- A step that keeps the observed generation does not run ahead of the generation. -/
theorem Observed.step (observed : Observed current) (generations : Generations world next)
    (found : world.stored = some current) (stored : next.stored = some object)
    (sameUid : object.objectMeta.uid = current.objectMeta.uid)
    (kept : object.status.observedGeneration = current.status.observedGeneration) :
    Observed object := by
  intro positive
  rw [kept] at positive ⊢
  exact Int.le_trans (observed positive) (generations current object found stored sameUid).1

/-- A reconcile in flight: what it has read is still asked for if the object is up to
date, and under every version that it was told. -/
structure Lineage (key : NamespacedName) (world : World kind) (read : Object kind)
    (rest : Trace (Object kind)) : Prop where
  current : ∀ object, world.stored = some object → UpToDate object → SameRequest read object
  told : ∀ event ∈ (⟨.get key, .ok read⟩ :: rest : Trace (Object kind)), ∀ version,
    Object.view.learns event.request event.answer = some version →
    ∀ object, world.stored = some object → object.objectMeta.resourceVersion = version →
      SameRequest read object

/-- All that is stored asks for what was read. -/
theorem Lineage.of_all (same : ∀ object, world.stored = some object → SameRequest read object) :
    Lineage key world read rest :=
  ⟨fun object found _ => same object found, fun _ _ _ _ object found _ => same object found⟩

/-- An event that tells no version. -/
theorem Lineage.snoc (lineage : Lineage key world read rest) {request : Request (Object kind)}
    {reply : request.Answer} (silent : Object.view.learns request reply = none) :
    Lineage key world read (rest ++ [⟨request, reply⟩]) := by
  refine ⟨lineage.current, fun event member version learned => ?_⟩
  rw [← List.cons_append] at member
  rcases List.mem_append.mp member with earlier | last
  · exact lineage.told event earlier version learned
  · cases List.mem_singleton.mp last
    rw [silent] at learned
    cases learned

/-- What is known of the stored object and of a reconcile in flight. -/
structure Traced (key : NamespacedName)
    (config : Config (@Request.Answer (Object kind)) (World kind) (Result × Option GoError)) :
    Prop where
  observed : ∀ object, config.world.stored = some object → Observed object
  lineage : ∀ activity, config.activity = some activity → ∀ read rest,
    activity.1 = ⟨.get key, .ok read⟩ :: rest → Lineage key config.world read rest

section Foreign

variable {activity : Option (Trace (Object kind) × Prog (Object kind) (Result × Option GoError))}

/-- Users change the request under a new version only. -/
theorem Traced.foreign (traced : Traced key ⟨world, activity⟩)
    (known : ∀ running, activity = some running → ∀ event ∈ running.1, ∀ version,
      Object.view.learns event.request event.answer = some version → version < world.nextVersion)
    (move : (generational key).foreign world next) : Traced key ⟨next, activity⟩ := by
  obtain ⟨moved, generations⟩ := move
  have created : ∀ {object : Object kind}, object.status = {} → ¬ UpToDate object := by
    rintro object empty ⟨positive, -⟩
    rw [empty] at positive
    exact positive rfl
  constructor
  · intro object stored
    rcases moved.origin stored with ⟨before, found, preserved, -⟩ | ⟨-, empty, -⟩
    · exact (traced.observed before found).step generations found stored preserved.uid
        (congrArg Status.observedGeneration preserved.status)
    · intro positive
      rw [empty] at positive
      exact absurd rfl positive
  · intro running same read rest split
    have lineage := traced.lineage running same read rest split
    refine ⟨fun object stored upToDate => ?_, fun event member version learned object stored
      matching => ?_⟩
    · rcases moved.origin stored with ⟨before, found, preserved, -⟩ | ⟨-, empty, -⟩
      · obtain ⟨earlier, unchanged⟩ := upToDate.before (traced.observed before found) generations
          found stored preserved.uid (congrArg Status.observedGeneration preserved.status)
        exact (lineage.current before found earlier).trans unchanged
      · exact absurd upToDate (created empty)
    · by_cases unchanged : next.stored = world.stored
      · exact lineage.told event member version learned object (unchanged ▸ stored) matching
      · have lt := known running same event (split ▸ member) version learned
        have le : world.nextVersion ≤ object.objectMeta.resourceVersion :=
          ((optimistic key).fresh _ _ moved unchanged object stored).1
        rw [matching] at le
        exact absurd lt (Nat.not_lt_of_le le)

end Foreign

section Answers

variable {request : Request (Object kind)} {reply : request.Answer}
  {resume : request.Answer → Prog (Object kind) (Result × Option GoError)}

/-- A write that is accepted meets the state that the reconcile knows. -/
theorem write_known
    (reachable : (generational key).Reachable (r.reconcile key) .empty
      ⟨world, some (trace, .call request resume)⟩)
    (writes : request = .update written ∨ request = .updateStatus written)
    (matching : Current world written current) :
    Object.view.revision current = Object.view.revision written ∧
      ∃ event ∈ trace, Object.view.learns event.request event.answer =
        some current.objectMeta.resourceVersion := by
  have base := reachable_of_generational reachable
  obtain ⟨guarded, -⟩ := base.guarded (reconcile_guarded r key) _ rfl
  obtain ⟨status, knows⟩ : ∃ status, Object.view.Knows trace (Object.view.revision written)
      status := by
    rcases writes with rfl | rfl
    · exact guarded
    · obtain ⟨status, knows, -⟩ := guarded
      exact ⟨status, knows⟩
  obtain ⟨revised, -⟩ := (reliable key).coherent (fun _ absent => by cases absent) base _ rfl
    _ _ knows current matching.1 matching.2.2
  refine ⟨revised, ?_⟩
  obtain ⟨event, member, learned⟩ := knows.learned
  exact ⟨event, member, learned.trans (congrArg some matching.2.2.symm)⟩

/-- What an answer to a reconcile does to the stored object: nothing, or it stores the
same request, with the observed generation as it was or that of a declaration that
succeeded. -/
inductive Leaves (libraries : Libraries) (trace : Trace (Object kind))
    (request : Request (Object kind)) (reply : request.Answer) (world after : World kind) :
    Prop where
  | unmoved (same : after = world)
      (silent : (∃ key, request = .get key) ∨ Object.view.learns request reply = none)
  | wrote (current : Object kind) (found : world.stored = some current)
      (known : ∃ event ∈ trace, Object.view.learns event.request event.answer =
        some current.objectMeta.resourceVersion)
      (left : ∀ object, after.stored = some object →
        SameRequest current object ∧
        object.objectMeta.generation = current.objectMeta.generation ∧
        (object.status.observedGeneration = current.status.observedGeneration ∨
          object.status.observedGeneration = current.objectMeta.generation ∧
            Declared libraries trace current))

/-- An update of a reconcile stores the request that it has read. -/
theorem update_leaves
    {resume : Except ApiError Version → Prog (Object kind) (Result × Option GoError)}
    {version : Version} {reply : Except ApiError Version}
    (reachable : (generational key).Reachable (r.reconcile key) .empty
      ⟨world, some (trace, .call (.update written) resume)⟩)
    (updates : Updates world written version after) (generations : Generations world after) :
    Leaves r.libraries trace (.update written) reply world after := by
  obtain ⟨current, matching, stores⟩ := updates
  obtain ⟨revised, known⟩ := write_known reachable (.inl rfl) matching
  refine .wrote current matching.1 known fun object stored => ?_
  have same : SameRequest current object := by
    rw [stores.found stored]
    exact ⟨(congrArg Revision.spec revised).symm, rfl⟩
  have sameUid : object.objectMeta.uid = current.objectMeta.uid := by
    rw [stores.found stored]
    exact matching.2.1.symm
  obtain ⟨-, unchanged⟩ := generations current object matching.1 stored sameUid
  refine ⟨same, unchanged.mpr ⟨same.spec, same.marked⟩, .inl ?_⟩
  rw [stores.found stored]
  rfl

/-- A status write stores the same request, with a generation that was declared. -/
theorem updateStatus_leaves
    {resume : Except ApiError Version → Prog (Object kind) (Result × Option GoError)}
    {version : Version} {reply : Except ApiError Version}
    (reachable : (generational key).Reachable (r.reconcile key) .empty
      ⟨world, some (trace, .call (.updateStatus written) resume)⟩)
    (updates : UpdatesStatus world written version after) (generations : Generations world after) :
    Leaves r.libraries trace (.updateStatus written) reply world after := by
  obtain ⟨current, matching, stores⟩ := updates
  obtain ⟨revised, known⟩ := write_known reachable (.inr rfl) matching
  refine .wrote current matching.1 known fun object stored => ?_
  have content := stores.found stored
  have same : SameRequest current object := by
    rw [content]
    exact ⟨rfl, rfl⟩
  have sameUid : object.objectMeta.uid = current.objectMeta.uid := by
    rw [content]
    rfl
  have status : object.status = written.status := by
    rw [content]
    rfl
  obtain ⟨-, unchanged⟩ := generations current object matching.1 stored sameUid
  refine ⟨same, unchanged.mpr ⟨same.spec, same.marked⟩, ?_⟩
  rw [status]
  obtain ⟨-, keeps | ⟨declared, observed⟩⟩ := statusWrite_permitted reachable matching
  · exact .inl keeps.observed
  · refine .inr ⟨observed.trans (congrArg Revision.generation revised).symm, ?_⟩
    obtain ⟨before, declaring, last, declarant, result, split, exec, uid, spec⟩ := declared
    exact ⟨before, declaring, last, declarant, result, split, exec,
      uid.trans (congrArg Revision.uid revised).symm,
      spec.trans (congrArg Revision.spec revised).symm⟩

/-- So it is with every answer. -/
theorem answer_leaves
    (reachable : (generational key).Reachable (r.reconcile key) .empty
      ⟨world, some (trace, .call request resume)⟩)
    (answered : (generational key).answers world request reply after) :
    Leaves r.libraries trace request reply world after := by
  obtain ⟨answers, generations⟩ := answered
  cases request with
  | get key => exact .unmoved answers.1 (.inl ⟨key, rfl⟩)
  | update written =>
      cases reply with
      | ok version => exact update_leaves reachable answers generations
      | error err =>
          rcases answers with same | ⟨version, updates⟩
          · exact .unmoved same (.inr rfl)
          · exact update_leaves reachable updates generations
  | updateStatus written =>
      cases reply with
      | ok version => exact updateStatus_leaves reachable answers generations
      | error err =>
          rcases answers with same | ⟨version, updates⟩
          · exact .unmoved same (.inr rfl)
          · exact updateStatus_leaves reachable updates generations
  | _ => exact .unmoved answers (.inr rfl)

/-- The stored object that a write meets asks for what was read. -/
theorem Lineage.known (lineage : Lineage key world read rest) (found : world.stored = some current)
    (known : ∃ event ∈ (⟨.get key, .ok read⟩ :: rest : Trace (Object kind)),
      Object.view.learns event.request event.answer =
        some current.objectMeta.resourceVersion) : SameRequest read current := by
  obtain ⟨event, member, learned⟩ := known
  exact lineage.told event member _ learned current found rfl

/-- One more answer keeps what is known of the reconcile in flight. -/
theorem Traced.answer (other : kind ≠ .user)
    (reachable : (generational key).Reachable (r.reconcile key) .empty
      ⟨world, some (trace, .call request resume)⟩)
    (traced : Traced key ⟨world, some (trace, .call request resume)⟩)
    (answered : (generational key).answers world request reply after) :
    Traced key ⟨after, some (trace ++ [⟨request, reply⟩], resume reply)⟩ := by
  have leaves := answer_leaves reachable answered
  constructor
  · intro object stored
    cases leaves with
    | unmoved same => exact traced.observed object (same ▸ stored)
    | wrote current found known left =>
        obtain ⟨-, generation, kept | ⟨observed, -⟩⟩ := left object stored
        · intro positive
          rw [kept] at positive ⊢
          exact generation ▸ traced.observed current found positive
        · exact fun _ => Int.le_of_eq (observed.trans generation.symm)
  · intro activity running read rest split
    cases running
    cases reachable_stage other reachable _ rfl with
    | fresh main =>
        obtain ⟨rfl, -⟩ := Program.call.inj main
        obtain ⟨first, rfl⟩ := List.cons.inj split
        cases first
        obtain ⟨⟨rfl, found⟩, -⟩ := answered
        refine .of_all fun object stored => ?_
        rw [Option.some.inj (stored.symm.trans (found read rfl))]
        exact .refl read
    | reading began asked asks =>
        obtain ⟨first, rfl⟩ := List.cons.inj split
        cases first
        have lineage := traced.lineage _ rfl read _ rfl
        cases leaves with
        | unmoved same silent =>
            subst same
            refine lineage.snoc (silent.resolve_left ?_)
            rintro ⟨again, rfl⟩
            exact asks.1
        | wrote current found known left =>
            have meets := lineage.known found known
            exact .of_all fun object stored => meets.trans (left object stored).1

end Answers

/-- In every run the stored object and the reconcile in flight are so related. -/
theorem reachable_traced (other : kind ≠ .user)
    {config : Config (@Request.Answer (Object kind)) (World kind) (Result × Option GoError)}
    (reachable : (generational key).Reachable (r.reconcile key) .empty config) :
    Traced key config := by
  induction reachable with
  | refl => exact ⟨fun _ absent => (by cases absent), fun _ absent => (by cases absent)⟩
  | tail earlier step ih =>
      cases step with
      | foreign move =>
          have bounded := (optimistic key).bounded (fun _ absent => by cases absent)
            (reachable_of_generational earlier)
          exact ih.foreign bounded.2 move
      | start =>
          refine ⟨ih.observed, fun activity running read rest split => ?_⟩
          cases running
          cases split
      | answer answered => exact ih.answer other earlier answered
      | stop => exact ⟨ih.observed, fun _ absent => by cases absent⟩

end TopologyOperator.ApiServer
