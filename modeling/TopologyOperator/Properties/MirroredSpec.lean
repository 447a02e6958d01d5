import TopologyOperator.ApiServer.Deployment

/-!
# The broker holds what the status says

If the status of an object names its current generation, the object is not marked for
deletion and the broker holds what its spec prescribes. This holds in every run, with
arbitrary failures, crashes and conflicts, and whatever users do to the object at the
same time, as long as nobody else touches the entity.
-/

namespace TopologyOperator.Deployment

open Dialogue Environment BrokerStore

open ApiServer (UpToDate SameRequest)

variable {kind : Kind} {key : NamespacedName} {target : Entity} {libraries : Libraries}
  {answering : (request : Request (Object kind)) → request.Answer → Prop}
  {r : TopologyReconciler} {store after : Store} {object current read : Object kind}
  {rest trace : Trace (Object kind)}

/-- The spec of the object is what the broker holds. -/
structure Mirrors (libraries : Libraries) (target : Entity) (store : Store)
    (object : Object kind) : Prop where
  unmarked : object.objectMeta.deletionTimestamp = none
  held : ∃ issued, store target = some issued ∧ Prescribes libraries object issued

theorem Mirrors.congr (mirrors : Mirrors libraries target store current)
    (request : SameRequest current object) (same : after target = store target) :
    Mirrors libraries target after object := by
  obtain ⟨unmarked, issued, held, prescribes⟩ := mirrors
  refine ⟨?_, issued, same.trans held, prescribes.congr request.spec⟩
  have marked := request.marked
  rw [unmarked] at marked
  exact Option.isNone_iff_eq_none.mp (Option.isSome_eq_false_iff.mp marked)

/-- What a reconcile in flight has defined is what the broker holds. -/
def Stands (target : Entity) (store : Store) (rest : Trace (Object kind)) : Prop :=
  Defined rest → ∃ issued reply, (⟨.broker issued, reply⟩ : Event (@Request.Answer (Object kind))) ∈
    rest ∧ issued.defines = true ∧ store target = some issued

/-- The events that define nothing can be disregarded. -/
theorem Defined.of_snoc {request : Request (Object kind)} {reply : request.Answer}
    (defined : Defined (rest ++ [⟨request, reply⟩])) :
    Defined rest ∨ ∃ issued : BrokerCall, request = .broker issued ∧ issued.defines = true := by
  obtain ⟨issued, answer, member, defines, succeeds⟩ := defined
  rcases List.mem_append.mp member with earlier | last
  · exact .inl ⟨issued, answer, earlier, defines, succeeds⟩
  · cases List.mem_singleton.mp last
    exact .inr ⟨issued, rfl, defines⟩

theorem Stands.snoc (stands : Stands target store rest) {request : Request (Object kind)}
    {reply : request.Answer} (same : after target = store target)
    (other : ∀ issued, request = .broker issued → issued.defines = false) :
    Stands target after (rest ++ [⟨request, reply⟩]) := by
  intro defined
  rcases Defined.of_snoc defined with earlier | ⟨issued, rfl, defines⟩
  · obtain ⟨issued, answer, member, defines, held⟩ := stands earlier
    exact ⟨issued, answer, List.mem_append_left _ member, defines, same.trans held⟩
  · rw [other issued rfl] at defines
    cases defines

/-- The invariant: an object that is up to date is what the broker holds, and so is what
the reconcile in flight has defined. -/
structure Mirrored (libraries : Libraries) (key : NamespacedName) (target : Entity)
    (config : Config (@Request.Answer (Object kind)) (World kind) (Result × Option GoError)) :
    Prop where
  mirrors : ∀ object, config.world.server.stored = some object → UpToDate object →
    Mirrors libraries target config.world.store object
  stands : ∀ activity, config.activity = some activity → ∀ read rest,
    activity.1 = ⟨.get key, .ok read⟩ :: rest → Stands target config.world.store rest

section Foreign

variable {world next : World kind}
  {activity : Option (Trace (Object kind) × Prog (Object kind) (Result × Option GoError))}

theorem Mirrored.foreign (mirrored : Mirrored libraries key target ⟨world, activity⟩)
    (observed : ∀ object, world.server.stored = some object → ApiServer.Observed object)
    {admits : Object kind → Prop} (move : Foreign key target admits world next) :
    Mirrored libraries key target ⟨next, activity⟩ := by
  cases move with
  | others same apart =>
      constructor
      · intro object stored upToDate
        rw [same] at stored
        exact (mirrored.mirrors object stored upToDate).congr (.refl object) apart
      · intro running inFlight read rest split defined
        obtain ⟨issued, reply, member, defines, held⟩ :=
          mirrored.stands running inFlight read rest split defined
        exact ⟨issued, reply, member, defines, apart.trans held⟩
  | user moved _ same =>
      refine ⟨fun object stored upToDate => ?_, ?_⟩
      · rcases moved.1.origin stored with ⟨before, found, preserved, -⟩ | ⟨-, empty, -⟩
        · obtain ⟨earlier, unchanged⟩ := upToDate.before (observed before found) moved.2 found
            stored preserved.uid (congrArg Status.observedGeneration preserved.status)
          exact (mirrored.mirrors before found earlier).congr unchanged (congrFun same target)
        · refine absurd ?_ upToDate.1
          rw [empty]
      · rw [same]
        exact mirrored.stands

end Foreign

section Broker

variable {issued : BrokerCall} {reply : issued.Answer}
  (named : Designates libraries target read)
  (asks : issued.entity = none ∨ Wields libraries read issued)
  (answered : BrokerStore.Answers store (.broker issued : Request (Object kind)) reply after)
include named asks answered

/-- What a call of the broker does to an object that is up to date. -/
theorem mirrors_broker (request : SameRequest read object)
    (mirrors : Mirrors libraries target store object) : Mirrors libraries target after object := by
  by_cases defines : issued.defines = true
  · obtain ⟨-, prescribes⟩ := prescribes_of_defines asks defines
    rcases answered.defined defines (prescribes.about named) with held | ⟨same, -⟩
    · exact ⟨mirrors.unmarked, issued, held, prescribes.congr request.spec⟩
    · exact mirrors.congr (.refl object) (congrFun same target)
  · have unmarked : read.objectMeta.deletionTimestamp = none := by
      have marked := request.marked
      rw [mirrors.unmarked] at marked
      exact Option.isNone_iff_eq_none.mp (Option.isSome_eq_false_iff.mp marked.symm)
    have same := answered.unchanged (Bool.eq_false_of_not_eq_true defines)
      (removes_of_unmarked asks unmarked)
    exact mirrors.congr (.refl object) (congrFun same target)

/-- What it does to what the reconcile has defined. -/
theorem stands_broker (asked : ∀ event ∈ rest, Apart (Wields libraries read) event.request)
    (stands : Stands target store rest) :
    Stands target after (rest ++ [⟨.broker issued, reply⟩]) := by
  intro defined
  by_cases defines : issued.defines = true
  · obtain ⟨-, prescribes⟩ := prescribes_of_defines asks defines
    rcases answered.defined defines (prescribes.about named) with held | ⟨rfl, failed⟩
    · exact ⟨issued, reply, List.mem_append_right _ (.head _), defines, held⟩
    · have earlier : Defined rest := by
        obtain ⟨other, answer, member, defining, succeeds⟩ := defined
        rcases List.mem_append.mp member with before | last
        · exact ⟨other, answer, before, defining, succeeds⟩
        · cases List.mem_singleton.mp last
          exact absurd succeeds failed
      obtain ⟨other, answer, member, defining, held⟩ := stands earlier
      exact ⟨other, answer, List.mem_append_left _ member, defining, held⟩
  · have undefining := Bool.eq_false_of_not_eq_true defines
    -- what was defined before was defined for an object that is not marked
    obtain ⟨other, answer, member, defining, -⟩ : Defined rest :=
      (Defined.of_snoc defined).resolve_right (by
        rintro ⟨_, ⟨⟩, defining⟩
        exact defines defining)
    obtain ⟨unmarked, -⟩ := prescribes_of_defines (asked _ member) defining
    have same := answered.unchanged undefining (removes_of_unmarked asks unmarked)
    exact stands.snoc (congrFun same target) (fun _ eq => by cases eq; exact undefining) defined

end Broker

section Answers

variable {admits : Object kind → Prop} {world later : World kind} {request : Request (Object kind)}
  {reply : request.Answer}
  {resume : request.Answer → Prog (Object kind) (Result × Option GoError)}

/-- A success that is recorded is one of the entity that the broker holds. -/
theorem mirrors_declared (other : kind ≠ .user) (request : SameRequest read current)
    (asked : ∀ event ∈ rest, Apart (Wields libraries read) event.request)
    (stands : Stands target store rest)
    (declared : Declared libraries (⟨.get key, .ok read⟩ :: rest) current) :
    Mirrors libraries target store current := by
  have defined : Defined rest := by
    obtain ⟨before, declaring, last, declarant, result, split, exec, -⟩ := declared
    have within : Defined (⟨.get key, .ok read⟩ :: rest) := by
      rw [split]
      exact ((declareFunc_defined other exec).append_left last).append_right before
    obtain ⟨issued, reply, member, holds⟩ := within
    rcases List.mem_cons.mp member with same | later
    · cases same
    · exact ⟨issued, reply, later, holds⟩
  obtain ⟨issued, reply, member, defines, held⟩ := stands defined
  obtain ⟨unmarked, prescribes⟩ := prescribes_of_defines (asked _ member) defines
  exact Mirrors.congr ⟨unmarked, issued, held, prescribes⟩ request rfl

/-- One more answer. -/
theorem Mirrored.answer
    (kept : ∀ object other : Object kind, SameRequest object other → admits object → admits other)
    (names : ∀ object, admits object → Designates r.libraries target object)
    (other : kind ≠ .user)
    (reachable : (environment key target admits answering).Reachable (r.reconcile key)
      ⟨.empty, store⟩ ⟨world, some (trace, .call request resume)⟩)
    (mirrored : Mirrored r.libraries key target ⟨world, some (trace, .call request resume)⟩)
    (answered : (environment key target admits answering).answers world request reply later) :
    Mirrored r.libraries key target
      ⟨later, some (trace ++ [⟨request, reply⟩], resume reply)⟩ := by
  have server := reachable_server reachable
  have traced := ApiServer.reachable_traced other server
  have leaves := ApiServer.answer_leaves server answered.1
  cases reachable_stage other reachable _ rfl with
  | fresh main =>
      obtain ⟨rfl, -⟩ := Program.call.inj main
      have same : later = world := by
        obtain ⟨⟨⟨server, -⟩, -⟩, unchanged, -⟩ := answered
        cases world
        cases later
        cases server
        cases unchanged
        rfl
      subst same
      refine ⟨mirrored.mirrors, fun activity running read rest split => ?_⟩
      cases running
      obtain ⟨-, rfl⟩ := List.cons.inj split
      rintro ⟨_, _, absurd, -⟩
      cases absurd
  | reading read asked asks =>
      have named := names read (read_admitted kept other reachable _ rfl read _ rfl)
      have lineage := traced.lineage _ rfl read _ rfl
      have stands := mirrored.stands _ rfl read _ rfl
      by_cases call : ∃ issued, request = .broker issued
      · obtain ⟨issued, rfl⟩ := call
        have same := server_of_broker answered
        obtain ⟨-, store, -⟩ := answered
        constructor
        · intro object stored upToDate
          rw [same] at stored
          exact mirrors_broker named asks.1 store (lineage.current object stored upToDate)
            (mirrored.mirrors object stored upToDate)
        · intro activity running began rest split
          cases running
          obtain ⟨-, rfl⟩ := List.cons.inj split
          exact stands_broker named asks.1 store asked stands
      · have elsewhere : ∀ issued, request ≠ .broker issued := fun issued same =>
          call ⟨issued, same⟩
        have same := store_of_not_broker answered elsewhere
        constructor
        · intro object stored upToDate
          rw [same]
          cases leaves with
          | unmoved unmoved => exact mirrored.mirrors object (unmoved ▸ stored) upToDate
          | wrote current found known left =>
              have meets := lineage.known found known
              obtain ⟨request, generation, kept | ⟨observed, declared⟩⟩ := left object stored
              · have earlier : UpToDate current := by
                  obtain ⟨positive, latest⟩ := upToDate
                  rw [kept] at positive latest
                  exact ⟨positive, latest.trans generation⟩
                exact (mirrored.mirrors current found earlier).congr request rfl
              · exact (mirrors_declared other meets asked stands declared).congr request rfl
        · intro activity running began rest split
          cases running
          obtain ⟨-, rfl⟩ := List.cons.inj split
          rw [same]
          exact stands.snoc rfl fun issued eq => absurd eq (elsewhere issued)

end Answers

variable {admits : Object kind → Prop}
  {config : Config (@Request.Answer (Object kind)) (World kind) (Result × Option GoError)}

theorem reachable_mirrored
    (kept : ∀ object other : Object kind, SameRequest object other → admits object → admits other)
    (names : ∀ object, admits object → Designates r.libraries target object)
    (other : kind ≠ .user)
    (reachable : (environment key target admits answering).Reachable (r.reconcile key)
      ⟨.empty, store⟩ config) : Mirrored r.libraries key target config := by
  induction reachable with
  | refl => exact ⟨fun _ absent => (by cases absent), fun _ absent => (by cases absent)⟩
  | tail earlier step ih =>
      cases step with
      | foreign move =>
          exact ih.foreign
            (ApiServer.reachable_traced other (reachable_server earlier)).observed move
      | start =>
          refine ⟨ih.mirrors, fun activity running read rest split => ?_⟩
          cases running
          cases split
      | answer answered => exact ih.answer kept names other earlier answered
      | stop => exact ⟨ih.mirrors, fun _ absent => by cases absent⟩

end TopologyOperator.Deployment
