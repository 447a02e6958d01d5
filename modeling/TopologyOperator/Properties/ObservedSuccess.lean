import TopologyOperator.ApiServer.FreshChildren
import TopologyOperator.ApiServer.Generations
import TopologyOperator.Controller.Hindrances
import TopologyOperator.Controller.SuperStreamMemory

/-!
# The observed generation of a super stream

The field is documented as the most recent successful generation observed. It is, in
every run whose reconciles can go on (`GoesOn`): a reconcile that refuses to scale down, that
finds another number of routing keys than partitions, or that fails to create a child
records the generation as well.
-/

namespace TopologyOperator.SuperStreamServer

open Dialogue Environment Program SuperStreamReconciler

variable {permitted : SuperStream → SuperStream → Prop} {key : NamespacedName}
  {initial stream written : SuperStream} {generation : Int}
  {before after config next :
    Config (@Request.Answer SuperStream) World (Result × Option GoError)}

/-- A reconcile that has created all children stores that the super stream is ready:
the stored super stream has the spec that was reconciled, and the status names its
generation. -/
inductive Success (permitted : SuperStream → SuperStream → Prop) (key : NamespacedName)
    (initial : SuperStream) :
    Config (@Request.Answer SuperStream) World (Result × Option GoError) →
    Config (@Request.Answer SuperStream) World (Result × Option GoError) →
    SuperStream → Prop where
  | intro {world after : World} {trace : Trace SuperStream} {written : SuperStream}
      {resume : Except ApiError Version → Prog SuperStream (Result × Option GoError)}
      {reply : Except ApiError Version}
      (reachable : (generational permitted).Reachable (reconcile key) (.fresh initial)
        ⟨world, some (trace, .call (.updateStatus written) resume)⟩)
      (answered : (generational permitted).answers world (.updateStatus written) reply after)
      (completes : Completes key trace written)
      (revised : SuperStream.view.revision world.stream = SuperStream.view.revision written) :
      Success permitted key initial ⟨world, some (trace, .call (.updateStatus written) resume)⟩
        ⟨after, some (trace ++ [⟨.updateStatus written, reply⟩], resume reply)⟩ written

/-- The status names this generation. -/
def Names (generation : Int)
    (config : Config (@Request.Answer SuperStream) World (Result × Option GoError)) : Prop :=
  config.world.stream.status.observedGeneration = generation

/-- A successful reconcile of this generation has stored it, and the status has named
it ever since. -/
def Vouched (permitted : SuperStream → SuperStream → Prop) (key : NamespacedName)
    (initial : SuperStream) (generation : Int)
    (config : Config (@Request.Answer SuperStream) World (Result × Option GoError)) : Prop :=
  ∃ before after written, Success permitted key initial before after written ∧
    written.objectMeta.generation = generation ∧
    (generational permitted).Since (reconcile key) (Names generation) after config

/-- The observed generation was successful. -/
def HonestGeneration (permitted : SuperStream → SuperStream → Prop) (key : NamespacedName)
    (initial : SuperStream)
    (config : Config (@Request.Answer SuperStream) World (Result × Option GoError)) : Prop :=
  config.world.stream.status.observedGeneration ≠ 0 →
    Vouched permitted key initial config.world.stream.status.observedGeneration config

/-- A reconcile can go on: the super stream that it read has no fewer partitions than
are recorded and, if it has routing keys, one for each partition; no answer hinders
the builder loop, and no child meets more conflicts than there are retries. -/
def GoesOn (key : NamespacedName) (trace : Trace SuperStream) : Prop :=
  ∀ read rest, trace = ⟨.get key, .ok read⟩ :: rest →
    read.status.partitions.length ≤ read.spec.partitions ∧
    (read.spec.routingKeys = [] ∨ read.spec.routingKeys.length = read.spec.partitions) ∧
    (∀ event ∈ rest, ¬ Hinders read.objectMeta event.request event.answer) ∧
    ∀ place, conflictCount place rest ≤ defaultRetry

theorem GoesOn.of_append {trace later : Trace SuperStream} (goesOn : GoesOn key (trace ++ later)) :
    GoesOn key trace := by
  rintro read rest rfl
  obtain ⟨scales, counted, unhindered, tolerable⟩ := goesOn read (rest ++ later) rfl
  refine ⟨scales, counted, fun event member => ?_, fun place => ?_⟩
  · exact unhindered event (List.mem_append_left _ member)
  · have bounded := tolerable place
    rw [conflictCount_append] at bounded
    omega

theorem Vouched.step (vouched : Vouched permitted key initial generation config)
    (step : (generational permitted).Step (reconcile key) config next)
    (names : Names generation next) : Vouched permitted key initial generation next := by
  obtain ⟨before, after, written, success, same, since⟩ := vouched
  exact ⟨before, after, written, success, same, since.step step names⟩

/-- A step that keeps the observed generation. -/
theorem HonestGeneration.step (honest : HonestGeneration permitted key initial config)
    (step : (generational permitted).Step (reconcile key) config next)
    (same : next.world.stream.status.observedGeneration =
      config.world.stream.status.observedGeneration) :
    HonestGeneration permitted key initial next := by
  intro positive
  rw [same] at positive ⊢
  exact (honest positive).step step same

/-- Every status write that is accepted keeps the observed generation, is that of a
successful reconcile, or of one that refuses. -/
theorem statusWrite_permitted {world : World} {trace : Trace SuperStream}
    {resume : Except ApiError Version → Prog SuperStream (Result × Option GoError)}
    (reachable : (generational permitted).Reachable (reconcile key) (.fresh initial)
      ⟨world, some (trace, .call (.updateStatus written) resume)⟩)
    (current : world.stream.objectMeta.resourceVersion = written.objectMeta.resourceVersion) :
    SuperStream.view.revision world.stream = SuperStream.view.revision written ∧
      PermitsStatus key trace written world.stream.status := by
  obtain ⟨⟨stored, knows, permits⟩, -⟩ :=
    reachable.guarded (SuperStreamReconciler.reconcile_guarded key) _ rfl
  have start : ∀ stream, some (World.fresh initial).stream = some stream →
      stream.objectMeta.resourceVersion < (World.fresh initial).nextVersion := by
    intro stream found
    cases found
    exact Nat.lt_succ_self _
  obtain ⟨revised, recorded⟩ :=
    reliable.coherent start reachable _ rfl _ _ knows world.stream rfl current
  have recorded : world.stream.status = stored := recorded
  rw [recorded]
  exact ⟨revised, permits⟩

/-- Every child is stored under its name, and is read under its name. -/
def NamesKept (config : Config (@Request.Answer SuperStream) World (Result × Option GoError)) :
    Prop :=
  (∀ place, ∀ child ∈ config.world.children place, child.objectMeta.key = place.2) ∧
    ∀ activity, config.activity = some activity →
      ∀ event ∈ activity.1, CalledFor event.request event.answer

theorem named_push {world : World} {kind : Kind} (child : Object kind)
    (named : ∀ place, ∀ held ∈ world.children place, held.objectMeta.key = place.2) :
    ∀ place, ∀ held ∈ (world.push child).children place, held.objectMeta.key = place.2 := by
  intro place held member
  rcases mem_push member with earlier | ⟨same, rfl⟩
  · exact named place held earlier
  · subst same
    rfl

theorem namesKept_of_reachable (reachable : (generational permitted).Reachable (reconcile key)
    (.fresh initial) config) : NamesKept config := by
  induction reachable with
  | refl =>
      refine ⟨fun place child member => ?_, fun _ idle => ?_⟩
      · cases member
      · cases idle
  | tail _ step ih =>
      obtain ⟨stored, told⟩ := ih
      cases step with
      | foreign move =>
          refine ⟨?_, told⟩
          cases move.1 with
          | update => exact stored
          | touch child => exact named_push child stored
      | start => exact ⟨stored, fun _ running => by cases running; simp⟩
      | stop => exact ⟨stored, fun _ idle => by cases idle⟩
      | @answer world after trace request resume reply answered =>
          have answers : Answers world request reply after := answered.1
          constructor
          · by_cases spares : request.spares = true
            · rcases answers_of_spares spares answers with rfl | ⟨kind, child, rfl⟩
              · exact stored
              · exact named_push child stored
            cases request with
            | update written =>
                rcases ApiServer.Writes.cases answers with rfl | ⟨version, -, -, -, rfl⟩ <;>
                  exact stored
            | updateStatus written =>
                rcases ApiServer.Writes.cases answers with
                  rfl | ⟨version, -, ⟨-, rfl⟩ | ⟨-, -, rfl⟩⟩ <;> exact stored
            | _ => exact absurd rfl spares
          · intro activity running event member
            cases running
            rcases List.mem_append.mp member with earlier | last
            · exact told _ rfl event earlier
            cases List.mem_singleton.mp last
            cases request with
            | getObject kind place =>
                cases reply with
                | ok child => exact stored (kind, place) child (answers.2 child rfl)
                | error err => trivial
            | _ => trivial

/-- A reconcile that can go on does not refuse. -/
theorem not_refuses_of_goesOn {trace : Trace SuperStream} (goesOn : GoesOn key trace)
    (named : ∀ event ∈ trace, CalledFor event.request event.answer) : ¬ HasRefused key trace := by
  rintro ⟨read, resolved, rest, rmqClusterRef, rfl, resolves, cause⟩
  obtain ⟨scales, counted, unhindered, tolerable⟩ := goesOn read _ rfl
  have keyed : keysFor read ≠ none := by
    unfold keysFor
    rw [if_neg (not_lt.mpr scales)]
    split
    · exact Option.some_ne_none _
    · next given =>
        rw [if_neg (not_not.mpr (counted.resolve_left given))]
        exact Option.some_ne_none _
  rcases cause with none | ⟨routingKeys, loop, more, failure, rfl, -, exec⟩
  · exact keyed none
  · have smooth : Smooth read.objectMeta loop := by
      intro event member
      have inRest : event ∈ resolved ++ (loop ++ more) :=
        List.mem_append_right _ (List.mem_append_left _ member)
      exact ⟨unhindered event inRest, named event (.tail _ inRest)⟩
    obtain ⟨place, exhausted⟩ := createChildren_failed smooth exec
    have bounded := tolerable place
    rw [conflictCount_append, conflictCount_append] at bounded
    omega

/-- In every run all of whose reconciles can go on, the observed generation is one that
was reconciled with success. -/
theorem observed_generation_successful (permitted : SuperStream → SuperStream → Prop)
    (key : NamespacedName) (initial : SuperStream)
    {config : Config (@Request.Answer SuperStream) World (Result × Option GoError)}
    (run : (generational permitted).Since (reconcile key)
      (fun config => ∀ activity, config.activity = some activity → GoesOn key activity.1)
      ⟨.fresh initial, none⟩ config) :
    HonestGeneration permitted key initial config := by
  obtain ⟨idle, steps⟩ := run
  induction steps with
  | refl => exact fun positive => absurd rfl positive
  | @tail config next earlier last ih =>
      obtain ⟨step, goesOn⟩ := last
      have reachable : (generational permitted).Reachable (reconcile key) (.fresh initial) config :=
        earlier.lift id fun _ _ step => step.1
      have named := (namesKept_of_reachable (reachable.tail step)).2
      have carry := ih.step step
      cases step with
      | foreign move =>
          cases move.1 with
          | update stream allowed named status => exact carry (by rw [← status]; rfl)
          | touch => exact carry rfl
      | start => exact carry rfl
      | stop => exact carry rfl
      | @answer world after trace request resume reply answered =>
          have answers : Answers world request reply after := answered.1
          by_cases spares : request.spares = true
          · rcases answers_of_spares spares answers with rfl | ⟨kind, child, rfl⟩ <;>
              exact carry rfl
          cases request with
          | update written =>
              rcases ApiServer.Writes.cases answers with rfl | ⟨version, -, -, -, rfl⟩ <;>
                exact carry rfl
          | updateStatus written =>
              rcases ApiServer.Writes.cases answers with
                rfl | ⟨version, current, ⟨-, rfl⟩ | ⟨-, -, rfl⟩⟩
              · exact carry rfl
              · obtain ⟨revised, same | completes | refuses⟩ :=
                  statusWrite_permitted reachable current
                · exact carry same
                · intro _
                  refine ⟨_, _, written, .intro reachable answered completes revised,
                    completes.2.1.symm, rfl, .refl⟩
                · exact absurd (refuses.append _)
                    (not_refuses_of_goesOn (goesOn _ rfl) (named _ rfl))
              · exact carry rfl
          | _ => exact absurd rfl spares

section Example

/-- A super stream with two partitions, but only one routing key. -/
def mismatchStream : SuperStream where
  objectMeta := { name := "ledger", ns := "shop", uid := 1, resourceVersion := 1, generation := 1 }
  spec := {
    name := "ledger"
    vhost := "/"
    partitions := 2
    routingKeys := ["eu"]
    rabbitmqClusterReference := { name := "rabbit" } }

/-- There are no routing keys for the spec, whatever the status is. -/
theorem keysFor_mismatch {read : SuperStream} (same : read.spec = mismatchStream.spec) :
    keysFor read = none := by
  unfold keysFor
  rw [same]
  split
  · rfl
  · rfl

/-- The observed generation of the super stream becomes 1, although no reconcile of
that generation has created a child. -/
theorem mismatchStream_observed :
    ∃ config : Config (@Request.Answer SuperStream) World (Result × Option GoError),
      (generational Accepts).Reachable (reconcile ⟨"shop", "ledger"⟩) (.fresh mismatchStream)
        config ∧
      config.world.stream.status.observedGeneration = 1 ∧
      ¬ HonestGeneration Accepts ⟨"shop", "ledger"⟩ mismatchStream config := by
  have started : (generational Accepts).Reachable (reconcile ⟨"shop", "ledger"⟩)
      (.fresh mismatchStream) _ := .tail .refl .start
  have read := started.answer (.ok mismatchStream)
    ⟨⟨rfl, fun stream same => by cases same; rfl⟩, generations_refl _, trivial⟩
  have resolved := read.answer (.ok { objectMeta := { name := "rabbit", ns := "shop" } })
    ⟨rfl, generations_refl _, trivial⟩
  have timed := resolved.answer 7 ⟨rfl, generations_refl _, trivial⟩
  have stored := timed.answer (.ok ⟨2, 1⟩) ⟨⟨rfl, .inl ⟨rfl, rfl⟩⟩, generations_refl _, rfl⟩
  refine ⟨_, stored, rfl, fun honest => ?_⟩
  obtain ⟨_, _, written, success, generation, -⟩ := honest (by decide)
  cases success with
  | @intro world after trace written resume reply reachable answered completes revised =>
      obtain ⟨⟨read, names, ended, -, sameSpec⟩, -⟩ := completes
      have run : (generational Accepts).Since (reconcile ⟨"shop", "ledger"⟩) (fun _ => True)
          ⟨.fresh mismatchStream, none⟩ _ := ⟨trivial, reachable.lift id fun _ _ step =>
        ⟨step, trivial⟩⟩
      have storedGeneration : world.stream.objectMeta.generation = 1 :=
        (congrArg Revision.generation revised).trans generation
      have spec : world.stream.spec = mismatchStream.spec := (generations_since run).2
        storedGeneration
      have storedSpec : world.stream.spec = written.spec := congrArg Revision.spec revised
      obtain ⟨_, _, _, _, _, _, _, keyed, _⟩ := ended
      rw [keysFor_mismatch (sameSpec.trans (storedSpec.symm.trans spec))] at keyed
      cases keyed

/-- A super stream with two partitions. -/
def journalStream : SuperStream where
  objectMeta := { name := "journal", ns := "shop", uid := 1, resourceVersion := 1, generation := 1 }
  spec := {
    name := "journal"
    vhost := "/"
    partitions := 2
    routingKeys := ["eu", "us"]
    rabbitmqClusterReference := { name := "rabbit" } }

/-- The API server lets children be created, and counts generations. -/
theorem fertile_generational (permitted : SuperStream → SuperStream → Prop) :
    Fertile (generational permitted) where
  reads world key :=
    ⟨(fertile_environment permitted).reads world key, generations_refl world, trivial⟩
  misses world kind key vacant :=
    ⟨(fertile_environment permitted).misses world kind key vacant, generations_refl world, trivial⟩
  creates world _ child vacant := by
    obtain ⟨version, stored, kept, created⟩ :=
      (fertile_environment permitted).creates world child vacant
    exact ⟨version, stored, kept, created, generations_refl world, trivial⟩
  records world written current := ⟨⟨world.nextVersion, world.stream.objectMeta.generation⟩, _,
    ⟨⟨current, .inl ⟨rfl, rfl⟩⟩, generations_refl world, rfl⟩, rfl, rfl⟩
  ticks world := ⟨rfl, generations_refl world, trivial⟩

/-- A reconcile that nothing hinders goes on. -/
theorem goesOn_of_unhindered {read : SuperStream} {rest : Trace SuperStream}
    (scales : read.status.partitions.length ≤ read.spec.partitions)
    (counted : read.spec.routingKeys = [] ∨ read.spec.routingKeys.length = read.spec.partitions)
    (smooth : ∀ event ∈ rest, Unhindered read.objectMeta event) :
    GoesOn key (⟨.get key, .ok read⟩ :: rest) := by
  intro other later same
  cases same
  refine ⟨scales, counted, fun event member => (smooth event member).1, fun place => ?_⟩
  have none : conflictCount place rest = 0 :=
    List.countP_eq_zero.mpr fun event member => by simp [(smooth event member).2 place]
  omega

/-- A reconcile that goes on and records the generation. -/
theorem journalStream_run :
    ∃ config : Config (@Request.Answer SuperStream) World (Result × Option GoError),
      (generational Accepts).Since (reconcile ⟨"shop", "journal"⟩)
        (fun config => ∀ activity, config.activity = some activity →
          GoesOn ⟨"shop", "journal"⟩ activity.1) ⟨.fresh journalStream, none⟩ config ∧
      config.world.stream.status.observedGeneration = 1 := by
  have untouched : Untouched (generational Accepts) (World.fresh journalStream) _ ["eu", "us"] :=
    untouched_fresh { objectMeta := { name := "rabbit", ns := "shop" } } rfl rfl
      ⟨rfl, generations_refl _, trivial⟩
  obtain ⟨rest, after, reconciled⟩ :=
    exists_reconciled (fertile_generational Accepts) untouched ⟨"shop", "journal"⟩
  have begun : (generational Accepts).Since (reconcile ⟨"shop", "journal"⟩)
      (fun config => ∀ activity, config.activity = some activity →
        GoesOn ⟨"shop", "journal"⟩ activity.1) ⟨.fresh journalStream, none⟩
      ⟨.fresh journalStream, some ([], reconcile ⟨"shop", "journal"⟩)⟩ := by
    refine ⟨fun _ idle => (by cases idle), .single ⟨.start, fun _ running => ?_⟩⟩
    cases running
    intro read rest absurd
    cases absurd
  refine ⟨_, reconciled.answered.since begun fun earlier later same => ?_, reconciled.observed⟩
  apply GoesOn.of_append
  rw [← same]
  refine goesOn_of_unhindered (by decide) (.inr rfl) (List.forall_mem_append.mpr
    ⟨List.forall_mem_singleton.mpr ?_, reconciled.smooth⟩)
  exact ⟨id, fun _ => rfl⟩

/-- The reconcile vouches for the generation. -/
theorem journalStream_vouched :
    ∃ config : Config (@Request.Answer SuperStream) World (Result × Option GoError),
      config.world.stream.status.observedGeneration = 1 ∧
      Vouched Accepts ⟨"shop", "journal"⟩ journalStream 1 config := by
  obtain ⟨config, run, observed⟩ := journalStream_run
  have honest := observed_generation_successful Accepts ⟨"shop", "journal"⟩ journalStream run
  rw [HonestGeneration, observed] at honest
  exact ⟨config, observed, honest (by decide)⟩

end Example

end TopologyOperator.SuperStreamServer
