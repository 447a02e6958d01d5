import Mathlib.Logic.Function.Basic
import TopologyOperator.Dialogue.History

/-!
# Programs in parallel

`Reachable.map` looks at a run through a view of the world: if every move of one
environment is, seen through the view, a move of another, then the run is one of the
other environment.

A `System` is a family of members that share a world, each with programs and requests of
its own. Their activities are interleaved in any order. `Projects` says how one member
sees the system: its own answers are answers of an environment of its own, and everything
else, the requests of the other members included, are foreign moves of that environment.
What a member is known to ask for may be used to show so, although what is known of it
is known of its own environment only.

`Reachable.absorb` goes the other way: a member that does nothing but what other parties
may do is taken out of the system. `Reachable.settles` runs one member to its end while
the others rest.
-/

namespace Dialogue

universe u v w x y

namespace Environment

variable {Call : Type u} {Answer : Call → Type v} {α : Type w} {σ : Type x} {τ : Type y}

theorem Reachable.drift {env : Environment Answer σ} {main : Program Call Answer α}
    {initial world next : σ} {activity : Option (List (Event Answer) × Program Call Answer α)}
    (reachable : env.Reachable main initial ⟨world, activity⟩) (drift : env.Drift world next) :
    env.Reachable main initial ⟨next, activity⟩ := by
  induction drift with
  | refl => exact reachable
  | tail _ move ih => exact Relation.ReflTransGen.tail ih (.foreign move)

/-- A run, seen through a view of the world. -/
theorem Reachable.map {env : Environment Answer σ} {other : Environment Answer τ}
    {main : Program Call Answer α} {initial : σ} {config : Config Answer σ α} (view : σ → τ)
    (foreign : ∀ world next, env.foreign world next → other.Drift (view world) (view next))
    (answers : ∀ world request reply after, env.answers world request reply after →
      other.answers (view world) request reply (view after))
    (reachable : env.Reachable main initial config) :
    other.Reachable main (view initial) ⟨view config.world, config.activity⟩ := by
  induction reachable with
  | refl => exact .refl
  | tail _ step ih =>
      cases step with
      | foreign move => exact ih.drift (foreign _ _ move)
      | start => exact Relation.ReflTransGen.tail ih .start
      | answer answered => exact ih.answer _ (answers _ _ _ _ answered)
      | stop => exact Relation.ReflTransGen.tail ih .stop

end Environment

variable {ι : Type u} {Call : ι → Type v} {Value : ι → Type w} {σ : Type x}

/-- A family of members with a shared world: what other parties may do to it, how it
answers each member, when a member at rest takes up a program, and when it is done. -/
structure System {ι : Type u} {Call : ι → Type v} (Answer : ∀ i, Call i → Type v)
    (Value : ι → Type w) (σ : Type x) where
  foreign : σ → σ → Prop
  answers : ∀ i, σ → (request : Call i) → Answer i request → σ → Prop
  launches : ∀ i, σ → Program (Call i) (Answer i) (Value i) → σ → Prop
  retires : ∀ i, σ → List (Event (Answer i)) → Program (Call i) (Answer i) (Value i) → σ → Prop

namespace System

variable {Answer : ∀ i, Call i → Type v}

/-- The shared world, and the activity of each member that is in flight. -/
structure Config (Answer : ∀ i, Call i → Type v) (Value : ι → Type w) (σ : Type x) where
  world : σ
  activities : ∀ i, Option (List (Event (Answer i)) × Program (Call i) (Answer i) (Value i))

variable [DecidableEq ι] (system : System Answer Value σ)

/-- One step of the system: other parties move, or one member does. -/
inductive Step : Config Answer Value σ → Config Answer Value σ → Prop where
  | foreign {world next : σ} {activities} (move : system.foreign world next) :
      Step ⟨world, activities⟩ ⟨next, activities⟩
  | launch {world after : σ} {activities} (i : ι) {program} (idle : activities i = none)
      (launched : system.launches i world program after) :
      Step ⟨world, activities⟩ ⟨after, Function.update activities i (some ([], program))⟩
  | answer {world after : σ} {activities} (i : ι) {trace request next reply}
      (running : activities i = some (trace, .call request next))
      (answered : system.answers i world request reply after) :
      Step ⟨world, activities⟩ ⟨after,
        Function.update activities i (some (trace ++ [⟨request, reply⟩], next reply))⟩
  | retire {world after : σ} {activities} (i : ι) {trace program}
      (running : activities i = some (trace, program))
      (retired : system.retires i world trace program after) :
      Step ⟨world, activities⟩ ⟨after, Function.update activities i none⟩

/-- The configurations reachable from a world in which all members rest. -/
def Reachable (initial : σ) : Config Answer Value σ → Prop :=
  Relation.ReflTransGen system.Step ⟨initial, fun _ => none⟩

section Projects

variable {τ : ι → Type y}

/-- How each member sees the system. What a member has reached in its own environment
may be used to show that its requests are foreign moves of the other members. -/
structure Projects (main : ∀ i, Program (Call i) (Answer i) (Value i))
    (env : ∀ i, Environment (Answer i) (τ i)) (view : ∀ i, σ → τ i) (initial : σ) : Prop where
  foreign : ∀ world next, system.foreign world next →
    ∀ i, (env i).Drift (view i world) (view i next)
  launches : ∀ i world program after, system.launches i world program after →
    program = main i ∧ after = world
  retires : ∀ i world trace program after, system.retires i world trace program after →
    after = world
  own : ∀ i world request reply after, system.answers i world request reply after →
    (env i).answers (view i world) request reply (view i after)
  others : ∀ i j, j ≠ i → ∀ world trace request next reply after,
    (env i).Reachable (main i) (view i initial) ⟨view i world, some (trace, .call request next)⟩ →
    system.answers i world request reply after → (env j).Drift (view j world) (view j after)

variable {system} {main : ∀ i, Program (Call i) (Answer i) (Value i)}
  {env : ∀ i, Environment (Answer i) (τ i)} {view : ∀ i, σ → τ i} {initial : σ}

/-- The activity of one member is replaced. -/
theorem reachable_update {i j : ι} {world : σ}
    {activities : ∀ i, Option (List (Event (Answer i)) × Program (Call i) (Answer i) (Value i))}
    {activity : Option (List (Event (Answer i)) × Program (Call i) (Answer i) (Value i))}
    (others : j ≠ i → (env j).Reachable (main j) (view j initial) ⟨view j world, activities j⟩)
    (own : (env i).Reachable (main i) (view i initial) ⟨view i world, activity⟩) :
    (env j).Reachable (main j) (view j initial)
      ⟨view j world, Function.update activities i activity j⟩ := by
  by_cases same : j = i
  · subst same
    rwa [Function.update_self]
  · rw [Function.update_of_ne same]
    exact others same

/-- Whatever is interleaved, each member is in a run of its own environment. -/
theorem Projects.reachable (projects : system.Projects main env view initial)
    {config : Config Answer Value σ} (reachable : system.Reachable initial config) (i : ι) :
    (env i).Reachable (main i) (view i initial) ⟨view i config.world, config.activities i⟩ := by
  induction reachable generalizing i with
  | refl => exact .refl
  | @tail config next _ step ih =>
      have here : ∀ j activity, config.activities j = activity →
          (env j).Reachable (main j) (view j initial) ⟨view j config.world, activity⟩ :=
        fun j activity same => same ▸ ih j
      cases step with
      | foreign move => exact (ih i).drift (projects.foreign _ _ move i)
      | launch j idle launched =>
          obtain ⟨rfl, rfl⟩ := projects.launches _ _ _ _ launched
          exact reachable_update (fun _ => ih i) (Relation.ReflTransGen.tail (here j _ idle) .start)
      | retire j running retired =>
          cases projects.retires _ _ _ _ _ retired
          have stopped := Relation.ReflTransGen.tail (here j _ running) .stop
          exact reachable_update (fun _ => ih i) stopped
      | answer j running answered =>
          have before := here j _ running
          refine reachable_update (fun different => (ih i).drift ?_)
            (before.answer _ (projects.own _ _ _ _ _ answered))
          exact projects.others j i different _ _ _ _ _ _ before answered

end Projects

variable {system} {initial : σ} {config : Config Answer Value σ}

theorem Reachable.mono {weaker : System Answer Value σ}
    (reachable : system.Reachable initial config)
    (foreign : ∀ world next, system.foreign world next → weaker.foreign world next)
    (answers : ∀ i world request reply after, system.answers i world request reply after →
      weaker.answers i world request reply after)
    (launches : ∀ i world program after, system.launches i world program after →
      weaker.launches i world program after)
    (retires : ∀ i world trace program after, system.retires i world trace program after →
      weaker.retires i world trace program after) : weaker.Reachable initial config := by
  induction reachable with
  | refl => exact .refl
  | tail _ step ih =>
      apply Relation.ReflTransGen.tail ih
      cases step with
      | foreign move => exact .foreign (foreign _ _ move)
      | launch i idle launched => exact .launch i idle (launches _ _ _ _ launched)
      | answer i running answered => exact .answer i running (answers _ _ _ _ _ answered)
      | retire i running retired => exact .retire i running (retires _ _ _ _ _ retired)

/-- Other parties move any number of times. -/
theorem Reachable.drift {world next : σ}
    {activities : ∀ i, Option (List (Event (Answer i)) × Program (Call i) (Answer i) (Value i))}
    (reachable : system.Reachable initial ⟨world, activities⟩)
    (drift : Relation.ReflTransGen system.foreign world next) :
    system.Reachable initial ⟨next, activities⟩ := by
  induction drift with
  | refl => exact reachable
  | tail _ move ih => exact Relation.ReflTransGen.tail ih (.foreign move)

/-- What a step does to one member: nothing, or the member takes up a program, is
answered, or is done. -/
theorem Step.activity {config next : Config Answer Value σ} (step : system.Step config next)
    (i : ι) :
    next.activities i = config.activities i ∨
    (∃ program, next.activities i = some ([], program) ∧
      system.launches i config.world program next.world) ∨
    (∃ trace request resume reply, config.activities i = some (trace, .call request resume) ∧
      next.activities i = some (trace ++ [⟨request, reply⟩], resume reply) ∧
      system.answers i config.world request reply next.world) ∨
    next.activities i = none := by
  cases step with
  | foreign => exact .inl rfl
  | launch j idle launched =>
      by_cases same : i = j
      · subst same
        exact .inr (.inl ⟨_, Function.update_self .., launched⟩)
      · exact .inl (Function.update_of_ne same ..)
  | answer j running answered =>
      by_cases same : i = j
      · subst same
        exact .inr (.inr (.inl ⟨_, _, _, _, running, Function.update_self .., answered⟩))
      · exact .inl (Function.update_of_ne same ..)
  | retire j running retired =>
      by_cases same : i = j
      · subst same
        exact .inr (.inr (.inr (Function.update_self ..)))
      · exact .inl (Function.update_of_ne same ..)

/-- An invariant of the world and the activity of one member. -/
theorem Reachable.member {i : ι}
    (invariant : σ → List (Event (Answer i)) → Program (Call i) (Answer i) (Value i) → Prop)
    (launches : ∀ world program after, system.launches i world program after →
      invariant after [] program)
    (answers : ∀ config next trace request resume reply, system.Reachable initial config →
      system.Step config next → config.activities i = some (trace, .call request resume) →
      invariant config.world trace (.call request resume) →
      system.answers i config.world request reply next.world →
      invariant next.world (trace ++ [⟨request, reply⟩]) (resume reply))
    (others : ∀ config next trace program, system.Reachable initial config →
      system.Step config next → invariant config.world trace program →
      invariant next.world trace program)
    (reachable : system.Reachable initial config) :
    ∀ activity, config.activities i = some activity →
      invariant config.world activity.1 activity.2 := by
  induction reachable with
  | refl => exact fun _ absent => by cases absent
  | tail earlier step ih =>
      intro activity running
      rcases step.activity i with same | ⟨program, taken, launched⟩ |
          ⟨trace, request, resume, reply, before, after, answered⟩ | absent
      · exact others _ _ _ _ earlier step (ih activity (same.symm.trans running))
      · cases taken.symm.trans running
        exact launches _ _ _ launched
      · cases after.symm.trans running
        exact answers _ _ _ _ _ _ earlier step before (ih _ before) answered
      · cases absent.symm.trans running

/-- If all programs that a member takes up keep to a guard, so does its activity. -/
theorem Reachable.guarded {i : ι} {guard : List (Event (Answer i)) → Call i → Prop}
    {post : Value i → List (Event (Answer i)) → Prop}
    (launched : ∀ world program after, system.launches i world program after →
      program.Guarded guard post [])
    (reachable : system.Reachable initial config) :
    ∀ activity, config.activities i = some activity →
      activity.2.Guarded guard post activity.1 :=
  reachable.member (fun _ trace program => program.Guarded guard post trace) launched
    (fun _ _ _ _ _ reply _ _ _ guarded _ => guarded.2 reply) fun _ _ _ _ _ _ guarded => guarded

/-- What the activity of a member still does completes an execution of a program that the
member has taken up. -/
theorem Reachable.exec {i : ι} (reachable : system.Reachable initial config) :
    ∀ activity, config.activities i = some activity →
      ∃ world program after, system.launches i world program after ∧
        ∀ suffix outcome, activity.2.Exec suffix outcome →
          program.Exec (activity.1 ++ suffix) outcome := by
  refine reachable.member (fun _ trace remaining =>
    ∃ world program after, system.launches i world program after ∧
      ∀ suffix outcome, remaining.Exec suffix outcome → program.Exec (trace ++ suffix) outcome)
    ?_ ?_ ?_
  · intro world program after launched
    exact ⟨world, program, after, launched, fun _ _ exec => exec⟩
  · rintro _ _ trace request resume reply - - - ⟨world, program, after, launched, completes⟩ -
    refine ⟨world, program, after, launched, fun suffix outcome exec => ?_⟩
    rw [List.append_assoc]
    exact completes _ outcome ⟨_, suffix, rfl, exec⟩
  · exact fun _ _ _ _ _ _ completes => completes

/-- The member can take a step. -/
inductive Enabled (system : System Answer Value σ) (config : Config Answer Value σ) (i : ι) :
    Prop where
  | launch {program after} (idle : config.activities i = none)
      (launches : system.launches i config.world program after)
  | answer {trace request resume reply after}
      (running : config.activities i = some (trace, .call request resume))
      (answers : system.answers i config.world request reply after)
  | retire {trace program after} (running : config.activities i = some (trace, program))
      (retires : system.retires i config.world trace program after)

/-- One member is answered while the others rest. -/
theorem Reachable.answer {i : ι} {world after : σ} {trace : List (Event (Answer i))}
    {activities : ∀ i, Option (List (Event (Answer i)) × Program (Call i) (Answer i) (Value i))}
    {request : Call i} {next : Answer i request → Program (Call i) (Answer i) (Value i)}
    (reachable : system.Reachable initial
      ⟨world, Function.update activities i (some (trace, .call request next))⟩)
    (reply : Answer i request) (answered : system.answers i world request reply after) :
    system.Reachable initial
      ⟨after, Function.update activities i (some (trace ++ [⟨request, reply⟩], next reply))⟩ := by
  have step := Relation.ReflTransGen.tail reachable
    (.answer i (Function.update_self i _ activities) answered)
  rwa [Function.update_idem] at step

section Focus

variable {τ : Type y}

/-- A part of the world that can be looked at and replaced. -/
structure Focus (view : σ → τ) (put : σ → τ → σ) : Prop where
  put_view : ∀ world, put world (view world) = world
  view_put : ∀ world seen, view (put world seen) = seen
  put_put : ∀ world seen later, put (put world seen) later = put world later

/-- A stretch of a run of a member in its part of the world is one of the system. -/
theorem Reachable.answered {i : ι} {env : Environment (Answer i) τ} {view : σ → τ}
    {put : σ → τ → σ} {world : σ} {last : τ}
    {activities : ∀ i, Option (List (Event (Answer i)) × Program (Call i) (Answer i) (Value i))}
    {trace suffix : List (Event (Answer i))} {program final : Program (Call i) (Answer i) (Value i)}
    (focus : Focus view put)
    (answers : ∀ world request reply seen, env.answers (view world) request reply seen →
      system.answers i world request reply (put world seen))
    (reachable : system.Reachable initial
      ⟨world, Function.update activities i (some (trace, program))⟩)
    (answered : env.Answered program (view world) suffix final last) :
    system.Reachable initial
      ⟨put world last, Function.update activities i (some (trace ++ suffix, final))⟩ := by
  generalize seeing : view world = seen at answered
  induction answered generalizing world trace with
  | refl =>
      rw [List.append_nil, ← seeing, focus.put_view]
      exact reachable
  | @call request rest now after last reply later final replied _ ih =>
      have next := reachable.answer reply (answers world request reply after (seeing ▸ replied))
      have reached := ih next (focus.view_put ..)
      rwa [focus.put_put, List.append_assoc] at reached

/-- Where a member settles in its part of the world, the system gets as well. -/
theorem Reachable.settles {i : ι} {env : Environment (Answer i) τ} {view : σ → τ}
    {put : σ → τ → σ} {post : Value i → τ → Prop} {world : σ}
    {activities : ∀ i, Option (List (Event (Answer i)) × Program (Call i) (Answer i) (Value i))}
    {trace : List (Event (Answer i))} {program : Program (Call i) (Answer i) (Value i)}
    (focus : Focus view put)
    (answers : ∀ world request reply seen, env.answers (view world) request reply seen →
      system.answers i world request reply (put world seen))
    (reachable : system.Reachable initial
      ⟨world, Function.update activities i (some (trace, program))⟩)
    (settles : env.Settles post program (view world)) :
    env.Settles (fun value now => post value now ∧ ∃ later, system.Reachable initial
      ⟨put world now, Function.update activities i (some (later, .done value))⟩)
      program (view world) := by
  induction program generalizing world trace with
  | done value =>
      refine ⟨settles, trace, ?_⟩
      rw [focus.put_view]
      exact reachable
  | abort => exact settles
  | call request rest ih =>
      obtain ⟨answered, goesOn⟩ := settles
      refine ⟨answered, fun reply seen replied => ?_⟩
      have next := reachable.answer reply (answers world request reply seen replied)
      have settled := ih reply next ((focus.view_put world seen).symm ▸ goesOn reply seen replied)
      rw [focus.view_put] at settled
      refine settled.weaken fun value now => ?_
      rw [focus.put_put]
      exact id

end Focus

end System

section Absorb

variable {ι : Type u} {Call : Option ι → Type v} {Answer : ∀ i, Call i → Type v}
  {Value : Option ι → Type w} {σ : Type x} [DecidableEq ι]

namespace System

/-- The system without the member `none`. -/
def Config.others (config : Config Answer Value σ) :
    Config (fun i : ι => Answer (some i)) (fun i => Value (some i)) σ :=
  ⟨config.world, fun i => config.activities (some i)⟩

theorem others_update_none {world : σ}
    {activities : ∀ i, Option (List (Event (Answer i)) × Program (Call i) (Answer i) (Value i))}
    {activity : Option (List (Event (Answer none)) ×
      Program (Call none) (Answer none) (Value none))} :
    Config.others ⟨world, Function.update activities none activity⟩ =
      Config.others ⟨world, activities⟩ := by
  refine congrArg (Config.mk world) (funext fun i => ?_)
  exact Function.update_of_ne (Option.some_ne_none i) activity activities

theorem others_update_some {world : σ} {j : ι}
    {activities : ∀ i, Option (List (Event (Answer i)) × Program (Call i) (Answer i) (Value i))}
    {activity : Option (List (Event (Answer (some j))) ×
      Program (Call (some j)) (Answer (some j)) (Value (some j)))} :
    Config.others ⟨world, Function.update activities (some j) activity⟩ =
      ⟨world, Function.update (fun i => activities (some i)) j activity⟩ := by
  refine congrArg (Config.mk world) (funext fun i => ?_)
  by_cases same : i = j
  · subst same
    rw [Function.update_self]
    exact Function.update_self (some i) activity activities
  · rw [Function.update_of_ne same]
    exact Function.update_of_ne (fun equal => same (Option.some.inj equal)) activity activities

/-- A member whose answers are moves of other parties can be counted among these. What it
has reached, and what the others have reached without it, may be used to show so. -/
theorem Reachable.absorb {system : System Answer Value σ}
    {rest : System (fun i : ι => Answer (some i)) (fun i => Value (some i)) σ} {initial : σ}
    {config : Config Answer Value σ}
    (foreign : ∀ world next, system.foreign world next → rest.foreign world next)
    (answers : ∀ i world request reply after, system.answers (some i) world request reply after →
      rest.answers i world request reply after)
    (launches : ∀ i world program after, system.launches (some i) world program after →
      rest.launches i world program after)
    (retires : ∀ i world trace program after, system.retires (some i) world trace program after →
      rest.retires i world trace program after)
    (idles : (∀ world program after, system.launches none world program after → after = world) ∧
      ∀ world trace program after, system.retires none world trace program after → after = world)
    (absorbs : ∀ config trace request resume reply after, system.Reachable initial config →
      rest.Reachable initial config.others →
      config.activities none = some (trace, .call request resume) →
      system.answers none config.world request reply after →
      Relation.ReflTransGen rest.foreign config.world after)
    (reachable : system.Reachable initial config) : rest.Reachable initial config.others := by
  induction reachable with
  | refl => exact .refl
  | tail earlier step ih =>
      cases step with
      | foreign move => exact ih.tail (.foreign (foreign _ _ move))
      | launch i idle launched =>
          cases i with
          | none =>
              cases idles.1 _ _ _ launched
              rwa [others_update_none]
          | some i =>
              rw [others_update_some]
              exact ih.tail (.launch i idle (launches i _ _ _ launched))
      | retire i running retired =>
          cases i with
          | none =>
              cases idles.2 _ _ _ _ retired
              rwa [others_update_none]
          | some i =>
              rw [others_update_some]
              exact ih.tail (.retire i running (retires i _ _ _ _ retired))
      | answer i running answered =>
          cases i with
          | none =>
              rw [others_update_none]
              exact ih.drift (absorbs _ _ _ _ _ _ earlier ih running answered)
          | some i =>
              rw [others_update_some]
              exact ih.tail (.answer i running (answers i _ _ _ _ answered))

end System

end Absorb

end Dialogue
