import TopologyOperator.Dialogue.Safety

/-!
# Histories

`Guarded` is the obligation on a program that does not depend on a world: every
request satisfies a guard on the events before it. It holds of the activity of every
reachable configuration, in every environment.

`Answered` is a stretch of a run in which a program is answered and nobody else
moves, `Along` the change of the world on the way. What `Safe` promises of a program
holds at the end of such a stretch. `Settles` is total correctness if nobody else moves.
-/

namespace Dialogue

universe u v w x

variable {Call : Type u} {Answer : Call → Type v} {α β : Type w} {σ : Type x}

namespace Program

/-- Every request satisfies a guard on the events before it, and the value that is
returned a condition on all events. -/
def Guarded (guard : List (Event Answer) → Call → Prop)
    (post : α → List (Event Answer) → Prop) :
    Program Call Answer α → List (Event Answer) → Prop
  | .done value, trace => post value trace
  | .abort, _ => True
  | .call request next, trace =>
      guard trace request ∧ ∀ reply, Guarded guard post (next reply) (trace ++ [⟨request, reply⟩])

variable {guard : List (Event Answer) → Call → Prop} {post : α → List (Event Answer) → Prop}
  {trace : List (Event Answer)}

/-- Composition. -/
theorem Guarded.bind {program : Program Call Answer α} {next : α → Program Call Answer β}
    {last : β → List (Event Answer) → Prop} (first : program.Guarded guard post trace)
    (second : ∀ value later, post value later → (next value).Guarded guard last later) :
    (program.bind next).Guarded guard last trace := by
  induction program generalizing trace with
  | done value => exact second value trace first
  | abort => trivial
  | call request rest ih => exact ⟨first.1, fun reply => ih reply (first.2 reply)⟩

/-- The condition on the value may be weakened. -/
theorem Guarded.weaken {program : Program Call Answer α}
    {weaker : α → List (Event Answer) → Prop} (guarded : program.Guarded guard post trace)
    (implies : ∀ value later, post value later → weaker value later) :
    program.Guarded guard weaker trace := by
  induction program generalizing trace with
  | done value => exact implies value trace guarded
  | abort => trivial
  | call request rest ih => exact ⟨guarded.1, fun reply => ih reply (guarded.2 reply)⟩

/-- The first part of a composition keeps to the guard. -/
theorem Guarded.of_bind {program : Program Call Answer α} {next : α → Program Call Answer β}
    {last : β → List (Event Answer) → Prop}
    (guarded : (program.bind next).Guarded guard last trace) :
    program.Guarded guard (fun _ _ => True) trace := by
  induction program generalizing trace with
  | done => trivial
  | abort => trivial
  | call request rest ih => exact ⟨guarded.1, fun reply => ih reply (guarded.2 reply)⟩

/-- A program whose requests are all allowed at any time. -/
theorem Guarded.of_calls {program : Program Call Answer α} {allowed : Call → Prop}
    (calls : program.Calls allowed)
    (guarded : ∀ suffix request, allowed request → guard (trace ++ suffix) request) :
    program.Guarded guard
      (fun value later => ∃ suffix, later = trace ++ suffix ∧ program.Exec suffix (.done value))
      trace := by
  induction program generalizing trace with
  | done value => exact ⟨[], (List.append_nil _).symm, rfl, rfl⟩
  | abort => trivial
  | call request rest ih =>
      constructor
      · have first := guarded [] request calls.1
        rwa [List.append_nil] at first
      intro reply
      have later : ∀ suffix other, allowed other →
          guard ((trace ++ [⟨request, reply⟩]) ++ suffix) other := by
        intro suffix other allows
        rw [List.append_assoc]
        exact guarded _ other allows
      apply (ih reply (calls.2 reply) later).weaken
      rintro value _ ⟨suffix, rfl, exec⟩
      exact ⟨⟨request, reply⟩ :: suffix, List.append_assoc .., reply, suffix, rfl, exec⟩

/-- The value is one that the program returns after the answers it was given. -/
theorem Guarded.exec {program : Program Call Answer α}
    (guarded : program.Guarded guard post trace) :
    program.Guarded guard
      (fun value later => post value later ∧
        ∃ suffix, later = trace ++ suffix ∧ program.Exec suffix (.done value)) trace := by
  induction program generalizing trace with
  | done value => exact ⟨guarded, [], (List.append_nil _).symm, rfl, rfl⟩
  | abort => trivial
  | call request rest ih =>
      refine ⟨guarded.1, fun reply => (ih reply (guarded.2 reply)).weaken ?_⟩
      rintro value _ ⟨holds, suffix, rfl, exec⟩
      exact ⟨holds, ⟨request, reply⟩ :: suffix, List.append_assoc .., reply, suffix, rfl, exec⟩

end Program

namespace Environment

open Program

variable {env : Environment Answer σ} {main : Program Call Answer α} {initial : σ}
  {guard : List (Event Answer) → Call → Prop}

/-- Whatever the environment does, the activity in flight keeps to the guard. -/
theorem Reachable.guarded (guarded : main.Guarded guard (fun _ _ => True) [])
    {config : Config Answer σ α} (reachable : env.Reachable main initial config) :
    ∀ activity, config.activity = some activity →
      activity.2.Guarded guard (fun _ _ => True) activity.1 := by
  induction reachable with
  | refl => exact fun _ absent => by cases absent
  | tail _ step ih =>
      cases step with
      | foreign => exact ih
      | start => exact fun activity running => by cases running; exact guarded
      | answer answered =>
          have before := ih _ rfl
          exact fun activity running => by cases running; exact before.2 _
      | stop => exact fun _ absent => by cases absent

/-- What the activity in flight still does completes an execution of the program. -/
theorem Reachable.exec {config : Config Answer σ α}
    (reachable : env.Reachable main initial config) :
    ∀ activity, config.activity = some activity → ∀ suffix outcome,
      activity.2.Exec suffix outcome → main.Exec (activity.1 ++ suffix) outcome := by
  induction reachable with
  | refl => exact fun _ absent => by cases absent
  | tail _ step ih =>
      cases step with
      | foreign => exact ih
      | start => exact fun activity running => by cases running; exact fun _ _ exec => exec
      | answer =>
          intro activity running suffix outcome exec
          cases running
          rw [List.append_assoc]
          exact ih _ rfl _ outcome ⟨_, suffix, rfl, exec⟩
      | stop => exact fun _ absent => by cases absent

/-- What holds of every answer holds of the events of the activity in flight. -/
theorem Reachable.events (holds : Event Answer → Prop) {config : Config Answer σ α}
    (answers : ∀ world request reply after, env.answers world request reply after →
      holds ⟨request, reply⟩)
    (reachable : env.Reachable main initial config) :
    ∀ activity, config.activity = some activity → ∀ event ∈ activity.1, holds event := by
  induction reachable with
  | refl => exact fun _ absent => by cases absent
  | tail _ step ih =>
      cases step with
      | foreign => exact ih
      | start => exact fun activity running => by cases running; exact fun _ none => by cases none
      | answer answered =>
          intro activity running event member
          cases running
          rcases List.mem_append.mp member with earlier | last
          · exact ih _ rfl event earlier
          · cases List.mem_singleton.mp last
            exact answers _ _ _ _ answered
      | stop => exact fun _ absent => by cases absent

/-- A run of an environment that allows less is a run. -/
theorem Reachable.mono {other : Environment Answer σ} {config : Config Answer σ α}
    (foreign : ∀ world next, env.foreign world next → other.foreign world next)
    (answers : ∀ world request reply after, env.answers world request reply after →
      other.answers world request reply after)
    (reachable : env.Reachable main initial config) : other.Reachable main initial config := by
  induction reachable with
  | refl => exact .refl
  | tail _ step ih =>
      apply Relation.ReflTransGen.tail ih
      cases step with
      | foreign move => exact .foreign (foreign _ _ move)
      | start => exact .start
      | answer answered => exact .answer (answers _ _ _ _ answered)
      | stop => exact .stop

variable (env) in
/-- A run from one configuration to another, all of whose configurations satisfy an
assertion. -/
def Since (main : Program Call Answer α) (assertion : Config Answer σ α → Prop)
    (start config : Config Answer σ α) : Prop :=
  assertion start ∧
    Relation.ReflTransGen (fun before after => env.Step main before after ∧ assertion after)
      start config

section Since

variable {assertion : Config Answer σ α → Prop} {start config next : Config Answer σ α}

theorem Since.holds (since : env.Since main assertion start config) : assertion config := by
  cases since.2 with
  | refl => exact since.1
  | tail _ last => exact last.2

/-- One more step, to a configuration that satisfies the assertion. -/
theorem Since.step (since : env.Since main assertion start config)
    (step : env.Step main config next) (holds : assertion next) :
    env.Since main assertion start next :=
  ⟨since.1, since.2.tail ⟨step, holds⟩⟩

end Since

variable (env)

/-- The program is answered the events of a trace, and nobody else moves: what it
still has to do afterwards, and the world. -/
inductive Answered : Program Call Answer α → σ → List (Event Answer) →
    Program Call Answer α → σ → Prop where
  | refl (program : Program Call Answer α) (world : σ) : Answered program world [] program world
  | call {request : Call} {next : Answer request → Program Call Answer α} {world after last : σ}
      {reply : Answer request} {trace : List (Event Answer)} {final : Program Call Answer α}
      (answered : env.answers world request reply after)
      (rest : Answered (next reply) after trace final last) :
      Answered (.call request next) world (⟨request, reply⟩ :: trace) final last

variable {env} {program final : Program Call Answer α} {world last : σ}
  {trace suffix : List (Event Answer)}

/-- A stretch of a run. -/
theorem Answered.reachable (answered : env.Answered program world suffix final last)
    (reachable : env.Reachable main initial ⟨world, some (trace, program)⟩) :
    env.Reachable main initial ⟨last, some (trace ++ suffix, final)⟩ := by
  induction answered generalizing trace with
  | refl =>
      rw [List.append_nil]
      exact reachable
  | call answered _ ih =>
      have later := ih (reachable.answer _ answered)
      rwa [List.append_assoc] at later

/-- A run from one idle configuration to the next. -/
theorem Answered.round (answered : env.Answered main world trace final last)
    (idle : env.Reachable main initial ⟨world, none⟩) :
    env.Reachable main initial ⟨last, none⟩ :=
  Relation.ReflTransGen.tail (answered.reachable (Relation.ReflTransGen.tail idle .start)) .stop

/-- A stretch of a run whose configurations satisfy an assertion: one that holds of
the whole trace and of every earlier one. -/
theorem Answered.since {assertion : List (Event Answer) → Prop} {start : Config Answer σ α}
    (answered : env.Answered program world suffix final last)
    (since : env.Since main
      (fun config => ∀ activity, config.activity = some activity → assertion activity.1)
      start ⟨world, some (trace, program)⟩)
    (holds : ∀ earlier later, trace ++ suffix = earlier ++ later → assertion earlier) :
    env.Since main (fun config => ∀ activity, config.activity = some activity →
      assertion activity.1) start ⟨last, some (trace ++ suffix, final)⟩ := by
  induction answered generalizing trace with
  | refl =>
      rw [List.append_nil]
      exact since
  | @call request _ _ _ _ reply rest _ answered _ ih =>
      have split : trace ++ ⟨request, reply⟩ :: rest = trace ++ [⟨request, reply⟩] ++ rest := by
        rw [List.append_assoc]
        rfl
      rw [split] at holds ⊢
      apply ih _ holds
      apply since.step (.answer answered)
      intro activity running
      cases running
      exact holds _ _ rfl

/-- What is answered to the end is a complete run. -/
theorem Answered.exec {value : α} (answered : env.Answered program world trace (.done value) last) :
    program.Exec trace (.done value) := by
  generalize ended : Program.done value = final at answered
  induction answered with
  | refl =>
      subst ended
      exact ⟨rfl, rfl⟩
  | call _ _ ih => exact ⟨_, _, rfl, ih ended⟩

/-- An execution all of whose answers the world may give without changing. -/
theorem Answered.of_exec {value : α} (exec : program.Exec trace (.done value))
    (answers : ∀ event ∈ trace, env.answers world event.request event.answer world) :
    env.Answered program world trace (.done value) world := by
  induction program generalizing trace with
  | done other =>
      obtain ⟨rfl, stops⟩ := exec
      cases stops
      exact .refl ..
  | abort => cases exec.2
  | call request next ih =>
      obtain ⟨reply, rest, rfl, remaining⟩ := exec
      obtain ⟨here, later⟩ := List.forall_mem_cons.mp answers
      exact .call here (ih reply remaining later)

section Along

variable (env) in
/-- The worlds before and after the answers of a trace, if nobody else moves. -/
def Along : List (Event Answer) → σ → σ → Prop
  | [], world, last => last = world
  | event :: rest, world, last =>
      ∃ after, env.answers world event.request event.answer after ∧ Along rest after last

/-- A run that returns is an execution with answers along its trace. -/
theorem answered_iff {value : α} : env.Answered program world trace (.done value) last ↔
    program.Exec trace (.done value) ∧ env.Along trace world last := by
  constructor
  · intro answered
    refine ⟨answered.exec, ?_⟩
    generalize Program.done value = final at answered
    induction answered with
    | refl => rfl
    | call answered _ ih => exact ⟨_, answered, ih⟩
  · rintro ⟨exec, along⟩
    induction program generalizing trace world with
    | done other =>
        obtain ⟨rfl, stops⟩ := exec
        cases stops
        cases along
        exact .refl ..
    | abort => cases exec.2
    | call request next ih =>
        obtain ⟨reply, rest, rfl, remaining⟩ := exec
        obtain ⟨after, answered, later⟩ := along
        exact .call answered (ih reply remaining later)

/-- The worlds of a trace in two parts. -/
theorem along_append : env.Along (trace ++ suffix) world last ↔
    ∃ middle, env.Along trace world middle ∧ env.Along suffix middle last := by
  induction trace generalizing world with
  | nil => simp [Along]
  | cons event rest ih =>
      simp only [List.cons_append, Along, ih]
      constructor
      · rintro ⟨after, answered, middle, first, second⟩
        exact ⟨middle, ⟨after, answered, first⟩, second⟩
      · rintro ⟨middle, ⟨after, answered, first⟩, second⟩
        exact ⟨after, answered, middle, first, second⟩

/-- What each answer keeps holds at the end. -/
theorem Along.invariant (invariant : σ → Prop) (along : env.Along trace world last)
    (kept : ∀ event ∈ trace, ∀ now after, invariant now →
      env.answers now event.request event.answer after → invariant after)
    (holds : invariant world) : invariant last := by
  induction trace generalizing world with
  | nil =>
      cases along
      exact holds
  | cons event rest ih =>
      obtain ⟨after, answered, later⟩ := along
      obtain ⟨here, others⟩ := List.forall_mem_cons.mp kept
      exact ih later others (here _ _ holds answered)

end Along

/-- Composition. -/
theorem Answered.bind {next : α → Program Call Answer β} {rest : Program Call Answer β} {value : α}
    {middle : σ} (first : env.Answered program world trace (.done value) middle)
    (second : env.Answered (next value) middle suffix rest last) :
    env.Answered (program.bind next) world (trace ++ suffix) rest last := by
  generalize ended : Program.done value = final at first
  induction first with
  | refl =>
      subst ended
      exact second
  | call answered _ ih => exact .call answered (ih second ended)

/-- A composition whose second part asks for nothing. -/
theorem Answered.bind_done {next : α → Program Call Answer β} {value : α} {result : β}
    (first : env.Answered program world trace (.done value) last)
    (ends : next value = .done result) :
    env.Answered (program.bind next) world trace (.done result) last := by
  have whole := first.bind (.refl (next value) last)
  rwa [List.append_nil, ends] at whole

theorem answered_done {value result : α} :
    env.Answered (.done value) world trace (.done result) last ↔
      trace = [] ∧ result = value ∧ last = world := by
  constructor
  · intro answered
    cases answered
    exact ⟨rfl, rfl, rfl⟩
  · rintro ⟨rfl, rfl, rfl⟩
    exact .refl ..

/-- The first answer, and then the rest. -/
theorem answered_call {request : Call} {next : Answer request → Program Call Answer α}
    {result : α} : env.Answered (.call request next) world trace (.done result) last ↔
      ∃ reply after rest, trace = ⟨request, reply⟩ :: rest ∧
        env.answers world request reply after ∧
        env.Answered (next reply) after rest (.done result) last := by
  constructor
  · intro answered
    cases answered with
    | call answered rest => exact ⟨_, _, _, rfl, answered, rest⟩
  · rintro ⟨reply, after, rest, rfl, answered, remaining⟩
    exact .call answered remaining

/-- A run of a composition is a run of the first part followed by one of the second. -/
theorem answered_bind {next : α → Program Call Answer β} {result : β} :
    env.Answered (program.bind next) world trace (.done result) last ↔
      ∃ value middle before after, trace = before ++ after ∧
        env.Answered program world before (.done value) middle ∧
        env.Answered (next value) middle after (.done result) last := by
  constructor
  · intro answered
    induction program generalizing world trace with
    | done value => exact ⟨value, world, [], trace, rfl, .refl .., answered⟩
    | abort => cases answered
    | call request rest ih =>
        obtain ⟨reply, now, later, rfl, replied, remaining⟩ := answered_call.mp answered
        obtain ⟨value, middle, before, after, rfl, first, second⟩ := ih reply remaining
        exact ⟨value, middle, ⟨request, reply⟩ :: before, after, rfl, .call replied first, second⟩
  · rintro ⟨value, middle, before, after, rfl, first, second⟩
    exact first.bind second

/-- One stretch of a run after another. -/
theorem Answered.trans {middle : Program Call Answer α} {now : σ}
    (first : env.Answered program world trace middle now)
    (second : env.Answered middle now suffix final last) :
    env.Answered program world (trace ++ suffix) final last := by
  induction first with
  | refl => exact second
  | call answered _ ih => exact .call answered (ih second)

/-- One more answer at the end. -/
theorem Answered.snoc {request : Call} {next : Answer request → Program Call Answer α} {after : σ}
    (answered : env.Answered program world trace (.call request next) last)
    (reply : Answer request) (replied : env.answers last request reply after) :
    env.Answered program world (trace ++ [⟨request, reply⟩]) (next reply) after :=
  answered.trans (.call replied (.refl ..))

section Settles

variable (env) in
/-- If nobody else moves, the program is answered until it returns, and whatever it is
answered, it returns a value that satisfies the condition. -/
def Settles (post : α → σ → Prop) : Program Call Answer α → σ → Prop
  | .done value, world => post value world
  | .abort, _ => False
  | .call request next, world =>
      (∃ reply after, env.answers world request reply after) ∧
        ∀ reply after, env.answers world request reply after → Settles post (next reply) after

variable {post : α → σ → Prop}

/-- A composition settles if its first part settles in states from which the second does. -/
theorem settles_bind {next : α → Program Call Answer β} {last : β → σ → Prop} :
    env.Settles last (program.bind next) world ↔
      env.Settles (fun value now => env.Settles last (next value) now) program world := by
  induction program generalizing world with
  | done | abort => rfl
  | call request rest ih => simp only [Program.call_bind, Settles, ih]

/-- The condition on the value may be weakened. -/
theorem Settles.weaken {weaker : α → σ → Prop} (settles : env.Settles post program world)
    (implies : ∀ value now, post value now → weaker value now) :
    env.Settles weaker program world := by
  induction program generalizing world with
  | done value => exact implies value world settles
  | abort => exact settles
  | call request rest ih =>
      obtain ⟨answered, goesOn⟩ := settles
      refine ⟨answered, fun reply after replied => ?_⟩
      exact ih reply (goesOn reply after replied)

/-- A program whose requests are answered and change nothing. -/
theorem settles_of_calls {quiet : Call → Prop} (returns : program.Returns)
    (calls : program.Calls quiet)
    (answered : ∀ request, quiet request → ∃ reply after, env.answers world request reply after)
    (kept : ∀ request reply after, quiet request → env.answers world request reply after →
      after = world) : env.Settles (fun _ now => now = world) program world := by
  induction program with
  | done => rfl
  | abort => exact returns
  | call request rest ih =>
      obtain ⟨allowed, calls⟩ := calls
      refine ⟨answered request allowed, fun reply after replied => ?_⟩
      rw [kept request reply after allowed replied]
      exact ih reply (returns reply) (calls reply)

/-- A program that settles returns. -/
theorem Settles.exists_returned (settles : env.Settles post program world) :
    ∃ value now, post value now := by
  induction program generalizing world with
  | done value => exact ⟨value, world, settles⟩
  | abort => exact settles.elim
  | call request rest ih =>
      obtain ⟨⟨reply, after, replied⟩, goesOn⟩ := settles
      exact ih reply (goesOn reply after replied)

/-- Where a program settles in one environment is reachable in any that allows more. -/
theorem Reachable.settles {other : Environment Answer σ} {main : Program Call Answer α}
    {initial : σ} {trace : List (Event Answer)}
    (reachable : other.Reachable main initial ⟨world, some (trace, program)⟩)
    (settles : env.Settles post program world)
    (answers : ∀ world request reply after, env.answers world request reply after →
      other.answers world request reply after) :
    env.Settles (fun value now => post value now ∧
      ∃ later, other.Reachable main initial ⟨now, some (later, .done value)⟩) program world := by
  induction program generalizing world trace with
  | done value => exact ⟨settles, trace, reachable⟩
  | abort => exact settles
  | call request rest ih =>
      obtain ⟨answered, goesOn⟩ := settles
      refine ⟨answered, fun reply after replied => ?_⟩
      exact ih reply (reachable.answer reply (answers world request reply after replied))
        (goesOn reply after replied)

end Settles

end Environment

end Dialogue
