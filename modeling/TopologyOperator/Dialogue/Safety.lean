import Mathlib.Logic.Relation
import TopologyOperator.Dialogue.Program

/-!
# Safety of interactive programs under interference

An `Environment` owns a world. It answers the requests of a program, and between
any two requests other parties may move the world on their own (`foreign`).

`Step` is the whole system: foreign moves, at most one activity in flight, which
always starts from the same program, and `stop`, which ends the activity at any
point, be it a return, a panic or a crash. `Safe` is the obligation on a program:
every request satisfies a guard in the world in which it is issued, every answer
preserves the invariant. `reachable_safe` turns the obligation on the program
into an invariant of every reachable configuration of the system.
-/

namespace Dialogue

universe u v w x

variable {Call : Type u} {Answer : Call → Type v} {α β : Type w} {σ : Type x}

/-- What other parties may do to the world, and how the world answers requests. -/
structure Environment {Call : Type u} (Answer : Call → Type v) (σ : Type x) where
  foreign : σ → σ → Prop
  answers : σ → (request : Call) → Answer request → σ → Prop

namespace Environment

variable (env : Environment Answer σ)

/-- Any number of foreign moves. -/
abbrev Drift : σ → σ → Prop := Relation.ReflTransGen env.foreign

/-- An assertion about the world that no foreign move invalidates while the
invariant holds. -/
def Stable (invariant : σ → Prop) (assertion : σ → Prop) : Prop :=
  ∀ world next, invariant world → assertion world → env.foreign world next → assertion next

/-- A world and the activity in flight: what it has been answered so far, and
what it still has to do. -/
structure Config (Answer : Call → Type v) (σ : Type x) (α : Type w) where
  world : σ
  activity : Option (List (Event Answer) × Program Call Answer α)

/-- One step of the system around a program `main` that is started again and
again. -/
inductive Step (main : Program Call Answer α) : Config Answer σ α → Config Answer σ α → Prop where
  | foreign {world next : σ} {activity} (move : env.foreign world next) :
      Step main ⟨world, activity⟩ ⟨next, activity⟩
  | start {world : σ} : Step main ⟨world, none⟩ ⟨world, some ([], main)⟩
  | answer {world after : σ} {trace request next reply}
      (answered : env.answers world request reply after) :
      Step main ⟨world, some (trace, .call request next)⟩
        ⟨after, some (trace ++ [⟨request, reply⟩], next reply)⟩
  | stop {world : σ} {activity} : Step main ⟨world, some activity⟩ ⟨world, none⟩

/-- The configurations reachable from an idle world. -/
def Reachable (main : Program Call Answer α) (initial : σ) : Config Answer σ α → Prop :=
  Relation.ReflTransGen (env.Step main) ⟨initial, none⟩

/-- The obligation on a program in a world after a trace: each request is issued
in a world where the guard allows it, whatever foreign moves came before, and
each answer re-establishes the invariant. -/
def Safe (invariant : σ → Prop) (guard : σ → List (Event Answer) → Call → Prop)
    (post : α → σ → List (Event Answer) → Prop) :
    Program Call Answer α → σ → List (Event Answer) → Prop
  | .done value, world, trace =>
      ∀ now, env.Drift world now → invariant now → post value now trace
  | .abort, _, _ => True
  | .call request next, world, trace =>
      ∀ now, env.Drift world now → invariant now →
        guard now trace request ∧
        ∀ reply after, env.answers now request reply after →
          invariant after ∧
            Safe invariant guard post (next reply) after (trace ++ [⟨request, reply⟩])

variable {env} {invariant : σ → Prop} {guard : σ → List (Event Answer) → Call → Prop}
  {post : α → σ → List (Event Answer) → Prop}

/-- A foreign move does not discharge or break an obligation. -/
theorem Safe.foreign {program : Program Call Answer α} {world next : σ}
    {trace : List (Event Answer)} (safe : env.Safe invariant guard post program world trace)
    (move : env.foreign world next) : env.Safe invariant guard post program next trace := by
  cases program with
  | done value => exact fun now drift => safe now (.head move drift)
  | abort => trivial
  | call request rest => exact fun now drift => safe now (.head move drift)

theorem Stable.drift {assertion : σ → Prop} (stable : env.Stable invariant assertion)
    (kept : env.Stable invariant invariant) {world now : σ} (valid : invariant world)
    (holds : assertion world) (drift : env.Drift world now) : assertion now := by
  induction drift using Relation.ReflTransGen.head_induction_on with
  | refl => exact holds
  | head move _ ih =>
      exact ih (kept _ _ valid valid move) (stable _ _ valid holds move)

theorem Stable.and {first second : σ → Prop} (left : env.Stable invariant first)
    (right : env.Stable invariant second) :
    env.Stable invariant fun world => first world ∧ second world :=
  fun world next valid holds move =>
    ⟨left world next valid holds.1 move, right world next valid holds.2 move⟩

/-- Composition. -/
theorem Safe.bind {program : Program Call Answer α} {next : α → Program Call Answer β}
    {middle : α → σ → List (Event Answer) → Prop}
    {last : β → σ → List (Event Answer) → Prop} {world : σ} {trace : List (Event Answer)}
    (first : env.Safe invariant guard middle program world trace) (valid : invariant world)
    (second : ∀ value now later, invariant now → middle value now later →
      env.Safe invariant guard last (next value) now later) :
    env.Safe invariant guard last (program.bind next) world trace := by
  induction program generalizing world trace with
  | done value => exact second value world trace valid (first world .refl valid)
  | abort => trivial
  | call request rest ih =>
      intro now drift validNow
      obtain ⟨guarded, resume⟩ := first now drift validNow
      refine ⟨guarded, fun reply after answered => ?_⟩
      obtain ⟨validAfter, remaining⟩ := resume reply after answered
      exact ⟨validAfter, ih reply remaining validAfter⟩

theorem Safe.weaken {program : Program Call Answer α}
    {weaker : α → σ → List (Event Answer) → Prop} {world : σ} {trace : List (Event Answer)}
    (safe : env.Safe invariant guard post program world trace)
    (implies : ∀ value now later, invariant now → post value now later → weaker value now later) :
    env.Safe invariant guard weaker program world trace := by
  induction program generalizing world trace with
  | done value => exact fun now drift valid => implies _ _ _ valid (safe now drift valid)
  | abort => trivial
  | call request rest ih =>
      intro now drift valid
      obtain ⟨guarded, resume⟩ := safe now drift valid
      exact ⟨guarded, fun reply after answered =>
        ⟨(resume reply after answered).1, ih reply (resume reply after answered).2⟩⟩

/-- The value is one that the program returns after the answers it was given. -/
theorem Safe.exec {program : Program Call Answer α} {world : σ} {trace : List (Event Answer)}
    (safe : env.Safe invariant guard post program world trace) :
    env.Safe invariant guard
      (fun value now later => post value now later ∧
        ∃ suffix, later = trace ++ suffix ∧ program.Exec suffix (.done value))
      program world trace := by
  induction program generalizing world trace with
  | done value =>
      exact fun now drift valid => ⟨safe now drift valid, [], (List.append_nil _).symm, rfl, rfl⟩
  | abort => trivial
  | call request rest ih =>
      intro now drift valid
      obtain ⟨guarded, resume⟩ := safe now drift valid
      refine ⟨guarded, fun reply after answered => ⟨(resume reply after answered).1, ?_⟩⟩
      refine (ih reply (resume reply after answered).2).weaken ?_
      rintro value final later _ ⟨holds, suffix, rfl, exec⟩
      exact ⟨holds, ⟨request, reply⟩ :: suffix, List.append_assoc .., reply, suffix, rfl, exec⟩

section Stable

variable (kept : env.Stable invariant invariant) {assertion : σ → Prop}
  (stable : env.Stable invariant assertion)
include kept stable

/-- Return under a stable assertion. -/
theorem Safe.done {value : α} {world : σ} {trace : List (Event Answer)} (valid : invariant world)
    (holds : assertion world)
    (finish : ∀ now, invariant now → assertion now → post value now trace) :
    env.Safe invariant guard post (.done value) world trace :=
  fun now drift validNow => finish now validNow (stable.drift kept valid holds drift)

/-- Issue one request under a stable assertion. -/
theorem Safe.call {request : Call} {next : Answer request → Program Call Answer α} {world : σ}
    {trace : List (Event Answer)} (valid : invariant world) (holds : assertion world)
    (guarded : ∀ now, invariant now → assertion now → guard now trace request)
    (resume : ∀ now reply after, invariant now → assertion now →
      env.answers now request reply after → invariant after ∧
        env.Safe invariant guard post (next reply) after (trace ++ [⟨request, reply⟩])) :
    env.Safe invariant guard post (.call request next) world trace := by
  intro now drift validNow
  have holdsNow := stable.drift kept valid holds drift
  exact ⟨guarded now validNow holdsNow, fun reply after answered =>
    resume now reply after validNow holdsNow answered⟩

/-- A program all of whose requests preserve a stable assertion preserves it, and
its value is one that the program can return after the answers it was given. -/
theorem Safe.of_calls {program : Program Call Answer α} {allowed : Call → Prop}
    (calls : program.Calls allowed) {world : σ} {trace : List (Event Answer)}
    (guarded : ∀ now suffix request, (∀ event ∈ suffix, allowed event.request) →
      allowed request → invariant now → assertion now → guard now (trace ++ suffix) request)
    (preserved : ∀ now request reply after, allowed request → invariant now → assertion now →
      env.answers now request reply after → invariant after ∧ assertion after)
    (valid : invariant world) (holds : assertion world)
    (finish : ∀ value now suffix, program.Exec suffix (.done value) → invariant now →
      assertion now → post value now (trace ++ suffix)) :
    env.Safe invariant guard post program world trace := by
  induction program generalizing world trace with
  | done value =>
      intro now drift validNow
      have finished := finish value now [] ⟨rfl, rfl⟩ validNow
        (stable.drift kept valid holds drift)
      rwa [List.append_nil] at finished
  | abort => trivial
  | call request rest ih =>
      refine Safe.call kept stable valid holds (fun now validNow holdsNow => ?_) ?_
      · have allowedNow := guarded now [] request (fun _ none => absurd none List.not_mem_nil)
          calls.1 validNow holdsNow
        rwa [List.append_nil] at allowedNow
      intro now reply after validNow holdsNow answered
      obtain ⟨validAfter, holdsAfter⟩ :=
        preserved now request reply after calls.1 validNow holdsNow answered
      refine ⟨validAfter, ih reply (calls.2 reply) ?_ validAfter holdsAfter ?_⟩
      · intro later suffix other before
        have extended := guarded later (⟨request, reply⟩ :: suffix) other
          (List.forall_mem_cons.mpr ⟨calls.1, before⟩)
        rwa [List.append_assoc]
      · intro value final suffix exec
        have finished := finish value final (⟨request, reply⟩ :: suffix) ⟨reply, suffix, rfl, exec⟩
        rwa [List.append_assoc]

end Stable

/-- One more answer. -/
theorem Reachable.answer {main : Program Call Answer α} {initial world after : σ}
    {trace : List (Event Answer)} {request : Call} {next : Answer request → Program Call Answer α}
    (reachable : env.Reachable main initial ⟨world, some (trace, .call request next)⟩)
    (reply : Answer request) (answered : env.answers world request reply after) :
    env.Reachable main initial ⟨after, some (trace ++ [⟨request, reply⟩], next reply)⟩ :=
  Relation.ReflTransGen.tail reachable (.answer answered)

/-- If the program meets its obligation from every valid world, the invariant
holds in every reachable configuration, and so does the obligation on the activity in
flight. -/
theorem reachable_obligation {main : Program Call Answer α} {initial : σ}
    (start : invariant initial) (kept : env.Stable invariant invariant)
    (safe : ∀ world, invariant world → env.Safe invariant guard post main world [])
    {config : Config Answer σ α} (reachable : env.Reachable main initial config) :
    invariant config.world ∧ ∀ activity, config.activity = some activity →
      env.Safe invariant guard post activity.2 config.world activity.1 := by
  induction reachable with
  | refl => exact ⟨start, fun _ absent => by cases absent⟩
  | tail _ step ih =>
      obtain ⟨valid, obligation⟩ := ih
      cases step with
      | foreign move =>
          exact ⟨kept _ _ valid valid move,
            fun activity running => (obligation activity running).foreign move⟩
      | start =>
          exact ⟨valid, fun activity running => by cases running; exact safe _ valid⟩
      | answer answered =>
          obtain ⟨_, resume⟩ := obligation _ rfl _ .refl valid
          obtain ⟨validAfter, remaining⟩ := resume _ _ answered
          exact ⟨validAfter, fun activity running => by cases running; exact remaining⟩
      | stop => exact ⟨valid, fun _ absent => by cases absent⟩

/-- Every request that is about to be issued satisfies the guard. -/
theorem reachable_safe {main : Program Call Answer α} {initial : σ}
    (start : invariant initial) (kept : env.Stable invariant invariant)
    (safe : ∀ world, invariant world →
      env.Safe invariant guard (fun _ _ _ => True) main world [])
    {config : Config Answer σ α} (reachable : env.Reachable main initial config) :
    invariant config.world ∧
      ∀ trace request next, config.activity = some (trace, .call request next) →
        guard config.world trace request := by
  obtain ⟨valid, obligation⟩ := reachable_obligation start kept safe reachable
  exact ⟨valid, fun trace request next running => (obligation _ running _ .refl valid).1⟩

/-- A relation between worlds that every foreign move and every answer respects
holds between any two worlds of one run. -/
theorem steps_respect {main : Program Call Answer α} (relation : σ → σ → Prop)
    (good : Config Answer σ α → Prop) (refl : ∀ world, relation world world)
    (trans : ∀ {first second third}, relation first second → relation second third →
      relation first third)
    (foreign : ∀ world next activity, good ⟨world, activity⟩ → env.foreign world next →
      relation world next)
    (answer : ∀ world trace request next reply after,
      good ⟨world, some (trace, .call request next)⟩ →
      env.answers world request reply after → relation world after)
    {before after : Config Answer σ α}
    (steps : Relation.ReflTransGen (env.Step main) before after)
    (reachable : ∀ config, Relation.ReflTransGen (env.Step main) before config → good config) :
    relation before.world after.world := by
  induction steps with
  | refl => exact refl _
  | tail earlier step ih =>
      refine trans ih ?_
      have goodHere := reachable _ earlier
      cases step with
      | foreign move => exact foreign _ _ _ goodHere move
      | start => exact refl _
      | answer answered => exact answer _ _ _ _ _ _ goodHere answered
      | stop => exact refl _

end Environment

end Dialogue
