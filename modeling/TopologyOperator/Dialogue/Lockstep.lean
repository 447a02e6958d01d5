import Mathlib.Data.List.Forall2
import TopologyOperator.Dialogue.Safety

/-!
# Two programs in lockstep

A `Coupling` says which requests of two programs belong together, and which answers to
them. Two programs are in lockstep if their requests belong together as long as their
answers do, and if they end in the same way. `Lockstep.run` plays them against two answer
sequences, `Lockstep.reachable` puts them into one environment, where each run of the
first is matched by a run of the second through the same worlds.
-/

namespace Dialogue

universe u v w x

variable {Call : Type u} {Answer : Call → Type v} {α β : Type w} {σ : Type x}

/-- Which requests belong together, and which of their answers. -/
abbrev Coupling (Answer : Call → Type v) : Type (max u v) :=
  (request other : Call) → (Answer request → Answer other → Prop) → Prop

/-- Two events with requests and answers that belong together. -/
def Coupled (couples : Coupling Answer) (event other : Event Answer) : Prop :=
  ∃ alike, couples event.request other.request alike ∧ alike event.answer other.answer

/-- Two results that are the same failure, or successes with related values. -/
inductive Matched {ε α β : Type w} (related : α → β → Prop) : Except ε α → Except ε β → Prop where
  | error (err : ε) : Matched related (.error err) (.error err)
  | ok {value : α} {other : β} (holds : related value other) :
      Matched related (.ok value) (.ok other)

theorem Matched.elim {ε α β : Type w} {related : α → β → Prop} {first : Except ε α}
    {second : Except ε β} (matched : Matched related first second) :
    (∃ err, first = .error err ∧ second = .error err) ∨
      ∃ value other, first = .ok value ∧ second = .ok other ∧ related value other := by
  cases matched with
  | error err => exact .inl ⟨err, rfl, rfl⟩
  | ok holds => exact .inr ⟨_, _, rfl, rfl, holds⟩

/-- Two computations that begin with the same one. -/
theorem Matched.bind_same {ε α β γ : Type w} {related : β → γ → Prop} (first : Except ε α)
    {next : α → Except ε β} {other : α → Except ε γ}
    (rest : ∀ value, Matched related (next value) (other value)) :
    Matched related (first >>= next) (first >>= other) := by
  rcases first with err | value
  · exact .error err
  · exact rest value

namespace Program

/-- The two programs go on in step, and end with related values. -/
def Lockstep (couples : Coupling Answer) (related : α → β → Prop) :
    Program Call Answer α → Program Call Answer β → Prop
  | .done value, .done other => related value other
  | .abort, .abort => True
  | .call request next, .call other resume => ∃ alike, couples request other alike ∧
      ∀ reply answer, alike reply answer → Lockstep couples related (next reply) (resume answer)
  | _, _ => False

namespace Lockstep

variable {couples : Coupling Answer} {α' β' : Type w} {related : α → β → Prop}
  {onward : α' → β' → Prop} {program : Program Call Answer α} {other : Program Call Answer β}

theorem bind {next : α → Program Call Answer α'} {resume : β → Program Call Answer β'}
    (first : Lockstep couples related program other)
    (second : ∀ value result, related value result →
      Lockstep couples onward (next value) (resume result)) :
    Lockstep couples onward (program.bind next) (other.bind resume) := by
  induction program generalizing other with
  | done value =>
      cases other with
      | done result => exact second value result first
      | abort | call => exact first.elim
  | abort =>
      cases other with
      | abort => trivial
      | done | call => exact first.elim
  | call request rest ih =>
      cases other with
      | call request' rest' =>
          obtain ⟨alike, coupled, goes⟩ := first
          exact ⟨alike, coupled, fun reply answer same => ih reply (goes reply answer same)⟩
      | done | abort => exact first.elim

/-- A program whose requests are coupled with themselves, under the same answers. -/
theorem of_calls {plain : Call → Prop} (calls : program.Calls plain)
    (coupled : ∀ request, plain request → couples request request Eq) :
    Lockstep couples Eq program program := by
  induction program with
  | done value => rfl
  | abort => trivial
  | call request next ih =>
      refine ⟨Eq, coupled request calls.1, ?_⟩
      rintro reply _ rfl
      exact ih reply (calls.2 reply)

/-- Along answers that belong together, the runs have requests that belong together and
end alike. -/
theorem run {first second : Replies Answer} {twin : Program Call Answer α}
    (agree : ∀ position request other alike, couples request other alike →
      alike (first position request) (second position other))
    (lockstep : Lockstep couples Eq program twin) (position : Nat) :
    List.Forall₂ (Coupled couples) (program.run first position).1 (twin.run second position).1 ∧
      (program.run first position).2 = (twin.run second position).2 := by
  induction program generalizing twin position with
  | done value =>
      cases twin with
      | done result => exact ⟨.nil, congrArg Outcome.done lockstep⟩
      | abort | call => exact lockstep.elim
  | abort =>
      cases twin with
      | abort => exact ⟨.nil, rfl⟩
      | done | call => exact lockstep.elim
  | call request next ih =>
      cases twin with
      | call request' resume =>
          obtain ⟨alike, coupled, goes⟩ := lockstep
          have answered := agree position _ _ _ coupled
          obtain ⟨traces, outcomes⟩ := ih _ (goes _ _ answered) (position + 1)
          exact ⟨.cons ⟨alike, coupled, answered⟩ traces, outcomes⟩
      | done | abort => exact lockstep.elim

end Lockstep

end Program

namespace Environment

open Program

/-- Two activities with traces that belong together, and in lockstep from here on. -/
def Abreast (couples : Coupling Answer) :
    Option (List (Event Answer) × Program Call Answer α) →
      Option (List (Event Answer) × Program Call Answer α) → Prop
  | some (trace, program), some (trace', other) =>
      List.Forall₂ (Coupled couples) trace trace' ∧ Lockstep couples Eq program other
  | none, none => True
  | _, _ => False

/-- If every answer has one that belongs to it and does the same to the world, then every
run is matched by one through the same worlds. -/
theorem Reachable.abreast {env : Environment Answer σ} {couples : Coupling Answer}
    {main : Program Call Answer α} {initial : σ}
    (matched : ∀ world request other alike reply after, couples request other alike →
      env.answers world request reply after →
        ∃ answer, alike reply answer ∧ env.answers world other answer after)
    (lockstep : Lockstep couples Eq main main) {config : Config Answer σ α}
    (reachable : env.Reachable main initial config) :
    ∃ activity, env.Reachable main initial ⟨config.world, activity⟩ ∧
      Abreast couples config.activity activity := by
  induction reachable with
  | refl => exact ⟨none, .refl, trivial⟩
  | tail _ step ih =>
      obtain ⟨activity, reached, abreast⟩ := ih
      cases step with
      | foreign move => exact ⟨activity, .tail reached (.foreign move), abreast⟩
      | start =>
          cases activity with
          | none => exact ⟨_, .tail reached .start, .nil, lockstep⟩
          | some _ => exact abreast.elim
      | stop =>
          cases activity with
          | none => exact abreast.elim
          | some _ => exact ⟨none, .tail reached .stop, trivial⟩
      | answer answered =>
          rcases activity with _ | ⟨trace', _ | _ | ⟨request', resume⟩⟩
          · exact abreast.elim
          · exact abreast.2.elim
          · exact abreast.2.elim
          · obtain ⟨traces, alike, coupled, goes⟩ := abreast
            obtain ⟨answer, same, answered'⟩ := matched _ _ _ _ _ _ coupled answered
            refine ⟨_, .tail reached (.answer answered'), ?_, goes _ _ same⟩
            exact List.rel_append traces (.cons ⟨alike, coupled, same⟩ .nil)

end Environment

end Dialogue
