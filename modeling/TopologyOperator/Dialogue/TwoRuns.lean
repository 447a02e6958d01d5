import TopologyOperator.Dialogue.Program

/-!
# Two runs of one program

A program is played against two answer sequences. The two runs are
indistinguishable if they issue the same requests and end in the same way, although
the answers may differ.
-/

namespace Dialogue

universe u v w

variable {Call : Type u} {Answer : Call → Type v} {α β : Type w}

namespace Program

/-- A composition is run part by part. -/
theorem run_bind (replies : Replies Answer) (program : Program Call Answer α)
    (next : α → Program Call Answer β) (position : Nat) :
    (program.bind next).run replies position =
      match program.run replies position with
      | (trace, .done value) =>
          let rest := (next value).run replies (position + trace.length)
          (trace ++ rest.1, rest.2)
      | (trace, .abort) => (trace, .abort) := by
  induction program generalizing position with
  | done value => rfl
  | abort => rfl
  | call request rest ih =>
      simp only [call_bind, run_call, ih]
      rcases (rest (replies position request)).run replies (position + 1) with
        ⟨trace, value | ⟨⟩⟩
      · simp [Nat.add_right_comm, Nat.add_assoc]
      · rfl

/-- The same requests and the same end; every request is allowed. -/
structure Indistinguishable (allowed : Call → Prop) (first second : Replies Answer)
    (program : Program Call Answer α) (position : Nat) : Prop where
  requests : (program.run first position).1.map Event.request =
    (program.run second position).1.map Event.request
  outcome : (program.run first position).2 = (program.run second position).2
  bounded : ∀ event ∈ (program.run first position).1, allowed event.request

namespace Indistinguishable

variable {allowed : Call → Prop} {first second : Replies Answer} {position : Nat}

theorem done (value : α) : Indistinguishable allowed first second (.done value) position :=
  ⟨rfl, rfl, fun _ member => absurd member List.not_mem_nil⟩

/-- The answers to one request may differ, if the program goes on in the same way. -/
theorem call {request : Call} {next : Answer request → Program Call Answer α}
    (permitted : allowed request)
    (same : next (second position request) = next (first position request))
    (rest : Indistinguishable allowed first second (next (first position request)) (position + 1)) :
    Indistinguishable allowed first second (.call request next) position := by
  refine ⟨?_, ?_, ?_⟩
  · simp only [run_call, List.map_cons, same, rest.requests]
  · simp only [run_call, same, rest.outcome]
  · exact List.forall_mem_cons.mpr ⟨permitted, rest.bounded⟩

/-- A program is indistinguishable if all its requests are answered in the same
way. -/
theorem of_calls {program : Program Call Answer α} {shared : Call → Prop}
    (calls : program.Calls shared) (permitted : ∀ request, shared request → allowed request)
    (agree : ∀ position request, shared request →
      second position request = first position request) :
    Indistinguishable allowed first second program position := by
  induction program generalizing position with
  | done value => exact done value
  | abort => exact ⟨rfl, rfl, fun _ member => absurd member List.not_mem_nil⟩
  | call request next ih =>
      exact call (permitted request calls.1) (congrArg next (agree position request calls.1))
        (ih _ (calls.2 _))

/-- A composition is indistinguishable if its parts are. -/
theorem bind {program : Program Call Answer α} {next : α → Program Call Answer β}
    (start : Indistinguishable allowed first second program position)
    (rest : ∀ value later, (program.run first position).2 = .done value →
      Indistinguishable allowed first second (next value) later) :
    Indistinguishable allowed first second (program.bind next) position := by
  obtain ⟨requests, outcome, bounded⟩ := start
  have lengths := congrArg List.length requests
  simp only [List.length_map] at lengths
  rcases left : program.run first position with ⟨trace, value | ⟨⟩⟩
  all_goals
    rcases right : program.run second position with ⟨other, ended⟩
    simp only [left, right] at requests outcome bounded lengths
    subst outcome
  · obtain ⟨laterRequests, laterOutcome, laterBounded⟩ :=
      rest value (position + trace.length) (by rw [left])
    refine ⟨?_, ?_, ?_⟩
    · simp only [run_bind, left, right, List.map_append, requests, ← lengths, laterRequests]
    · simp only [run_bind, left, right, ← lengths, laterOutcome]
    · simp only [run_bind, left]
      exact List.forall_mem_append.mpr ⟨bounded, laterBounded⟩
  · refine ⟨?_, ?_, ?_⟩
    · simp only [run_bind, left, right, requests]
    · simp only [run_bind, left, right]
    · simpa only [run_bind, left] using bounded

end Indistinguishable

end Program

end Dialogue
