import Mathlib.Data.List.Basic
import Mathlib.Logic.Basic

/-!
# Interactive programs

A program in dialogue with an environment: it issues typed requests and branches
on the answers. Nothing is assumed about the answers here; an environment that
constrains them is added in `Dialogue.Safety`.

`Program.Exec` is the big-step semantics: the complete traces of a program, one
for each sequence of answers. `Program.run` plays a program against a given
answer sequence and produces one of these traces. `Program.Calls` bounds the
requests that a program can issue, whatever it is answered.
-/

namespace Dialogue

universe u v w

/-- A program over the requests `Call`. `abort` is a run that ends without a
value, such as an unrecovered runtime panic. -/
inductive Program (Call : Type u) (Answer : Call → Type v) (α : Type w) :
    Type (max u v w) where
  | done (value : α)
  | abort
  | call (request : Call) (next : Answer request → Program Call Answer α)

/-- One request together with the answer it was given. -/
structure Event {Call : Type u} (Answer : Call → Type v) where
  request : Call
  answer : Answer request

/-- How a run ends. -/
inductive Outcome (α : Type w) where
  | done (value : α)
  | abort

variable {Call : Type u} {Answer : Call → Type v} {α β γ : Type w}

namespace Program

/-- Sequential composition. -/
def bind (program : Program Call Answer α) (next : α → Program Call Answer β) :
    Program Call Answer β :=
  match program with
  | .done value => next value
  | .abort => .abort
  | .call request rest => .call request fun answer => (rest answer).bind next

/-- The program that issues one request and returns its answer. -/
def request {Call : Type u} {Answer : Call → Type v} (request : Call) :
    Program Call Answer (Answer request) :=
  .call request .done

instance : Monad (Program.{u, v, w} Call Answer) where
  pure := .done
  bind := bind

@[simp] theorem pure_eq (value : α) :
    (pure value : Program Call Answer α) = .done value := rfl

@[simp] theorem bind_eq (program : Program Call Answer α)
    (next : α → Program Call Answer β) : program >>= next = program.bind next := rfl

@[simp] theorem done_bind (value : α) (next : α → Program Call Answer β) :
    (Program.done value).bind next = next value := rfl

@[simp] theorem abort_bind (next : α → Program Call Answer β) :
    (Program.abort : Program Call Answer α).bind next = .abort := rfl

@[simp] theorem call_bind (request : Call) (rest : Answer request → Program Call Answer α)
    (next : α → Program Call Answer β) :
    (Program.call request rest).bind next =
      .call request fun answer => (rest answer).bind next := rfl

@[simp] theorem request_bind {Call : Type u} {Answer : Call → Type v} {β : Type v}
    (call : Call) (next : Answer call → Program Call Answer β) :
    (Program.request call).bind next = .call call next := rfl

/-- Composition is associative. -/
theorem bind_assoc (program : Program Call Answer α) (first : α → Program Call Answer β)
    (second : β → Program Call Answer γ) :
    (program.bind first).bind second = program.bind fun value => (first value).bind second := by
  induction program with
  | done => rfl
  | abort => rfl
  | call request rest ih => exact congrArg (Program.call request) (funext ih)

/-- The complete runs of a program: the trace of requests and answers, and how
the run ends. -/
def Exec : Program Call Answer α → List (Event Answer) → Outcome α → Prop
  | .done value, trace, outcome => trace = [] ∧ outcome = .done value
  | .abort, trace, outcome => trace = [] ∧ outcome = .abort
  | .call request next, trace, outcome =>
      ∃ answer rest, trace = ⟨request, answer⟩ :: rest ∧ Exec (next answer) rest outcome

@[simp] theorem exec_done {value : α} {trace : List (Event Answer)} {outcome : Outcome α} :
    (Program.done value).Exec trace outcome ↔ trace = [] ∧ outcome = .done value := Iff.rfl

@[simp] theorem exec_abort {trace : List (Event Answer)} {outcome : Outcome α} :
    (Program.abort : Program Call Answer α).Exec trace outcome ↔
      trace = [] ∧ outcome = .abort := Iff.rfl

/-- A run of a request begins with its answer. -/
@[simp] theorem exec_call {request : Call} {next : Answer request → Program Call Answer α}
    {trace : List (Event Answer)} {outcome : Outcome α} :
    (Program.call request next).Exec trace outcome ↔
      ∃ answer rest, trace = ⟨request, answer⟩ :: rest ∧ (next answer).Exec rest outcome :=
  Iff.rfl

/-- A run of a composition is a run of the first part followed by a run of the
second, or a run of the first part that aborts. -/
theorem exec_bind {program : Program Call Answer α} {next : α → Program Call Answer β}
    {trace : List (Event Answer)} {outcome : Outcome β} :
    (program.bind next).Exec trace outcome ↔
      (∃ value before after, trace = before ++ after ∧ program.Exec before (.done value) ∧
        (next value).Exec after outcome) ∨
      (program.Exec trace .abort ∧ outcome = .abort) := by
  induction program generalizing trace with
  | done value => simp
  | abort => simp
  | call request rest ih =>
      simp only [call_bind, exec_call, ih]
      constructor
      · rintro ⟨answer, tail, rfl, ⟨value, before, after, rfl, first, second⟩ | ⟨first, rfl⟩⟩
        · exact .inl ⟨value, _, after, List.cons_append.symm, ⟨answer, before, rfl, first⟩, second⟩
        · exact .inr ⟨⟨answer, tail, rfl, first⟩, rfl⟩
      · rintro (⟨value, before, after, rfl, ⟨answer, tail, rfl, first⟩, second⟩ |
          ⟨⟨answer, tail, rfl, first⟩, rfl⟩)
        · exact ⟨answer, _, List.cons_append, .inl ⟨value, tail, after, rfl, first, second⟩⟩
        · exact ⟨answer, tail, rfl, .inr ⟨first, rfl⟩⟩

/-- A run of a composition that returns. -/
theorem exec_bind_done {program : Program Call Answer α} {next : α → Program Call Answer β}
    {trace : List (Event Answer)} {result : β} :
    (program.bind next).Exec trace (.done result) ↔
      ∃ value before after, trace = before ++ after ∧ program.Exec before (.done value) ∧
        (next value).Exec after (.done result) := by
  rw [exec_bind, or_iff_left_iff_imp]
  rintro ⟨-, aborts⟩
  cases aborts

/-- What holds of the runs of both parts and passes to concatenations holds of the runs
of a composition. -/
theorem exec_bind_along {program : Program Call Answer α} {next : α → Program Call Answer β}
    {holds : List (Event Answer) → Prop}
    (append : ∀ {before after}, holds before → holds after → holds (before ++ after))
    (first : ∀ trace outcome, program.Exec trace outcome → holds trace)
    (second : ∀ value before, program.Exec before (.done value) →
      ∀ trace outcome, (next value).Exec trace outcome → holds trace) :
    ∀ trace outcome, (program.bind next).Exec trace outcome → holds trace := by
  intro trace outcome exec
  rcases exec_bind.mp exec with ⟨value, before, after, rfl, ran, rest⟩ | ⟨aborts, -⟩
  · exact append (first _ _ ran) (second value before ran _ _ rest)
  · exact first _ _ aborts

/-- A program has at most one complete run along a trace. -/
theorem Exec.unique {program : Program Call Answer α}
    {first second left right : List (Event Answer)}
    {outcome other : Outcome α} (exec : program.Exec first outcome)
    (exec' : program.Exec second other) (same : first ++ left = second ++ right) :
    first = second ∧ outcome = other := by
  induction program generalizing first second with
  | done value => exact ⟨exec.1.trans exec'.1.symm, exec.2.trans exec'.2.symm⟩
  | abort => exact ⟨exec.1.trans exec'.1.symm, exec.2.trans exec'.2.symm⟩
  | call request next ih =>
      obtain ⟨answer, rest, rfl, remaining⟩ := exec
      obtain ⟨reply, others, rfl, remaining'⟩ := exec'
      obtain ⟨event, later⟩ := List.cons.inj same
      cases event
      obtain ⟨rfl, ended⟩ := ih answer remaining remaining' later
      exact ⟨rfl, ended⟩

/-- An answer sequence: the answer given to whatever request is issued at each
position of a run. -/
abbrev Replies (Answer : Call → Type v) : Type (max u v) :=
  Nat → (request : Call) → Answer request

/-- Play a program against an answer sequence, from a given position on. -/
def run (replies : Replies Answer) :
    Program Call Answer α → Nat → List (Event Answer) × Outcome α
  | .done value, _ => ([], .done value)
  | .abort, _ => ([], .abort)
  | .call request next, position =>
      let answer := replies position request
      let (rest, outcome) := (next answer).run replies (position + 1)
      (⟨request, answer⟩ :: rest, outcome)

@[simp] theorem run_done (replies : Replies Answer) (value : α) (position : Nat) :
    (Program.done value).run replies position = ([], .done value) := rfl

@[simp] theorem run_call (replies : Replies Answer) (request : Call)
    (next : Answer request → Program Call Answer α) (position : Nat) :
    (Program.call request next).run replies position =
      (⟨request, replies position request⟩ ::
          ((next (replies position request)).run replies (position + 1)).1,
        ((next (replies position request)).run replies (position + 1)).2) := rfl

/-- Playing a program gives one of its complete runs. -/
theorem exec_run (replies : Replies Answer) (program : Program Call Answer α) (position : Nat) :
    program.Exec (program.run replies position).1 (program.run replies position).2 := by
  induction program generalizing position with
  | done value => exact ⟨rfl, rfl⟩
  | abort => exact ⟨rfl, rfl⟩
  | call request next ih => exact ⟨_, _, rfl, ih _ _⟩

/-- The answers in a run are those of the answer sequence at their positions. -/
theorem run_answers (replies : Replies Answer) (program : Program Call Answer α) (position : Nat)
    {index : Nat} {event : Event Answer}
    (found : (program.run replies position).1[index]? = some event) :
    replies (position + index) event.request = event.answer := by
  induction program generalizing position index with
  | done value => simp at found
  | abort => simp [run] at found
  | call request next ih =>
      cases index with
      | zero =>
          simp only [run_call, List.getElem?_cons_zero, Option.some.injEq] at found
          subst found
          rfl
      | succ index =>
          have later := ih _ (position + 1) (by simpa using found)
          rwa [Nat.add_right_comm] at later

/-- Every event of a run was answered from the sequence. -/
theorem exists_run_answer (replies : Replies Answer) (program : Program Call Answer α)
    (position : Nat) {event : Event Answer} (member : event ∈ (program.run replies position).1) :
    ∃ later, replies later event.request = event.answer := by
  obtain ⟨index, found⟩ := List.mem_iff_getElem?.mp member
  exact ⟨position + index, run_answers replies program position found⟩

/-- How a program ends if every request has one fixed answer. -/
def outcome (answers : (request : Call) → Answer request) : Program Call Answer α → Outcome α
  | .done value => .done value
  | .abort => .abort
  | .call request next => (next (answers request)).outcome answers

/-- It ends so in a run with these answers. -/
theorem exists_exec_outcome (answers : (request : Call) → Answer request)
    (program : Program Call Answer α) : ∃ trace, program.Exec trace (program.outcome answers) ∧
      ∀ event ∈ trace, event.answer = answers event.request := by
  induction program with
  | done value => exact ⟨[], ⟨rfl, rfl⟩, by simp⟩
  | abort => exact ⟨[], ⟨rfl, rfl⟩, by simp⟩
  | call request next ih =>
      obtain ⟨trace, exec, answered⟩ := ih (answers request)
      refine ⟨⟨request, answers request⟩ :: trace, ⟨_, trace, rfl, exec⟩, ?_⟩
      exact List.forall_mem_cons.mpr ⟨rfl, answered⟩

/-- Every request the program can issue, under whatever answers, is allowed. -/
def Calls (allowed : Call → Prop) : Program Call Answer α → Prop
  | .done _ => True
  | .abort => True
  | .call request next => allowed request ∧ ∀ answer, (next answer).Calls allowed

section Calls

variable {allowed other : Call → Prop}

@[simp] theorem calls_done (value : α) :
    (Program.done value : Program Call Answer α).Calls allowed := trivial

@[simp] theorem calls_abort : (Program.abort : Program Call Answer α).Calls allowed := trivial

@[simp] theorem calls_call {request : Call} {next : Answer request → Program Call Answer α} :
    (Program.call request next).Calls allowed ↔
      allowed request ∧ ∀ answer, (next answer).Calls allowed := Iff.rfl

/-- A composition issues the requests of its two parts. -/
theorem Calls.bind {program : Program Call Answer α} {next : α → Program Call Answer β}
    (first : program.Calls allowed) (second : ∀ value, (next value).Calls allowed) :
    (program.bind next).Calls allowed := by
  induction program with
  | done value => exact second value
  | abort => trivial
  | call request rest ih => exact ⟨first.1, fun answer => ih answer (first.2 answer)⟩

/-- Composition, where the second part need only be bounded for the values that
the first part returns. -/
theorem Calls.bind_of_exec {program : Program Call Answer α} {next : α → Program Call Answer β}
    (first : program.Calls allowed)
    (second : ∀ value trace, program.Exec trace (.done value) → (next value).Calls allowed) :
    (program.bind next).Calls allowed := by
  induction program with
  | done value => exact second value [] ⟨rfl, rfl⟩
  | abort => trivial
  | call request rest ih =>
      refine ⟨first.1, fun answer => ih answer (first.2 answer) fun value trace exec => ?_⟩
      exact second value (⟨request, answer⟩ :: trace) ⟨answer, trace, rfl, exec⟩

/-- What is allowed may be widened. -/
theorem Calls.mono {program : Program Call Answer α} (calls : program.Calls allowed)
    (implies : ∀ request, allowed request → other request) : program.Calls other := by
  induction program with
  | done value => trivial
  | abort => trivial
  | call request rest ih =>
      exact ⟨implies request calls.1, fun answer => ih answer (calls.2 answer)⟩

/-- The requests of every complete run are allowed. -/
theorem Calls.of_exec {program : Program Call Answer α} (calls : program.Calls allowed)
    {trace : List (Event Answer)} {outcome : Outcome α} (exec : program.Exec trace outcome) :
    ∀ event ∈ trace, allowed event.request := by
  induction program generalizing trace with
  | done value => simp [exec.1]
  | abort => simp [exec.1]
  | call request rest ih =>
      obtain ⟨answer, tail, rfl, remaining⟩ := exec
      intro event member
      rcases List.mem_cons.mp member with rfl | later
      · exact calls.1
      · exact ih answer (calls.2 answer) remaining event later

end Calls

/-- Whatever it is answered, the program returns. -/
def Returns : Program Call Answer α → Prop
  | .done _ => True
  | .abort => False
  | .call _ next => ∀ answer, (next answer).Returns

section Returns

variable {program : Program Call Answer α}

/-- Every run of the program returns. -/
theorem returns_iff : program.Returns ↔
    ∀ trace outcome, program.Exec trace outcome → ∃ value, outcome = .done value := by
  induction program with
  | done value => exact ⟨fun _ trace outcome exec => ⟨value, exec.2⟩, fun _ => trivial⟩
  | abort =>
      refine ⟨False.elim, fun returns => ?_⟩
      obtain ⟨value, ended⟩ := returns [] .abort ⟨rfl, rfl⟩
      cases ended
  | call request next ih =>
      constructor
      · rintro returns trace outcome ⟨answer, rest, rfl, remaining⟩
        exact (ih answer).mp (returns answer) rest outcome remaining
      · refine fun returns answer => (ih answer).mpr fun trace outcome exec => ?_
        exact returns (⟨request, answer⟩ :: trace) outcome ⟨answer, trace, rfl, exec⟩

/-- A composition returns if both parts do. -/
theorem Returns.bind {next : α → Program Call Answer β} (first : program.Returns)
    (second : ∀ value, (next value).Returns) : (program.bind next).Returns := by
  induction program with
  | done value => exact second value
  | abort => exact first.elim
  | call request rest ih => exact fun answer => ih answer (first answer)

/-- If a composition returns, so does its first part. -/
theorem Returns.of_bind {next : α → Program Call Answer β} (returns : (program.bind next).Returns) :
    program.Returns := by
  induction program with
  | done => trivial
  | abort => exact returns.elim
  | call request rest ih => exact fun answer => ih answer (returns answer)

end Returns

end Program

end Dialogue
