import TopologyOperator.Encoding.MapComparison
import TopologyOperator.Webhook.Acceptance

/-!
# Updates of a queue

`ValidateUpdate` of a queue compares the decoded arguments with `maps.Equal`, which is
not defined on values that are arrays or objects. It decides whether an update keeps
what cannot be changed, exactly unless the comparison can come to two such values under
one key. An update that changes nothing is of this sort as soon as one argument is an
array or an object.
-/

namespace TopologyOperator.QueueCustomValidator

open Dialogue Program Encoding

variable {libraries : Libraries} {old new : Object .queue}

/-- The decoded arguments, if there are any. -/
def decoded (arguments : Option RawExtension) : Option (Option Arguments) :=
  arguments.map fun extension => Json.unmarshalMap extension.raw

/-- Arguments are absent, or a JSON object. -/
def Decodes (arguments : Option RawExtension) : Prop :=
  ∀ extension, arguments = some extension →
    ∃ members, Json.unmarshalMap extension.raw = some members

/-- The fields whose updates are rejected before anything else. -/
def SameIdentity (old new : Object .queue) : Prop :=
  new.spec.name = old.spec.name ∧ new.spec.vhost = old.spec.vhost ∧
    new.rabbitReference = old.rabbitReference

/-- The update keeps what cannot be changed. -/
def Keeps (old new : Object .queue) : Prop :=
  SameIdentity old new ∧ new.spec.type = old.spec.type ∧
    new.spec.autoDelete = old.spec.autoDelete ∧
    new.spec.durable.getD false = old.spec.durable.getD false ∧
    decoded old.spec.arguments = decoded new.spec.arguments

/-- In every iteration order, `ValidateUpdate` returns, and accepts exactly if the
update keeps what cannot be changed. -/
def Decides (libraries : Libraries) (old new : Object .queue) : Prop :=
  ∀ trace outcome, (QueueCustomValidator.validateUpdate libraries old new).Exec trace outcome →
    ∃ verdict, outcome = .done verdict ∧ (verdict = .ok () ↔ Keeps old new)

/-- Two maps of the same size have two arrays, or two objects, under one key. -/
def Incomparable (old new : Option RawExtension) : Prop :=
  ∃ previous updated previousArgs updatedArgs, old = some previous ∧ new = some updated ∧
    Json.unmarshalMap previous.raw = some previousArgs ∧
    Json.unmarshalMap updated.raw = some updatedArgs ∧
    previousArgs.length = updatedArgs.length ∧ Json.Clash previousArgs updatedArgs

theorem frozenFields_eq_ok : frozenFields old new = .ok () ↔ SameIdentity old new := by
  unfold frozenFields SameIdentity
  simp only [except_bind_eq_ok, frozen_eq_ok, frozenReference_eq_ok]

theorem changedFields_eq_nil :
    changedFields old new = [] ↔ new.spec.type = old.spec.type ∧
      new.spec.autoDelete = old.spec.autoDelete ∧
      new.spec.durable.getD false = old.spec.durable.getD false := by
  unfold changedFields
  simp only [List.append_eq_nil_iff, invalidUnless_eq_nil, decide_eq_true_eq, and_assoc]

/-- Arguments that can be compared are compared. -/
theorem validateArguments_exec {old new : Option RawExtension} (decodesOld : Decodes old)
    (decodesNew : Decodes new) (comparable : ¬ Incomparable old new)
    {trace : Trace (Object .queue)} {outcome : Outcome (Except AdmissionError (List FieldError))}
    (exec : (validateArguments libraries old new).Exec trace outcome) :
    ∃ errs, outcome = .done (.ok errs) ∧ (errs = [] ↔ decoded old = decoded new) := by
  cases old with
  | none =>
      cases new with
      | none => exact ⟨[], exec.2, iff_of_true rfl rfl⟩
      | some updated => exact ⟨_, exec.2, by simp [decoded]⟩
  | some previous =>
      cases new with
      | none => exact ⟨_, exec.2, by simp [decoded]⟩
      | some updated =>
          obtain ⟨previousArgs, decodedOld⟩ := decodesOld previous rfl
          obtain ⟨updatedArgs, decodedNew⟩ := decodesNew updated rfl
          simp only [validateArguments, decodedOld, decodedNew] at exec
          obtain ⟨order, rest, rfl, compared⟩ := exec
          have clear : previousArgs.length = updatedArgs.length →
              ¬ Json.Clash previousArgs updatedArgs := by
            intro length clash
            exact comparable ⟨previous, updated, previousArgs, updatedArgs, rfl, rfl, decodedOld,
              decodedNew, length, clash⟩
          have sortedOld := Json.unmarshalMap_sorted decodedOld
          have sortedNew := Json.unmarshalMap_sorted decodedNew
          obtain ⟨same, equal, decides⟩ :=
            Json.mapsEqual_of_no_clash sortedOld sortedNew order.2 clear
          simp only [done_bind, equal] at compared
          refine ⟨_, compared.2, ?_⟩
          have decodedSame : decoded (some previous) = decoded (some updated) ↔
              previousArgs = updatedArgs := by simp [decoded, decodedOld, decodedNew]
          rw [decodedSame, ← decides]
          cases same <;> simp

/-- The comparison can panic. -/
theorem validateArguments_abort (libraries : Libraries) {old new : Option RawExtension}
    (incomparable : Incomparable old new) :
    ∃ trace, (validateArguments libraries old new).Exec trace .abort := by
  obtain ⟨previous, updated, previousArgs, updatedArgs, rfl, rfl, decodedOld, decodedNew, length,
    clash⟩ := incomparable
  obtain ⟨order, perm, panics⟩ := Json.mapsEqual_of_clash length clash
  simp only [validateArguments, decodedOld, decodedNew]
  refine ⟨[⟨.iterationOrder previousArgs, ⟨order, perm⟩⟩], ⟨order, perm⟩, [], rfl, ?_⟩
  simp only [done_bind, panics]
  exact ⟨rfl, rfl⟩

theorem decides_of_changed (changed : ¬ SameIdentity old new) : Decides libraries old new := by
  intro trace outcome exec
  unfold QueueCustomValidator.validateUpdate at exec
  cases checked : frozenFields old new with
  | error err =>
      rw [checked] at exec
      refine ⟨.error err, exec.2, iff_of_false (fun accepted => ?_) fun keeps => changed keeps.1⟩
      cases accepted
  | ok => exact absurd (frozenFields_eq_ok.mp checked) changed

/-- If the identity is kept, the arguments are compared next. -/
theorem validateUpdate_of_same (same : SameIdentity old new) :
    QueueCustomValidator.validateUpdate libraries old new =
      (validateArguments libraries old.spec.arguments new.spec.arguments).bind fun
        | .error err => .done (.error err)
        | .ok errs => .done (aggregate (changedFields old new ++ errs)) := by
  unfold QueueCustomValidator.validateUpdate
  rw [frozenFields_eq_ok.mpr same]
  rfl

/-- `ValidateUpdate` can panic if it comes to arguments that cannot be compared. -/
theorem validateUpdate_abort (libraries : Libraries) (same : SameIdentity old new)
    (incomparable : Incomparable old.spec.arguments new.spec.arguments) :
    ∃ trace, (QueueCustomValidator.validateUpdate libraries old new).Exec trace .abort := by
  obtain ⟨trace, panics⟩ := validateArguments_abort libraries incomparable
  rw [validateUpdate_of_same same]
  exact ⟨trace, exec_bind.mpr (.inr ⟨panics, rfl⟩)⟩

/-- `ValidateUpdate` decides whether an update keeps what cannot be changed, unless the
arguments cannot be compared and nothing that is checked before has changed. -/
theorem queue_update_decided_iff (libraries : Libraries) (old new : Object .queue)
    (decodesOld : Decodes old.spec.arguments) (decodesNew : Decodes new.spec.arguments) :
    Decides libraries old new ↔
      ¬ (SameIdentity old new ∧ Incomparable old.spec.arguments new.spec.arguments) := by
  by_cases same : SameIdentity old new
  · constructor
    · rintro decides ⟨-, incomparable⟩
      obtain ⟨trace, panics⟩ := validateUpdate_abort libraries same incomparable
      obtain ⟨verdict, returned, -⟩ := decides trace .abort panics
      cases returned
    · intro comparable trace outcome exec
      rw [validateUpdate_of_same same] at exec
      have comparableArguments : ¬ Incomparable old.spec.arguments new.spec.arguments :=
        fun incomparable => comparable ⟨same, incomparable⟩
      rcases exec_bind.mp exec with ⟨result, before, after, rfl, first, second⟩ | ⟨panics, -⟩
      · obtain ⟨errs, returned, decides⟩ :=
          validateArguments_exec decodesOld decodesNew comparableArguments first
        cases returned
        refine ⟨_, second.2, ?_⟩
        rw [aggregate_eq_ok, List.append_eq_nil_iff, changedFields_eq_nil, decides]
        simp only [Keeps, same, true_and, and_assoc]
      · obtain ⟨errs, returned, -⟩ :=
          validateArguments_exec decodesOld decodesNew comparableArguments panics
        cases returned
  · exact iff_of_true (decides_of_changed same) fun panics => same panics.1

section Example

/-- An argument that is an array. -/
def ranks : RawExtension := ⟨"\x7b\"x-ranks\": []\x7d"⟩

theorem ranks_decodes : Json.unmarshalMap ranks.raw = some [("x-ranks", .array [])] :=
  Json.unmarshalMap_eq (by decide +kernel)

/-- A queue with this argument. -/
def rankedQueue : Object .queue where
  objectMeta := { name := "ranked", ns := "shop" }
  spec := { name := "ranked", arguments := some ranks }

/-- The update with which the operator adds its finalizer to the queue panics. -/
theorem rankedQueue_panics : ∃ trace,
    (QueueCustomValidator.validateUpdate .verbatim rankedQueue rankedQueue.withFinalizer).Exec
      trace .abort := by
  have same : SameIdentity rankedQueue rankedQueue.withFinalizer := ⟨rfl, rfl, rfl⟩
  have incomparable : Incomparable rankedQueue.spec.arguments
      rankedQueue.withFinalizer.spec.arguments := by
    refine ⟨ranks, ranks, _, _, rfl, rfl, ranks_decodes, ranks_decodes, rfl, ?_⟩
    exact ⟨"x-ranks", .array [], .array [], List.mem_cons_self, by simp, rfl⟩
  exact validateUpdate_abort .verbatim same incomparable

/-- A queue without arguments. -/
def plainQueue : Object .queue where
  objectMeta := { name := "plain", ns := "shop" }
  spec := { name := "plain" }

/-- The update with which the operator adds its finalizer to a plain queue is decided. -/
theorem plainQueue_decided : Decides .verbatim plainQueue plainQueue.withFinalizer := by
  have absent : Decodes none := by
    intro extension given
    cases given
  apply (queue_update_decided_iff .verbatim plainQueue plainQueue.withFinalizer absent absent).mpr
  rintro ⟨-, previous, _, _, _, given, -⟩
  cases given

end Example

end TopologyOperator.QueueCustomValidator
