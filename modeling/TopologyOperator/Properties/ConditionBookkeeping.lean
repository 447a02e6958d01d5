import Mathlib.Data.List.Nodup
import TopologyOperator.ApiServer.StoredConditions

/-!
# Bookkeeping of conditions

The reconcilers compute a condition from the list in the status and set it there: a
`User` replaces the condition of the type in its place or appends it, any other kind
keeps only the new condition. The conditions of every stored object come from such steps.
Over any sequence of them there is at most one condition of each type, and the clock is
read for a condition exactly when the status of its type changes.
-/

namespace TopologyOperator

open Dialogue Program Environment ApiServer

/-- The conditions that the reconcilers compute. -/
inductive Verdict where
  | ready
  | notReady (msg : String)
  | passwordSynced

namespace Verdict

def compute {Resource : Type} : Verdict → List Condition → Prog Resource Condition
  | ready => TopologyOperator.ready
  | notReady msg => TopologyOperator.notReady msg
  | passwordSynced => TopologyOperator.passwordSynced

def type : Verdict → String
  | ready | notReady _ => "Ready"
  | passwordSynced => "PasswordSynced"

def status : Verdict → ConditionStatus
  | ready | passwordSynced => .conditionTrue
  | notReady _ => .conditionFalse

def reason : Verdict → String
  | ready => "SuccessfulCreateOrUpdate"
  | notReady _ => "FailedCreateOrUpdate"
  | passwordSynced => "SuccessfulPasswordSync"

def message : Verdict → String
  | notReady msg => msg
  | ready | passwordSynced => ""

/-- The condition of the verdict, with a transition time. -/
def condition (verdict : Verdict) (time : Time) : Condition :=
  ⟨verdict.type, verdict.status, time, verdict.reason, verdict.message⟩

end Verdict

variable {Resource : Type} {verdict : Verdict} {type : String} {status : ConditionStatus}
  {condition held : Condition} {conditions : List Condition} {trace : Trace Resource}

/-- The time of the last transition is kept, or the clock is read. -/
theorem transitionTime_exec {time : Time}
    (exec : (transitionTime type status conditions).Exec trace (.done time)) :
    lastTransitionTime type status conditions = some time ∧ trace = [] ∨
      lastTransitionTime type status conditions = none ∧ trace = [⟨.now, time⟩] := by
  unfold transitionTime at exec
  split at exec
  · next earlier found =>
      obtain ⟨rfl, ends⟩ := exec
      cases ends
      exact .inl ⟨found, rfl⟩
  · next missing =>
      obtain ⟨now, rest, rfl, rfl, ends⟩ := exec
      cases ends
      exact .inr ⟨missing, rfl⟩

/-- A verdict takes the time of the earlier condition of its type and status, or reads
the clock. -/
theorem Verdict.compute_exec (exec : (verdict.compute conditions).Exec trace (.done condition)) :
    ∃ time, condition = verdict.condition time ∧
      (lastTransitionTime verdict.type verdict.status conditions = some time ∧ trace = [] ∨
        lastTransitionTime verdict.type verdict.status conditions = none ∧
          trace = [⟨.now, time⟩]) := by
  cases verdict <;>
    · obtain ⟨time, timing, rest, rfl, timed, rfl, ends⟩ := exec_bind_done.mp exec
      cases ends
      rw [List.append_nil]
      exact ⟨time, rfl, transitionTime_exec timed⟩

section Lists

/-- The condition of a type. -/
def ofType (type : String) (conditions : List Condition) : Option Condition :=
  conditions.find? fun condition => condition.type = type

def statusOf (type : String) (conditions : List Condition) : Option ConditionStatus :=
  (ofType type conditions).map (·.status)

def timeOf (type : String) (conditions : List Condition) : Option Time :=
  (ofType type conditions).map (·.lastTransitionTime)

/-- A type without a condition has neither a time nor a status. -/
theorem timeOf_eq_none : timeOf type conditions = none ↔ statusOf type conditions = none := by
  rw [timeOf, statusOf, Option.map_eq_none_iff, Option.map_eq_none_iff]

/-- No two conditions have the same type. -/
def DistinctTypes (conditions : List Condition) : Prop := (conditions.map (·.type)).Nodup

theorem ofType_cons_self : ofType held.type (held :: conditions) = some held :=
  List.find?_cons_of_pos (by simp)

theorem ofType_cons_of_ne (different : held.type ≠ type) :
    ofType type (held :: conditions) = ofType type conditions :=
  List.find?_cons_of_neg (by simpa using different)

theorem ofType_eq_none (absent : type ∉ conditions.map (·.type)) :
    ofType type conditions = none := by
  rw [ofType, List.find?_eq_none]
  intro held member same
  exact absent (List.mem_map.mpr ⟨held, member, of_decide_eq_true same⟩)

/-- Without duplicates, the first condition of a type and status is the one of the type. -/
theorem lastTransitionTime_eq (distinct : DistinctTypes conditions) :
    lastTransitionTime type status conditions =
      if statusOf type conditions = some status then timeOf type conditions else none := by
  induction conditions with
  | nil => rfl
  | cons held rest ih =>
      obtain ⟨fresh, others⟩ := List.nodup_cons.mp distinct
      by_cases named : held.type = type
      · subst named
        have later : lastTransitionTime held.type status rest = none := by
          rw [ih others, statusOf, ofType_eq_none fresh]
          rfl
        by_cases same : held.status = status
        · simp [lastTransitionTime, statusOf, timeOf, ofType_cons_self, same]
        · have skipped : lastTransitionTime held.type status (held :: rest) =
              lastTransitionTime held.type status rest := by
            simp [lastTransitionTime, same]
          simp [skipped, later, statusOf, ofType_cons_self, same]
      · have skipped : lastTransitionTime type status (held :: rest) =
            lastTransitionTime type status rest := by
          simp [lastTransitionTime, named]
        rw [skipped, ih others, statusOf, timeOf, statusOf, timeOf, ofType_cons_of_ne named]

/-- Without duplicates, a verdict keeps the time of its type if the type has its status
already, and reads the clock otherwise. -/
theorem Verdict.compute_dated (distinct : DistinctTypes conditions)
    (exec : (verdict.compute conditions).Exec trace (.done condition)) :
    ∃ time, condition = verdict.condition time ∧
      (statusOf verdict.type conditions = some verdict.status ∧
          timeOf verdict.type conditions = some time ∧ trace = [] ∨
        statusOf verdict.type conditions ≠ some verdict.status ∧ trace = [⟨.now, time⟩]) := by
  obtain ⟨time, rfl, timed⟩ := Verdict.compute_exec exec
  refine ⟨time, rfl, ?_⟩
  rw [lastTransitionTime_eq distinct] at timed
  by_cases same : statusOf verdict.type conditions = some verdict.status
  · rw [if_pos same] at timed
    rcases timed with ⟨found, silent⟩ | ⟨missing, -⟩
    · exact .inl ⟨same, found, silent⟩
    · rw [timeOf_eq_none.mp missing] at same
      cases same
  · rw [if_neg same] at timed
    rcases timed with ⟨absurd, -⟩ | ⟨-, asked⟩
    · cases absurd
    · exact .inr ⟨same, asked⟩

/-- The condition that was set is found under its type. -/
theorem ofType_upsertCondition_self :
    ofType condition.type (upsertCondition condition conditions) = some condition := by
  induction conditions with
  | nil => exact ofType_cons_self
  | cons held rest ih =>
      unfold upsertCondition
      by_cases same : held.type = condition.type
      · rw [if_pos same]
        exact ofType_cons_self
      · rw [if_neg same, ofType_cons_of_ne same, ih]

/-- Merging a condition keeps the conditions of other types, in their order. -/
theorem filter_upsertCondition :
    (upsertCondition condition conditions).filter (·.type ≠ condition.type) =
      conditions.filter (·.type ≠ condition.type) := by
  induction conditions with
  | nil => simp [upsertCondition]
  | cons held rest ih =>
      unfold upsertCondition
      by_cases same : held.type = condition.type
      · simp [same]
      · simp only [if_neg same]
        rw [List.filter_cons_of_pos (by simpa using same),
          List.filter_cons_of_pos (by simpa using same), ih]

/-- Conditions of one type are not concerned with those of another. -/
theorem ofType_filter {other : String} (different : type ≠ other) :
    ofType type (conditions.filter (·.type ≠ other)) = ofType type conditions := by
  rw [ofType, List.find?_filter, ofType]
  congr 1
  funext held
  by_cases same : held.type = type
  · simp [same, different]
  · simp [same]

/-- A type is replaced in its place or appended. -/
theorem types_upsertCondition :
    (upsertCondition condition conditions).map (·.type) =
      if condition.type ∈ conditions.map (·.type) then conditions.map (·.type)
      else conditions.map (·.type) ++ [condition.type] := by
  induction conditions with
  | nil => rfl
  | cons held rest ih =>
      unfold upsertCondition
      by_cases same : held.type = condition.type
      · simp [same]
      · rw [if_neg same, List.map_cons, ih]
        by_cases later : condition.type ∈ rest.map (·.type)
        · rw [if_pos later, List.map_cons, if_pos (List.mem_cons_of_mem _ later)]
        · have absent : condition.type ∉ held.type :: rest.map (·.type) :=
            List.not_mem_cons_of_ne_of_not_mem (Ne.symm same) later
          rw [if_neg later, List.map_cons, if_neg absent, List.cons_append]

/-- Setting a condition does not repeat a type. -/
theorem DistinctTypes.upsertCondition (distinct : DistinctTypes conditions) :
    DistinctTypes (upsertCondition condition conditions) := by
  rw [DistinctTypes, types_upsertCondition]
  split
  · exact distinct
  · next absent =>
      rw [← List.concat_eq_append]
      exact List.Nodup.concat absent distinct

end Lists

section Steps

variable {kind : Kind} {object : Object kind}

theorem ofType_singleton_of_ne (different : condition.type ≠ type) :
    ofType type [condition] = none := by
  rw [ofType_cons_of_ne different]
  rfl

/-- Setting a condition replaces the condition of its type. -/
theorem ofType_setStatusConditions_self :
    ofType condition.type (object.setStatusConditions [condition]).status.conditions =
      some condition := by
  cases kind with
  | user => exact ofType_upsertCondition_self
  | _ => exact ofType_cons_self

/-- A condition of another type is kept or dropped. -/
theorem ofType_setStatusConditions_of_ne (object : Object kind)
    (different : condition.type ≠ type) :
    ofType type (object.setStatusConditions [condition]).status.conditions =
        ofType type object.status.conditions ∨
      ofType type (object.setStatusConditions [condition]).status.conditions = none := by
  cases kind with
  | user =>
      left
      change ofType type (upsertCondition condition object.status.conditions) = _
      rw [← ofType_filter (Ne.symm different), filter_upsertCondition,
        ofType_filter (Ne.symm different)]
  | _ => exact .inr (ofType_singleton_of_ne different)

/-- No step of any kind repeats a type. -/
theorem DistinctTypes.setStatusConditions (distinct : DistinctTypes object.status.conditions) :
    DistinctTypes (object.setStatusConditions [condition]).status.conditions := by
  cases kind with
  | user => exact distinct.upsertCondition
  | _ => exact List.nodup_singleton _

/-- The lists of conditions that sequences of steps leave, from the empty list on. -/
inductive Recorded (kind : Kind) : List Condition → Prop where
  | empty : Recorded kind []
  | step (object : Object kind) (verdict : Verdict) (trace : Trace (Object kind))
      (condition : Condition) (before : Recorded kind object.status.conditions)
      (computed : (verdict.compute object.status.conditions).Exec trace (.done condition)) :
      Recorded kind (object.setStatusConditions [condition]).status.conditions

/-- Over any sequence of steps, there is at most one condition of each type. -/
theorem Recorded.distinct (recorded : Recorded kind conditions) : DistinctTypes conditions := by
  induction recorded with
  | empty => exact List.nodup_nil
  | step object verdict trace condition before computed ih => exact ih.setStatusConditions

/-- What is read is stored, and what is stored was recorded. -/
theorem recorded_vouching (kind : Kind) (key : NamespacedName) :
    Vouching key (environment key) id (fun _ => Recorded kind)
      (fun _ event => ∀ key (object : Object kind), event = ⟨.get key, .ok object⟩ →
        Recorded kind object.status.conditions) where
  foreign move := move
  answers answered := answered
  fresh _ := .empty
  drifts _ := ⟨fun _ => id, fun _ => id⟩
  grows _ := ⟨fun _ => id, fun _ => id⟩
  tells := by
    rintro world request reply after answered holds key object same
    cases same
    exact holds object (answered.2 object rfl)
  reads told := told _ _ rfl
  ready recorded exec := .step _ .ready _ _ recorded exec
  notReady recorded exec := .step _ (.notReady _) _ _ recorded exec
  passwordSynced recorded _ _ exec := .step _ .passwordSynced _ _ recorded exec

/-- In every run, the conditions of a stored object come from a sequence of steps. -/
theorem recorded_of_reachable {r : TopologyReconciler} {key : NamespacedName}
    {config : Config (@Request.Answer (Object kind)) (World kind) (Result × Option GoError)}
    (reachable : (environment key).Reachable (r.reconcile key) World.empty config)
    (stored : config.world.stored = some object) : Recorded kind object.status.conditions :=
  ((recorded_vouching kind key).stored reachable rfl).1 object stored

/-- A step of the bookkeeping, with the events of computing its condition. -/
structure Booked (kind : Kind) (verdict : Verdict) (trace : Trace (Object kind))
    (before after : List Condition) : Prop where
  distinct : DistinctTypes after
  /-- A `User` keeps the conditions of other types, in their order. -/
  others : kind = .user →
    after.filter (·.type ≠ verdict.type) = before.filter (·.type ≠ verdict.type)
  /-- Status, reason and message are those of the verdict. -/
  refreshed : ∃ time, ofType verdict.type after = some (verdict.condition time)
  /-- The clock is read exactly if the status of the type changes, and its reading is the
  new time. -/
  clock : statusOf verdict.type after = statusOf verdict.type before ∧ trace = [] ∨
    statusOf verdict.type after ≠ statusOf verdict.type before ∧
      ∃ now, trace = [⟨.now, now⟩] ∧ timeOf verdict.type after = some now
  /-- A type that keeps its status keeps its time. -/
  kept : ∀ type, statusOf type after = statusOf type before → timeOf type after = timeOf type before
  /-- A type that changes its status changes its time, unless the clock shows the old time. -/
  changed : ∀ type, statusOf type after ≠ statusOf type before →
    (∀ now, trace = [⟨.now, now⟩] → timeOf type before ≠ some now) →
    timeOf type after ≠ timeOf type before

/-- What setting a condition of another type does to the status and the time of a type:
both are kept, or both are dropped. -/
theorem setStatusConditions_of_ne (different : condition.type ≠ type) :
    (statusOf type (object.setStatusConditions [condition]).status.conditions =
        statusOf type object.status.conditions ↔
      timeOf type (object.setStatusConditions [condition]).status.conditions =
        timeOf type object.status.conditions) := by
  rcases ofType_setStatusConditions_of_ne object different with same | dropped
  · simp only [statusOf, timeOf, same]
  · have noStatus : statusOf type (object.setStatusConditions [condition]).status.conditions =
        none := by rw [statusOf, dropped]; rfl
    rw [noStatus, timeOf_eq_none.mpr noStatus, eq_comm, ← timeOf_eq_none, eq_comm]

/-- A step of a user leaves the conditions of other types. -/
theorem filter_setStatusConditions (user : kind = .user) :
    (object.setStatusConditions [condition]).status.conditions.filter (·.type ≠ condition.type) =
      object.status.conditions.filter (·.type ≠ condition.type) := by
  subst user
  exact filter_upsertCondition

/-- Every step of every sequence of conditions keeps the books. -/
theorem conditions_booked (kind : Kind) (object : Object kind) (verdict : Verdict)
    (trace : Trace (Object kind)) (condition : Condition)
    (recorded : Recorded kind object.status.conditions)
    (computed : (verdict.compute object.status.conditions).Exec trace (.done condition)) :
    Booked kind verdict trace object.status.conditions
      (object.setStatusConditions [condition]).status.conditions := by
  have distinct := recorded.distinct
  obtain ⟨time, same, dated⟩ := Verdict.compute_dated distinct computed
  have typed : condition.type = verdict.type := by rw [same]; rfl
  have set : ofType verdict.type (object.setStatusConditions [condition]).status.conditions =
      some (verdict.condition time) := by
    rw [← typed, ofType_setStatusConditions_self, same]
  have status : statusOf verdict.type (object.setStatusConditions [condition]).status.conditions =
      some verdict.status := by rw [statusOf, set]; rfl
  have timed : timeOf verdict.type (object.setStatusConditions [condition]).status.conditions =
      some time := by rw [timeOf, set]; rfl
  constructor
  · exact distinct.setStatusConditions
  · intro user
    rw [← typed]
    exact filter_setStatusConditions user
  · exact ⟨time, set⟩
  · rw [status]
    rcases dated with ⟨held, -, silent⟩ | ⟨other, asked⟩
    · exact .inl ⟨held.symm, silent⟩
    · exact .inr ⟨Ne.symm other, time, asked, timed⟩
  · intro type unchanged
    by_cases own : type = verdict.type
    · subst own
      rcases dated with ⟨-, earlier, -⟩ | ⟨other, -⟩
      · rw [timed, earlier]
      · exact absurd (unchanged.symm.trans status) other
    · exact (setStatusConditions_of_ne (typed.trans_ne (Ne.symm own))).mp unchanged
  · intro type changes fresh
    by_cases own : type = verdict.type
    · subst own
      rcases dated with ⟨held, -⟩ | ⟨-, asked⟩
      · exact absurd (status.trans held.symm) changes
      · rw [timed]
        exact Ne.symm (fresh time asked)
    · intro unchanged
      exact changes ((setStatusConditions_of_ne (typed.trans_ne (Ne.symm own))).mpr unchanged)

end Steps

/-- A user that was just created. -/
def auditUser : Object .user where
  objectMeta := { name := "audit", ns := "shop" }
  spec := {}

/-- The user after a failed declaration. -/
def auditUserFailed : Object .user :=
  auditUser.setStatusConditions [(Verdict.notReady "broker unavailable").condition 4]

/-- The password is synced at the next attempt. -/
theorem auditUserFailed_synced :
    Booked .user .passwordSynced [⟨.now, 9⟩] auditUserFailed.status.conditions
        (auditUserFailed.setStatusConditions
          [Verdict.passwordSynced.condition 9]).status.conditions ∧
      (auditUserFailed.setStatusConditions
          [Verdict.passwordSynced.condition 9]).status.conditions =
        [(Verdict.notReady "broker unavailable").condition 4,
          Verdict.passwordSynced.condition 9] := by
  have failed : Recorded .user auditUserFailed.status.conditions :=
    .step auditUser (.notReady "broker unavailable") [⟨.now, 4⟩] _ .empty ⟨4, [], rfl, rfl, rfl⟩
  exact ⟨conditions_booked .user auditUserFailed .passwordSynced [⟨.now, 9⟩] _ failed
    ⟨9, [], rfl, rfl, rfl⟩, by decide⟩

end TopologyOperator
