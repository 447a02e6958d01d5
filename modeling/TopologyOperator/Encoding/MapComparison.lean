import Mathlib.Data.List.Sort
import TopologyOperator.Encoding.Json

/-!
# Comparing decoded maps

What Go's `maps.Equal` computes on two decoded maps. It stops at the first difference
that it meets, and panics if it meets two arrays or two objects under one key before.
So it decides equality in every iteration order, exactly if the maps differ in size or
there is no such key.
-/

namespace Encoding.Json

variable {first second order : List (String × Value)}

/-- Go cannot compare the two values. -/
def Value.clashes : Value → Value → Bool
  | .array _, .array _ => true
  | .object _, .object _ => true
  | _, _ => false

theorem Value.interfaceEq_eq_none {value other : Value} :
    value.interfaceEq other = none ↔ value.clashes other = true := by
  cases value <;> cases other <;> simp [interfaceEq, clashes]

theorem Value.interfaceEq_of_comparable {value other : Value}
    (comparable : value.clashes other = false) :
    ∃ verdict, value.interfaceEq other = some verdict ∧ (verdict = true ↔ value = other) := by
  cases value <;> cases other <;> simp_all [interfaceEq, clashes]

/-- The maps have arrays, or objects, under one key. -/
def Clash (first second : List (String × Value)) : Prop :=
  ∃ key value other, (key, value) ∈ first ∧ second.lookup key = some other ∧
    value.clashes other = true

/-- A loop that meets no clash decides whether the second map holds all members. -/
theorem mapsEqualLoop_of_no_clash (clear : ¬ Clash order second) :
    ∃ verdict, mapsEqualLoop second order = some verdict ∧
      (verdict = true ↔ ∀ member ∈ order, second.lookup member.1 = some member.2) := by
  induction order with
  | nil => exact ⟨true, rfl, by simp⟩
  | cons member rest ih =>
      obtain ⟨key, value⟩ := member
      have clearRest : ¬ Clash rest second := by
        rintro ⟨key, value, other, within, found, clashes⟩
        exact clear ⟨key, value, other, List.mem_cons_of_mem _ within, found, clashes⟩
      obtain ⟨verdict, looped, decides⟩ := ih clearRest
      cases found : second.lookup key with
      | none =>
          refine ⟨false, by simp only [mapsEqualLoop, found], ?_⟩
          simp [found]
      | some other =>
          have comparable : value.clashes other = false := by
            rw [← Bool.not_eq_true]
            exact fun clashes => clear ⟨key, value, other, List.mem_cons_self, found, clashes⟩
          obtain ⟨same, compared, equal⟩ := Value.interfaceEq_of_comparable comparable
          cases same with
          | true =>
              refine ⟨verdict, by simp only [mapsEqualLoop, found, compared, looped], ?_⟩
              rw [decides]
              simp [found, equal.mp rfl]
          | false =>
              refine ⟨false, by simp only [mapsEqualLoop, found, compared], ?_⟩
              have different : value ≠ other := fun same => Bool.false_ne_true (equal.mpr same)
              simp [found, Ne.symm different]

/-- A map that holds all members of another one of the same size is equal to it. -/
theorem eq_of_held (sortedFirst : Sorted first) (sortedSecond : Sorted second)
    (length : first.length = second.length)
    (held : ∀ member ∈ first, second.lookup member.1 = some member.2) : first = second := by
  have subset : first ⊆ second := by
    intro member within
    obtain ⟨before, after, split, -⟩ := List.lookup_eq_some_iff.mp (held member within)
    rw [split]
    exact List.mem_append_right _ List.mem_cons_self
  have distinct : first.Nodup := by
    apply List.Pairwise.imp _ sortedFirst
    rintro member other below rfl
    exact lt_irrefl _ below
  have perm : first.Perm second :=
    (List.subperm_of_subset distinct subset).perm_of_length_le length.ge
  apply List.Perm.eq_of_pairwise _ sortedFirst sortedSecond perm
  intro member other _ _ below above
  exact absurd below (lt_asymm above)

/-- Without a clash, `maps.Equal` decides equality. -/
theorem mapsEqual_of_no_clash (sortedFirst : Sorted first) (sortedSecond : Sorted second)
    (perm : order.Perm first) (clear : first.length = second.length → ¬ Clash first second) :
    ∃ verdict, mapsEqual order first second = some verdict ∧
      (verdict = true ↔ first = second) := by
  unfold mapsEqual
  by_cases length : first.length = second.length
  · rw [if_neg (not_not.mpr length)]
    have clearOrder : ¬ Clash order second := by
      rintro ⟨key, value, other, within, found, clashes⟩
      exact clear length ⟨key, value, other, perm.mem_iff.mp within, found, clashes⟩
    obtain ⟨verdict, looped, decides⟩ := mapsEqualLoop_of_no_clash clearOrder
    refine ⟨verdict, looped, decides.trans ?_⟩
    constructor
    · intro held
      apply eq_of_held sortedFirst sortedSecond length
      exact fun member within => held member (perm.mem_iff.mpr within)
    · rintro rfl member within
      exact sortedFirst.lookup (perm.mem_iff.mp within)
  · rw [if_pos length]
    refine ⟨false, rfl, ?_⟩
    constructor
    · intro absurd
      cases absurd
    · rintro rfl
      exact absurd rfl length

/-- With a clash in maps of the same size, `maps.Equal` panics if it starts there. -/
theorem mapsEqual_of_clash (length : first.length = second.length)
    (clash : Clash first second) :
    ∃ order, order.Perm first ∧ mapsEqual order first second = none := by
  obtain ⟨key, value, other, within, found, clashes⟩ := clash
  obtain ⟨before, after, rfl⟩ := List.append_of_mem within
  refine ⟨(key, value) :: (before ++ after), List.perm_middle.symm, ?_⟩
  rw [mapsEqual, if_neg (not_not.mpr length), mapsEqualLoop, found]
  simp only [Value.interfaceEq_eq_none.mpr clashes]

/-- A text decodes to these members if a comparison of the members says so. -/
theorem unmarshalMap_eq {text : String} {members : List (String × Value)}
    (compared : (unmarshalMap text).any (membersDeepEqual · members) = true) :
    unmarshalMap text = some members := by
  cases decoded : unmarshalMap text with
  | none =>
      rw [decoded] at compared
      cases compared
  | some found =>
      rw [decoded] at compared
      exact congrArg some (eq_of_membersDeepEqual compared)

end Encoding.Json
