import Mathlib.Computability.RegularExpressions

/-!
# Patterns

Classes of symbols, optional parts and parts after a separator, as they are written in the
patterns of programs: what the words are that match.
-/

namespace Encoding.Pattern

open RegularExpression

variable {α : Type} {symbols word : List α} {pattern : RegularExpression α} {separator : α}

/-- A class of symbols, `[…]`. -/
def oneOf (symbols : List α) : RegularExpression α := (symbols.map char).foldr (· + ·) 0

/-- An optional part, `(…)?`. -/
def optional (pattern : RegularExpression α) : RegularExpression α := 1 + pattern

theorem mem_oneOf : word ∈ (oneOf symbols).matches' ↔ ∃ symbol ∈ symbols, word = [symbol] := by
  induction symbols with
  | nil => exact ⟨False.elim, fun ⟨_, absent, _⟩ => by cases absent⟩
  | cons symbol symbols ih =>
      change word ∈ (char symbol + oneOf symbols).matches' ↔ _
      rw [matches'_add, Language.mem_add, ih, List.exists_mem_cons_iff]
      rfl

theorem mem_optional : word ∈ (optional pattern).matches' ↔ word = [] ∨ word ∈ pattern.matches' :=
  Iff.rfl

/-- A word of symbols of the class. -/
theorem mem_star_oneOf :
    word ∈ (oneOf symbols).star.matches' ↔ ∀ symbol ∈ word, symbol ∈ symbols := by
  rw [matches'_star, Language.mem_kstar]
  constructor
  · rintro ⟨pieces, rfl, matching⟩ symbol member
    obtain ⟨piece, listed, inside⟩ := List.mem_flatten.mp member
    obtain ⟨other, allowed, rfl⟩ := mem_oneOf.mp (matching piece listed)
    rw [List.mem_singleton.mp inside]
    exact allowed
  · intro allowed
    refine ⟨word.map fun symbol => [symbol], ?_, fun piece listed => ?_⟩
    · rw [← List.flatMap_def, List.flatMap_singleton']
    · obtain ⟨symbol, member, rfl⟩ := List.mem_map.mp listed
      exact mem_oneOf.mpr ⟨symbol, allowed symbol member, rfl⟩

theorem mem_separated : word ∈ (char separator * pattern).matches' ↔
    ∃ piece ∈ pattern.matches', word = separator :: piece := by
  rw [matches'_mul, Language.mem_mul]
  constructor
  · rintro ⟨_, rfl, piece, matching, rfl⟩
    exact ⟨piece, matching, rfl⟩
  · rintro ⟨piece, matching, rfl⟩
    exact ⟨[separator], rfl, piece, matching, rfl⟩

/-- Any number of parts, each after a separator. -/
theorem mem_star_separated : word ∈ (char separator * pattern).star.matches' ↔
    ∃ pieces : List (List α), (∀ piece ∈ pieces, piece ∈ pattern.matches') ∧
      word = pieces.flatMap (separator :: ·) := by
  rw [matches'_star, Language.mem_kstar]
  constructor
  · rintro ⟨parts, rfl, matching⟩
    induction parts with
    | nil => exact ⟨[], fun _ absent => (by cases absent), rfl⟩
    | cons part parts ih =>
        obtain ⟨piece, here, rfl⟩ := mem_separated.mp (matching part (.head _))
        obtain ⟨pieces, rest, same⟩ := ih fun other listed => matching other (.tail _ listed)
        refine ⟨piece :: pieces, List.forall_mem_cons.mpr ⟨here, rest⟩, ?_⟩
        rw [List.flatten_cons, List.flatMap_cons, same]
  · rintro ⟨pieces, matching, rfl⟩
    refine ⟨pieces.map (separator :: ·), List.flatMap_def .., fun part listed => ?_⟩
    obtain ⟨piece, member, rfl⟩ := List.mem_map.mp listed
    exact mem_separated.mpr ⟨piece, matching piece member, rfl⟩

end Encoding.Pattern
