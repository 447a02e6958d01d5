import Mathlib.Data.List.TakeDrop

/-!
# The scheme of a URI

A URI starts with a scheme and a colon: `scheme = ALPHA *( ALPHA / DIGIT / "+" / "-" /
"." )`. Schemes are compared without regard to case, so they are returned in lower case.
-/

namespace Encoding

def isSchemeChar (char : Char) : Bool :=
  char.isAlphanum || char = '+' || char = '-' || char = '.'

def isScheme : List Char → Bool
  | [] => false
  | first :: rest => first.isAlpha && rest.all isSchemeChar

/-- The scheme of a URI in lower case, and what follows its colon. -/
def splitUri (text : String) : Option (String × List Char) :=
  match text.toList.span (· ≠ ':') with
  | (_, []) => none
  | (scheme, _ :: rest) =>
      if isScheme scheme then some (String.ofList (scheme.map Char.toLower), rest) else none

def uriScheme (text : String) : Option String := (splitUri text).map Prod.fst

theorem colon_notMem_of_isScheme {scheme : List Char} (valid : isScheme scheme = true) :
    ':' ∉ scheme := by
  cases scheme with
  | nil => exact List.not_mem_nil
  | cons first rest =>
      simp only [isScheme, Bool.and_eq_true, List.all_eq_true] at valid
      intro member
      rcases List.mem_cons.mp member with here | there
      · rw [← here] at valid
        exact absurd valid.1 (by decide)
      · exact absurd (valid.2 ':' there) (by decide)

/-- A text that starts with a scheme and a colon is split there. -/
theorem splitUri_of_append {text : String} {scheme rest : List Char}
    (valid : isScheme scheme = true) (whole : text.toList = scheme ++ ':' :: rest) :
    splitUri text = some (String.ofList (scheme.map Char.toLower), rest) := by
  have inside : ∀ char ∈ scheme, decide (char ≠ ':') = true := by
    intro char member
    rw [decide_eq_true_eq]
    intro colon
    rw [colon] at member
    exact colon_notMem_of_isScheme valid member
  rw [splitUri, whole, List.span_eq_takeWhile_dropWhile, List.takeWhile_append_of_pos inside,
    List.dropWhile_append_of_pos inside]
  simp [valid]

/-- The scheme and the colon come before the rest. -/
theorem length_lt_of_splitUri {text scheme : String} {rest : List Char}
    (split : splitUri text = some (scheme, rest)) : rest.length < text.toList.length := by
  simp only [splitUri, List.span_eq_takeWhile_dropWhile] at split
  split at split
  · cases split
  next before colon after spanned =>
  split at split
  · obtain ⟨-, rfl⟩ : _ ∧ after = rest := by simpa using split
    have whole := List.takeWhile_append_dropWhile (p := fun char => decide (char ≠ ':'))
      (l := text.toList)
    rw [(Prod.mk.inj spanned).2] at whole
    rw [← whole, List.length_append, List.length_cons]
    omega
  · cases split

end Encoding
