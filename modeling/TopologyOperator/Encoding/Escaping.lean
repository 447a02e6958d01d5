import Mathlib.Data.List.Infix

/-!
# Escaping one symbol

Every occurrence of one symbol in a text is replaced by a code that does not contain
the symbol. The escaped text determines the text exactly if the text contains neither
the symbol nor its code. A reader that takes every code for the symbol gets the text back
exactly if the code does not occur in it.
-/

namespace Encoding

variable {α : Type} {special : α} {code text : List α}

/-- A text with the symbol differs from the text with its code in the same place. -/
theorem append_special_ne (fresh : special ∉ code) (before after : List α) :
    before ++ special :: after ≠ before ++ (code ++ after) := by
  intro same
  have tails := List.append_cancel_left same
  cases code with
  | nil => exact List.cons_ne_self _ _ tails
  | cons symbol code => exact fresh (List.mem_cons.mpr (.inl (List.cons.inj tails).1))

variable [DecidableEq α]

/-- Replace each occurrence of the symbol by its code. -/
def escape (special : α) (code text : List α) : List α :=
  text.flatMap fun symbol => if symbol = special then code else [symbol]

theorem escape_append (first second : List α) :
    escape special code (first ++ second) =
      escape special code first ++ escape special code second :=
  List.flatMap_append

theorem escape_cons_self (text : List α) :
    escape special code (special :: text) = code ++ escape special code text := by
  rw [escape, List.flatMap_cons, if_pos rfl]
  rfl

theorem escape_cons_of_ne {symbol : α} (different : symbol ≠ special) (text : List α) :
    escape special code (symbol :: text) = symbol :: escape special code text := by
  rw [escape, List.flatMap_cons, if_neg different]
  rfl

/-- A text without the symbol is left as it is. -/
theorem escape_of_notMem (absent : special ∉ text) : escape special code text = text := by
  induction text with
  | nil => rfl
  | cons symbol text ih =>
      rw [List.mem_cons, not_or] at absent
      obtain ⟨different, absent⟩ := absent
      rw [escape_cons_of_ne (Ne.symm different), ih absent]

/-- The symbol does not occur in an escaped text. -/
theorem special_notMem_escape (fresh : special ∉ code) (text : List α) :
    special ∉ escape special code text := by
  intro member
  obtain ⟨symbol, -, within⟩ := List.mem_flatMap.mp member
  split at within
  · exact fresh within
  · next different => exact different (List.mem_singleton.mp within).symm

theorem escape_eq_nil (filled : code ≠ []) (empty : escape special code text = []) : text = [] := by
  cases text with
  | nil => rfl
  | cons symbol text =>
      rw [escape, List.flatMap_cons, List.append_eq_nil_iff] at empty
      by_cases same : symbol = special
      · rw [if_pos same] at empty
        exact absurd empty.1 filled
      · rw [if_neg same] at empty
        cases empty.1

/-- The code of the symbol occurs in the escaped text. -/
theorem code_infix_escape (member : special ∈ text) : code <:+: escape special code text := by
  obtain ⟨before, after, rfl⟩ := List.append_of_mem member
  rw [escape_append, escape_cons_self]
  exact ⟨_, _, List.append_assoc ..⟩

/-- The symbol and its code are escaped to the same text. -/
theorem escape_confuses (fresh : special ∉ code) (before after : List α) :
    escape special code (before ++ special :: after) =
      escape special code (before ++ (code ++ after)) := by
  rw [escape_append, escape_append, escape_append, escape_cons_self, escape_of_notMem fresh]

/-- No other text is escaped to the same text exactly if the text contains neither the
symbol nor its code. -/
theorem escape_unique_iff (fresh : special ∉ code) :
    (∀ other, escape special code other = escape special code text → other = text) ↔
      special ∉ text ∧ ¬ code <:+: text := by
  constructor
  · intro unique
    constructor
    · intro member
      obtain ⟨before, after, rfl⟩ := List.append_of_mem member
      exact append_special_ne fresh before after
        (unique _ (escape_confuses fresh before after).symm).symm
    · rintro ⟨before, after, rfl⟩
      rw [List.append_assoc] at unique
      exact append_special_ne fresh before after (unique _ (escape_confuses fresh before after))
  · rintro ⟨absent, uncoded⟩ other same
    rw [escape_of_notMem absent] at same
    by_cases member : special ∈ other
    · exact absurd (same ▸ code_infix_escape member) uncoded
    · rwa [escape_of_notMem member] at same

/-- Replace each code by the symbol, from the left. The number says how many symbols of a
code that has been replaced are still to be skipped. -/
def unescapeFrom (special : α) (code : List α) : Nat → List α → List α
  | _, [] => []
  | skipped + 1, _ :: text => unescapeFrom special code skipped text
  | 0, symbol :: text =>
      if code <+: symbol :: text then
        special :: unescapeFrom special code (code.length - 1) text
      else symbol :: unescapeFrom special code 0 text

/-- Read an escaped text. -/
def unescape (special : α) (code text : List α) : List α := unescapeFrom special code 0 text

theorem unescapeFrom_eq (skipped : Nat) (text : List α) :
    unescapeFrom special code skipped text = unescape special code (text.drop skipped) := by
  induction text generalizing skipped with
  | nil => cases skipped <;> rfl
  | cons symbol text ih =>
      cases skipped with
      | zero => rfl
      | succ skipped => exact ih skipped

/-- A code is read as the symbol. -/
theorem unescape_code (filled : code ≠ []) (text : List α) :
    unescape special code (code ++ text) = special :: unescape special code text := by
  cases code with
  | nil => exact absurd rfl filled
  | cons first rest =>
      rw [unescape, List.cons_append, unescapeFrom, if_pos ⟨text, rfl⟩, unescapeFrom_eq]
      exact congrArg (fun left => special :: unescape special (first :: rest) left)
        List.drop_left

/-- A symbol that does not start a code is kept. -/
theorem unescape_cons {symbol : α} (uncoded : ¬ code <+: symbol :: text) :
    unescape special code (symbol :: text) = symbol :: unescape special code text :=
  if_neg uncoded

/-- What is read without the symbol stands there as it is. -/
theorem prefix_of_prefix_unescape {piece : List α} (absent : special ∉ piece)
    (read : piece <+: unescape special code text) : piece <+: text := by
  induction piece generalizing text with
  | nil => exact List.nil_prefix
  | cons symbol piece ih =>
      obtain ⟨different, absent⟩ := not_or.mp (List.mem_cons.not.mp absent)
      cases text with
      | nil => exact absurd (List.prefix_nil.mp read) (List.cons_ne_nil _ _)
      | cons other text =>
          by_cases coded : code <+: other :: text
          · rw [unescape, unescapeFrom, if_pos coded] at read
            exact absurd (List.cons_prefix_cons.mp read).1.symm different
          · rw [unescape_cons coded] at read
            obtain ⟨rfl, within⟩ := List.cons_prefix_cons.mp read
            exact List.cons_prefix_cons.mpr ⟨rfl, ih absent within⟩

/-- No code is left in what is read. -/
theorem code_not_infix_unescapeFrom (fresh : special ∉ code) (filled : code ≠ [])
    (skipped : Nat) (text : List α) : ¬ code <:+: unescapeFrom special code skipped text := by
  induction text generalizing skipped with
  | nil =>
      have empty : unescapeFrom special code skipped [] = [] := by cases skipped <;> rfl
      rw [empty, List.infix_nil]
      exact filled
  | cons symbol text ih =>
      cases skipped with
      | succ skipped => exact ih skipped
      | zero =>
          intro occurs
          by_cases coded : code <+: symbol :: text
          · rw [unescapeFrom, if_pos coded] at occurs
            rcases List.infix_cons_iff.mp occurs with starts | later
            · obtain ⟨first, rest, rfl⟩ := List.exists_cons_of_ne_nil filled
              exact fresh ((List.cons_prefix_cons.mp starts).1 ▸ List.mem_cons_self)
            · exact ih _ later
          · rw [unescapeFrom, if_neg coded] at occurs
            rcases List.infix_cons_iff.mp occurs with starts | later
            · rw [← unescape, ← unescape_cons coded] at starts
              exact coded (prefix_of_prefix_unescape fresh starts)
            · exact ih _ later

section Reading

variable {first : α} {rest : List α}

/-- What does not reach the next code stands in the text as it does in the escaped text. -/
theorem prefix_of_prefix_escape {piece : List α} (absent : first ∉ piece)
    (written : piece <+: escape special (first :: rest) text) : piece <+: text := by
  induction piece generalizing text with
  | nil => exact List.nil_prefix
  | cons symbol piece ih =>
      obtain ⟨different, absent⟩ := not_or.mp (List.mem_cons.not.mp absent)
      cases text with
      | nil => exact absurd (List.prefix_nil.mp written) (List.cons_ne_nil _ _)
      | cons other text =>
          by_cases same : other = special
          · subst same
            rw [escape_cons_self, List.cons_append] at written
            exact absurd (List.cons_prefix_cons.mp written).1.symm different
          · rw [escape_cons_of_ne same] at written
            obtain ⟨rfl, within⟩ := List.cons_prefix_cons.mp written
            exact List.cons_prefix_cons.mpr ⟨rfl, ih absent within⟩

/-- A text without the code is read back. The first symbol of the code occurs in it only
once, so that a code in the escaped text is either one that was written for the symbol or
one that the text contains. -/
theorem unescape_escape (once : first ∉ rest) (uncoded : ¬ first :: rest <:+: text) :
    unescape special (first :: rest) (escape special (first :: rest) text) = text := by
  induction text with
  | nil => rfl
  | cons symbol text ih =>
      have later : ¬ first :: rest <:+: text := fun occurs =>
        uncoded (List.infix_cons_iff.mpr (.inr occurs))
      by_cases same : symbol = special
      · subst same
        rw [escape_cons_self, unescape_code (List.cons_ne_nil _ _), ih later]
      · rw [escape_cons_of_ne same, unescape_cons, ih later]
        intro starts
        obtain ⟨rfl, within⟩ := List.cons_prefix_cons.mp starts
        have occurs : first :: rest <+: first :: text :=
          List.cons_prefix_cons.mpr ⟨rfl, prefix_of_prefix_escape once within⟩
        exact uncoded occurs.isInfix

/-- A text is read back exactly if it does not contain the code. -/
theorem unescape_escape_iff (fresh : special ∉ first :: rest) (once : first ∉ rest) :
    unescape special (first :: rest) (escape special (first :: rest) text) = text ↔
      ¬ first :: rest <:+: text := by
  constructor
  · intro readBack occurs
    rw [← readBack] at occurs
    exact code_not_infix_unescapeFrom fresh (List.cons_ne_nil _ _) _ _ occurs
  · exact unescape_escape once

end Reading

end Encoding
