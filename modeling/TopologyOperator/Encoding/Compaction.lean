import Mathlib.Data.List.Basic

/-!
# Compact JSON

JSON in its compact form has no white space outside string literals. Compacting keeps
every other character, so it is idempotent, and it shortens a text that has white space
between its tokens.
-/

namespace Encoding.Json

/-- Where a scan is: between tokens, in a string literal, or after a backslash there. -/
inductive Scan where
  | between
  | literal
  | escaped

def isSpace (c : Char) : Bool := c = ' ' ∨ c = '\t' ∨ c = '\n' ∨ c = '\r'

/-- Where the scan is after a character. -/
def Scan.next : Scan → Char → Scan
  | .between, c => if c = '"' then .literal else .between
  | .literal, c => if c = '\\' then .escaped else if c = '"' then .between else .literal
  | .escaped, _ => .literal

/-- White space that separates tokens. -/
def Scan.drops : Scan → Char → Bool
  | .between, c => isSpace c
  | _, _ => false

def compactFrom : Scan → List Char → List Char
  | _, [] => []
  | scan, c :: rest =>
      if scan.drops c then compactFrom scan rest else c :: compactFrom (scan.next c) rest

/-- `json.Compact` -/
def compact (text : String) : String := String.ofList (compactFrom .between text.toList)

/-- From each state of the scan, compacting twice is compacting once. -/
theorem compactFrom_compactFrom (scan : Scan) (text : List Char) :
    compactFrom scan (compactFrom scan text) = compactFrom scan text := by
  induction text generalizing scan with
  | nil => rfl
  | cons c rest ih =>
      rw [compactFrom]
      by_cases dropped : scan.drops c
      · rw [if_pos dropped, ih]
      · rw [if_neg dropped, compactFrom, if_neg dropped, ih]

/-- A compact text stays as it is. -/
theorem compact_compact (text : String) : compact (compact text) = compact text := by
  rw [compact, compact, String.toList_ofList, compactFrom_compactFrom]

/-- Compacting adds nothing. -/
theorem length_compactFrom_le (scan : Scan) (text : List Char) :
    (compactFrom scan text).length ≤ text.length := by
  induction text generalizing scan with
  | nil => exact Nat.le_refl _
  | cons c rest ih =>
      rw [compactFrom]
      by_cases dropped : scan.drops c
      · rw [if_pos dropped]
        exact Nat.le_succ_of_le (ih scan)
      · rw [if_neg dropped]
        exact Nat.succ_le_succ (ih _)

/-- Where the scan is after a text. -/
def Scan.run (scan : Scan) (text : List Char) : Scan := text.foldl Scan.next scan

/-- A text that has white space between its tokens is not compact. -/
theorem compactFrom_ne_self {scan : Scan} {before after : List Char} {c : Char}
    (dropped : (scan.run before).drops c = true) :
    compactFrom scan (before ++ c :: after) ≠ before ++ c :: after := by
  induction before generalizing scan with
  | nil =>
      intro same
      have here : scan.drops c = true := dropped
      rw [List.nil_append, compactFrom, if_pos here] at same
      have shorter := length_compactFrom_le scan after
      rw [same, List.length_cons] at shorter
      omega
  | cons first before ih =>
      rw [List.cons_append, compactFrom]
      by_cases skipped : scan.drops first
      · rw [if_pos skipped]
        intro same
        have shorter := length_compactFrom_le scan (before ++ c :: after)
        rw [same, List.length_cons] at shorter
        omega
      · rw [if_neg skipped]
        intro same
        exact ih dropped (List.cons.inj same).2

/-- Such a text is not the compact form of any text. -/
theorem compact_ne {text opening middle closing : String} {before : List Char} {c : Char}
    (opened : opening.toList = before ++ [c])
    (dropped : (Scan.between.run before).drops c = true) :
    compact text ≠ opening ++ middle ++ closing := by
  have split : (opening ++ middle ++ closing).toList =
      before ++ c :: (middle.toList ++ closing.toList) := by
    rw [String.toList_append, String.toList_append, opened]
    simp only [List.append_assoc, List.cons_append, List.nil_append]
  intro same
  have fixed := congrArg String.toList (compact_compact text)
  rw [same, compact, String.toList_ofList, split] at fixed
  exact compactFrom_ne_self dropped fixed

end Encoding.Json
