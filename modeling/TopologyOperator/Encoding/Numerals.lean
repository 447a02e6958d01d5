import Mathlib.Data.List.TakeDrop
import Mathlib.Data.Rat.Lemmas
import Mathlib.Tactic.IntervalCases
import Mathlib.Tactic.Ring
import TopologyOperator.Encoding.Json

/-!
# Decoding numerals

A decimal numeral decodes to the `float64` nearest to the number that it prints, which
is the number itself below `2 ^ 53`. An object with one member whose value is a numeral
decodes to one member. A numeral at the end of a text can be read off from the last
separator on.
-/

namespace Encoding.Json

namespace Float64

/-- The number that is represented. -/
def toRat (value : Float64) : ℚ :=
  (if value.negative then -1 else 1) * value.mantissa * 2 ^ value.exponent

/-- The number `mantissa * 2 ^ exponent` is kept. -/
theorem toRat_normalize (fuel mantissa : Nat) (exponent : Int) :
    (normalize false fuel mantissa exponent).toRat = mantissa * 2 ^ exponent := by
  induction fuel generalizing mantissa exponent with
  | zero => simp [normalize, toRat]
  | succ fuel ih =>
      rw [normalize]
      by_cases zero : mantissa = 0
      · simp [zero, toRat]
      rw [if_neg zero]
      by_cases even : mantissa % 2 = 0
      · rw [if_pos even, ih, zpow_add_one₀ two_ne_zero]
        have halved : mantissa / 2 * 2 = mantissa := by omega
        have cast : ((mantissa / 2 : Nat) : ℚ) * 2 = mantissa := by exact_mod_cast halved
        rw [← cast]
        ring
      · simp [even, toRat]

theorem roundHalfEven_one (numerator : Nat) : roundHalfEven numerator 1 = numerator := by
  simp [roundHalfEven, Nat.mod_one]

/-- Rounding adds at most one to the quotient. -/
theorem roundHalfEven_le (numerator denominator : Nat) :
    roundHalfEven numerator denominator ≤ numerator + 1 := by
  have quotient := Nat.div_le_self numerator denominator
  unfold roundHalfEven
  dsimp only
  split_ifs <;> omega

/-- A natural number is scaled so that its first bit becomes the 53rd. -/
theorem ofRatio_one {number : Nat} {exponent : Int} (positive : number ≠ 0)
    (chosen : exponent = number.log2 - 52) :
    ofRatio false number 1 =
      let mantissa := roundHalfEven (number * 2 ^ (-exponent).toNat) (2 ^ exponent.toNat)
      if 1024 < (mantissa.log2 : Int) + 1 + exponent then none
      else some (normalize false 1100 mantissa exponent) := by
  have unit : ((1 : Nat).log2 : Int) = 0 := by decide
  have first : max ((number.log2 : Int) - (1 : Nat).log2 - 53) (-1074) = number.log2 - 53 := by
    omega
  have second : max ((number.log2 : Int) - (1 : Nat).log2 - 53 + 1) (-1074) = exponent := by
    omega
  have large : ¬ number * 2 ^ (-((number.log2 : Int) - 53)).toNat /
      2 ^ ((number.log2 : Int) - 53).toNat < 2 ^ 53 := by
    have raised : (-((number.log2 : Int) - 53)).toNat = 53 - number.log2 := by omega
    have lowered : ((number.log2 : Int) - 53).toNat = number.log2 - 53 := by omega
    have balanced : number.log2 + (53 - number.log2) = 53 + (number.log2 - 53) := by omega
    rw [raised, lowered, not_lt, Nat.le_div_iff_mul_le (Nat.two_pow_pos _), ← Nat.pow_add,
      ← balanced, Nat.pow_add]
    exact Nat.mul_le_mul_right _ (Nat.log2_self_le positive)
  unfold ofRatio
  simp only [if_neg positive, first, second, one_mul, if_neg large]

/-- Below `2 ^ 53` nothing is rounded. -/
theorem ofRatio_exact {number : Nat} (bounded : number < 2 ^ 53) :
    ∃ value, ofRatio false number 1 = some value ∧ value.toRat = number := by
  by_cases zero : number = 0
  · exact ⟨⟨false, 0, 0⟩, by simp [ofRatio, zero], by simp [toRat, zero]⟩
  have short : number.log2 < 53 := (Nat.log2_lt zero).mpr bounded
  obtain ⟨shift, shifted⟩ : ∃ shift : Nat, (shift : Int) = 52 - number.log2 :=
    ⟨52 - number.log2, by omega⟩
  have within : ¬ 1024 < ((number * 2 ^ shift).log2 : Int) + 1 + (-shift : Int) := by
    have nonzero : number * 2 ^ shift ≠ 0 := Nat.mul_ne_zero zero (Nat.two_pow_pos _).ne'
    have length : (number * 2 ^ shift).log2 < 53 + shift := by
      rw [Nat.log2_lt nonzero, Nat.pow_add]
      exact Nat.mul_lt_mul_of_pos_right bounded (Nat.two_pow_pos _)
    omega
  refine ⟨normalize false 1100 (number * 2 ^ shift) (-shift), ?_, ?_⟩
  · have chosen : (-shift : Int) = number.log2 - 52 := by omega
    rw [ofRatio_one zero chosen]
    have raised : (-(-(shift : Int))).toNat = shift := by omega
    have lowered : (-(shift : Int)).toNat = 0 := by omega
    simp only [raised, lowered, pow_zero, roundHalfEven_one, if_neg within]
  · rw [toRat_normalize]
    push_cast
    rw [mul_assoc, ← zpow_natCast, ← zpow_add₀ two_ne_zero, add_neg_cancel, zpow_zero, mul_one]

/-- No `int` overflows. -/
theorem exists_ofRatio {number : Nat} (bounded : number < 2 ^ 63) :
    ∃ value, ofRatio false number 1 = some value := by
  by_cases zero : number = 0
  · exact ⟨⟨false, 0, 0⟩, by simp [ofRatio, zero]⟩
  have short : number.log2 < 63 := (Nat.log2_lt zero).mpr bounded
  obtain ⟨exponent, chosen⟩ : ∃ exponent : Int, exponent = number.log2 - 52 := ⟨_, rfl⟩
  have scaled : number * 2 ^ (-exponent).toNat < 2 ^ 63 * 2 ^ 52 :=
    calc number * 2 ^ (-exponent).toNat
        < 2 ^ 63 * 2 ^ (-exponent).toNat :=
          Nat.mul_lt_mul_of_pos_right bounded (Nat.two_pow_pos _)
      _ ≤ 2 ^ 63 * 2 ^ 52 :=
          Nat.mul_le_mul_left _ (Nat.pow_le_pow_right Nat.two_pos (by omega))
  have length : (roundHalfEven (number * 2 ^ (-exponent).toNat) (2 ^ exponent.toNat)).log2 <
      116 := by
    have rounded := roundHalfEven_le (number * 2 ^ (-exponent).toNat) (2 ^ exponent.toNat)
    rw [Nat.log2_eq_log_two]
    apply Nat.log_lt_of_lt_pow' (by decide)
    omega
  rw [ofRatio_one zero chosen]
  have within : ¬ 1024 < ((roundHalfEven (number * 2 ^ (-exponent).toNat)
      (2 ^ exponent.toNat)).log2 : Int) + 1 + exponent := by omega
  simp only [if_neg within]
  exact ⟨_, rfl⟩

end Float64

section Parsing

variable {number : Nat} {c : Char} {rest : List Char}

/-- A numeral consists of digits. -/
theorem isDigit_of_mem_toDigits (member : c ∈ Nat.toDigits 10 number) : isDigit c = true := by
  have digit := Nat.isDigit_of_mem_toDigits (by decide) (by decide) member
  simpa [isDigit, Char.isDigit, Char.le_def] using digit

/-- A numeral starts with a digit. -/
theorem toDigits_append_eq_cons {text : List Char}
    (same : Nat.toDigits 10 number ++ rest = c :: text) : isDigit c = true := by
  apply isDigit_of_mem_toDigits
  apply List.mem_of_mem_head?
  have first := congrArg List.head? same
  rw [List.head?_append_of_ne_nil _ Nat.toDigits_ne_nil] at first
  exact first

/-- A numeral is read back as the number that it prints. -/
theorem natOfDigits_toDigits (number : Nat) : natOfDigits (Nat.toDigits 10 number) = number := by
  have fold : natOfDigits (Nat.toDigits 10 number) =
      Nat.ofDigitChars 10 (Nat.toDigits 10 number) 0 := by
    simp only [natOfDigits, Nat.ofDigitChars, Nat.mul_comm]
  rw [fold, Nat.ofDigitChars_ten_toDigits]

/-- The last separator of a text splits it in one way. -/
theorem append_cons_inj_of_last {α : Type} {separator : α} {first second before after : List α}
    (last : separator ∉ before) (last' : separator ∉ after) :
    first ++ separator :: before = second ++ separator :: after ↔
      first = second ∧ before = after := by
  constructor
  · intro same
    rcases List.append_eq_append_iff.mp same with ⟨middle, rfl, tails⟩ | ⟨middle, rfl, tails⟩
    all_goals
      cases middle with
      | nil => simpa [eq_comm] using tails
      | cons symbol middle =>
          obtain ⟨rfl, inside⟩ := List.cons.inj tails
          simp [inside] at last last'
  · rintro ⟨rfl, rfl⟩
    rfl

/-- A numeral after a separator that is no digit can be read off, and so can the text
before it. -/
theorem append_toDigits_inj {separator : Char} (apart : isDigit separator = false)
    {first second : List Char} {i j : Nat} :
    first ++ separator :: Nat.toDigits 10 i = second ++ separator :: Nat.toDigits 10 j ↔
      first = second ∧ i = j := by
  have fresh : ∀ number, separator ∉ Nat.toDigits 10 number := by
    intro number member
    rw [isDigit_of_mem_toDigits member] at apart
    cases apart
  rw [append_cons_inj_of_last (fresh i) (fresh j)]
  apply and_congr_right
  intro _
  constructor
  · intro same
    rw [← natOfDigits_toDigits i, same, natOfDigits_toDigits]
  · rintro rfl
    rfl

/-- Only zero is printed with a leading zero. -/
theorem head?_toDigits (positive : 0 < number) : (Nat.toDigits 10 number).head? ≠ some '0' := by
  induction number using Nat.strong_induction_on with
  | _ number ih =>
      by_cases short : number < 10
      · rw [Nat.toDigits_of_lt_base short]
        interval_cases number <;> decide
      · rw [Nat.toDigits_of_base_le (by decide) (by omega),
          List.head?_append_of_ne_nil _ Nat.toDigits_ne_nil]
        exact ih (number / 10) (by omega) (by omega)

/-- The characters that can follow a number. -/
def EndsNumber (c : Char) : Prop := isDigit c = false ∧ c ≠ '.' ∧ c ≠ 'e' ∧ c ≠ 'E'

/-- The digits end where the numeral does. -/
theorem span_toDigits (ends : EndsNumber c) :
    (Nat.toDigits 10 number ++ c :: rest).span isDigit = (Nat.toDigits 10 number, c :: rest) := by
  rw [List.span_eq_takeWhile_dropWhile, List.takeWhile_append_of_pos
    (fun _ => isDigit_of_mem_toDigits), List.dropWhile_append_of_pos
    (fun _ => isDigit_of_mem_toDigits), List.takeWhile_cons_of_neg, List.dropWhile_cons_of_neg,
    List.append_nil]
  · simp [ends.1]
  · simp [ends.1]

/-- A numeral decodes to the nearest `float64`, and what follows it is left. -/
theorem parseNumber_toDigits (ends : EndsNumber c) :
    parseNumber (Nat.toDigits 10 number ++ c :: rest) =
      (Float64.ofRatio false number 1).map fun value => (value, c :: rest) := by
  have canonical : ¬ (Nat.toDigits 10 number = [] ∨
      (Nat.toDigits 10 number).head? = some '0' ∧ (Nat.toDigits 10 number).length ≠ 1) := by
    rintro (empty | ⟨leading, long⟩)
    · exact Nat.toDigits_ne_nil empty
    · by_cases zero : number = 0
      · subst zero
        exact long rfl
      · exact head?_toDigits (Nat.pos_of_ne_zero zero) leading
  have fraction : scanFraction (c :: rest) = some ([], c :: rest) := by
    unfold scanFraction
    split
    · next same => exact absurd (List.cons.inj same).1 ends.2.1
    · rfl
  have exponent : scanExponent (c :: rest) = some (0, c :: rest) := by
    simp [scanExponent, ends.2.2.1, ends.2.2.2]
  unfold parseNumber
  split
  next negative text scanned =>
  have unsigned : negative = false ∧ text = Nat.toDigits 10 number ++ c :: rest := by
    split at scanned
    · next signed => exact absurd (toDigits_append_eq_cons signed) (by decide)
    · cases scanned
      exact ⟨rfl, rfl⟩
  obtain ⟨rfl, rfl⟩ := unsigned
  simp only [span_toDigits ends, if_neg canonical, fraction]
  simp only [Option.bind_eq_bind, Option.bind_some, exponent, List.append_nil, List.length_nil,
    natOfDigits_toDigits]
  cases converted : Float64.ofRatio false number 1 <;> simp [converted]

theorem skipSpace_toDigits :
    skipSpace (Nat.toDigits 10 number ++ rest) = Nat.toDigits 10 number ++ rest := by
  obtain ⟨first, others, printed⟩ : ∃ first others, Nat.toDigits 10 number = first :: others :=
    List.exists_cons_of_ne_nil Nat.toDigits_ne_nil
  have digit : isDigit first = true := toDigits_append_eq_cons (congrArg (· ++ rest) printed)
  rw [printed, skipSpace, List.cons_append, List.dropWhile_cons_of_neg]
  intro space
  have cases : first = ' ' ∨ first = '\t' ∨ first = '\n' ∨ first = '\r' := of_decide_eq_true space
  rcases cases with rfl | rfl | rfl | rfl <;> cases digit

/-- A numeral is a value. -/
theorem parseValue_toDigits (ends : EndsNumber c) (fuel depth : Nat) :
    parseValue (fuel + 1) depth (Nat.toDigits 10 number ++ c :: rest) =
      (Float64.ofRatio false number 1).map fun value => (.number value, c :: rest) := by
  rw [parseValue, skipSpace_toDigits]
  split
  case h_7 =>
    rw [parseNumber_toDigits ends]
    cases Float64.ofRatio false number 1 <;> rfl
  all_goals
    next text started => exact absurd (toDigits_append_eq_cons started) (by decide)

/-- The characters that stand for themselves in a string literal. -/
def isPlain (c : Char) : Bool := 0x20 ≤ c.toNat ∧ c ≠ '"' ∧ c ≠ '\\'

/-- Characters that stand for themselves are scanned as they are. -/
theorem scanString_plain {text : List Char} (plain : text.all isPlain = true) :
    scanString (text ++ '"' :: rest) = some (text.map Char.toNat, rest) := by
  induction text with
  | nil => rfl
  | cons c text ih =>
      rw [List.all_cons, Bool.and_eq_true] at plain
      obtain ⟨printable, unquoted, unescaped⟩ := of_decide_eq_true plain.1
      have later := ih plain.2
      rw [List.cons_append, scanString.eq_def]
      split
      · next same => cases same
      · next same => exact absurd (List.cons.inj same).1 unquoted
      · next same => exact absurd (List.cons.inj same).1 unescaped
      · next same => exact absurd (List.cons.inj same).1 unescaped
      · next same =>
          obtain ⟨rfl, rfl⟩ := List.cons.inj same
          have allowed : ¬ (c.toNat < 0x20 ∨ c = '\\') := by
            rintro (control | escape)
            · omega
            · exact unescaped escape
          rw [if_neg allowed, later]
          rfl

theorem not_surrogate (c : Char) : ¬ (0xd800 ≤ c.toNat ∧ c.toNat < 0xe000) := by
  have valid : c.toNat < 0xd800 ∨ 0xdfff < c.toNat ∧ c.toNat < 0x110000 := c.valid
  omega

/-- No character of a string is half of a surrogate pair. -/
theorem joinSurrogates_map_toNat (text : List Char) :
    joinSurrogates (text.map Char.toNat) = text := by
  induction text with
  | nil => rfl
  | cons c text ih =>
      have single := not_surrogate c
      cases text with
      | nil => simp [joinSurrogates, single, Char.ofNat_toNat]
      | cons d text =>
          have unpaired : ¬ (0xd800 ≤ c.toNat ∧ c.toNat < 0xdc00 ∧ 0xdc00 ≤ d.toNat ∧
              d.toNat < 0xe000) := by omega
          rw [List.map_cons, List.map_cons, joinSurrogates, if_neg unpaired, if_neg single,
            Char.ofNat_toNat, ← List.map_cons, ih]

/-- So a plain string literal decodes to itself. -/
theorem parseString_plain {text : String} (plain : text.toList.all isPlain = true) :
    parseString (text.toList ++ '"' :: rest) = some (text, rest) := by
  rw [parseString, scanString_plain plain]
  simp [joinSurrogates_map_toNat]

/-- A space before a value is skipped. -/
theorem parseValue_space (fuel depth : Nat) (text : List Char) :
    parseValue (fuel + 1) depth (' ' :: text) = parseValue (fuel + 1) depth text := by
  rw [parseValue, parseValue]
  rfl

/-- One member whose value is a numeral. -/
theorem parseMembers_numeral {key : String} (plain : key.toList.all isPlain = true)
    (fuel depth : Nat) :
    parseMembers (fuel + 2) depth [] ('"' :: (key.toList ++ '"' :: ':' :: ' ' ::
      (Nat.toDigits 10 number ++ '}' :: rest))) =
      (Float64.ofRatio false number 1).map fun value => ([(key, .number value)], rest) := by
  have ends : EndsNumber '}' := ⟨by decide, by decide, by decide, by decide⟩
  have quote : ∀ text, skipSpace ('"' :: text) = '"' :: text := fun _ => rfl
  have colon : ∀ text, skipSpace (':' :: text) = ':' :: text := fun _ => rfl
  have brace : ∀ text, skipSpace ('}' :: text) = '}' :: text := fun _ => rfl
  rw [parseMembers, quote]
  simp only [parseString_plain plain, Option.bind_eq_bind, Option.bind_some, colon,
    parseValue_space, parseValue_toDigits ends]
  cases Float64.ofRatio false number 1 with
  | none => rfl
  | some value =>
      simp only [Option.map_some, Option.bind_some, brace]
      rfl

/-- An object that is not empty. -/
theorem parseValue_object (fuel depth : Nat) (text : List Char) :
    parseValue (fuel + 1) (depth + 1) ('{' :: '"' :: text) =
      (parseMembers fuel depth [] ('"' :: text)).map fun members =>
        (.object members.1, members.2) := by
  have brace : skipSpace ('{' :: '"' :: text) = '{' :: '"' :: text := rfl
  have quote : skipSpace ('"' :: text) = '"' :: text := rfl
  rw [parseValue, brace]
  simp only [quote, Nat.add_one_ne_zero, ↓reduceIte, Nat.add_sub_cancel]
  exact Option.map_eq_bind.symm

/-- An object with one member whose value is a numeral. -/
theorem unmarshalMap_numeral {key opening closing : String}
    (plain : key.toList.all isPlain = true)
    (opened : opening.toList = '{' :: '"' :: (key.toList ++ ['"', ':', ' ']))
    (closed : closing.toList = ['}']) (number : Nat) :
    unmarshalMap (opening ++ toString number ++ closing) =
      (Float64.ofRatio false number 1).map fun value => [(key, .number value)] := by
  have printed : (opening ++ toString number ++ closing).toList =
      '{' :: '"' :: (key.toList ++ '"' :: ':' :: ' ' :: (Nat.toDigits 10 number ++ ['}'])) := by
    rw [String.toList_append, String.toList_append, opened, closed, Nat.toString_eq_repr,
      Nat.toList_repr]
    simp only [List.cons_append, List.append_assoc, List.nil_append]
  generalize opening ++ toString number ++ closing = text at printed
  have fuel : 2 * text.toList.length + 2 = 2 * text.toList.length - 1 + 2 + 1 := by
    have length := congrArg List.length printed
    rw [List.length_cons] at length
    omega
  have members : parseValue (2 * text.toList.length + 2) maxNestingDepth text.toList =
      (Float64.ofRatio false number 1).map fun value => (.object [(key, .number value)], []) := by
    rw [fuel, printed, maxNestingDepth, parseValue_object, parseMembers_numeral plain]
    cases Float64.ofRatio false number 1 <;> rfl
  rw [unmarshalMap, parse]
  simp only [members]
  cases Float64.ofRatio false number 1 <;> rfl

end Parsing

end Encoding.Json
