import Mathlib.Data.List.Basic
import Mathlib.Data.Nat.Log
import Mathlib.Data.String.Basic

/-!
# Decoding JSON objects

The decoding of a JSON text into a map from strings to values, as the Go package
`encoding/json` documents `Unmarshal` into a `map[string]any`: the last of
several members with one key wins, numbers become the nearest `float64` and are
rejected when out of range, an escape that is half of a surrogate pair becomes
the replacement character, and nesting is limited.

A finite `float64` is `± mantissa * 2 ^ exponent`, written with an odd mantissa
(or as zero), so that equal numbers have one representation. The two zeros
compare equal and are identified. Members of an object are kept sorted by key,
so that equal maps have one representation as well.
-/

namespace Encoding.Json

/-- A finite binary floating-point number, `mantissa * 2 ^ exponent`. -/
structure Float64 where
  negative : Bool
  mantissa : Nat
  exponent : Int
  deriving DecidableEq

inductive Value where
  | null
  | bool (value : Bool)
  | number (value : Float64)
  | string (value : String)
  | array (items : List Value)
  | object (members : List (String × Value))

namespace Float64

/-- Divide out factors of two from a mantissa of at most 53 bits. -/
def normalize (negative : Bool) : Nat → Nat → Int → Float64
  | 0, mantissa, exponent => ⟨negative, mantissa, exponent⟩
  | fuel + 1, mantissa, exponent =>
      if mantissa = 0 then ⟨false, 0, 0⟩
      else if mantissa % 2 = 0 then normalize negative fuel (mantissa / 2) (exponent + 1)
      else ⟨negative, mantissa, exponent⟩

/-- Round half to even. -/
def roundHalfEven (numerator denominator : Nat) : Nat :=
  let quotient := numerator / denominator
  let twice := 2 * (numerator % denominator)
  if twice < denominator then quotient
  else if denominator < twice then quotient + 1
  else if quotient % 2 = 0 then quotient else quotient + 1

/-- The `float64` nearest to `± numerator / denominator`, unless it overflows.
The exponent is the one that leaves a 53 bit mantissa, or the least one. -/
def ofRatio (negative : Bool) (numerator denominator : Nat) : Option Float64 :=
  if numerator = 0 then some ⟨false, 0, 0⟩
  else
    let scale (exponent : Int) : Nat × Nat :=
      (numerator * 2 ^ (-exponent).toNat, denominator * 2 ^ exponent.toNat)
    let estimate : Int := (Nat.log2 numerator : Int) - Nat.log2 denominator - 53
    let scaled := scale (max estimate (-1074))
    let exponent :=
      if scaled.1 / scaled.2 < 2 ^ 53 then max estimate (-1074) else max (estimate + 1) (-1074)
    let mantissa := roundHalfEven (scale exponent).1 (scale exponent).2
    if 1024 < (Nat.log2 mantissa : Int) + 1 + exponent then none
    else some (normalize negative 1100 mantissa exponent)

end Float64

/-- Insert a member into a list sorted by key, replacing one of the same key. -/
def insertMember (key : String) (value : Value) :
    List (String × Value) → List (String × Value)
  | [] => [(key, value)]
  | (other, held) :: rest =>
      if key = other then (key, value) :: rest
      else if key < other then (key, value) :: (other, held) :: rest
      else (other, held) :: insertMember key value rest

def skipSpace (text : List Char) : List Char :=
  text.dropWhile fun c => c = ' ' ∨ c = '\t' ∨ c = '\n' ∨ c = '\r'

def hexDigit (c : Char) : Option Nat :=
  if '0' ≤ c ∧ c ≤ '9' then some (c.toNat - '0'.toNat)
  else if 'a' ≤ c ∧ c ≤ 'f' then some (c.toNat - 'a'.toNat + 10)
  else if 'A' ≤ c ∧ c ≤ 'F' then some (c.toNat - 'A'.toNat + 10)
  else none

def simpleEscape : Char → Option Nat
  | '"' => some 0x22
  | '\\' => some 0x5c
  | '/' => some 0x2f
  | 'b' => some 0x08
  | 'f' => some 0x0c
  | 'n' => some 0x0a
  | 'r' => some 0x0d
  | 't' => some 0x09
  | _ => none

/-- The code units of a string literal up to its closing quote, and the text
after it. Control characters must be escaped. -/
def scanString : List Char → Option (List Nat × List Char)
  | [] => none
  | '"' :: rest => some ([], rest)
  | '\\' :: 'u' :: a :: b :: c :: d :: rest => do
      let code := (← hexDigit a) * 4096 + (← hexDigit b) * 256 + (← hexDigit c) * 16 +
        (← hexDigit d)
      let (codes, rest) ← scanString rest
      return (code :: codes, rest)
  | '\\' :: c :: rest => do
      let code ← simpleEscape c
      let (codes, rest) ← scanString rest
      return (code :: codes, rest)
  | c :: rest =>
      if c.toNat < 0x20 ∨ c = '\\' then none
      else do
        let (codes, rest) ← scanString rest
        return (c.toNat :: codes, rest)

/-- Join surrogate pairs; a surrogate on its own becomes U+FFFD. -/
def joinSurrogates : List Nat → List Char
  | [] => []
  | [code] => [if 0xd800 ≤ code ∧ code < 0xe000 then '�' else Char.ofNat code]
  | high :: low :: rest =>
      if 0xd800 ≤ high ∧ high < 0xdc00 ∧ 0xdc00 ≤ low ∧ low < 0xe000 then
        Char.ofNat (0x10000 + (high - 0xd800) * 0x400 + (low - 0xdc00)) :: joinSurrogates rest
      else
        (if 0xd800 ≤ high ∧ high < 0xe000 then '�' else Char.ofNat high) ::
          joinSurrogates (low :: rest)

def parseString (text : List Char) : Option (String × List Char) := do
  let (codes, rest) ← scanString text
  return (String.ofList (joinSurrogates codes), rest)

def natOfDigits (digits : List Char) : Nat :=
  digits.foldl (fun value c => value * 10 + (c.toNat - '0'.toNat)) 0

def isDigit (c : Char) : Bool := '0' ≤ c ∧ c ≤ '9'

/-- The fraction of a number literal: its digits and the text after it. -/
def scanFraction : List Char → Option (List Char × List Char)
  | '.' :: rest =>
      let (digits, rest) := rest.span isDigit
      if digits = [] then none else some (digits, rest)
  | text => some ([], text)

/-- The exponent of a number literal. -/
def scanExponent : List Char → Option (Int × List Char)
  | c :: rest =>
      if c = 'e' ∨ c = 'E' then
        let (negative, rest) := match rest with
          | '-' :: rest => (true, rest)
          | '+' :: rest => (false, rest)
          | _ => (false, rest)
        let (digits, rest) := rest.span isDigit
        if digits = [] then none
        else some (if negative then -(natOfDigits digits : Int) else natOfDigits digits, rest)
      else some (0, c :: rest)
  | [] => some (0, [])

/-- A number literal; the leading zero rule of JSON is enforced. -/
def parseNumber (text : List Char) : Option (Float64 × List Char) := do
  let (negative, text) := match text with
    | '-' :: rest => (true, rest)
    | _ => (false, text)
  let (whole, text) := text.span isDigit
  if whole = [] ∨ (whole.head? = some '0' ∧ whole.length ≠ 1) then none
  else
    let (fraction, text) ← scanFraction text
    let (exponent, text) ← scanExponent text
    let digits := natOfDigits (whole ++ fraction)
    let shift : Int := exponent - fraction.length
    let value ← Float64.ofRatio negative (digits * 10 ^ shift.toNat) (10 ^ (-shift).toNat)
    return (value, text)

/-- The limit on nested arrays and objects. -/
def maxNestingDepth : Nat := 10000

mutual

/-- A value, after white space. Every recursive call consumes a character, so
the length of the text is enough fuel. -/
def parseValue : Nat → Nat → List Char → Option (Value × List Char)
  | 0, _, _ => none
  | fuel + 1, depth, text =>
      match skipSpace text with
      | 'n' :: 'u' :: 'l' :: 'l' :: rest => some (.null, rest)
      | 't' :: 'r' :: 'u' :: 'e' :: rest => some (.bool true, rest)
      | 'f' :: 'a' :: 'l' :: 's' :: 'e' :: rest => some (.bool false, rest)
      | '"' :: rest => do
          let (value, rest) ← parseString rest
          return (.string value, rest)
      | '[' :: rest =>
          if depth = 0 then none
          else match skipSpace rest with
            | ']' :: rest => some (.array [], rest)
            | rest => do
                let (items, rest) ← parseItems fuel (depth - 1) rest
                return (.array items, rest)
      | '{' :: rest =>
          if depth = 0 then none
          else match skipSpace rest with
            | '}' :: rest => some (.object [], rest)
            | rest => do
                let (members, rest) ← parseMembers fuel (depth - 1) [] rest
                return (.object members, rest)
      | text => do
          let (value, rest) ← parseNumber text
          return (.number value, rest)

/-- The items of an array, from the first one to the closing bracket. -/
def parseItems : Nat → Nat → List Char → Option (List Value × List Char)
  | 0, _, _ => none
  | fuel + 1, depth, text => do
      let (item, rest) ← parseValue fuel depth text
      match skipSpace rest with
      | ']' :: rest => return ([item], rest)
      | ',' :: rest => do
          let (items, rest) ← parseItems fuel depth rest
          return (item :: items, rest)
      | _ => none

/-- The members of an object, added to those read so far. -/
def parseMembers : Nat → Nat → List (String × Value) → List Char →
    Option (List (String × Value) × List Char)
  | 0, _, _, _ => none
  | fuel + 1, depth, members, text =>
      match skipSpace text with
      | '"' :: rest => do
          let (key, rest) ← parseString rest
          match skipSpace rest with
          | ':' :: rest => do
              let (value, rest) ← parseValue fuel depth rest
              let members := insertMember key value members
              match skipSpace rest with
              | '}' :: rest => return (members, rest)
              | ',' :: rest => parseMembers fuel depth members rest
              | _ => none
          | _ => none
      | _ => none

end

/-- The value of a whole text. -/
def parse (text : String) : Option Value :=
  let chars := text.toList
  match parseValue (2 * chars.length + 2) maxNestingDepth chars with
  | some (value, rest) => if skipSpace rest = [] then some value else none
  | none => none

/-- The members of a JSON object; `null` leaves the map empty, any other value
does not fit a map. -/
def unmarshalMap (text : String) : Option (List (String × Value)) :=
  match parse text with
  | some (.object members) => some members
  | some .null => some []
  | _ => none

/-- Values of a type that Go's `==` can compare. -/
def Value.comparable : Value → Bool
  | .array _ => false
  | .object _ => false
  | _ => true

/-- Go's `==` on two values of interface type: values of different dynamic types
differ, and comparing two slices or two maps panics. -/
def Value.interfaceEq : Value → Value → Option Bool
  | .null, .null => some true
  | .bool a, .bool b => some (a == b)
  | .number a, .number b => some (a == b)
  | .string a, .string b => some (a == b)
  | .array _, .array _ => none
  | .object _, .object _ => none
  | _, _ => some false

@[simp] theorem Value.interfaceEq_self (value : Value) :
    value.interfaceEq value = if value.comparable then some true else none := by
  cases value <;> simp [interfaceEq, comparable]

/-- The loop of Go's `maps.Equal` over one iteration order of the first map. It
stops at the first difference, and panics at the first pair it cannot compare. -/
def mapsEqualLoop (second : List (String × Value)) : List (String × Value) → Option Bool
  | [] => some true
  | (key, value) :: rest =>
      match second.lookup key with
      | none => some false
      | some other =>
          match value.interfaceEq other with
          | none => none
          | some false => some false
          | some true => mapsEqualLoop second rest

/-- Go's `maps.Equal`, with the iteration order of the first map given. -/
def mapsEqual (order first second : List (String × Value)) : Option Bool :=
  if first.length ≠ second.length then some false else mapsEqualLoop second order

/-- Comparing members with a map that holds them all runs to the end exactly when
every value can be compared. -/
theorem mapsEqualLoop_of_held {members second : List (String × Value)}
    (held : ∀ member ∈ members, second.lookup member.1 = some member.2) :
    mapsEqualLoop second members =
      if members.all (·.2.comparable) then some true else none := by
  induction members with
  | nil => rfl
  | cons member rest ih =>
      obtain ⟨key, value⟩ := member
      have here : second.lookup key = some value := held (key, value) List.mem_cons_self
      have later := ih fun other within => held other (List.mem_cons_of_mem _ within)
      rw [mapsEqualLoop, here, List.all_cons]
      by_cases compared : value.comparable = true
      · simp only [Value.interfaceEq_self, compared, if_true, Bool.true_and]
        exact later
      · simp only [Value.interfaceEq_self, compared, Bool.false_eq_true, if_false, Bool.false_and]

section Sorted

/-- The members of an object are sorted by key, and no key occurs twice. -/
def Sorted (members : List (String × Value)) : Prop :=
  members.Pairwise fun first second => first.1 < second.1

/-- Inserting a member brings in no other. -/
theorem mem_insertMember {key : String} {value : Value} {members : List (String × Value)}
    {member : String × Value} (inserted : member ∈ insertMember key value members) :
    member = (key, value) ∨ member ∈ members := by
  induction members with
  | nil => exact .inl (List.mem_singleton.mp inserted)
  | cons held rest ih =>
      obtain ⟨other, kept⟩ := held
      unfold insertMember at inserted
      split at inserted
      · rcases List.mem_cons.mp inserted with here | later
        · exact .inl here
        · exact .inr (List.mem_cons_of_mem _ later)
      · split at inserted
        · exact List.mem_cons.mp inserted
        · rcases List.mem_cons.mp inserted with here | later
          · exact .inr (here ▸ List.mem_cons_self)
          · exact (ih later).imp_right (List.mem_cons_of_mem _)

/-- Inserting a member keeps the order. -/
theorem Sorted.insertMember {key : String} {value : Value} {members : List (String × Value)}
    (sorted : Sorted members) : Sorted (insertMember key value members) := by
  induction members with
  | nil => exact List.pairwise_singleton _ _
  | cons held rest ih =>
      obtain ⟨other, kept⟩ := held
      obtain ⟨least, sortedRest⟩ := List.pairwise_cons.mp sorted
      unfold Json.insertMember
      split
      · next same => exact List.pairwise_cons.mpr ⟨same ▸ least, sortedRest⟩
      · next different =>
          split
          · next below =>
              refine List.pairwise_cons.mpr ⟨fun member within => ?_, sorted⟩
              rcases List.mem_cons.mp within with rfl | later
              · exact below
              · exact lt_trans below (least member later)
          · next above =>
              have after : other < key := lt_of_le_of_ne (not_lt.mp above) (Ne.symm different)
              refine List.pairwise_cons.mpr ⟨fun member within => ?_, ih sortedRest⟩
              rcases mem_insertMember within with rfl | later
              · exact after
              · exact least member later

/-- The members of an object are read into a sorted list. -/
theorem parseMembers_sorted {fuel depth : Nat} {members result : List (String × Value)}
    {text rest : List Char} (sorted : Sorted members)
    (parsed : parseMembers fuel depth members text = some (result, rest)) : Sorted result := by
  induction fuel generalizing members text with
  | zero => simp [parseMembers] at parsed
  | succ fuel ih =>
      unfold parseMembers at parsed
      split at parsed
      · simp only [Option.bind_eq_bind, Option.bind_eq_some_iff] at parsed
        obtain ⟨⟨key, afterKey⟩, -, parsed⟩ := parsed
        split at parsed
        · simp only [Option.bind_eq_some_iff] at parsed
          obtain ⟨⟨value, afterValue⟩, -, parsed⟩ := parsed
          split at parsed
          · cases parsed
            exact sorted.insertMember
          · exact ih sorted.insertMember parsed
          · cases parsed
        · cases parsed
      · cases parsed

/-- So an object is decoded with sorted members. -/
theorem parseValue_sorted {fuel depth : Nat} {text rest : List Char}
    {members : List (String × Value)}
    (parsed : parseValue fuel depth text = some (.object members, rest)) : Sorted members := by
  cases fuel with
  | zero => simp [parseValue] at parsed
  | succ fuel =>
      unfold parseValue at parsed
      split at parsed
      · cases parsed
      · cases parsed
      · cases parsed
      · simp [Option.bind_eq_some_iff] at parsed
      · split at parsed
        · cases parsed
        · split at parsed
          · cases parsed
          · simp [Option.bind_eq_some_iff] at parsed
      · split at parsed
        · cases parsed
        · split at parsed
          · cases parsed
            exact List.Pairwise.nil
          · simp only [Option.bind_eq_bind, Option.bind_eq_some_iff] at parsed
            obtain ⟨⟨found, afterMembers⟩, reading, same⟩ := parsed
            cases same
            exact parseMembers_sorted List.Pairwise.nil reading
      · simp [Option.bind_eq_some_iff] at parsed

/-- A text is decoded to sorted members. -/
theorem unmarshalMap_sorted {text : String} {members : List (String × Value)}
    (decoded : unmarshalMap text = some members) : Sorted members := by
  unfold unmarshalMap at decoded
  split at decoded
  · next found =>
      cases decoded
      unfold parse at found
      dsimp only at found
      split at found
      · next parsed =>
          split at found
          · cases found
            exact parseValue_sorted parsed
          · cases found
      · cases found
  · cases decoded
    exact List.Pairwise.nil
  · cases decoded

/-- In a sorted list, every member is found under its key. -/
theorem Sorted.lookup {members : List (String × Value)} (sorted : Sorted members)
    {member : String × Value} (within : member ∈ members) :
    members.lookup member.1 = some member.2 := by
  induction members with
  | nil => cases within
  | cons held rest ih =>
      obtain ⟨least, sortedRest⟩ := List.pairwise_cons.mp sorted
      rcases List.mem_cons.mp within with rfl | later
      · exact List.lookup_cons_self
      · have different : (member.1 == held.1) = false := by
          simpa using (least member later).ne'
        rw [List.lookup_cons, different]
        exact ih sortedRest later

/-- `maps.Equal` of a decoded map with itself panics exactly if some value cannot be
compared, in whatever order the map is iterated. -/
theorem mapsEqual_self {text : String} {members order : List (String × Value)}
    (decoded : unmarshalMap text = some members) (perm : order.Perm members) :
    mapsEqual order members members =
      if members.all (·.2.comparable) then some true else none := by
  have sorted := unmarshalMap_sorted decoded
  unfold mapsEqual
  rw [if_neg (fun different => different rfl),
    mapsEqualLoop_of_held fun member within => sorted.lookup (perm.mem_iff.mp within),
    perm.all_eq]

end Sorted

mutual

/-- Go's `reflect.DeepEqual` on decoded values. -/
def Value.deepEqual : Value → Value → Bool
  | .null, .null => true
  | .bool a, .bool b => a == b
  | .number a, .number b => a == b
  | .string a, .string b => a == b
  | .array a, .array b => itemsDeepEqual a b
  | .object a, .object b => membersDeepEqual a b
  | _, _ => false

def itemsDeepEqual : List Value → List Value → Bool
  | [], [] => true
  | a :: as, b :: bs => a.deepEqual b && itemsDeepEqual as bs
  | _, _ => false

def membersDeepEqual : List (String × Value) → List (String × Value) → Bool
  | [], [] => true
  | (key, a) :: as, (other, b) :: bs => key == other && a.deepEqual b && membersDeepEqual as bs
  | _, _ => false

end

mutual

/-- Decoded values that are deeply equal are equal. -/
theorem Value.eq_of_deepEqual : ∀ {first second : Value},
    first.deepEqual second = true → first = second
  | .null, second, same => by cases second <;> simp_all [Value.deepEqual]
  | .bool a, second, same => by cases second <;> simp_all [Value.deepEqual]
  | .number a, second, same => by cases second <;> simp_all [Value.deepEqual]
  | .string a, second, same => by cases second <;> simp_all [Value.deepEqual]
  | .array a, second, same => by
      cases second with
      | array b =>
          rw [Value.deepEqual] at same
          rw [eq_of_itemsDeepEqual same]
      | _ => simp [Value.deepEqual] at same
  | .object a, second, same => by
      cases second with
      | object b =>
          rw [Value.deepEqual] at same
          rw [eq_of_membersDeepEqual same]
      | _ => simp [Value.deepEqual] at same

/-- So are arrays. -/
theorem eq_of_itemsDeepEqual : ∀ {first second : List Value},
    itemsDeepEqual first second = true → first = second
  | [], [], _ => rfl
  | [], _ :: _, same => by simp [itemsDeepEqual] at same
  | _ :: _, [], same => by simp [itemsDeepEqual] at same
  | a :: as, b :: bs, same => by
      rw [itemsDeepEqual, Bool.and_eq_true] at same
      rw [a.eq_of_deepEqual same.1, eq_of_itemsDeepEqual same.2]

/-- So are objects. -/
theorem eq_of_membersDeepEqual : ∀ {first second : List (String × Value)},
    membersDeepEqual first second = true → first = second
  | [], [], _ => rfl
  | [], _ :: _, same => by simp [membersDeepEqual] at same
  | _ :: _, [], same => by simp [membersDeepEqual] at same
  | (key, a) :: as, (other, b) :: bs, same => by
      simp only [membersDeepEqual, Bool.and_eq_true, beq_iff_eq] at same
      rw [same.1.1, a.eq_of_deepEqual same.1.2, eq_of_membersDeepEqual same.2]

end

end Encoding.Json
