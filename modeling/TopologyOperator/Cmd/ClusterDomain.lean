import TopologyOperator.Encoding.Pattern

/-!
# The cluster domain

`sanitizeClusterDomainInput` of `cmd/main.go`: the domain that the environment of the
process names is used in the address of every management endpoint. What is accepted is a
sequence of labels, and what is used has a dot before each of them.
-/

namespace TopologyOperator

open Encoding.Pattern RegularExpression

/-- `[a-z]` -/
def lowercase : List Char := "abcdefghijklmnopqrstuvwxyz".toList

/-- `[a-z0-9]` -/
def alphanumeric : List Char := lowercase ++ "0123456789".toList

/-- `[a-z]([-a-z0-9]*[a-z0-9])?` -/
def labelPattern : RegularExpression Char :=
  oneOf lowercase * optional ((oneOf ('-' :: alphanumeric)).star * oneOf alphanumeric)

/-- `^\.?[a-z]([-a-z0-9]*[a-z0-9])?(\.[a-z]([-a-z0-9]*[a-z0-9])?)*$` -/
def domainPattern : RegularExpression Char :=
  optional (char '.') * (labelPattern * (char '.' * labelPattern).star)

def sanitizeClusterDomainInput (clusterDomain : String) : String :=
  if clusterDomain.toList.length = 0 then ""
  else if domainPattern.rmatch clusterDomain.toList = false then ""
  else if ['.'].isPrefixOf clusterDomain.toList = false then "." ++ clusterDomain
  else clusterDomain

/-- A label begins with a letter and does not end with a hyphen. -/
structure IsLabel (label : List Char) : Prop where
  starts : ∃ first ∈ lowercase, label.head? = some first
  consists : ∀ symbol ∈ label, symbol ∈ '-' :: alphanumeric
  ends : label.getLast? ≠ some '-'

theorem alphanumeric_of_lowercase {symbol : Char} (letter : symbol ∈ lowercase) :
    symbol ∈ alphanumeric :=
  List.mem_append_left _ letter

theorem ne_hyphen {symbol : Char} (member : symbol ∈ alphanumeric) : symbol ≠ '-' := by
  rintro rfl
  revert member
  decide

theorem ne_dot {symbol : Char} (letter : symbol ∈ lowercase) : symbol ≠ '.' := by
  rintro rfl
  revert letter
  decide

/-- What the pattern of a label matches are the labels. -/
theorem mem_labelPattern {word : List Char} : word ∈ labelPattern.matches' ↔ IsLabel word := by
  unfold labelPattern
  rw [matches'_mul, Language.mem_mul]
  constructor
  · rintro ⟨_, matching, rest, remaining, rfl⟩
    obtain ⟨first, letter, rfl⟩ := mem_oneOf.mp matching
    have begins := alphanumeric_of_lowercase letter
    rcases mem_optional.mp remaining with rfl | longer
    · refine ⟨⟨first, letter, rfl⟩, fun symbol member => ?_, fun hyphen => ?_⟩
      · rw [List.mem_singleton.mp member]
        exact .tail _ begins
      · exact ne_hyphen begins (Option.some.inj hyphen)
    · rw [matches'_mul, Language.mem_mul] at longer
      obtain ⟨middle, inner, _, ending, rfl⟩ := longer
      obtain ⟨last, final, rfl⟩ := mem_oneOf.mp ending
      refine ⟨⟨first, letter, rfl⟩, fun symbol member => ?_, fun hyphen => ?_⟩
      · rcases List.mem_append.mp member with member | member
        · rw [List.mem_singleton.mp member]
          exact .tail _ begins
        rcases List.mem_append.mp member with member | member
        · exact mem_star_oneOf.mp inner symbol member
        · rw [List.mem_singleton.mp member]
          exact .tail _ final
      · rw [← List.append_assoc, List.getLast?_concat] at hyphen
        exact ne_hyphen final (Option.some.inj hyphen)
  · rintro ⟨⟨first, letter, head⟩, consists, ends⟩
    cases word with
    | nil => cases head
    | cons symbol rest =>
        cases head
        refine ⟨[first], mem_oneOf.mpr ⟨first, letter, rfl⟩, rest, mem_optional.mpr ?_, rfl⟩
        rcases List.eq_nil_or_concat rest with rfl | ⟨middle, last, rfl⟩
        · exact .inl rfl
        rw [List.concat_eq_append] at consists ends ⊢
        refine .inr ?_
        rw [matches'_mul, Language.mem_mul]
        have inner : ∀ other ∈ middle ++ [last], other ∈ '-' :: alphanumeric :=
          fun other member => consists other (.tail _ member)
        refine ⟨middle, mem_star_oneOf.mpr fun other member =>
          inner other (List.mem_append_left _ member), [last], mem_oneOf.mpr ⟨last, ?_, rfl⟩, rfl⟩
        rcases List.mem_cons.mp (inner last (List.mem_append_right _ (.head _))) with rfl | known
        · rw [← List.cons_append, List.getLast?_concat] at ends
          exact absurd rfl ends
        · exact known

/-- The labels with a dot before each. -/
def dotted (labels : List (List Char)) : List Char := labels.flatMap ('.' :: ·)

/-- The text names the labels, with or without the first dot. -/
structure NamesDomain (text : List Char) (labels : List (List Char)) : Prop where
  given : labels ≠ []
  wellFormed : ∀ label ∈ labels, IsLabel label
  written : text = dotted labels ∨ '.' :: text = dotted labels

/-- The pattern matches the texts that name a domain. -/
theorem rmatch_domainPattern {text : List Char} :
    domainPattern.rmatch text = true ↔ ∃ labels, NamesDomain text labels := by
  rw [rmatch_iff_matches']
  unfold domainPattern
  rw [matches'_mul, Language.mem_mul]
  constructor
  · rintro ⟨dot, leading, _, remaining, rfl⟩
    rw [matches'_mul, Language.mem_mul] at remaining
    obtain ⟨label, first, _, rest, rfl⟩ := remaining
    obtain ⟨labels, others, rfl⟩ := mem_star_separated.mp rest
    refine ⟨label :: labels, List.cons_ne_nil _ _, ?_, ?_⟩
    · exact List.forall_mem_cons.mpr ⟨mem_labelPattern.mp first,
        fun other member => mem_labelPattern.mp (others other member)⟩
    · rcases mem_optional.mp leading with rfl | rfl
      · exact .inr rfl
      · exact .inl rfl
  · rintro ⟨labels, given, wellFormed, same⟩
    cases labels with
    | nil => exact absurd rfl given
    | cons label labels =>
        obtain ⟨first, others⟩ := List.forall_mem_cons.mp wellFormed
        have tail : label ++ dotted labels ∈
            (labelPattern * (char '.' * labelPattern).star).matches' :=
          Language.append_mem_mul (mem_labelPattern.mpr first) (mem_star_separated.mpr
            ⟨labels, fun other member => mem_labelPattern.mpr (others other member), rfl⟩)
        rcases same with rfl | same
        · exact ⟨['.'], mem_optional.mpr (.inr rfl), _, tail, rfl⟩
        · exact ⟨[], mem_optional.mpr (.inl rfl), _, tail, (List.cons.inj same).2.symm⟩

section Sanitized

variable {clusterDomain : String} {labels : List (List Char)}

theorem NamesDomain.ne_nil {text : List Char} (names : NamesDomain text labels) : text ≠ [] := by
  obtain ⟨given, wellFormed, same⟩ := names
  rintro rfl
  cases labels with
  | nil => exact given rfl
  | cons label labels =>
      obtain ⟨⟨first, -, head⟩, -⟩ := wellFormed label (.head _)
      cases label with
      | nil => cases head
      | cons => rcases same with same | same <;> cases same

/-- The first label begins with a letter, so that a dot in front is not part of it. -/
theorem NamesDomain.dotless {text : List Char} (names : NamesDomain text labels)
    (same : '.' :: text = dotted labels) : ['.'].isPrefixOf text = false := by
  cases labels with
  | nil => exact absurd rfl names.given
  | cons label labels =>
      obtain ⟨⟨first, letter, head⟩, -⟩ := names.wellFormed label (.head _)
      cases label with
      | nil => cases head
      | cons symbol rest =>
          cases head
          cases (List.cons.inj same).2
          simp [List.isPrefixOf, (ne_dot letter).symm]

/-- What is accepted is used with a dot before each label. -/
theorem sanitize_of_names (names : NamesDomain clusterDomain.toList labels) :
    (sanitizeClusterDomainInput clusterDomain).toList = dotted labels := by
  have accepted : domainPattern.rmatch clusterDomain.toList = true :=
    rmatch_domainPattern.mpr ⟨labels, names⟩
  unfold sanitizeClusterDomainInput
  rw [if_neg fun none => names.ne_nil (List.length_eq_zero_iff.mp none),
    if_neg (by rw [accepted]; decide)]
  rcases names.written with same | same
  · have leads : ['.'].isPrefixOf clusterDomain.toList = true := by
      rw [same]
      cases labels with
      | nil => exact absurd rfl names.given
      | cons => rfl
    rw [if_neg (by rw [leads]; decide)]
    exact same
  · rw [if_pos (names.dotless same), String.toList_append]
    exact same

/-- Anything else is dropped. -/
theorem sanitize_of_unnamed (unnamed : ¬ ∃ labels, NamesDomain clusterDomain.toList labels) :
    sanitizeClusterDomainInput clusterDomain = "" := by
  have refused : domainPattern.rmatch clusterDomain.toList = false :=
    Bool.eq_false_iff.mpr fun accepted => unnamed (rmatch_domainPattern.mp accepted)
  unfold sanitizeClusterDomainInput
  rw [if_pos refused, ite_self]

/-- A domain is accepted exactly if it is a sequence of labels that are separated by dots,
with or without a first dot, and is then used with a dot before each label. To sanitize it
again changes nothing. -/
theorem sanitizeClusterDomainInput_normal (clusterDomain : String) :
    ((∃ labels, NamesDomain clusterDomain.toList labels ∧
        (sanitizeClusterDomainInput clusterDomain).toList = dotted labels) ∨
      (¬ ∃ labels, NamesDomain clusterDomain.toList labels) ∧
        sanitizeClusterDomainInput clusterDomain = "") ∧
    sanitizeClusterDomainInput (sanitizeClusterDomainInput clusterDomain) =
      sanitizeClusterDomainInput clusterDomain := by
  by_cases named : ∃ labels, NamesDomain clusterDomain.toList labels
  · obtain ⟨labels, names⟩ := named
    have used := sanitize_of_names names
    have again : NamesDomain (sanitizeClusterDomainInput clusterDomain).toList labels :=
      ⟨names.given, names.wellFormed, .inl used⟩
    exact ⟨.inl ⟨labels, names, used⟩, String.ext ((sanitize_of_names again).trans used.symm)⟩
  · have dropped := sanitize_of_unnamed named
    refine ⟨.inr ⟨named, dropped⟩, ?_⟩
    rw [dropped]
    rfl

example : sanitizeClusterDomainInput "a.b" = ".a.b" := by decide

end Sanitized

end TopologyOperator
