import TopologyOperator.Controller.Resources
import TopologyOperator.Encoding.Numerals

/-!
# Properties keys of bindings

A binding without arguments is deleted by its properties key, the routing key with `~`
written as `%7E`. The text `%7E` itself is left alone, so a routing key that contains
either of the two shares its properties key with another one, and the deletion of one
binding addresses the other. Without a routing key, bindings with and without arguments
have the same key.
-/

namespace TopologyOperator.BindingReconciler

open Encoding Dialogue

variable {binding other : Object .binding}

/-- The arguments that a spec denotes in the broker, if they can be decoded. -/
def denotedArguments (binding : Object .binding) : Option Arguments :=
  match binding.spec.arguments with
  | none => some []
  | some extension => Json.unmarshalMap extension.raw

/-- Both specs bind the same source to the same destination. -/
structure SameEnds (binding other : Object .binding) : Prop where
  vhost : other.spec.vhost = binding.spec.vhost
  source : other.spec.source = binding.spec.source
  destination : other.spec.destination = binding.spec.destination
  destinationType : other.spec.destinationType = binding.spec.destinationType

/-- The specs denote different bindings of the broker, and at most one has arguments. -/
structure Distinct (binding other : Object .binding) : Prop where
  plain : binding.spec.arguments = none ∨ other.spec.arguments = none
  differ : ∃ arguments others, denotedArguments binding = some arguments ∧
    denotedArguments other = some others ∧
    (binding.spec.routingKey ≠ other.spec.routingKey ∨ arguments ≠ others)

/-- Both specs have the same properties key, and it is not empty. -/
def Collide (binding other : Object .binding) : Prop :=
  generatePropertiesKey binding = generatePropertiesKey other ∧ generatePropertiesKey binding ≠ ""

theorem tilde_notMem_tildeCode : '~' ∉ tildeCode := by decide

theorem generatePropertiesKey_empty (empty : binding.spec.routingKey = "") :
    generatePropertiesKey binding = "~" :=
  if_pos empty

theorem generatePropertiesKey_plain (named : binding.spec.routingKey ≠ "")
    (plain : binding.spec.arguments = none) : generatePropertiesKey binding =
      String.ofList (escape '~' tildeCode binding.spec.routingKey.toList) := by
  rw [generatePropertiesKey, if_neg named, if_pos plain]
  rfl

theorem generatePropertiesKey_arguments (named : binding.spec.routingKey ≠ "")
    (given : binding.spec.arguments ≠ none) : generatePropertiesKey binding = "" := by
  rw [generatePropertiesKey, if_neg named, if_neg given]

/-- The key of an empty routing key is no other key. -/
theorem generatePropertiesKey_ne_tilde (named : binding.spec.routingKey ≠ "")
    (plain : binding.spec.arguments = none) : generatePropertiesKey binding ≠ "~" := by
  intro same
  rw [generatePropertiesKey_plain named plain] at same
  have chars := congrArg String.toList same
  rw [String.toList_ofList] at chars
  apply special_notMem_escape tilde_notMem_tildeCode binding.spec.routingKey.toList
  rw [chars]
  decide

theorem generatePropertiesKey_ne_empty (named : binding.spec.routingKey ≠ "")
    (plain : binding.spec.arguments = none) : generatePropertiesKey binding ≠ "" := by
  intro empty
  rw [generatePropertiesKey_plain named plain] at empty
  have chars := congrArg String.toList empty
  rw [String.toList_ofList] at chars
  have none := escape_eq_nil (List.cons_ne_nil _ _) chars
  exact named (String.toList_eq_nil_iff.mp none)

/-- The routing key is read back from the key exactly if it does not contain `%7E`. -/
theorem routingKeyOf_generatePropertiesKey (plain : binding.spec.arguments = none) :
    routingKeyOf (generatePropertiesKey binding) = binding.spec.routingKey ↔
      ¬ tildeCode <:+: binding.spec.routingKey.toList := by
  by_cases empty : binding.spec.routingKey = ""
  · rw [generatePropertiesKey_empty empty, empty]
    exact iff_of_true rfl (by decide)
  · rw [routingKeyOf, if_neg (generatePropertiesKey_ne_tilde empty plain),
      generatePropertiesKey_plain empty plain, String.toList_ofList, ← String.toList_inj,
      String.toList_ofList]
    exact unescape_escape_iff tilde_notMem_tildeCode (by decide)

/-- Keys of bindings without arguments are equal exactly if the routing keys are escaped
to the same text. -/
theorem generatePropertiesKey_eq_iff (named : binding.spec.routingKey ≠ "")
    (plain : binding.spec.arguments = none) (otherNamed : other.spec.routingKey ≠ "")
    (otherPlain : other.spec.arguments = none) :
    generatePropertiesKey binding = generatePropertiesKey other ↔
      escape '~' tildeCode other.spec.routingKey.toList =
        escape '~' tildeCode binding.spec.routingKey.toList := by
  rw [generatePropertiesKey_plain named plain, generatePropertiesKey_plain otherNamed otherPlain,
    String.ofList_inj, eq_comm]

/-- The binding with another routing key. -/
def rerouted (binding : Object .binding) (routingKey : String) : Object .binding :=
  { binding with spec := { binding.spec with routingKey := routingKey } }

/-- The binding with arguments. -/
def qualified (binding : Object .binding) (extension : RawExtension) : Object .binding :=
  { binding with spec := { binding.spec with arguments := some extension } }

/-- There are arguments. -/
theorem exists_arguments : ∃ extension arguments,
    Json.unmarshalMap (RawExtension.raw extension) = some arguments ∧ arguments ≠ [] := by
  obtain ⟨value, converted⟩ := Json.Float64.exists_ofRatio (show 1 < 2 ^ 63 by decide)
  have opened : "\x7b\"x\": ".toList = '{' :: '"' :: ("x".toList ++ ['"', ':', ' ']) := by decide
  have decoded := @Json.unmarshalMap_numeral "x" _ "\x7d" (by decide) opened (by decide) 1
  rw [converted] at decoded
  exact ⟨⟨_⟩, _, decoded, List.cons_ne_nil _ _⟩

/-- No other binding collides with a binding without arguments exactly if its routing key
is not empty and contains neither `~` nor `%7E`. -/
theorem binding_keys_distinct_iff (binding : Object .binding)
    (plain : binding.spec.arguments = none) :
    (∀ other, SameEnds binding other → Distinct binding other → ¬ Collide binding other) ↔
      binding.spec.routingKey ≠ "" ∧ '~' ∉ binding.spec.routingKey.toList ∧
        ¬ "%7E".toList <:+: binding.spec.routingKey.toList := by
  have denoted : denotedArguments binding = some [] := by rw [denotedArguments, plain]
  constructor
  · intro distinct
    have named : binding.spec.routingKey ≠ "" := by
      intro empty
      obtain ⟨extension, arguments, decoded, given⟩ := exists_arguments
      have differ : Distinct binding (qualified binding extension) :=
        ⟨.inl plain, [], arguments, denoted, decoded, .inr (Ne.symm given)⟩
      apply distinct (qualified binding extension) ⟨rfl, rfl, rfl, rfl⟩ differ
      have otherEmpty : (qualified binding extension).spec.routingKey = "" := empty
      rw [Collide, generatePropertiesKey_empty empty, generatePropertiesKey_empty otherEmpty]
      exact ⟨rfl, by decide⟩
    refine ⟨named, (escape_unique_iff tilde_notMem_tildeCode).mp ?_⟩
    intro chars same
    by_contra different
    have filled := generatePropertiesKey_ne_empty named plain
    have routed : (rerouted binding (String.ofList chars)).spec.routingKey.toList = chars :=
      String.toList_ofList
    have otherNamed : (rerouted binding (String.ofList chars)).spec.routingKey ≠ "" := by
      intro empty
      rw [generatePropertiesKey_plain named plain, ← same, ← routed, empty] at filled
      exact filled rfl
    have differ : Distinct binding (rerouted binding (String.ofList chars)) := by
      refine ⟨.inl plain, [], [], denoted, ?_, .inl fun sameKey => ?_⟩
      · rw [denotedArguments, rerouted, plain]
      · rw [sameKey, routed] at different
        exact different rfl
    apply distinct (rerouted binding (String.ofList chars)) ⟨rfl, rfl, rfl, rfl⟩ differ
    refine ⟨(generatePropertiesKey_eq_iff named plain otherNamed plain).mpr ?_, filled⟩
    rw [routed, same]
  · rintro ⟨named, absent, uncoded⟩ other - distinct ⟨same, filled⟩
    by_cases empty : other.spec.routingKey = ""
    · rw [generatePropertiesKey_empty empty] at same
      exact generatePropertiesKey_ne_tilde named plain same
    by_cases otherPlain : other.spec.arguments = none
    · rw [generatePropertiesKey_eq_iff named plain empty otherPlain] at same
      have unique := (escape_unique_iff tilde_notMem_tildeCode).mpr ⟨absent, uncoded⟩ _ same
      obtain ⟨arguments, others, decoded, otherDecoded, differ⟩ := distinct.differ
      rw [denotedArguments, otherPlain] at otherDecoded
      rw [denoted] at decoded
      cases decoded
      cases otherDecoded
      rcases differ with differ | differ
      · exact differ (String.toList_inj.mp unique).symm
      · exact differ rfl
    · rw [generatePropertiesKey_arguments empty otherPlain] at same
      exact filled same

section Example

/-- What the URL of a delete call holds. -/
structure BindingAddress where
  vhost : String
  source : String
  destination : String
  destinationType : String
  propertiesKey : String
  deriving DecidableEq

/-- The binding that a program starts to delete. -/
def deletes {Resource α : Type} : Prog Resource α → Option BindingAddress
  | .call (.broker (.deleteBinding vhost info)) _ =>
      some ⟨vhost, info.source, info.destination, info.destinationType, info.propertiesKey⟩
  | _ => none

/-- A binding with the routing key `~`. -/
def tildeBinding : Object .binding where
  objectMeta := { name := "tilde", ns := "shop" }
  spec := { vhost := "/", source := "orders", destination := "audit", destinationType := "queue"
            routingKey := "~" }

/-- A binding between the same ends with the routing key `%7E`. -/
def codeBinding : Object .binding := rerouted tildeBinding "%7E"

/-- The two bindings are different, have the same key, and the delete functions of both
address the same binding. -/
theorem tildeBinding_collides :
    SameEnds tildeBinding codeBinding ∧ Distinct tildeBinding codeBinding ∧
      Collide tildeBinding codeBinding ∧ ∃ address,
        deletes (deleteFunc .verbatim tildeBinding : Prog (Object .binding) _) = some address ∧
        deletes (deleteFunc .verbatim codeBinding : Prog (Object .binding) _) = some address := by
  refine ⟨⟨rfl, rfl, rfl, rfl⟩, ⟨.inl rfl, [], [], rfl, rfl, .inl (by decide)⟩, ?_, ?_⟩
  · exact ⟨by decide, by decide⟩
  · exact ⟨⟨"/", "orders", "audit", "queue", "%7E"⟩, rfl, rfl⟩

/-- A binding with a plain routing key. -/
def plainBinding : Object .binding := rerouted tildeBinding "orders.created"

/-- No other binding has its key. -/
theorem plainBinding_distinct :
    plainBinding.spec.arguments = none ∧
      ∀ other, SameEnds plainBinding other → Distinct plainBinding other →
        ¬ Collide plainBinding other := by
  refine ⟨rfl, (binding_keys_distinct_iff plainBinding rfl).mpr ⟨?_, ?_, ?_⟩⟩ <;> decide

end Example

end TopologyOperator.BindingReconciler
