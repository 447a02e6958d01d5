import Mathlib.Algebra.Ring.Int.Defs
import TopologyOperator.Controller.Footprint

/-!
# The settings of a federation upstream

A declared federation is put to the broker with a definition that is generated from its
spec. The definition conveys the spec exactly if the message TTL is a 32-bit integer: a
larger one, which the schema of the resource admits, is cut to its low 32 bits.
-/

namespace TopologyOperator

open Dialogue Program

/-- Joining the parts of a text gives the text. -/
theorem intercalate_splitByComma (text : String) : ",".intercalate (splitByComma text) = text := by
  have parts : (splitByComma text).map String.toList = text.toList.splitOn ',' := by
    simp [splitByComma, Function.comp_def]
  rw [← String.toList_inj, String.toList_intercalate, parts]
  exact List.intercalate_splitOn ','

/-- A conversion to 32 bits keeps exactly the numbers of this range. -/
theorem toInt32_eq_self {value : Int} :
    toInt32 value = value ↔ -2 ^ 31 ≤ value ∧ value < 2 ^ 31 := by
  unfold toInt32
  constructor
  · intro same
    have lower := Int.le_bmod (x := value) (m := 2 ^ 32) (by decide)
    have upper := Int.bmod_lt (x := value) (m := 2 ^ 32) (by decide)
    omega
  · rintro ⟨lower, upper⟩
    exact Int.bmod_eq_of_le (by omega) (by omega)

/-- The definition says what the spec and the URIs say. -/
structure Conveys (spec : FederationSpec) (uri : String) (definition : FederationDefinition) :
    Prop where
  uri : ",".intercalate definition.uri = uri
  expires : definition.expires = spec.expires
  messageTTL : definition.messageTTL = spec.messageTTL
  maxHops : definition.maxHops = spec.maxHops
  prefetchCount : definition.prefetchCount = spec.prefetchCount
  reconnectDelay : definition.reconnectDelay = spec.reconnectDelay.getD 1
  ackMode : definition.ackMode = spec.ackMode
  trustUserId : definition.trustUserId = spec.trustUserId
  exchange : definition.exchange = spec.exchange
  queue : definition.queue = spec.queue
  queueType : definition.queueType = spec.queueType
  resourceCleanupMode : definition.resourceCleanupMode = spec.resourceCleanupMode

variable {federation : Object .federation} {uri : String}

/-- All settings but the message TTL are taken over. -/
theorem conveys_generateFederationDefinition :
    Conveys federation.spec uri (generateFederationDefinition federation uri) ↔
      toInt32 federation.spec.messageTTL = federation.spec.messageTTL := by
  constructor
  · exact Conveys.messageTTL
  · intro kept
    exact ⟨intercalate_splitByComma uri, rfl, kept, rfl, rfl, rfl, rfl, rfl, rfl, rfl, rfl, rfl⟩

/-- The request puts only a federation upstream that says what the spec and some URIs say. -/
def PutsConveyed {Resource : Type} (spec : FederationSpec) (request : Request Resource) : Prop :=
  ∀ vhost name definition, request = .broker (.putFederationUpstream vhost name definition) →
    ∃ uri, Conveys spec uri definition

/-- A federation whose message TTL fits is put to the broker as its spec says. -/
theorem declareFederation_conveys {Resource : Type}
    (lower : -2 ^ 31 ≤ federation.spec.messageTTL) (upper : federation.spec.messageTTL < 2 ^ 31) :
    (FederationReconciler.declareFunc federation : Prog Resource _).Calls
      (PutsConveyed federation.spec) := by
  have kept := toInt32_eq_self.mpr ⟨lower, upper⟩
  refine declareFederation_calls ?_ fun uri => ?_
  · rintro key vhost name definition same
    cases same
  · rintro vhost name definition same
    cases same
    exact ⟨_, conveys_generateFederationDefinition.mpr kept⟩

/-- The definition of a federation upstream conveys the spec and the URIs exactly if the
message TTL is a 32-bit integer. -/
theorem federation_definition_conveys_iff (federation : Object .federation) (uri : String) :
    Conveys federation.spec uri (generateFederationDefinition federation uri) ↔
      -2 ^ 31 ≤ federation.spec.messageTTL ∧ federation.spec.messageTTL < 2 ^ 31 :=
  conveys_generateFederationDefinition.trans toInt32_eq_self

/-- A federation whose messages live for 50 days, in milliseconds. -/
def slowFederation : Object .federation where
  objectMeta := { name := "upstream", ns := "default" }
  spec := { name := "upstream", vhost := "/", messageTTL := 50 * 24 * 60 * 60 * 1000 }
  status := {}

/-- The broker is told a message TTL of less than seven hours. -/
theorem slowFederation_cut :
    slowFederation.spec.messageTTL = 4320000000 ∧
      (generateFederationDefinition slowFederation "amqp://upstream").messageTTL = 25032704 ∧
      ¬ Conveys slowFederation.spec "amqp://upstream"
        (generateFederationDefinition slowFederation "amqp://upstream") := by
  refine ⟨by decide, by decide, fun conveys => ?_⟩
  exact absurd conveys.messageTTL (by decide)

end TopologyOperator
