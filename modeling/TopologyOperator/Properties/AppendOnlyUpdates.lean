import TopologyOperator.Controller.Partitions
import TopologyOperator.Webhook.Acceptance

/-!
# Updates of a super stream append

`ValidateUpdate` of a super stream accepts exactly the updates that keep its identity,
do not lower the number of partitions and append routing keys, if it returns. It does
not return if the new routing keys are a proper prefix of the old ones: the loop over the
old keys then reads past the end of the new ones.
-/

namespace TopologyOperator.SuperStreamServer

open SuperStreamCustomValidator

variable {old new later : SuperStream}

/-- The fields that no update changes. -/
def SameIdentity (old new : SuperStream) : Prop :=
  new.spec.name = old.spec.name ∧ new.spec.vhost = old.spec.vhost ∧
    new.spec.rabbitmqClusterReference = old.spec.rabbitmqClusterReference

/-- The updates that only append. -/
def AppendOnly (old new : SuperStream) : Prop :=
  SameIdentity old new ∧ old.spec.partitions ≤ new.spec.partitions ∧
    old.spec.routingKeys <+: new.spec.routingKeys ∧
    (old.spec.routingKeys = [] → new.spec.routingKeys = [])

/-- `ValidateUpdate` returns, and accepts exactly the updates that only append. -/
def Decides (old new : SuperStream) : Prop :=
  ∃ verdict, SuperStreamCustomValidator.validateUpdate old new = some verdict ∧
    (verdict = .ok () ↔ AppendOnly old new)

/-- Routing keys are removed from the end of the list, and nothing that is checked
before has changed. -/
def Truncates (old new : SuperStream) : Prop :=
  SameIdentity old new ∧ new.spec.routingKeys <+: old.spec.routingKeys ∧
    new.spec.routingKeys ≠ old.spec.routingKeys

theorem frozenFields_eq_ok : frozenFields old new = .ok () ↔ SameIdentity old new := by
  unfold frozenFields SameIdentity
  rw [except_bind_eq_ok, except_bind_eq_ok, require_eq_ok, require_eq_ok, require_eq_ok,
    RabbitmqClusterReference.matches_iff, decide_eq_true_eq, decide_eq_true_eq]

/-- The loop reads past the end of the new keys exactly if all of them were kept and
there are more old ones. -/
theorem routingKeysKept_eq_none {old new : List String} :
    routingKeysKept old new = none ↔ new <+: old ∧ new ≠ old := by
  induction old generalizing new with
  | nil =>
      simp only [routingKeysKept, Option.some_ne_none, List.prefix_nil, false_iff]
      intro truncated
      exact truncated.2 truncated.1
  | cons held old ih =>
      cases new with
      | nil => simp [routingKeysKept]
      | cons updated new =>
          by_cases same : held = updated
          · simp [routingKeysKept, same, ih]
          · simp [routingKeysKept, same, List.cons_prefix_cons, Ne.symm same]

theorem routingKeyUpdatePermitted_eq_none {old new : List String} :
    routingKeyUpdatePermitted old new = none ↔ new <+: old ∧ new ≠ old := by
  unfold routingKeyUpdatePermitted
  by_cases generated : old.length = 0 ∧ new.length ≠ 0
  · rw [if_pos generated]
    simp only [Option.some_ne_none, false_iff]
    rintro ⟨kept, -⟩
    have shorter := kept.length_le
    omega
  · rw [if_neg generated]
    exact routingKeysKept_eq_none

/-- An update of another identity is rejected at once. -/
theorem validateUpdate_of_changed (changed : ¬ SameIdentity old new) :
    ∃ err, SuperStreamCustomValidator.validateUpdate old new = some (.error err) := by
  unfold SuperStreamCustomValidator.validateUpdate
  cases checked : frozenFields old new with
  | error err => exact ⟨err, rfl⟩
  | ok => exact absurd (frozenFields_eq_ok.mp checked) changed

/-- If the identity is kept, the routing keys and the partitions decide. -/
theorem validateUpdate_of_same (same : SameIdentity old new) :
    (SuperStreamCustomValidator.validateUpdate old new = none ↔ Truncates old new) ∧
      (Accepts old new ↔ AppendOnly old new) := by
  unfold Accepts SuperStreamCustomValidator.validateUpdate
  rw [frozenFields_eq_ok.mpr same]
  constructor
  · simp only [Option.map_eq_none_iff, routingKeyUpdatePermitted_eq_none, Truncates, same,
      true_and]
  · simp only [Option.map_eq_some_iff, except_bind_eq_ok, require_eq_ok, AppendOnly, same,
      true_and, decide_eq_true_eq]
    constructor
    · rintro ⟨_, permits, rfl, grows⟩
      exact ⟨grows, routingKeyUpdatePermitted_eq_some_true.mp permits⟩
    · rintro ⟨grows, appended⟩
      exact ⟨true, routingKeyUpdatePermitted_eq_some_true.mpr appended, rfl, grows⟩

/-- The webhook accepts exactly the updates that only append. -/
theorem accepts_iff : Accepts old new ↔ AppendOnly old new := by
  by_cases same : SameIdentity old new
  · exact (validateUpdate_of_same same).2
  · obtain ⟨err, rejected⟩ := validateUpdate_of_changed same
    apply iff_of_false
    · intro accepts
      rw [Accepts, rejected] at accepts
      cases accepts
    · exact fun appendOnly => same appendOnly.1

theorem decides_iff : Decides old new ↔ ¬ Truncates old new := by
  unfold Decides
  simp only [← accepts_iff]
  by_cases same : SameIdentity old new
  · rw [← (validateUpdate_of_same same).1]
    cases verdict : SuperStreamCustomValidator.validateUpdate old new with
    | none => simp
    | some result => simp [Accepts, verdict]
  · obtain ⟨err, rejected⟩ := validateUpdate_of_changed same
    simp [Accepts, rejected, Truncates, same]

theorem AppendOnly.refl (stream : SuperStream) : AppendOnly stream stream :=
  ⟨⟨rfl, rfl, rfl⟩, le_refl _, List.prefix_refl _, id⟩

theorem AppendOnly.trans (first : AppendOnly old new) (second : AppendOnly new later) :
    AppendOnly old later := by
  obtain ⟨⟨name, vhost, reference⟩, partitions, keys, generated⟩ := first
  obtain ⟨⟨name', vhost', reference'⟩, partitions', keys', generated'⟩ := second
  refine ⟨⟨name'.trans name, vhost'.trans vhost, reference'.trans reference⟩, ?_, ?_, ?_⟩
  · exact partitions.trans partitions'
  · exact keys.trans keys'
  · exact fun empty => generated' (generated empty)

/-- `ValidateUpdate` returns and accepts exactly the updates that only append, unless
the update truncates the list of routing keys; the updates that it accepts are a
preorder. -/
theorem append_only_updates (old new : SuperStream) :
    (Decides old new ↔ ¬ Truncates old new) ∧ Accepts old old ∧
      ∀ later, Accepts old new → Accepts new later → Accepts old later := by
  refine ⟨decides_iff, accepts_iff.mpr (.refl old), fun later first second => ?_⟩
  exact accepts_iff.mpr ((accepts_iff.mp first).trans (accepts_iff.mp second))

section Example

/-- A super stream with two routing keys. -/
def regionStream : SuperStream where
  objectMeta := { name := "regions", ns := "shop" }
  spec := {
    name := "regions"
    partitions := 2
    routingKeys := ["eu", "us"]
    rabbitmqClusterReference := { name := "rabbit" } }

/-- The validation of an update that removes the second key panics. -/
theorem regionStream_truncated :
    SuperStreamCustomValidator.validateUpdate regionStream
      { regionStream with spec := { regionStream.spec with routingKeys := ["eu"] } } = none := by
  decide

end Example

end TopologyOperator.SuperStreamServer
