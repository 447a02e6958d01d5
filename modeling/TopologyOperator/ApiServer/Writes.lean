import TopologyOperator.Client.Request
import TopologyOperator.Dialogue.Safety

/-!
# Writes to the API server

How the API server answers a write: it is applied and acknowledged, refused, or
answered with an error although it was applied.
-/

namespace TopologyOperator.ApiServer

variable {σ : Type} {world after : σ} {applied : Version → σ → Prop}
  {reply : Except ApiError Version}

/-- A write that fails may have been applied. -/
def Writes (world : σ) (applied : Version → σ → Prop) : Except ApiError Version → σ → Prop
  | .ok version, after => applied version after
  | .error _, after => after = world ∨ ∃ version, applied version after

theorem Writes.cases (writes : Writes world applied reply after) :
    after = world ∨ ∃ version, applied version after := by
  cases reply with
  | error => exact writes
  | ok version => exact .inr ⟨version, writes⟩

/-- Versions only grow, whether or not the write was applied. -/
theorem Writes.renewed {nextVersion : σ → ResourceVersion} {assigned : σ → Prop}
    (writes : Writes world applied reply after) (before : assigned world)
    (stored : ∀ version, applied version after → nextVersion world ≤ nextVersion after ∧
      assigned after ∧ version.resourceVersion < nextVersion after) :
    nextVersion world ≤ nextVersion after ∧ assigned after ∧
      ∀ version, reply = .ok version → version.resourceVersion < nextVersion after := by
  cases reply with
  | error err =>
      have absurd : ∀ version : Version, Except.error err = .ok version →
          version.resourceVersion < nextVersion after := fun _ same => by cases same
      rcases writes with rfl | ⟨version, wrote⟩
      · exact ⟨Nat.le_refl _, before, absurd⟩
      · exact ⟨(stored version wrote).1, (stored version wrote).2.1, absurd⟩
  | ok version =>
      obtain ⟨grows, assignedAfter, told⟩ := stored version writes
      exact ⟨grows, assignedAfter, fun other same => by cases same; exact told⟩

/-- A write that cannot be applied fails. -/
theorem Writes.rejected (writes : Writes world applied reply after)
    (impossible : ∀ version, ¬ applied version after) :
    after = world ∧ ∃ err, reply = .error err := by
  cases reply with
  | error err => exact ⟨writes.resolve_right fun ⟨version, wrote⟩ => impossible version wrote,
      err, rfl⟩
  | ok version => exact absurd writes (impossible version)

end TopologyOperator.ApiServer
