import TopologyOperator.ApiServer.Coherence

/-!
# Generations

The environments once more, with the rule by which the API server counts
generations: the generation of an object grows exactly when its spec changes or its
deletion is requested. A write of the operator changes neither, and the answer to it
has the generation of the stored object.
-/

namespace TopologyOperator.ApiServer

open Dialogue Environment

variable {kind : Kind} {key : NamespacedName} {world next : World kind}

/-- How the generation of an incarnation develops. -/
def Generations (world next : World kind) : Prop :=
  ∀ before after, world.stored = some before → next.stored = some after →
    after.objectMeta.uid = before.objectMeta.uid →
    before.objectMeta.generation ≤ after.objectMeta.generation ∧
      (after.objectMeta.generation = before.objectMeta.generation ↔
        after.spec = before.spec ∧ after.objectMeta.deletionTimestamp.isSome =
          before.objectMeta.deletionTimestamp.isSome)

/-- The API server and the users, with generations. -/
def generational (key : NamespacedName) :
    Environment (@Request.Answer (Object kind)) (World kind) where
  foreign world next := Foreign key world next ∧ Generations world next
  answers world request reply after := Answers world request reply after ∧ Generations world after

theorem generations_refl (world : World kind) : Generations world world := by
  intro before after found present _
  rw [Option.some.inj (found.symm.trans present)]
  exact ⟨Int.le_refl _, by simp⟩

variable {α : Type} {main : Prog (Object kind) α} {initial : World kind}
  {config later : Config (@Request.Answer (Object kind)) (World kind) α}

/-- Generations are one more thing that the environment keeps to. -/
theorem reachable_of_generational
    (reachable : (generational key).Reachable main initial config) :
    (environment key).Reachable main initial config :=
  Reachable.mono (fun _ _ => And.left) (fun _ _ _ _ => And.left) reachable

theorem generations_of_step (step : (generational key).Step main config later) :
    Generations config.world later.world := by
  cases step with
  | foreign move => exact move.2
  | start => exact generations_refl _
  | answer answered => exact answered.2
  | stop => exact generations_refl _

/-- As long as an incarnation is stored, its generation does not shrink, and its spec
is the same as long as its generation is. -/
theorem generations_since {uid : UID}
    {assertion : Config (@Request.Answer (Object kind)) (World kind) α → Prop}
    (present : ∀ config, assertion config →
      ∃ object, config.world.stored = some object ∧ object.objectMeta.uid = uid)
    {first last : Object kind} (since : (generational key).Since main assertion config later)
    (found : config.world.stored = some first) (stored : later.world.stored = some last) :
    first.objectMeta.generation ≤ last.objectMeta.generation ∧
      (last.objectMeta.generation = first.objectMeta.generation → last.spec = first.spec) := by
  obtain ⟨start, steps⟩ := since
  induction steps generalizing last with
  | refl =>
      rw [Option.some.inj (found.symm.trans stored)]
      exact ⟨Int.le_refl _, fun _ => rfl⟩
  | @tail middle later earlier step ih =>
      have here : (generational key).Since main assertion config middle := ⟨start, earlier⟩
      obtain ⟨held, heldStored, heldUid⟩ := present _ here.holds
      obtain ⟨final, finalStored, finalUid⟩ := present _ step.2
      rw [Option.some.inj (finalStored.symm.trans stored)] at finalUid
      obtain ⟨grows, same⟩ := ih heldStored
      obtain ⟨growsOn, changes⟩ :=
        generations_of_step step.1 held last heldStored stored (finalUid.trans heldUid.symm)
      refine ⟨Int.le_trans grows growsOn, fun equal => ?_⟩
      have unchanged : last.objectMeta.generation = held.objectMeta.generation := by omega
      rw [(changes.mp unchanged).1]
      exact same (by omega)

end TopologyOperator.ApiServer

namespace TopologyOperator.SuperStreamServer

open Dialogue Environment ApiServer

variable {permitted : SuperStream → SuperStream → Prop} {world next after : World}

/-- How the generation of the super stream develops. -/
def Generations (world next : World) : Prop :=
  world.stream.objectMeta.generation ≤ next.stream.objectMeta.generation ∧
    (next.stream.objectMeta.generation = world.stream.objectMeta.generation ↔
      next.stream.spec = world.stream.spec ∧ next.stream.objectMeta.deletionTimestamp.isSome =
        world.stream.objectMeta.deletionTimestamp.isSome)

/-- A write that is accepted is answered with the generation that is stored. -/
def TellsGeneration (after : World) : (request : Request SuperStream) → request.Answer → Prop
  | .update _, .ok version => version.generation = after.stream.objectMeta.generation
  | .updateStatus _, .ok version => version.generation = after.stream.objectMeta.generation
  | _, _ => True

/-- The API server, the users and the other controllers, with generations. -/
def generational (permitted : SuperStream → SuperStream → Prop) :
    Environment (@Request.Answer SuperStream) World where
  foreign world next := Foreign permitted world next ∧ Generations world next
  answers world request reply after :=
    Answers world request reply after ∧ Generations world after ∧
      TellsGeneration after request reply

theorem generations_refl (world : World) : Generations world world :=
  ⟨Int.le_refl _, iff_of_true rfl ⟨rfl, rfl⟩⟩

variable {α : Type} {main : Prog SuperStream α}
  {config later : Config (@Request.Answer SuperStream) World α}

theorem generations_of_step (step : (generational permitted).Step main config later) :
    Generations config.world later.world := by
  cases step with
  | foreign move => exact move.2
  | start => exact generations_refl _
  | answer answered => exact answered.2.1
  | stop => exact generations_refl _

/-- The spec is the same as long as the generation is. -/
theorem generations_since {assertion : Config (@Request.Answer SuperStream) World α → Prop}
    (since : (generational permitted).Since main assertion config later) :
    config.world.stream.objectMeta.generation ≤ later.world.stream.objectMeta.generation ∧
      (later.world.stream.objectMeta.generation = config.world.stream.objectMeta.generation →
        later.world.stream.spec = config.world.stream.spec) := by
  obtain ⟨-, steps⟩ := since
  induction steps with
  | refl => exact ⟨Int.le_refl _, fun _ => rfl⟩
  | @tail middle later earlier step ih =>
      obtain ⟨grows, same⟩ := ih
      obtain ⟨growsOn, changes⟩ := generations_of_step step.1
      refine ⟨Int.le_trans grows growsOn, fun equal => ?_⟩
      have unchanged : later.world.stream.objectMeta.generation =
          middle.world.stream.objectMeta.generation := by omega
      rw [(changes.mp unchanged).1]
      exact same (by omega)

/-- The API server tells the truth about the super stream. -/
theorem reliable : Reliable SuperStream.view (generational permitted)
    (fun world => some world.stream) World.nextVersion where
  toOptimistic := Optimistic.restrict optimistic (fun _ _ => And.left) fun _ _ _ _ => And.left
  renews world request reply after answered := by
    have answers : Answers world request reply after := answered.1
    by_cases spares : request.spares = true
    · rcases answers_of_spares spares answers with rfl | ⟨kind, child, rfl⟩ <;> exact .inl rfl
    · cases request with
      | update written =>
          rcases Writes.cases answers with rfl | ⟨version, -, -, fresh, rfl⟩
          · exact .inl rfl
          · refine .inr fun stream found => ?_
            cases found
            exact Nat.le_of_eq fresh.symm
      | updateStatus written =>
          rcases Writes.cases answers with rfl | ⟨version, -, ⟨fresh, rfl⟩ | ⟨-, -, rfl⟩⟩
          · exact .inl rfl
          · refine .inr fun stream found => ?_
            cases found
            exact Nat.le_of_eq fresh.symm
          · exact .inl rfl
      | _ => exact absurd rfl spares
  reads world key stream after answered := by
    obtain ⟨⟨rfl, found⟩, -⟩ := answered
    exact congrArg some (found stream rfl)
  updates world written version after answered := by
    obtain ⟨⟨current, -, -, rfl⟩, -⟩ := answered
    refine ⟨world.stream, rfl, current, fun _ stream found => ?_⟩
    cases found
    exact ⟨rfl, rfl⟩
  updatesStatus world written version after answered := by
    obtain ⟨⟨current, stores⟩, -, tells⟩ := answered
    refine ⟨world.stream, rfl, current, fun revised stream found => ?_⟩
    cases found
    rw [← revised]
    rcases stores with ⟨-, rfl⟩ | ⟨same, status, rfl⟩
    · exact ⟨rfl, rfl⟩
    · have generation : version.generation = after.stream.objectMeta.generation := tells
      refine ⟨?_, status.symm⟩
      simp only [SuperStream.view, Revision.renewed, same, generation]

end TopologyOperator.SuperStreamServer
