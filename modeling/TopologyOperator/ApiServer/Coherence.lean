import TopologyOperator.ApiServer.Optimistic

/-!
# Coherence

What a reconcile was told about a version is what the API server has stored under
that version, if it is the version that is still stored. So a write that is accepted
meets the stored state that the reconcile knows.
-/

namespace TopologyOperator

open Dialogue Program Environment

variable {Resource Spec Status σ α : Type}

/-- The environment tells the truth about what it stores: a read answers with the
stored resource, an accepted write replaces the status or everything else, and a
changed resource has a new version. -/
structure Reliable (view : View Resource Spec Status)
    (env : Environment (@Request.Answer Resource) σ) (stored : σ → Option Resource)
    (nextVersion : σ → ResourceVersion) : Prop extends
    Optimistic view env stored nextVersion where
  renews : ∀ world request reply after, env.answers world request reply after →
    stored after = stored world ∨ ∀ object, stored after = some object →
      nextVersion world ≤ (view.revision object).resourceVersion
  reads : ∀ world key object after, env.answers world (.get key) (.ok object) after →
    stored after = some object
  updates : ∀ world written version after, env.answers world (.update written) (.ok version) after →
    ∃ current, stored world = some current ∧
      (view.revision current).resourceVersion = (view.revision written).resourceVersion ∧
      (view.revision current = view.revision written → ∀ object, stored after = some object →
        view.revision object = (view.revision written).renewed version ∧
          view.status object = view.status current)
  updatesStatus : ∀ world written version after,
    env.answers world (.updateStatus written) (.ok version) after →
    ∃ current, stored world = some current ∧
      (view.revision current).resourceVersion = (view.revision written).resourceVersion ∧
      (view.revision current = view.revision written → ∀ object, stored after = some object →
        view.revision object = (view.revision written).renewed version ∧
          view.status object = view.status written)

/-- The events tell the truth about the stored resource. -/
def Coherent (view : View Resource Spec Status) (stored : Option Resource)
    (trace : Trace Resource) : Prop :=
  ∀ revision status, view.Knows trace revision status → ∀ object, stored = some object →
    (view.revision object).resourceVersion = revision.resourceVersion →
    view.revision object = revision ∧ view.status object = status

namespace Reliable

variable {view : View Resource Spec Status} {env : Environment (@Request.Answer Resource) σ}
  {stored : σ → Option Resource} {nextVersion : σ → ResourceVersion}
  (reliable : Reliable view env stored nextVersion)
include reliable

/-- One more answer does not make the events untrue. -/
theorem answers_coherent {world after : σ} {trace : Trace Resource} {request : Request Resource}
    {reply : request.Answer} (coherent : Coherent view (stored world) trace)
    (known : ∀ event ∈ trace, ∀ version,
      view.learns event.request event.answer = some version → version < nextVersion world)
    (answered : env.answers world request reply after) :
    Coherent view (stored after) (trace ++ [⟨request, reply⟩]) := by
  intro revision status knows object found same
  rcases knows.concat with earlier | ⟨key, read, event, rfl, rfl⟩ |
      ⟨written, version, event, rfl, earlier⟩ | ⟨written, version, before, event, rfl, rfl, earlier⟩
  · rcases reliable.renews _ _ _ _ answered with unchanged | fresh
    · exact coherent revision status earlier object (unchanged ▸ found) same
    · obtain ⟨event, member, learned⟩ := earlier.learned
      have lt := known event member _ learned
      have le := fresh object found
      rw [same] at le
      exact absurd lt (Nat.not_lt_of_le le)
  · cases event
    have current := reliable.reads _ _ _ _ answered
    rw [Option.some.inj (found.symm.trans current)]
    exact ⟨rfl, rfl⟩
  · cases event
    obtain ⟨current, present, matching, stores⟩ := reliable.updates _ _ _ _ answered
    obtain ⟨revised, recorded⟩ := coherent _ _ earlier current present matching
    rw [← recorded]
    exact stores revised object found
  · cases event
    obtain ⟨current, present, matching, stores⟩ := reliable.updatesStatus _ _ _ _ answered
    obtain ⟨revised, -⟩ := coherent _ _ earlier current present matching
    exact stores revised object found

/-- In every run, the reconcile in flight was told the truth about what is stored. -/
theorem coherent {main : Prog Resource α} {initial : σ}
    (start : ∀ object, stored initial = some object →
      (view.revision object).resourceVersion < nextVersion initial)
    {config : Config (@Request.Answer Resource) σ α}
    (reachable : env.Reachable main initial config) :
    ∀ activity, config.activity = some activity →
      Coherent view (stored config.world) activity.1 := by
  induction reachable with
  | refl => exact fun _ absent => by cases absent
  | tail earlier step ih =>
      obtain ⟨-, known⟩ := reliable.bounded start earlier
      cases step with
      | @foreign world next activity move =>
          intro running same revision status knows object found matching
          by_cases unchanged : stored next = stored world
          · exact ih running same revision status knows object (unchanged ▸ found) matching
          · obtain ⟨event, member, learned⟩ := knows.learned
            have lt := known running same event member _ learned
            have le := (reliable.fresh _ _ move unchanged object found).1
            rw [matching] at le
            exact absurd lt (Nat.not_lt_of_le le)
      | start =>
          intro activity running revision status knows
          cases running
          obtain ⟨event, member, -⟩ := knows.learned
          cases member
      | answer answered =>
          intro activity running
          cases running
          exact reliable.answers_coherent (ih _ rfl) (known _ rfl) answered
      | stop => exact fun _ absent => by cases absent

end Reliable

end TopologyOperator

namespace TopologyOperator.ApiServer

open Dialogue

variable {kind : Kind} {world after : World kind}

/-- What a write stores has a new version, unless nothing changes. -/
theorem Stores.fresh {object : Object kind} {version : Version}
    (stores : Stores world object version after) :
    after.stored = world.stored ∨ ∀ later, after.stored = some later →
      world.nextVersion ≤ later.objectMeta.resourceVersion := by
  cases stores with
  | changed version fresh =>
      refine .inr fun later found => ?_
      rw [settled_eq_some found]
      exact Nat.le_of_eq fresh.symm
  | unchanged => exact .inl rfl

/-- What is found after a write is what was written, under the version that was
answered. -/
theorem Stores.found {object later : Object kind} {version : Version}
    (stores : Stores world object version after) (found : after.stored = some later) :
    later = object.withVersion version := by
  cases stores with
  | changed => exact settled_eq_some found
  | unchanged same => exact Option.some.inj (found.symm.trans same)

/-- The API server tells the truth about the object. -/
theorem reliable (key : NamespacedName) :
    Reliable Object.view (environment key : Environment _ (World kind)) World.stored
      World.nextVersion where
  toOptimistic := optimistic key
  renews world request reply after answered := by
    cases request with
    | update written =>
        rcases Writes.cases answered with rfl | ⟨version, current, matching, stores⟩
        · exact .inl rfl
        · have fresh := stores.fresh
          rwa [World.recordRelease_stored, World.recordRelease_nextVersion] at fresh
    | updateStatus written =>
        rcases Writes.cases answered with rfl | ⟨version, current, matching, stores⟩
        · exact .inl rfl
        · exact stores.fresh
    | get => exact .inl (congrArg World.stored answered.1)
    | _ => exact .inl (congrArg World.stored (show after = world from answered))
  reads world key object after answered := by
    obtain ⟨rfl, found⟩ := answered
    exact found object rfl
  updates world written version after answered := by
    obtain ⟨current, matching, stores⟩ := answered
    refine ⟨current, matching.1, matching.2.2, fun _ object found => ?_⟩
    rw [stores.found found]
    exact ⟨rfl, rfl⟩
  updatesStatus world written version after answered := by
    obtain ⟨current, matching, stores⟩ := answered
    refine ⟨current, matching.1, matching.2.2, fun revised object found => ?_⟩
    rw [stores.found found, ← revised]
    exact ⟨rfl, rfl⟩

end TopologyOperator.ApiServer
