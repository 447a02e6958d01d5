import TopologyOperator.ApiServer.StoredObject
import TopologyOperator.ApiServer.StoredSuperStream
import TopologyOperator.Controller.Revisions

/-!
# Optimistic concurrency

An environment that stores one resource and rejects writes that do not carry the
stored version. A program that keeps to what it was told cannot write any more once
somebody else has written, unless it reads again: what it knows is outdated.
-/

namespace TopologyOperator

open Dialogue Program Environment

variable {Resource Spec Status σ α : Type}

/-- The environment stores the resource under versions that only grow, and rejects
writes that do not carry the stored version. -/
structure Optimistic (view : View Resource Spec Status)
    (env : Environment (@Request.Answer Resource) σ) (stored : σ → Option Resource)
    (nextVersion : σ → ResourceVersion) : Prop where
  grows : ∀ world next, env.foreign world next → nextVersion world ≤ nextVersion next
  fresh : ∀ world next, env.foreign world next → stored next ≠ stored world →
    ∀ object, stored next = some object →
      nextVersion world ≤ (view.revision object).resourceVersion ∧
        (view.revision object).resourceVersion < nextVersion next
  told : ∀ world request reply after, env.answers world request reply after →
    (∀ object, stored world = some object →
      (view.revision object).resourceVersion < nextVersion world) →
    nextVersion world ≤ nextVersion after ∧
    (∀ object, stored after = some object →
      (view.revision object).resourceVersion < nextVersion after) ∧
    ∀ version, view.learns request reply = some version → version < nextVersion after
  spared : ∀ world request reply after, env.answers world request reply after →
    request.spares = true → stored after = stored world
  rejected : ∀ world request reply after, env.answers world request reply after →
    ∀ written, request = .update written ∨ request = .updateStatus written →
    (∀ object, stored world = some object →
      (view.revision object).resourceVersion ≠ (view.revision written).resourceVersion) →
    stored after = stored world ∧ view.learns request reply = none

/-- What the events tell is outdated in a world. -/
def Outdated (view : View Resource Spec Status) (stored : σ → Option Resource)
    (trace : Trace Resource) (world : σ) : Prop :=
  ∀ event ∈ trace, ∀ version, view.learns event.request event.answer = some version →
    ∀ object, stored world = some object → (view.revision object).resourceVersion ≠ version

/-- The events do not contain a read of the resource that succeeded. -/
def Unread (view : View Resource Spec Status) (trace : Trace Resource) : Prop :=
  ∀ event ∈ trace, ∀ key, event.request = .get key →
    view.learns event.request event.answer = none

namespace Optimistic

variable {view : View Resource Spec Status} {env : Environment (@Request.Answer Resource) σ}
  {stored : σ → Option Resource} {nextVersion : σ → ResourceVersion}
  (optimistic : Optimistic view env stored nextVersion)
  {permits : Trace Resource → Resource → Status → Prop} {trace suffix : Trace Resource}
include optimistic

/-- In every run, the stored version and the versions that the reconcile in flight was
told were assigned before. -/
theorem bounded {main : Prog Resource α} {initial : σ}
    (start : ∀ object, stored initial = some object →
      (view.revision object).resourceVersion < nextVersion initial)
    {config : Config (@Request.Answer Resource) σ α}
    (reachable : env.Reachable main initial config) :
    (∀ object, stored config.world = some object →
      (view.revision object).resourceVersion < nextVersion config.world) ∧
    ∀ activity, config.activity = some activity → ∀ event ∈ activity.1, ∀ version,
      view.learns event.request event.answer = some version →
      version < nextVersion config.world := by
  induction reachable with
  | refl => exact ⟨start, fun _ absent => by cases absent⟩
  | tail _ step ih =>
      obtain ⟨current, known⟩ := ih
      cases step with
      | @foreign world next activity move =>
          have grows := optimistic.grows _ _ move
          refine ⟨fun object found => ?_, fun running same event member version told =>
            Nat.lt_of_lt_of_le (known running same event member version told) grows⟩
          by_cases unchanged : stored next = stored world
          · exact Nat.lt_of_lt_of_le (current object (unchanged ▸ found)) grows
          · exact (optimistic.fresh _ _ move unchanged object found).2
      | start =>
          refine ⟨current, fun activity running event member => ?_⟩
          cases running
          cases member
      | answer answered =>
          obtain ⟨advances, currentAfter, told⟩ := optimistic.told _ _ _ _ answered current
          refine ⟨currentAfter, fun activity running event member version learned => ?_⟩
          cases running
          rcases List.mem_append.mp member with earlier | last
          · exact Nat.lt_of_lt_of_le (known _ rfl event earlier version learned) advances
          · cases List.mem_singleton.mp last
            exact told version learned
      | stop => exact ⟨current, fun _ absent => by cases absent⟩

/-- As long as it does not read the resource again, a program whose knowledge is
outdated leaves the resource as it is, and is not told anything new. -/
theorem untouched {program final : Prog Resource α} {world last : σ}
    {post : α → Trace Resource → Prop}
    (answered : env.Answered program world suffix final last)
    (guarded : program.Guarded (view.Faithful permits) post trace)
    (outdated : Outdated view stored trace world) (unread : Unread view suffix) :
    stored last = stored world ∧ final.Guarded (view.Faithful permits) post (trace ++ suffix) ∧
      Outdated view stored (trace ++ suffix) last ∧
      ∀ event ∈ suffix, view.learns event.request event.answer = none := by
  induction answered generalizing trace with
  | refl =>
      rw [List.append_nil]
      exact ⟨rfl, guarded, outdated, fun _ absent => by cases absent⟩
  | @call request next world after last reply suffix final answered rest ih =>
      -- the version of a write is one that was told before, and so not the stored one
      have stale : ∀ written, request = .update written ∨ request = .updateStatus written →
          ∀ object, stored world = some object →
            (view.revision object).resourceVersion ≠ (view.revision written).resourceVersion := by
        intro written writes
        obtain ⟨status, knows⟩ : ∃ status, view.Knows trace (view.revision written) status := by
          rcases writes with rfl | rfl
          · exact guarded.1
          · obtain ⟨status, knows, -⟩ := guarded.1
            exact ⟨status, knows⟩
        obtain ⟨event, member, learned⟩ := knows.learned
        exact outdated event member _ learned
      have kept : stored after = stored world ∧ view.learns request reply = none := by
        by_cases spares : request.spares = true
        · refine ⟨optimistic.spared _ _ _ _ answered spares, ?_⟩
          cases request with
          | update | updateStatus => cases spares
          | get key => exact unread _ (.head _) key rfl
          | _ => rfl
        · cases request with
          | update written =>
              exact optimistic.rejected _ _ _ _ answered written (.inl rfl) (stale _ (.inl rfl))
          | updateStatus written =>
              exact optimistic.rejected _ _ _ _ answered written (.inr rfl) (stale _ (.inr rfl))
          | _ => exact absurd rfl spares
      have outdatedAfter : Outdated view stored (trace ++ [⟨request, reply⟩]) after := by
        intro event member version learned object found
        rcases List.mem_append.mp member with earlier | single
        · exact outdated event earlier version learned object (kept.1 ▸ found)
        · cases List.mem_singleton.mp single
          rw [kept.2] at learned
          cases learned
      obtain ⟨same, guardedAfter, later, untold⟩ := ih (guarded.2 reply) outdatedAfter
        fun event member => unread event (.tail _ member)
      rw [List.append_assoc] at guardedAfter later
      exact ⟨same.trans kept.1, guardedAfter, later, List.forall_mem_cons.mpr ⟨kept.2, untold⟩⟩

omit optimistic in
/-- An environment that allows less is as optimistic. -/
theorem restrict {other : Environment (@Request.Answer Resource) σ}
    (optimistic : Optimistic view env stored nextVersion)
    (foreign : ∀ world next, other.foreign world next → env.foreign world next)
    (answers : ∀ world request reply after, other.answers world request reply after →
      env.answers world request reply after) : Optimistic view other stored nextVersion where
  grows world next move := optimistic.grows world next (foreign _ _ move)
  fresh world next move := optimistic.fresh world next (foreign _ _ move)
  told world request reply after answered :=
    optimistic.told world request reply after (answers _ _ _ _ answered)
  spared world request reply after answered :=
    optimistic.spared world request reply after (answers _ _ _ _ answered)
  rejected world request reply after answered :=
    optimistic.rejected world request reply after (answers _ _ _ _ answered)

end Optimistic

end TopologyOperator

namespace TopologyOperator.ApiServer

open Dialogue

variable {kind : Kind} {key : NamespacedName} {world next after : World kind}

/-- The stored version was assigned before. -/
def Assigned (world : World kind) : Prop :=
  ∀ object, world.stored = some object → object.objectMeta.resourceVersion < world.nextVersion

theorem Assigned.replace {object : Object kind} {version : Version}
    (fresh : version.resourceVersion = world.nextVersion) :
    Assigned (world.replace object version) := by
  intro stored found
  rw [settled_eq_some found]
  exact Nat.lt_succ_of_le (Nat.le_of_eq fresh)

/-- A write stores its object under a new version, or keeps the old one. -/
theorem Assigned.stores {object : Object kind} {version : Version} (assigned : Assigned world)
    (stores : Stores world object version after) :
    world.nextVersion ≤ after.nextVersion ∧ Assigned after ∧
      version.resourceVersion < after.nextVersion := by
  cases stores with
  | changed version fresh =>
      exact ⟨Nat.le_succ _, .replace fresh, Nat.lt_succ_of_le (Nat.le_of_eq fresh)⟩
  | unchanged same => exact ⟨Nat.le_refl _, assigned, assigned _ same⟩

@[simp] theorem World.recordRelease_nextVersion (world : World kind) (written : Object kind) :
    (world.recordRelease written).nextVersion = world.nextVersion := by
  unfold World.recordRelease
  split <;> rfl

theorem Assigned.recordRelease (assigned : Assigned world) (written : Object kind) :
    Assigned (world.recordRelease written) := by
  intro object found
  rw [World.recordRelease_stored] at found
  rw [World.recordRelease_nextVersion]
  exact assigned object found

/-- Every foreign move stores the object under a new version. -/
theorem Foreign.fresh (move : Foreign key world next) :
    next.nextVersion = world.nextVersion + 1 ∧
      ∀ object, next.stored = some object →
        object.objectMeta.resourceVersion = world.nextVersion := by
  cases move with
  | create created version absent named uid unmarked status fresh =>
      exact ⟨rfl, fun object found => by rw [settled_eq_some found]; exact fresh⟩
  | update current updated version stored preserved timestamp fresh =>
      exact ⟨rfl, fun object found => by rw [settled_eq_some found]; exact fresh⟩
  | delete current time version stored fresh =>
      exact ⟨rfl, fun object found => by rw [settled_eq_some found]; exact fresh⟩

/-- The API server checks the version of every write. -/
theorem optimistic (key : NamespacedName) :
    Optimistic Object.view (environment key : Environment _ (World kind)) World.stored
      World.nextVersion where
  grows world next move := by
    rw [(Foreign.fresh move).1]
    exact Nat.le_succ _
  fresh world next move _ object found := by
    have version := (Foreign.fresh move).2 object found
    rw [(Foreign.fresh move).1]
    exact ⟨Nat.le_of_eq version.symm, Nat.lt_succ_of_le (Nat.le_of_eq version)⟩
  told world request reply after answered assigned := by
    cases request with
    | update written =>
        have stored : ∀ version, Updates world written version after →
            world.nextVersion ≤ after.nextVersion ∧ Assigned after ∧
              version.resourceVersion < after.nextVersion := by
          rintro version ⟨current, matching, stores⟩
          have renewed := (Assigned.recordRelease assigned written).stores stores
          rwa [World.recordRelease_nextVersion] at renewed
        obtain ⟨grows, assignedAfter, told⟩ := Writes.renewed answered assigned stored
        refine ⟨grows, assignedAfter, fun version learned => ?_⟩
        obtain ⟨renewed, rfl, rfl⟩ := View.learns_update learned
        exact told renewed rfl
    | updateStatus written =>
        have stored : ∀ version, UpdatesStatus world written version after →
            world.nextVersion ≤ after.nextVersion ∧ Assigned after ∧
              version.resourceVersion < after.nextVersion := by
          rintro version ⟨current, matching, stores⟩
          exact Assigned.stores assigned stores
        obtain ⟨grows, assignedAfter, told⟩ := Writes.renewed answered assigned stored
        refine ⟨grows, assignedAfter, fun version learned => ?_⟩
        obtain ⟨renewed, rfl, rfl⟩ := View.learns_updateStatus learned
        exact told renewed rfl
    | get =>
        obtain ⟨rfl, found⟩ := answered
        refine ⟨Nat.le_refl _, assigned, fun version learned => ?_⟩
        obtain ⟨object, rfl, rfl⟩ := View.learns_get learned
        exact assigned object (found object rfl)
    | _ =>
        cases answered
        exact ⟨Nat.le_refl _, assigned, fun version learned => by cases learned⟩
  spared world request reply after answered spares := by
    cases request with
    | update | updateStatus => cases spares
    | get => rw [answered.1]
    | _ => rw [show after = world from answered]
  rejected world request reply after answered written writes stale := by
    rcases writes with rfl | rfl
    · have impossible : ∀ version, ¬ Updates world written version after := by
        rintro version ⟨current, matching, -⟩
        exact stale current matching.1 matching.2.2
      obtain ⟨rfl, err, rfl⟩ := Writes.rejected answered impossible
      exact ⟨rfl, rfl⟩
    · have impossible : ∀ version, ¬ UpdatesStatus world written version after := by
        rintro version ⟨current, matching, -⟩
        exact stale current matching.1 matching.2.2
      obtain ⟨rfl, err, rfl⟩ := Writes.rejected answered impossible
      exact ⟨rfl, rfl⟩

end TopologyOperator.ApiServer

namespace TopologyOperator.SuperStreamServer

open Dialogue ApiServer

variable {permitted : SuperStream → SuperStream → Prop} {world next after : World}

/-- The version of the stored super stream was assigned by the API server. -/
def Assigned (world : World) : Prop :=
  ∀ stream, some world.stream = some stream →
    stream.objectMeta.resourceVersion < world.nextVersion

theorem Assigned.replace {stream : SuperStream}
    (fresh : stream.objectMeta.resourceVersion = world.nextVersion) :
    Assigned (world.replace stream) := by
  rintro _ ⟨⟩
  exact Nat.lt_succ_of_le (Nat.le_of_eq fresh)

/-- Children have versions of their own. -/
theorem Assigned.push {kind : Kind} (assigned : Assigned world) (child : Object kind) :
    Assigned (world.push child) :=
  fun stream found => Nat.lt_succ_of_lt (assigned stream found)

/-- A write of a super stream stores it under a new version. -/
theorem Assigned.updates {written : SuperStream} {version : Version} (assigned : Assigned world)
    (updates : Updates world written version after ∨ UpdatesStatus world written version after) :
    world.nextVersion ≤ after.nextVersion ∧ Assigned after ∧
      version.resourceVersion < after.nextVersion := by
  rcases updates with ⟨-, -, fresh, rfl⟩ | ⟨current, ⟨fresh, rfl⟩ | ⟨same, -, rfl⟩⟩
  · exact ⟨Nat.le_succ _, .replace fresh, Nat.lt_succ_of_le (Nat.le_of_eq fresh)⟩
  · exact ⟨Nat.le_succ _, .replace fresh, Nat.lt_succ_of_le (Nat.le_of_eq fresh)⟩
  · exact ⟨Nat.le_refl _, assigned, same ▸ assigned _ rfl⟩

/-- Requests that do not write the super stream store children, if anything. -/
theorem answers_of_spares {request : Request SuperStream} {reply : request.Answer}
    (spares : request.spares = true) (answered : Answers world request reply after) :
    after = world ∨ ∃ kind, ∃ child : Object kind, after = world.push child := by
  cases request with
  | update | updateStatus => cases spares
  | createObject child =>
      rcases Writes.cases answered with same | ⟨version, -, pushed⟩
      · exact .inl same
      · exact .inr ⟨_, _, pushed⟩
  | updateObject child =>
      rcases Writes.cases answered with same | ⟨version, _, _, -, -, pushed⟩
      · exact .inl same
      · exact .inr ⟨_, _, pushed⟩
  | get | getObject => exact .inl answered.1
  | _ => exact .inl answered

/-- The API server checks the version of every write of the super stream. -/
theorem optimistic : Optimistic SuperStream.view (environment permitted)
    (fun world => some world.stream) World.nextVersion where
  grows world next move := by
    cases move with
    | update => exact Nat.le_succ _
    | touch => exact Nat.le_succ _
  fresh world next move changed object found := by
    cases move with
    | update stream allowed named status fresh =>
        cases found
        exact ⟨Nat.le_of_eq fresh.symm, Nat.lt_succ_of_le (Nat.le_of_eq fresh)⟩
    | touch => exact absurd rfl changed
  told world request reply after answered assigned := by
    change Answers world request reply after at answered
    cases request with
    | update written =>
        obtain ⟨grows, assignedAfter, told⟩ := Writes.renewed answered assigned
          fun version updates => Assigned.updates assigned (.inl updates)
        refine ⟨grows, assignedAfter, fun version learned => ?_⟩
        obtain ⟨renewed, rfl, rfl⟩ := View.learns_update learned
        exact told renewed rfl
    | updateStatus written =>
        obtain ⟨grows, assignedAfter, told⟩ := Writes.renewed answered assigned
          fun version updates => Assigned.updates assigned (.inr updates)
        refine ⟨grows, assignedAfter, fun version learned => ?_⟩
        obtain ⟨renewed, rfl, rfl⟩ := View.learns_updateStatus learned
        exact told renewed rfl
    | get =>
        obtain ⟨rfl, found⟩ := answered
        refine ⟨Nat.le_refl _, assigned, fun version learned => ?_⟩
        obtain ⟨stream, rfl, rfl⟩ := View.learns_get learned
        exact assigned stream (congrArg some (found stream rfl))
    | _ =>
        rcases answers_of_spares (by rfl) answered with rfl | ⟨kind, child, rfl⟩
        · exact ⟨Nat.le_refl _, assigned, fun version learned => by cases learned⟩
        · exact ⟨Nat.le_succ _, Assigned.push assigned child,
            fun version learned => by cases learned⟩
  spared world request reply after answered spares := by
    rcases answers_of_spares spares answered with rfl | ⟨kind, child, rfl⟩ <;> rfl
  rejected world request reply after answered written writes stale := by
    rcases writes with rfl | rfl
    · have impossible : ∀ version, ¬ Updates world written version after := by
        rintro version ⟨current, -⟩
        exact stale _ rfl current
      obtain ⟨rfl, err, rfl⟩ := Writes.rejected answered impossible
      exact ⟨rfl, rfl⟩
    · have impossible : ∀ version, ¬ UpdatesStatus world written version after := by
        rintro version ⟨current, -⟩
        exact stale _ rfl current
      obtain ⟨rfl, err, rfl⟩ := Writes.rejected answered impossible
      exact ⟨rfl, rfl⟩

end TopologyOperator.SuperStreamServer
