import TopologyOperator.ApiServer.StoredObject
import TopologyOperator.Controller.Obligations

/-!
# Reconciles against the API server

What happens to the operator's finalizer on a stored object, and the obligation on
a reconcile in this environment: an object that is marked for deletion is only
released; any other object is declared only once its stored state carries the
finalizer, which it then keeps until the operator removes it. `Upkeep` is what else
a property has to track on the way.
-/

namespace TopologyOperator.ApiServer

open Dialogue Program Environment

variable {kind : Kind} {key : NamespacedName} {world next after : World kind} {uid : UID}

/-- The incarnation is stored and carries the operator's finalizer. -/
def Carries (uid : UID) (world : World kind) : Prop :=
  ∃ object, world.stored = some object ∧ object.objectMeta.uid = uid ∧
    kind.finalizer ∈ object.objectMeta.finalizers

/-- The incarnation is marked for deletion, or gone. -/
def Marked (uid : UID) (world : World kind) : Prop :=
  uid < world.nextUid ∧ ∀ object, world.stored = some object → object.objectMeta.uid = uid →
    object.objectMeta.deletionTimestamp.isSome = true

/-- Only incarnations that are marked for deletion were released. -/
structure Valid (world : World kind) : Prop where
  known : ∀ object, world.stored = some object → object.objectMeta.uid < world.nextUid
  released : ∀ uid ∈ world.released, Marked uid world

theorem valid_empty : Valid (World.empty : World kind) :=
  ⟨fun _ found => absurd found (Option.some_ne_none _).symm,
    fun _ member => absurd member List.not_mem_nil⟩

/-- The operator removes its finalizer from objects that are marked for deletion
only. -/
def Rightful (world : World kind) : Request (Object kind) → Prop
  | .update written => kind.finalizer ∈ written.objectMeta.finalizers ∨
      Marked written.objectMeta.uid world
  | _ => True

section Foreign

/-- Users do not remove the operator's finalizer. -/
theorem Carries.foreign (carries : Carries uid world) (move : Foreign key world next) :
    Carries uid next := by
  obtain ⟨object, found, same, finalizer⟩ := carries
  obtain ⟨later, stored, preserved⟩ := move.keeps found finalizer
  exact ⟨later, stored, preserved.uid.trans same, preserved.finalizer.mpr finalizer⟩

/-- A deletion is not taken back by users. -/
theorem Marked.foreign (marked : Marked uid world) (move : Foreign key world next) :
    Marked uid next := by
  refine ⟨Nat.lt_of_lt_of_le marked.1 move.nextUid_le, fun object found same => ?_⟩
  rcases move.origin found with ⟨before, stored, preserved, -⟩ | ⟨created, -⟩
  · exact preserved.marked (marked.2 before stored (preserved.uid.symm.trans same))
  · have known := marked.1
    rw [← same, created] at known
    exact absurd known (Nat.lt_irrefl _)

/-- Users release nothing. -/
theorem Valid.foreign (valid : Valid world) (move : Foreign key world next) : Valid next := by
  refine ⟨fun object found => ?_, fun uid member => ?_⟩
  · rcases move.origin found with ⟨before, stored, preserved, same⟩ | ⟨created, -, -, same⟩
    · rw [same, preserved.uid]
      exact valid.known before stored
    · rw [created, same]
      exact Nat.lt_succ_self _
  · rw [move.released] at member
    exact (valid.released uid member).foreign move

end Foreign

section Answers

variable {request : Request (Object kind)} {reply : request.Answer}

/-- A write that is accepted was made on the stored object. -/
theorem Current.unique {object written current : Object kind}
    (matching : Current world written current) (found : world.stored = some object) :
    object = current :=
  Option.some.inj (found.symm.trans matching.1)

/-- Only the operator's own removal of the finalizer ends that it is carried. -/
theorem Carries.answers (carries : Carries uid world)
    (answered : Answers world request reply after) :
    Carries uid after ∨ uid ∈ after.released := by
  obtain ⟨object, found, same, finalizer⟩ := carries
  rcases answered.cases with rfl | ⟨written, current, rfl, matching, became, released, -⟩ |
      ⟨written, current, rfl, matching, became, -⟩
  · exact .inl ⟨object, found, same, finalizer⟩
  · obtain rfl := matching.unique found
    by_cases carried : kind.finalizer ∈ written.objectMeta.finalizers
    · obtain ⟨version, stored⟩ := became.present (List.ne_nil_of_mem carried)
      exact .inl ⟨_, stored, matching.2.1.symm.trans same, carried⟩
    · rw [released, World.mem_recordRelease]
      exact .inr (.inr ⟨carried, same.symm.trans matching.2.1⟩)
  · obtain rfl := matching.unique found
    obtain ⟨version, stored⟩ := became.present (List.ne_nil_of_mem finalizer)
    exact .inl ⟨_, stored, same, finalizer⟩

/-- What was released stays released. -/
theorem released_answers (answered : Answers world request reply after)
    (member : uid ∈ world.released) : uid ∈ after.released := by
  rcases answered.cases with rfl | ⟨written, current, -, -, -, released, -⟩ |
      ⟨written, current, -, -, -, released, -⟩
  · exact member
  · rw [released, World.mem_recordRelease]
    exact .inl member
  · rwa [released]

/-- A deletion is not taken back by the operator. -/
theorem Marked.answers (marked : Marked uid world)
    (answered : Answers world request reply after) : Marked uid after := by
  rcases answered.cases with rfl | ⟨written, current, -, matching, became, -, nextUid⟩ |
      ⟨written, current, -, matching, became, -, nextUid⟩
  · exact marked
  · refine ⟨nextUid ▸ marked.1, fun object found same => ?_⟩
    obtain ⟨version, rfl⟩ := became.stored object found
    exact marked.2 current matching.1 (matching.2.1.trans same)
  · refine ⟨nextUid ▸ marked.1, fun object found same => ?_⟩
    obtain ⟨version, rfl⟩ := became.stored object found
    exact marked.2 current matching.1 same

/-- Rightful requests release only what is marked for deletion. -/
theorem Valid.answers (valid : Valid world) (rightful : Rightful world request)
    (answered : Answers world request reply after) : Valid after := by
  have still := fun uid (marked : Marked uid world) => marked.answers answered
  rcases answered.cases with rfl | ⟨written, current, rfl, matching, became, released, nextUid⟩ |
      ⟨written, current, rfl, matching, became, released, nextUid⟩
  · exact valid
  · refine ⟨fun object found => ?_, fun uid member => ?_⟩
    · obtain ⟨version, rfl⟩ := became.stored object found
      rw [nextUid]
      exact matching.2.1 ▸ valid.known current matching.1
    · rw [released, World.mem_recordRelease] at member
      rcases member with earlier | ⟨lacks, rfl⟩
      · exact still uid (valid.released uid earlier)
      · exact still _ (rightful.resolve_left lacks)
  · refine ⟨fun object found => ?_, fun uid member => ?_⟩
    · obtain ⟨version, rfl⟩ := became.stored object found
      rw [nextUid]
      exact valid.known current matching.1
    · rw [released] at member
      exact still uid (valid.released uid member)

end Answers

section Held

variable {request : Request (Object kind)} {reply : request.Answer}

/-- The incarnation carries the finalizer, and the operator never removed it. -/
def Held (uid : UID) (world : World kind) : Prop := Carries uid world ∧ uid ∉ world.released

theorem valid_stable : (environment key : Environment _ (World kind)).Stable Valid Valid :=
  fun _ _ valid _ move => valid.foreign move

/-- A request that keeps the finalizer releases nothing. -/
theorem not_released_answers (fresh : uid ∉ world.released)
    (keeps : ∀ written, request = .update written →
      kind.finalizer ∈ written.objectMeta.finalizers)
    (answered : Answers world request reply after) : uid ∉ after.released := by
  rcases answered.cases with rfl | ⟨written, current, rfl, -, -, released, -⟩ |
      ⟨written, current, rfl, -, -, released, -⟩
  · exact fresh
  · rw [released, World.mem_recordRelease]
    rintro (earlier | ⟨lacks, -⟩)
    · exact fresh earlier
    · exact lacks (keeps written rfl)
  · rwa [released]

/-- The finalizer is held until the operator removes it. -/
theorem Held.answers (held : Held uid world)
    (keeps : ∀ written, request = .update written →
      kind.finalizer ∈ written.objectMeta.finalizers)
    (answered : Answers world request reply after) : Held uid after := by
  have fresh := not_released_answers held.2 keeps answered
  exact ⟨(held.1.answers answered).resolve_right fresh, fresh⟩

/-- Users cannot end the hold. -/
theorem Held.foreign (held : Held uid world) (move : Foreign key world next) : Held uid next :=
  ⟨held.1.foreign move, move.released ▸ held.2⟩

end Held

section Upkeep

/-- What a property tracks about the stored state of an object: it holds when the
object is read, nobody but the operator ends it, and neither does the operator while
it releases the object or writes conditions. -/
structure Upkeep (key : NamespacedName)
    (guard : World kind → Trace (Object kind) → Request (Object kind) → Prop)
    (tracks : Object kind → World kind → Prop) : Prop where
  opened : ∀ object now, Valid now → now.stored = some object → tracks object now
  stable : ∀ object, (environment key).Stable Valid (tracks object)
  guarded : ∀ object now suffix request, (∀ event ∈ suffix, Releasing object event.request) →
    Releasing object request → Valid now → tracks object now →
    guard now (⟨.get key, .ok object⟩ :: suffix) request
  answered : ∀ object now request reply after, Releasing object request → Valid now →
    tracks object now → Answers now request reply after → tracks object after

variable {guard : World kind → Trace (Object kind) → Request (Object kind) → Prop}
  {tracks : Object kind → World kind → Prop}

namespace Upkeep

variable (upkeep : Upkeep key guard tracks) {read : Object kind} {suffix : Trace (Object kind)}
include upkeep

/-- The finalizer is added, or it is there already. -/
theorem addFinalizerIfNeeded_safe (unmarked : read.objectMeta.deletionTimestamp = none)
    (before : ∀ event ∈ suffix, Releasing read event.request) (valid : Valid world)
    (fresh : read.objectMeta.uid ∉ world.released)
    (carried : kind.finalizer ∈ read.objectMeta.finalizers → Carries read.objectMeta.uid world)
    (tracked : tracks read world) :
    (environment key).Safe Valid guard
      (fun result now later =>
        (∃ more, later = ⟨.get key, .ok read⟩ :: more ∧
          ∀ event ∈ more, Releasing read event.request) ∧
        ∀ object, result = .ok object →
          Carrying read object ∧ Held read.objectMeta.uid now ∧ tracks read now)
      (addFinalizerIfNeeded read) world (⟨.get key, .ok read⟩ :: suffix) := by
  have heldStable : (environment key).Stable Valid fun now : World kind =>
      Held read.objectMeta.uid now ∧ tracks read now :=
    Stable.and (fun _ _ _ held move => Held.foreign held move) (upkeep.stable read)
  unfold addFinalizerIfNeeded
  split
  · have stable : (environment key).Stable Valid fun now : World kind =>
        read.objectMeta.uid ∉ now.released ∧ tracks read now :=
      Stable.and (fun _ _ _ fresh move released => fresh (move.released ▸ released))
        (upkeep.stable read)
    have releasing : Releasing read (.update read.withFinalizer) := ObjectMeta.addFinalizer_uid ..
    refine Safe.call valid_stable stable valid ⟨fresh, tracked⟩
      (fun now validNow holds => upkeep.guarded read now suffix _ before releasing validNow holds.2)
      fun now reply after validNow holds answered => ?_
    have finalizer : kind.finalizer ∈ read.withFinalizer.objectMeta.finalizers :=
      ObjectMeta.mem_addFinalizer ..
    have rightful : Rightful now (.update read.withFinalizer) := .inl finalizer
    have validAfter := validNow.answers rightful answered
    have trackedAfter :=
      upkeep.answered read now _ reply after releasing validNow holds.2 answered
    have further : ∀ event ∈ suffix ++ [⟨.update read.withFinalizer, reply⟩],
        Releasing read event.request :=
      List.forall_mem_append.mpr ⟨before, fun event member => by
        cases List.mem_singleton.mp member
        exact releasing⟩
    refine ⟨validAfter, ?_⟩
    cases reply with
    | error failure =>
        exact fun later drift _ => ⟨⟨_, rfl, further⟩, fun object same => by cases same⟩
    | ok version =>
        obtain ⟨current, matching, stores⟩ := answered
        obtain ⟨became, released, -⟩ := stores.became
        obtain ⟨stamp, stored⟩ := became.present (List.ne_nil_of_mem finalizer)
        have freshAfter := not_released_answers holds.1
          (fun written same => by cases same; exact finalizer)
          (show Answers now (.update read.withFinalizer) (.ok version) after from
            ⟨current, matching, stores⟩)
        have held : Held read.objectMeta.uid after :=
          ⟨⟨_, stored, ObjectMeta.addFinalizer_uid .., finalizer⟩, freshAfter⟩
        refine Safe.done valid_stable heldStable validAfter ⟨held, trackedAfter⟩
          fun later _ holdsLater => ⟨⟨_, rfl, further⟩, fun object same => ?_⟩
        cases same
        exact ⟨carrying_withFinalizer read version, holdsLater⟩
  · next present =>
      have finalizer : kind.finalizer ∈ read.objectMeta.finalizers := by
        simpa [unmarked] using present
      refine Safe.done valid_stable heldStable valid ⟨⟨carried finalizer, fresh⟩, tracked⟩
        fun later _ holdsLater => ⟨⟨suffix, rfl, before⟩, fun object same => ?_⟩
      cases same
      exact ⟨⟨rfl, rfl, rfl, rfl, finalizer⟩, holdsLater⟩

/-- An object that is marked for deletion is only released. -/
theorem marked_safe (r : TopologyReconciler) (valid : Valid world)
    (stored : world.stored = some read)
    (marked : read.objectMeta.deletionTimestamp.isSome = true) :
    (environment key).Safe Valid guard (fun _ _ _ => True) (r.reconcileRead read) world
      [⟨.get key, .ok read⟩] := by
  have markedNow : Marked read.objectMeta.uid world := by
    refine ⟨valid.known read stored, fun other present _ => ?_⟩
    rwa [Option.some.inj (present.symm.trans stored)]
  have stable : (environment key).Stable Valid fun now : World kind =>
      Marked read.objectMeta.uid now ∧ tracks read now :=
    Stable.and (fun _ _ _ marked move => Marked.foreign marked move) (upkeep.stable read)
  refine (safe_of_calls valid_stable stable (reconcileRead_releasing r marked)
    (fun later suffix request before only validLater holds =>
      upkeep.guarded read later suffix request before only validLater holds.2)
    (fun later request reply final only validLater holds answered => ?_) valid
    ⟨markedNow, upkeep.opened read world valid stored⟩).weaken fun _ _ _ _ _ => trivial
  refine ⟨validLater.answers ?_ answered, holds.1.answers answered,
    upkeep.answered read later request reply final only validLater holds.2 answered⟩
  cases request with
  | update written =>
      have same : written.objectMeta.uid = read.objectMeta.uid := only
      exact .inr (same ▸ holds.1)
  | _ => trivial

/-- The object is stored with the finalizer if it was read with it, and it was not
released. -/
def Kept (read : Object kind) (now : World kind) : Prop :=
  read.objectMeta.uid ∉ now.released ∧
    (kind.finalizer ∈ read.objectMeta.finalizers → Carries read.objectMeta.uid now)

omit upkeep in
/-- A request that does not write the object keeps it. -/
theorem Kept.statusOnly {request : Request (Object kind)} {reply : request.Answer}
    (kept : Kept read world) (valid : Valid world) (only : StatusOnly read request)
    (answered : Answers world request reply after) : Valid after ∧ Kept read after := by
  have keeps : ∀ written, request = .update written →
      kind.finalizer ∈ written.objectMeta.finalizers := by
    rintro written rfl
    rcases only with observes | ⟨_, same, -⟩
    · cases observes
    · cases same
  have fresh := not_released_answers kept.1 keeps answered
  refine ⟨valid.answers ?_ answered, fresh, fun finalizer =>
    ((kept.2 finalizer).answers answered).resolve_right fresh⟩
  cases request with
  | update written => exact .inl (keeps written rfl)
  | _ => trivial

/-- Any other object is declared once it carries the finalizer. -/
theorem unmarked_safe (r : TopologyReconciler)
    (declare : ∀ read object now suffix, read.objectMeta.deletionTimestamp = none →
      (∀ event ∈ suffix, Releasing read event.request) → Carrying read object → Valid now →
      Held read.objectMeta.uid now → tracks read now →
      (environment key).Safe Valid guard (fun _ _ _ => True) (r.reconcileDeclare object) now
        (⟨.get key, .ok read⟩ :: suffix))
    (valid : Valid world) (stored : world.stored = some read)
    (marked : ¬ read.objectMeta.deletionTimestamp.isSome = true) :
    (environment key).Safe Valid guard (fun _ _ _ => True) (r.reconcileRead read) world
      [⟨.get key, .ok read⟩] := by
  have unmarked : read.objectMeta.deletionTimestamp = none := by simpa using marked
  have fresh : read.objectMeta.uid ∉ world.released := by
    intro released
    exact marked ((valid.released _ released).2 read stored rfl)
  have stable : (environment key).Stable Valid (fun now : World kind =>
      Kept read now ∧ tracks read now) :=
    Stable.and (fun _ _ _ kept move => ⟨fun released => kept.1 (move.released ▸ released),
      fun finalizer => (kept.2 finalizer).foreign move⟩) (upkeep.stable read)
  refine reconcileRead_safe valid_stable stable r unmarked
    (fun later suffix request before only validLater holds => upkeep.guarded read later suffix
      request (fun event member => releasing_of_statusOnly (before event member))
      (releasing_of_statusOnly only) validLater holds.2)
    (fun later request reply final only validLater holds answered => ?_)
    (fun later suffix before validLater holds => ?_) valid
    ⟨⟨fresh, fun finalizer => ⟨read, stored, rfl, finalizer⟩⟩,
      upkeep.opened read world valid stored⟩
  · obtain ⟨validFinal, kept⟩ := holds.1.statusOnly validLater only answered
    exact ⟨validFinal, kept, upkeep.answered read later request reply final
      (releasing_of_statusOnly only) validLater holds.2 answered⟩
  · unfold TopologyReconciler.reconcileObject
    rw [if_neg marked]
    refine Safe.bind (upkeep.addFinalizerIfNeeded_safe unmarked
      (fun event member => releasing_of_statusOnly (before event member)) validLater holds.1.1
      holds.1.2 holds.2) validLater ?_
    rintro result final _ validFinal ⟨⟨more, rfl, further⟩, added⟩
    rcases result with err | object
    · exact fun _ _ _ => trivial
    · obtain ⟨carrying, held, trackedFinal⟩ := added object rfl
      exact declare read object final more unmarked further carrying validFinal held trackedFinal

/-- The obligation on a reconcile, from that on declaring an object that carries the
finalizer. -/
theorem reconcile_safe (r : TopologyReconciler)
    (declare : ∀ read object now suffix, read.objectMeta.deletionTimestamp = none →
      (∀ event ∈ suffix, Releasing read event.request) → Carrying read object → Valid now →
      Held read.objectMeta.uid now → tracks read now →
      (environment key).Safe Valid guard (fun _ _ _ => True) (r.reconcileDeclare object) now
        (⟨.get key, .ok read⟩ :: suffix))
    (readable : ∀ now, Valid now → guard now [] (.get key)) (world : World kind) :
    (environment key).Safe Valid guard (fun _ _ _ => True)
      (r.reconcile key : Prog (Object kind) _) world [] := by
  intro now drift validNow
  refine ⟨readable now validNow, fun reply after answered => ?_⟩
  obtain ⟨rfl, found⟩ := answered
  refine ⟨validNow, ?_⟩
  rcases reply with failure | read
  · exact fun _ _ _ => trivial
  by_cases marked : read.objectMeta.deletionTimestamp.isSome = true
  · exact upkeep.marked_safe r validNow (found read rfl) marked
  · exact upkeep.unmarked_safe r declare validNow (found read rfl) marked

end Upkeep

end Upkeep

end TopologyOperator.ApiServer
