import TopologyOperator.ApiServer.Generations
import TopologyOperator.ApiServer.Opening
import TopologyOperator.Controller.Memory

/-!
# Honest status

The status of an object says no more than what happened: its observed generation is
one whose spec `DeclareFunc` was given and returned nil for, and the condition that
the object is ready was stored together with that observed generation and has been
kept since. This holds in every run, with arbitrary failures, crashes and conflicts.
-/

namespace TopologyOperator.ApiServer

open Dialogue Environment Program
open TopologyReconciler (plainReconciler resolve_secret Opens)

variable {kind : Kind} {key : NamespacedName} {r : TopologyReconciler} {uid : UID}
  {before after config next :
    Config (@Request.Answer (Object kind)) (World kind) (Result × Option GoError)}
  {current written : Object kind} {holds : Status → Prop}

/-- A reconcile whose `DeclareFunc` returned nil stores its status: the stored object
has the spec that was declared, and the status names its generation. -/
inductive Success (r : TopologyReconciler) (key : NamespacedName) :
    Config (@Request.Answer (Object kind)) (World kind) (Result × Option GoError) →
    Config (@Request.Answer (Object kind)) (World kind) (Result × Option GoError) →
    Object kind → Prop where
  | intro {world after : World kind} {trace : Trace (Object kind)} {written current : Object kind}
      {resume : Except ApiError Version → Prog (Object kind) (Result × Option GoError)}
      {reply : Except ApiError Version}
      (reachable : (generational key).Reachable (r.reconcile key) .empty
        ⟨world, some (trace, .call (.updateStatus written) resume)⟩)
      (answered : (generational key).answers world (.updateStatus written) reply after)
      (declared : Declared r.libraries trace written) (stored : world.stored = some current)
      (revised : Object.view.revision current = Object.view.revision written)
      (observed : written.status.observedGeneration = written.objectMeta.generation) :
      Success r key ⟨world, some (trace, .call (.updateStatus written) resume)⟩
        ⟨after, some (trace ++ [⟨.updateStatus written, reply⟩], resume reply)⟩ written

/-- The incarnation is stored, with a status of this sort. -/
def StoredWith (uid : UID) (holds : Status → Prop)
    (config : Config (@Request.Answer (Object kind)) (World kind) (Result × Option GoError)) :
    Prop :=
  ∃ object, config.world.stored = some object ∧ object.objectMeta.uid = uid ∧ holds object.status

theorem StoredWith.present (storedWith : StoredWith uid holds config) :
    ∃ object, config.world.stored = some object ∧ object.objectMeta.uid = uid := by
  obtain ⟨object, stored, identity, -⟩ := storedWith
  exact ⟨object, stored, identity⟩

/-- A successful reconcile has stored a status of this sort, and the incarnation has
had one ever since. -/
def Vouched (r : TopologyReconciler) (key : NamespacedName) (uid : UID) (holds : Status → Prop)
    (config : Config (@Request.Answer (Object kind)) (World kind) (Result × Option GoError)) :
    Prop :=
  ∃ before after written, Success r key before after written ∧ written.objectMeta.uid = uid ∧
    holds written.status ∧
    (generational key).Since (r.reconcile key) (StoredWith uid holds) after config

/-- What the status of a stored object claims is vouched for. -/
structure Honest (r : TopologyReconciler) (key : NamespacedName)
    (config : Config (@Request.Answer (Object kind)) (World kind) (Result × Option GoError))
    (object : Object kind) : Prop where
  observed : object.status.observedGeneration ≠ 0 →
    Vouched r key object.objectMeta.uid
      (·.observedGeneration = object.status.observedGeneration) config
  ready : ∀ condition ∈ object.status.conditions, ReadyTrue condition →
    Vouched r key object.objectMeta.uid
      (fun status => status.observedGeneration = object.status.observedGeneration ∧
        condition ∈ status.conditions) config

/-- As long as the status stays, what has vouched for it still does. -/
theorem Vouched.step (vouched : Vouched r key uid holds config)
    (step : (generational key).Step (r.reconcile key) config next)
    (stored : StoredWith uid holds next) : Vouched r key uid holds next := by
  obtain ⟨before, after, written, success, identity, had, since⟩ := vouched
  exact ⟨before, after, written, success, identity, had, since.step step stored⟩

/-- A status that claims no more than an honest one is honest. -/
theorem Honest.step {later : Object kind} (honest : Honest r key config current)
    (step : (generational key).Step (r.reconcile key) config next)
    (stored : next.world.stored = some later)
    (sameUid : later.objectMeta.uid = current.objectMeta.uid)
    (keeps : KeepsReadiness current.status later.status) : Honest r key next later := by
  constructor
  · intro positive
    rw [keeps.observed] at positive ⊢
    rw [sameUid]
    exact (honest.observed positive).step step ⟨later, stored, sameUid, keeps.observed⟩
  · intro condition member ready
    rw [keeps.observed, sameUid]
    exact (honest.ready condition (keeps.ready condition member ready) ready).step step
      ⟨later, stored, sameUid, keeps.observed, member⟩

/-- What a successful reconcile stores is honest. -/
theorem Success.honest {later : Object kind} (success : Success r key before after written)
    (stored : after.world.stored = some later)
    (sameUid : later.objectMeta.uid = written.objectMeta.uid)
    (status : later.status = written.status) : Honest r key after later := by
  constructor
  · intro _
    refine ⟨before, after, written, success, sameUid.symm, by rw [status], ?_, .refl⟩
    exact ⟨later, stored, rfl, rfl⟩
  · intro condition member _
    refine ⟨before, after, written, success, sameUid.symm, ⟨by rw [status], status ▸ member⟩, ?_,
      .refl⟩
    exact ⟨later, stored, rfl, rfl, member⟩

/-- Every status write of a reconcile that is accepted claims no more than the stored
status, or is that of a successful reconcile. -/
theorem statusWrite_permitted {world : World kind} {trace : Trace (Object kind)}
    {resume : Except ApiError Version → Prog (Object kind) (Result × Option GoError)}
    (reachable : (generational key).Reachable (r.reconcile key) .empty
      ⟨world, some (trace, .call (.updateStatus written) resume)⟩)
    (matching : Current world written current) :
    Object.view.revision current = Object.view.revision written ∧
      (KeepsReadiness current.status written.status ∨ Declared r.libraries trace written ∧
        written.status.observedGeneration = written.objectMeta.generation) := by
  have base := reachable_of_generational reachable
  obtain ⟨⟨stored, knows, permits⟩, -⟩ := base.guarded (reconcile_guarded r key) _ rfl
  obtain ⟨revised, recorded⟩ := (reliable key).coherent (fun _ absent => by cases absent) base _ rfl
    _ _ knows current matching.1 matching.2.2
  have recorded : current.status = stored := recorded
  rw [recorded]
  exact ⟨revised, permits⟩

/-- In every reachable state, the stored status is honest. -/
theorem reachable_honest
    (reachable : (generational key).Reachable (r.reconcile key) .empty config) :
    ∀ object, config.world.stored = some object → Honest r key config object := by
  induction reachable with
  | refl => exact fun _ absent => by cases absent
  | @tail config next earlier step ih =>
      -- nothing happens to the object, or only to the rest of it
      have carry : ∀ before later, config.world.stored = some before →
          next.world.stored = some later → later.objectMeta.uid = before.objectMeta.uid →
          later.status = before.status → Honest r key next later := by
        intro before later found stored sameUid status
        exact (ih before found).step step stored sameUid (status ▸ .refl _)
      intro later stored
      cases step with
      | foreign move =>
          rcases move.1.origin stored with ⟨before, found, preserved, -⟩ | ⟨-, empty, -⟩
          · exact carry before later found stored preserved.uid preserved.status
          · exact ⟨fun positive => absurd (by rw [empty]) positive,
              fun _ member => by rw [empty] at member; cases member⟩
      | start => exact carry later later stored stored rfl rfl
      | stop => exact carry later later stored stored rfl rfl
      | @answer world after trace request resume reply answered =>
          rcases answered.1.cases with rfl | ⟨written, current, rfl, matching, became, -⟩ |
              ⟨written, current, rfl, matching, became, -⟩
          · exact carry later later stored stored rfl rfl
          · obtain ⟨version, rfl⟩ := became.stored later stored
            exact carry current _ matching.1 stored matching.2.1.symm rfl
          · obtain ⟨version, rfl⟩ := became.stored later stored
            obtain ⟨revised, keeps | ⟨declared, observed⟩⟩ :=
              statusWrite_permitted earlier matching
            · exact (ih current matching.1).step (.answer answered) stored rfl keeps
            · have success := Success.intro earlier answered declared matching.1 revised observed
              exact success.honest stored matching.2.1 rfl

/-- Right after it, the object is stored with the generation and the spec that were
declared. -/
theorem Success.revision {first : Object kind} (success : Success r key before after written)
    (found : after.world.stored = some first)
    (sameUid : first.objectMeta.uid = written.objectMeta.uid) :
    first.objectMeta.generation = written.objectMeta.generation ∧ first.spec = written.spec := by
  obtain ⟨-, answered, -, stored, revised, -⟩ := success
  next world final trace current resume reply =>
  have uid : current.objectMeta.uid = written.objectMeta.uid := congrArg Revision.uid revised
  have generation : current.objectMeta.generation = written.objectMeta.generation :=
    congrArg Revision.generation revised
  have spec : current.spec = written.spec := congrArg Revision.spec revised
  have unchanged : first.spec = current.spec ∧ first.objectMeta.deletionTimestamp.isSome =
      current.objectMeta.deletionTimestamp.isSome := by
    rcases Writes.cases answered.1 with rfl | ⟨version, other, matching, stores⟩
    · rw [Option.some.inj (found.symm.trans stored)]
      exact ⟨rfl, rfl⟩
    · rw [stores.found found, Option.some.inj (matching.1.symm.trans stored)]
      exact ⟨rfl, rfl⟩
  obtain ⟨-, changes⟩ := answered.2 current first stored found (sameUid.trans uid.symm)
  exact ⟨(changes.mpr unchanged).trans generation, unchanged.1.trans spec⟩

/-- In every run the status of the stored object is honest; and the generation of a
successful reconcile has the spec that was declared, as long as it is stored. -/
theorem status_honest (r : TopologyReconciler) (key : NamespacedName)
    {config : Config (@Request.Answer (Object kind)) (World kind) (Result × Option GoError)}
    (reachable : (generational key).Reachable (r.reconcile key) .empty config)
    {object : Object kind} (stored : config.world.stored = some object) :
    Honest r key config object ∧
      ∀ before after written holds, Success r key before after written →
        (generational key).Since (r.reconcile key) (StoredWith written.objectMeta.uid holds) after
          config →
        object.objectMeta.generation = written.objectMeta.generation →
        object.spec = written.spec := by
  refine ⟨reachable_honest reachable object stored, ?_⟩
  intro before after written holds success since same
  obtain ⟨first, found, identity, -⟩ := since.1
  obtain ⟨generation, spec⟩ := success.revision found identity
  obtain ⟨-, unchanged⟩ := generations_since (fun _ => StoredWith.present) since found stored
  exact (unchanged (same.trans generation.symm)).trans spec

section Example

/-- An exchange that is reached through a connection Secret. -/
def invoiceExchange : Object .exchange where
  objectMeta := { name := "invoices", ns := "shop", uid := 1 }
  spec := { name := "invoices", vhost := "/"
            rabbitmqClusterReference := { connectionSecret := some ⟨"rabbit"⟩ } }

/-- The exchange was declared, and is stored as ready. -/
def readyExchange : Object .exchange :=
  { invoiceExchange.withFinalizer with status := { observedGeneration := 1, conditions :=
    [⟨"Ready", .conditionTrue, 7, "SuccessfulCreateOrUpdate", ""⟩] } }.withVersion ⟨3, 1⟩

/-- A stored object can be read and its reference looked up. -/
theorem generational_opens {key : NamespacedName} {world : World kind} {object : Object kind}
    {resolving : Trace (Object kind)} (stored : world.stored = some object)
    (looks : ∀ event ∈ resolving, LooksUp event.request) :
    Opens (generational key) key object world resolving where
  reads := ⟨⟨rfl, fun _ same => by cases same; exact stored⟩, generations_refl _⟩
  loads := ⟨rfl, generations_refl _⟩
  looks := by
    rintro ⟨request, reply⟩ member
    have looksUp := looks _ member
    cases request <;> first | exact looksUp.elim | exact ⟨rfl, generations_refl _⟩
  connects _ _ _ _ := ⟨rfl, generations_refl _⟩

/-- A state with an exchange that is said to be ready can be reached. -/
theorem readyExchange_stored : ∃ config : Config (@Request.Answer (Object .exchange))
    (World .exchange) (Result × Option GoError),
    (generational ⟨"shop", "invoices"⟩).Reachable
      (TopologyReconciler.reconcile ⟨.verbatim, "", false⟩ ⟨"shop", "invoices"⟩) .empty config ∧
    config.world.stored = some readyExchange := by
  have created : Foreign ⟨"shop", "invoices"⟩ World.empty _ :=
    .create invoiceExchange ⟨1, 1⟩ rfl rfl rfl rfl rfl rfl
  have idle : (generational ⟨"shop", "invoices"⟩).Reachable
      (plainReconciler.reconcile ⟨"shop", "invoices"⟩) .empty _ :=
    .tail .refl (.foreign ⟨created, fun _ _ absent => by cases absent⟩)
  have connected := (generational_opens rfl fun _ member => by
    cases List.mem_singleton.mp member; trivial).reachable (resolve_secret rfl rfl) idle
  have carrying := connected.answer (.ok ⟨2, 1⟩)
    ⟨⟨_, ⟨rfl, rfl, rfl⟩, .changed ⟨2, 1⟩ rfl⟩, fun before after found present _ => by
      cases found
      cases present
      exact ⟨Int.le_refl _, iff_of_true rfl ⟨rfl, rfl⟩⟩⟩
  have declared := carrying.answer ⟨some ⟨201, ""⟩, none⟩ ⟨rfl, generations_refl _⟩
  have published := declared.answer () ⟨rfl, generations_refl _⟩
  have timed := published.answer 7 ⟨rfl, generations_refl _⟩
  have stored := timed.answer (.ok ⟨3, 1⟩)
    ⟨⟨_, ⟨rfl, rfl, rfl⟩, .changed ⟨3, 1⟩ rfl⟩, fun before after found present _ => by
      cases found
      cases present
      exact ⟨Int.le_refl _, iff_of_true rfl ⟨rfl, rfl⟩⟩⟩
  exact ⟨_, stored, rfl⟩

/-- In that run, the exchange was declared in the generation that its status names. -/
theorem readyExchange_vouched : ∃ config : Config (@Request.Answer (Object .exchange))
    (World .exchange) (Result × Option GoError),
    config.world.stored = some readyExchange ∧
    Vouched ⟨.verbatim, "", false⟩ ⟨"shop", "invoices"⟩ 1 (·.observedGeneration = 1) config := by
  obtain ⟨config, reachable, stored⟩ := readyExchange_stored
  obtain ⟨honest, -⟩ :=
    status_honest ⟨.verbatim, "", false⟩ ⟨"shop", "invoices"⟩ reachable stored
  exact ⟨config, stored, honest.observed (by decide)⟩

end Example

end TopologyOperator.ApiServer
