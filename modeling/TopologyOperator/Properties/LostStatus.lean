import TopologyOperator.ApiServer.Opening
import TopologyOperator.ApiServer.Optimistic
import TopologyOperator.Controller.SuperStreamMemory

/-!
# Lost status updates

Both reconcilers store the status in a loop that retries on a conflict. The loop
sends the same object again, under the version that was rejected. So a foreign write
that lands after the last read or write of the reconcile makes every attempt fail, and
the loop leaves what the foreign write has stored.
-/

namespace TopologyOperator

open Dialogue Program Environment
open TopologyReconciler (plainReconciler)

section Loop

variable {Resource Spec Status σ α : Type}

/-- One attempt to store a status. An error of the API server is passed on, and the
resource is sent again as it is. -/
def statusAttempt (renewed : Version → Resource) (written : Resource) :
    Prog Resource (Resource × Except GoError Unit) := do
  match ← ask (.updateStatus written) with
  | .error err => return (written, .error (.api err))
  | .ok version => return (renewed version, .ok ())

/-- The attempts of a loop store a status. -/
def StoresStatus (attempt : Resource → Prog Resource (Resource × Except GoError Unit)) : Prop :=
  ∀ written, ∃ renewed, attempt written = statusAttempt renewed written

theorem updateStatus_stores {kind : Kind} : StoresStatus (@updateStatus kind) := by
  refine fun object => ⟨object.withVersion, ?_⟩
  refine congrArg (ask (.updateStatus object)).bind (funext fun reply => ?_)
  cases reply <;> rfl

theorem SuperStreamReconciler.updateStatus_stores :
    StoresStatus SuperStreamReconciler.updateStatus := by
  refine fun superStream => ⟨fun version => { superStream with objectMeta :=
    { superStream.objectMeta with
      resourceVersion := version.resourceVersion, generation := version.generation } }, ?_⟩
  refine congrArg (ask (.updateStatus superStream)).bind (funext fun reply => ?_)
  cases reply <;> rfl

/-- A write of the status that the API server has rejected. -/
def WriteRejected (event : Event (@Request.Answer Resource)) : Prop :=
  ∃ written err, event = ⟨.updateStatus written, .error err⟩

/-- No attempt of a loop was accepted, the loop has returned the error of the last one, and
what was stored before it is stored after it. -/
structure Lost (before after : Option Resource) (attempts : Trace Resource)
    (result : Resource × Except GoError Unit) : Prop where
  rejected : ∀ event ∈ attempts, WriteRejected event
  failed : ∃ err, result.2 = .error err
  kept : after = before

variable (view : View Resource Spec Status)

/-- While a reconcile is in flight, somebody else writes the resource. The reconcile
goes on, without another successful read or write of the resource, until it stores
the status of `written`, and the loop that stores it ends after these attempts. -/
inductive Overtaken (env : Environment (@Request.Answer Resource) σ) (main : Prog Resource α)
    (initial : σ) (stored : σ → Option Resource)
    (attempt : Resource → Prog Resource (Resource × Except GoError Unit)) (written : Resource)
    (disturbed : σ) (attempts : Trace Resource) (result : Resource × Except GoError Unit)
    (final : σ) : Prop where
  | intro {world before : σ} {trace suffix : Trace Resource} {program : Prog Resource α}
      {retries : Nat} {rest : Resource × Except GoError Unit → Prog Resource α}
      (inFlight : env.Reachable main initial ⟨world, some (trace, program)⟩)
      (move : env.foreign world disturbed) (overwrites : stored disturbed ≠ stored world)
      (proceeds : env.Answered program disturbed suffix
        ((retryOnConflict attempt retries written).bind rest) before)
      (unaware : ∀ event ∈ suffix, view.learns event.request event.answer = none)
      (loop : env.Answered (retryOnConflict attempt retries written) before attempts
        (.done result) final) :
      Overtaken env main initial stored attempt written disturbed attempts result final

/-- The resource is stored, with the status of the given one. -/
def StatusStored (stored : Option Resource) (written : Resource) : Prop :=
  ∃ object, stored = some object ∧ view.status object = view.status written

variable {view} {env : Environment (@Request.Answer Resource) σ} {main : Prog Resource α}
  {initial disturbed final : σ} {stored : σ → Option Resource} {nextVersion : σ → ResourceVersion}
  {attempt : Resource → Prog Resource (Resource × Except GoError Unit)} {written : Resource}
  {attempts : Trace Resource} {result : Resource × Except GoError Unit}
  {permits : Trace Resource → Resource → Status → Prop}

/-- An attempt makes one request. If it is not told a version, it was rejected. -/
theorem StoresStatus.rejected (stores : StoresStatus attempt)
    (exec : (attempt written).Exec attempts (.done result)) :
    (∃ reply, attempts = [⟨.updateStatus written, reply⟩]) ∧
      ((∀ event ∈ attempts, view.learns event.request event.answer = none) →
        (∀ event ∈ attempts, WriteRejected event) ∧ ∃ err, result.2 = .error err) := by
  obtain ⟨renewed, same⟩ := stores written
  rw [same] at exec
  obtain ⟨reply, rest, rfl, stops⟩ := exec_ask_bind.mp exec
  cases reply with
  | error err =>
      obtain ⟨rfl, ended⟩ := stops
      cases ended
      exact ⟨⟨_, rfl⟩, fun _ => ⟨List.forall_mem_singleton.mpr ⟨written, err, rfl⟩, _, rfl⟩⟩
  | ok version =>
      obtain ⟨rfl, -⟩ := stops
      refine ⟨⟨_, rfl⟩, fun untold => ?_⟩
      cases untold _ (.head _)

/-- A loop that is not told a version was rejected every time. -/
theorem retryOnConflict_rejected {retries : Nat} (stores : StoresStatus attempt)
    (exec : (retryOnConflict attempt retries written).Exec attempts (.done result))
    (untold : ∀ event ∈ attempts, view.learns event.request event.answer = none) :
    (∀ event ∈ attempts, WriteRejected event) ∧ ∃ err, result.2 = .error err := by
  induction retries generalizing written attempts with
  | zero => exact (stores.rejected exec).2 untold
  | succ retries ih =>
      rcases retryOnConflict_succ exec with last | ⟨kept, err, first, rest, rfl, one, -, others⟩
      · exact (stores.rejected last).2 untold
      · obtain ⟨untoldFirst, untoldRest⟩ := List.forall_mem_append.mp untold
        obtain ⟨rejected, failed⟩ := ih others untoldRest
        exact ⟨List.forall_mem_append.mpr ⟨((stores.rejected one).2 untoldFirst).1, rejected⟩,
          failed⟩

/-- The loop asks for nothing but status writes. -/
theorem retryOnConflict_unread {retries : Nat} (stores : StoresStatus attempt)
    (exec : (retryOnConflict attempt retries written).Exec attempts (.done result)) :
    Unread view attempts := by
  have writes : ∀ state, True → (attempt state).Calls fun request =>
      ∃ object, request = .updateStatus object := by
    intro state _
    obtain ⟨renewed, same⟩ := stores state
    rw [same]
    refine calls_ask_bind ⟨state, rfl⟩ fun answer => ?_
    split <;> trivial
  have calls := retryOnConflict_calls writes (fun _ _ _ _ _ => trivial) retries written trivial
  intro event member key reads
  obtain ⟨object, status⟩ := calls.of_exec exec event member
  rw [reads] at status
  cases status

/-- The loop of an overtaken reconcile is lost. -/
theorem Overtaken.lost (optimistic : Optimistic view env stored nextVersion)
    (start : ∀ object, stored initial = some object →
      (view.revision object).resourceVersion < nextVersion initial)
    (guarded : main.Guarded (view.Faithful permits) (fun _ _ => True) [])
    (stores : StoresStatus attempt)
    (overtaken : Overtaken view env main initial stored attempt written disturbed attempts result
      final) : Lost (stored disturbed) (stored final) attempts result := by
  obtain ⟨inFlight, move, overwrites, proceeds, unaware, loop⟩ := overtaken
  next world before trace suffix program retries rest =>
  have outdated : Outdated view stored trace disturbed := by
    intro event member version learned object found
    have known := (optimistic.bounded start inFlight).2 _ rfl event member version learned
    have fresh := (optimistic.fresh _ _ move overwrites object found).1
    exact Nat.ne_of_gt (Nat.lt_of_lt_of_le known fresh)
  obtain ⟨kept, guardedLoop, outdatedLoop, -⟩ := optimistic.untouched proceeds
    (inFlight.guarded guarded _ rfl) outdated fun event member _ _ => unaware event member
  obtain ⟨keptLoop, -, -, untold⟩ := optimistic.untouched loop guardedLoop.of_bind outdatedLoop
    (retryOnConflict_unread stores loop.exec)
  obtain ⟨rejected, failed⟩ := retryOnConflict_rejected stores loop.exec untold
  exact ⟨rejected, failed, keptLoop.trans kept⟩

/-- The loop may be answered with a conflict each time. -/
theorem conflicts_exhaust {world : σ} (stores : StoresStatus attempt)
    (conflict : ∀ object, env.answers world (.updateStatus object)
      (.error ⟨.conflict, "the object has been modified"⟩) world) (retries : Nat) :
    ∃ attempts result, env.Answered (retryOnConflict attempt retries written) world attempts
      (.done result) world := by
  obtain ⟨renewed, same⟩ := stores written
  induction retries with
  | zero =>
      rw [retryOnConflict, same]
      exact ⟨_, _, .call (conflict written) (.refl ..)⟩
  | succ retries ih =>
      obtain ⟨attempts, result, rest⟩ := ih
      rw [retryOnConflict, same]
      exact ⟨_, _, .call (conflict written) rest⟩

end Loop

/-- What follows a status update follows its loop. -/
theorem statusUpdate_bind {kind : Kind} {α : Type} (object : Object kind)
    (next : Unit → Prog (Object kind) α) :
    (TopologyReconciler.statusUpdate object).bind next =
      (retryOnConflict updateStatus defaultRetry object).bind fun _ => next () :=
  bind_assoc ..

theorem storeStatus_bind {α : Type} (superStream : SuperStream)
    (next : SuperStream → Prog SuperStream α) :
    (SuperStreamReconciler.storeStatus superStream).bind next =
      (retryOnConflict SuperStreamReconciler.updateStatus defaultRetry superStream).bind
        fun result => next result.1 :=
  bind_assoc ..

/-- The status of a reconcile that was overtaken is never stored: every attempt of the loop
is rejected, and the loop leaves what the foreign write has stored. -/
theorem overtaken_never_stored (key : NamespacedName) :
    (∀ (kind : Kind) (r : TopologyReconciler) (written : Object kind)
        (disturbed final : ApiServer.World kind) (attempts : Trace (Object kind))
        (result : Object kind × Except GoError Unit),
      Overtaken Object.view (ApiServer.environment key) (r.reconcile key) .empty
        ApiServer.World.stored updateStatus written disturbed attempts result final →
      Lost disturbed.stored final.stored attempts result) ∧
    (∀ (permitted : SuperStream → SuperStream → Prop) (stream written : SuperStream)
        (disturbed final : SuperStreamServer.World) (attempts : Trace SuperStream)
        (result : SuperStream × Except GoError Unit),
      Overtaken SuperStream.view (SuperStreamServer.environment permitted)
        (SuperStreamReconciler.reconcile key) (.fresh stream) (fun world => some world.stream)
        SuperStreamReconciler.updateStatus written disturbed attempts result final →
      Lost (some disturbed.stream) (some final.stream) attempts result) := by
  constructor
  · intro kind r written disturbed final attempts result overtaken
    exact overtaken.lost (ApiServer.optimistic key) (fun _ absent => by cases absent)
      (reconcile_guarded r key) updateStatus_stores
  · intro permitted stream written disturbed final attempts result overtaken
    have lost := overtaken.lost SuperStreamServer.optimistic
      (fun _ found => by cases found; exact Nat.lt_succ_self _)
      (SuperStreamReconciler.reconcile_guarded key) SuperStreamReconciler.updateStatus_stores
    exact lost

section Example

open ApiServer

/-- An exchange that is reached through a connection Secret. -/
def auditExchange : Object .exchange where
  objectMeta := { name := "audit", ns := "shop", uid := 1 }
  spec := { name := "audit", vhost := "/"
            rabbitmqClusterReference := { connectionSecret := some ⟨"rabbit"⟩ } }

/-- The stored exchange, with the finalizer of the operator. -/
def carryingExchange : Object .exchange := auditExchange.withFinalizer.withVersion ⟨2, 1⟩

/-- The exchange after somebody else has set a label. -/
def labelledExchange : Object .exchange :=
  { carryingExchange with objectMeta := { carryingExchange.objectMeta with
    labels := [("team", "audit")] } }.withVersion ⟨3, 1⟩

/-- What is stored after that. -/
def labelledWorld : World .exchange := ⟨some labelledExchange, 4, 2, []⟩

/-- The status that the reconcile computes: the exchange was declared. -/
def declaredExchange : Object .exchange :=
  { carryingExchange with status := { observedGeneration := 1, conditions :=
    [⟨"Ready", .conditionTrue, 7, "SuccessfulCreateOrUpdate", ""⟩] } }

theorem auditExchange_overtaken : ∃ attempts result,
    Overtaken Object.view (environment ⟨"shop", "audit"⟩)
      (TopologyReconciler.reconcile ⟨.verbatim, "", false⟩ ⟨"shop", "audit"⟩) .empty
      World.stored updateStatus declaredExchange labelledWorld attempts result labelledWorld := by
  have created : Foreign ⟨"shop", "audit"⟩ World.empty _ :=
    .create auditExchange ⟨1, 1⟩ rfl rfl rfl rfl rfl rfl
  have idle : (environment ⟨"shop", "audit"⟩).Reachable
      (plainReconciler.reconcile ⟨"shop", "audit"⟩) .empty _ := .tail .refl (.foreign created)
  obtain ⟨resolving, connected⟩ := exists_opened rfl idle
  have carrying := connected.answer (.ok ⟨2, 1⟩) ⟨_, ⟨rfl, rfl, rfl⟩, .changed ⟨2, 1⟩ rfl⟩
  have labelled : Foreign ⟨"shop", "audit"⟩ ⟨some carryingExchange, 3, 2, []⟩ labelledWorld :=
    .update carryingExchange labelledExchange ⟨3, 1⟩ rfl ⟨rfl, rfl, rfl, Iff.rfl, id⟩ rfl rfl
  have disturbed : (environment ⟨"shop", "audit"⟩).Answered
      (plainReconciler.reconcileDeclare carryingExchange) labelledWorld [] _ labelledWorld :=
    .refl ..
  have declared := disturbed.snoc ⟨some ⟨201, ""⟩, none⟩ rfl
  have published := declared.snoc () rfl
  have proceeds := published.snoc 7 rfl
  have storing : (environment ⟨"shop", "audit"⟩).Answered _ _ _
      ((TopologyReconciler.statusUpdate declaredExchange).bind
        fun _ => .done (({} : Result), none)) _ :=
    proceeds
  rw [statusUpdate_bind] at storing
  have conflict : ∀ object, (environment ⟨"shop", "audit"⟩).answers labelledWorld
      (.updateStatus object) (.error ⟨.conflict, "the object has been modified"⟩) labelledWorld :=
    fun _ => .inl rfl
  obtain ⟨attempts, result, loop⟩ := conflicts_exhaust updateStatus_stores conflict defaultRetry
  exact ⟨attempts, result, .intro carrying labelled (by decide) storing (by simp [View.learns])
    loop⟩

/-- The status that says that the exchange was declared is lost. -/
theorem auditExchange_status_lost :
    ∃ attempts result final, Overtaken Object.view (environment ⟨"shop", "audit"⟩)
      (TopologyReconciler.reconcile ⟨.verbatim, "", false⟩ ⟨"shop", "audit"⟩) .empty
      World.stored updateStatus declaredExchange ⟨some labelledExchange, 4, 2, []⟩ attempts result
      final ∧
    ¬ StatusStored Object.view final.stored declaredExchange := by
  obtain ⟨attempts, result, overtaken⟩ := auditExchange_overtaken
  refine ⟨attempts, result, _, overtaken, ?_⟩
  rintro ⟨object, found, same⟩
  cases found
  exact absurd same (by decide)

/-- A super stream that refers to a cluster of another namespace. -/
def ledgerStream : SuperStream where
  objectMeta := { name := "ledger", ns := "shop", resourceVersion := 1, generation := 1 }
  spec := { partitions := 1, rabbitmqClusterReference := { name := "rabbit", ns := "infra" } }

/-- The super stream after a user has scaled it. -/
def scaledStream : SuperStream :=
  { ledgerStream with
    objectMeta := { ledgerStream.objectMeta with resourceVersion := 2, generation := 2 }
    spec := { ledgerStream.spec with partitions := 2 } }

/-- What is stored after that. -/
def scaledWorld : SuperStreamServer.World :=
  (SuperStreamServer.World.fresh ledgerStream).replace scaledStream

/-- The status that the reconcile computes: the namespace is not allowed. -/
def deniedStream : SuperStream :=
  { ledgerStream with status := { conditions :=
    [⟨"Ready", .conditionFalse, 7, "FailedCreateOrUpdate",
      GoError.errResourceNotAllowed.error⟩] } }

theorem ledgerStream_overtaken : ∃ attempts result,
    Overtaken SuperStream.view (SuperStreamServer.environment fun _ _ => True)
      (SuperStreamReconciler.reconcile ⟨"shop", "ledger"⟩) (.fresh ledgerStream)
      (fun world => some world.stream) SuperStreamReconciler.updateStatus deniedStream scaledWorld
      attempts result scaledWorld := by
  have started : (SuperStreamServer.environment fun _ _ => True).Reachable
      (SuperStreamReconciler.reconcile ⟨"shop", "ledger"⟩) (.fresh ledgerStream) _ :=
    .tail .refl .start
  have read := started.answer (.ok ledgerStream) ⟨rfl, fun stream same => by cases same; rfl⟩
  have resolved := read.answer (.ok { objectMeta := { name := "rabbit", ns := "infra" } }) rfl
  have scaled : SuperStreamServer.Foreign (fun _ _ => True)
      (SuperStreamServer.World.fresh ledgerStream) scaledWorld :=
    .update scaledStream trivial rfl rfl rfl
  have disturbed : (SuperStreamServer.environment fun _ _ => True).Answered
      (SuperStreamReconciler.handleRMQReferenceParseError ledgerStream .errResourceNotAllowed)
      scaledWorld [] _ scaledWorld := .refl ..
  have proceeds := disturbed.snoc 7 rfl
  have storing : (SuperStreamServer.environment fun _ _ => True).Answered _ _ _
      ((SuperStreamReconciler.storeStatus deniedStream).bind
        fun _ => .done (({} : Result), none)) _ := proceeds
  rw [storeStatus_bind] at storing
  have conflict : ∀ stream, (SuperStreamServer.environment fun _ _ => True).answers scaledWorld
      (.updateStatus stream) (.error ⟨.conflict, "the object has been modified"⟩) scaledWorld :=
    fun _ => .inl rfl
  obtain ⟨attempts, result, loop⟩ :=
    conflicts_exhaust SuperStreamReconciler.updateStatus_stores conflict defaultRetry
  exact ⟨attempts, result, .intro resolved scaled (by decide) storing (by simp [View.learns]) loop⟩

/-- A run of each reconciler that is overtaken, and what is stored after it. -/
theorem overtaken_runs :
    (∃ attempts result, Overtaken Object.view (environment ⟨"shop", "audit"⟩)
        (TopologyReconciler.reconcile ⟨.verbatim, "", false⟩ ⟨"shop", "audit"⟩) .empty
        World.stored updateStatus declaredExchange labelledWorld attempts result labelledWorld ∧
      Lost labelledWorld.stored labelledWorld.stored attempts result) ∧
    ∃ attempts result,
      Overtaken SuperStream.view (SuperStreamServer.environment fun _ _ => True)
        (SuperStreamReconciler.reconcile ⟨"shop", "ledger"⟩) (.fresh ledgerStream)
        (fun world => some world.stream) SuperStreamReconciler.updateStatus deniedStream
        scaledWorld attempts result scaledWorld ∧
      Lost (some scaledWorld.stream) (some scaledWorld.stream) attempts result := by
  obtain ⟨attempts, result, exchange⟩ := auditExchange_overtaken
  obtain ⟨attempts', result', stream⟩ := ledgerStream_overtaken
  exact ⟨⟨attempts, result, exchange, (overtaken_never_stored _).1 _ _ _ _ _ _ _ exchange⟩,
    attempts', result', stream, (overtaken_never_stored _).2 _ _ _ _ _ _ _ stream⟩

end Example

end TopologyOperator
