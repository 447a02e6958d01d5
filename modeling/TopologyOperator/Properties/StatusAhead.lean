import TopologyOperator.ApiServer.Opening
import TopologyOperator.Properties.UserStatus

/-!
# The status of a user is written ahead

Before a user is put into the broker, its name and the Secret with its credentials
are recorded in the status of the `User`. The record survives whatever happens next,
so a `User` without a recorded name never had a user in the broker, and there is
nothing to delete.
-/

namespace TopologyOperator.ApiServer

open Dialogue Environment
open TopologyReconciler (plainReconciler)

section Run

variable {key : NamespacedName}

theorem reconcile_writtenAhead (r : TopologyReconciler) (key : NamespacedName)
    (world : World .user) :
    (environment key).Safe Valid (WrittenAhead r.libraries key) (fun _ _ _ => True)
      (r.reconcile key : Prog (Object .user) _) world [] := by
  refine writtenAhead_upkeep.reconcile_safe r
    (fun read user now suffix _ before carrying valid held tracked => ?_)
    (fun _ _ => writtenAhead_of_sideline trivial) world
  have none : ∀ name settings, ¬ Releasing read (.broker (.putUser name settings)) :=
    fun _ _ absurd => by cases (absurd : BrokerCall.declares _ = false)
  exact reconcileUser_safe r carrying (not_hasPut none before) valid ⟨held, tracked⟩

/-- A name that was recorded is not forgotten. -/
theorem recorded_forever {r : TopologyReconciler} {uid : UID}
    {config later : Config (@Request.Answer (Object .user)) (World .user)
      (Result × Option GoError)}
    (reachable : (environment key).Reachable (r.reconcile key) .empty config)
    (recorded : StatusHas uid (·.username ≠ "") config.world)
    (steps : Relation.ReflTransGen ((environment key).Step (r.reconcile key)) config later) :
    StatusHas uid (·.username ≠ "") later.world := by
  have safe : ∀ config, (environment key).Reachable (r.reconcile key) .empty config → _ :=
    fun config reached => reachable_safe valid_empty valid_stable
      (fun world _ => reconcile_writtenAhead r key world) reached
  refine (environment key).steps_respect
    (fun before after : World .user => StatusHas uid (·.username ≠ "") before →
      StatusHas uid (·.username ≠ "") after)
    (fun config => ∀ trace request next, config.activity = some (trace, .call request next) →
      WrittenAhead r.libraries key config.world trace request)
    (fun _ => id) (fun first second => second ∘ first)
    (fun _ _ _ _ move recorded => recorded.foreign move) ?_ steps
    (fun config reached => (safe config (reachable.trans reached)).2) recorded
  intro world trace request next reply after guarded answered recorded
  change Answers world request reply after at answered
  have ordered := guarded trace request next rfl
  rcases answered.cases with rfl | ⟨written, current, rfl, -⟩ | ⟨written, current, rfl, matching, -⟩
  · exact recorded
  · exact recorded.answers (fun _ same => by cases same) answered
  · refine recorded.answers (fun other same sameUid => ?_) answered
    cases same
    have current := ordered.remembers written current rfl matching.1 matching.2.1
    exact current (recorded.2 _ matching.1 (matching.2.1.trans sameUid))

/-- In every run: when a user is about to be put, the stored status names it and the
Secret that its settings come from, under `usernameFromMeta` it has the name of the
object, and as long as the `User` exists its status names some user; when the limits
of a user are about to be read or changed, the reconcile has put no other user. -/
theorem status_written_ahead (r : TopologyReconciler) (key : NamespacedName)
    {config : Config (@Request.Answer (Object .user)) (World .user) (Result × Option GoError)}
    (reachable : (environment key).Reachable (r.reconcile key) .empty config)
    {trace : Trace (Object .user)} {issued : BrokerCall}
    {next : issued.Answer → Prog (Object .user) (Result × Option GoError)}
    (running : config.activity = some (trace, .call (.broker issued) next)) :
    (∀ username settings, issued = .putUser username settings →
      Announced r.libraries key config.world trace username settings ∧
      ∀ read rest, trace = ⟨.get key, .ok read⟩ :: rest → ∀ later,
        Relation.ReflTransGen ((environment key).Step (r.reconcile key)) config later →
        ∀ object, later.world.stored = some object →
          object.objectMeta.uid = read.objectMeta.uid → object.status.username ≠ "" ∧
          ∃ reported, UserReconciler.deleteFunc object =
            (.call (.broker (.deleteUser object.status.username)) reported :
              Prog (Object .user) _)) ∧
    ∀ username, issued.limitsUser = some username →
      ∀ other, HasPut trace other → other = username := by
  obtain ⟨valid, guarded⟩ := reachable_safe valid_empty valid_stable
    (fun world _ => reconcile_writtenAhead r key world) reachable
  have ordered := guarded trace (.broker issued) next running
  refine ⟨fun username settings same => ?_, fun username limits =>
    ordered.limits issued username rfl limits⟩
  subst same
  have announced := ordered.announced username settings rfl
  refine ⟨announced, fun read rest opening later steps object found sameUid => ?_⟩
  obtain ⟨opened, suffix, same, given, -, stored, _, _, present, storedUid, records, -⟩ := announced
  cases opening.symm.trans same
  have recorded : StatusHas read.objectMeta.uid (·.username ≠ "") config.world := by
    refine ⟨storedUid ▸ valid.known stored present, fun other found _ => ?_⟩
    rw [Option.some.inj (found.symm.trans present)]
    exact fun empty => given (records.1.symm.trans empty)
  have kept := (recorded_forever reachable recorded steps).2 object found sameUid
  exact ⟨kept, _, if_neg kept⟩

end Run

section Example

/-- A user whose credentials are imported from the Secret `app-credentials`. -/
def appUser : Object .user where
  objectMeta := { name := "app", ns := "shop", uid := 1 }
  spec :=
    { rabbitmqClusterReference := { connectionSecret := some ⟨"rabbit"⟩ }
      importCredentialsSecret := some ⟨"app-credentials"⟩ }

/-- A user creates the `User`, and the operator is about to put it. -/
theorem appUser_put : ∃ config : Config (@Request.Answer (Object .user))
    (World .user) (Result × Option GoError), ∃ trace settings next,
    (environment ⟨"shop", "app"⟩).Reachable
      (TopologyReconciler.reconcile ⟨.verbatim, "", false⟩ ⟨"shop", "app"⟩) .empty config ∧
    config.activity = some (trace, .call (.broker (.putUser "alice" settings)) next) := by
  have created : Foreign ⟨"shop", "app"⟩ World.empty _ :=
    .create appUser ⟨1, 1⟩ rfl rfl rfl rfl rfl rfl
  have idle : (environment ⟨"shop", "app"⟩).Reachable
      (plainReconciler.reconcile ⟨"shop", "app"⟩) .empty _ := .tail .refl (.foreign created)
  obtain ⟨resolving, connected⟩ := exists_opened rfl idle
  have carrying := connected.answer (.ok ⟨2, 1⟩) ⟨_, ⟨rfl, rfl, rfl⟩, .changed ⟨2, 1⟩ rfl⟩
  have imported := carrying.answer (.ok {
    objectMeta := { name := "app-credentials", ns := "shop" }
    data := [("username", "alice"), ("passwordHash", "hash")] }) rfl
  have recorded := imported.answer (.ok ⟨3, 1⟩) ⟨_, ⟨rfl, rfl, rfl⟩, .changed ⟨3, 1⟩ rfl⟩
  exact ⟨_, _, _, _, recorded, rfl⟩

/-- In that run the stored status names the user. -/
theorem appUser_announced : ∃ config : Config (@Request.Answer (Object .user))
    (World .user) (Result × Option GoError), ∃ trace settings next,
    config.activity = some (trace, .call (.broker (.putUser "alice" settings)) next) ∧
    Announced .verbatim ⟨"shop", "app"⟩ config.world trace "alice" settings := by
  obtain ⟨config, trace, settings, next, reachable, running⟩ := appUser_put
  obtain ⟨put, -⟩ :=
    status_written_ahead ⟨.verbatim, "", false⟩ ⟨"shop", "app"⟩ reachable running
  exact ⟨config, trace, settings, next, running, (put "alice" settings rfl).1⟩

end Example

end TopologyOperator.ApiServer
