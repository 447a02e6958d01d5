import TopologyOperator.Controller.Memory
import TopologyOperator.Properties.ConditionBookkeeping
import TopologyOperator.Properties.ReportedDeletion

/-!
# The condition that the password is synced

`PasswordSynced` is set when a user was put into the broker, and merged into every later
status. Nothing withdraws it: a status that says that the declaration failed still says that
the password is synced. So the stored condition tells that some `PutUser` succeeded, and is
true of the last one exactly if no failure followed the successes.
-/

namespace TopologyOperator.ApiServer

open Dialogue Environment Program UserReconciler TopologyReconciler

section Ledger

/-- The API server, and whether each `PutUser` so far has succeeded. -/
structure Ledger where
  server : World .user
  puts : List Bool

/-- No user was ever created. -/
def Ledger.empty : Ledger := ⟨World.empty, []⟩

/-- What an answer adds to the outcomes of `PutUser`. -/
def outcomeOf : (request : Request (Object .user)) → request.Answer → List Bool
  | .broker (.putUser ..), reply => [(validateResponse reply).isOk]
  | _, _ => []

/-- The API server and the users, for the user of one name, with all calls of `PutUser`. -/
def ledger (key : NamespacedName) : Environment (@Request.Answer (Object .user)) Ledger where
  foreign before after := Foreign key before.server after.server ∧ after.puts = before.puts
  answers before request reply after :=
    ApiServer.Answers before.server request reply after.server ∧
      after.puts = before.puts ++ outcomeOf request reply

/-- The conditions say that the password is synced. -/
def ClaimsSync (conditions : List Condition) : Prop :=
  ∃ condition ∈ conditions, condition.type = "PasswordSynced" ∧ condition.status = .conditionTrue

end Ledger

section Backed

variable {key : NamespacedName} {user : Object .user} {condition : Condition}

/-- Whether the user is ready makes no claim about its password. -/
theorem ClaimsSync.of_verdict (verdict : Verdict) (other : verdict.type = "Ready")
    {trace : Trace (Object .user)}
    (computed : (verdict.compute user.status.conditions).Exec trace (.done condition))
    (claims : ClaimsSync (user.setStatusConditions [condition]).status.conditions) :
    ClaimsSync user.status.conditions := by
  obtain ⟨time, rfl, -⟩ := Verdict.compute_exec computed
  obtain ⟨held, member, named, affirmed⟩ := claims
  rcases mem_setStatusConditions member with rfl | earlier
  · have different : "Ready" ≠ "PasswordSynced" := by decide
    exact absurd (other.symm.trans named) different
  · exact ⟨held, earlier, named, affirmed⟩

/-- The claim, and what a reconcile was told, are backed by a `PutUser` that succeeded. -/
theorem ledger_vouching (key : NamespacedName) :
    Vouching key (ledger key) Ledger.server
      (fun world conditions => ClaimsSync conditions → true ∈ world.puts)
      (fun world event =>
        (∀ key (user : Object .user), event = ⟨.get key, .ok user⟩ →
          ClaimsSync user.status.conditions → true ∈ world.puts) ∧
        ∀ name settings (reply : BrokerReply), event = ⟨.broker (.putUser name settings), reply⟩ →
          validateResponse reply = .ok () → true ∈ world.puts) where
  foreign move := move.1
  answers answered := answered.1
  fresh _ claims := by
    obtain ⟨_, member, -⟩ := claims
    cases member
  drifts := by
    rintro world next ⟨-, same⟩
    rw [same]
    exact ⟨fun _ => id, fun _ => id⟩
  grows := by
    rintro world request reply after ⟨-, longer⟩
    have kept : true ∈ world.puts → true ∈ after.puts := by
      rw [longer]
      exact List.mem_append_left _
    exact ⟨fun _ backed claims => kept (backed claims), fun _ told =>
      ⟨fun key user same claims => kept (told.1 key user same claims),
        fun name settings reply same succeeded => kept (told.2 name settings reply same succeeded)⟩⟩
  tells := by
    rintro world request reply after ⟨answered, longer⟩ holds
    rw [longer]
    constructor
    · rintro key user same claims
      cases same
      exact List.mem_append_left _ (holds user (answered.2 user rfl) claims)
    · rintro name settings put same succeeded
      cases same
      simp [outcomeOf, succeeded, Except.isOk, Except.toBool]
  reads told := told.1 _ _ rfl
  ready backed exec claims := backed (claims.of_verdict .ready rfl exec)
  notReady backed exec claims := backed (claims.of_verdict (.notReady _) rfl exec)
  passwordSynced _ told succeeded _ _ := told.2 _ _ _ rfl succeeded

end Backed

section Runs

variable {key : NamespacedName} {world last : Ledger} {version : Version} {observed : Int}
  {conditions : List Condition}

/-- A user with imported credentials, which its status names. -/
def vaultUser (version : Version) (observed : Int) (conditions : List Condition) :
    Object .user where
  objectMeta := {
    name := "vault"
    ns := "shop"
    uid := 1
    resourceVersion := version.resourceVersion
    generation := version.generation
    finalizers := [Kind.user.finalizer] }
  spec := {
    importCredentialsSecret := some ⟨"vault"⟩
    rabbitmqClusterReference := { name := "broker" } }
  status := {
    observedGeneration := observed
    conditions := conditions
    credentials := some ⟨"vault"⟩
    username := "vault" }

/-- The Secret with the credentials. -/
def vaultSecret (hash : String) : Secret where
  objectMeta := { name := "vault", ns := "shop" }
  data := [("username", "vault"), ("passwordHash", hash)]

/-- What the broker answers when a user is put, or cannot be. -/
def putReply (succeeds : Bool) : BrokerReply :=
  if succeeds then ⟨some ⟨204, ""⟩, none⟩ else ⟨none, some (.other "connection refused")⟩

theorem ledger_unmoved {request : Request (Object .user)} {reply : request.Answer}
    (unmoved : ApiServer.Answers world.server request reply world.server)
    (silent : outcomeOf request reply = []) : (ledger key).answers world request reply world :=
  ⟨unmoved, by rw [silent, List.append_nil]⟩

/-- A reconcile gets to the user that is stored. -/
theorem exists_reconcile {user : Object .user} {trace : Trace (Object .user)}
    {final : Prog (Object .user) (Result × Option GoError)}
    (stored : world.server.stored = some user)
    (answered : (ledger key).Answered (plainReconciler.reconcileObject user) world trace final
      last) :
    ∃ whole, (ledger key).Answered (plainReconciler.reconcile key) world whole final last := by
  have looks : ∀ request : Request (Object .user), LooksUp request → ∀ reply,
      (ledger key).answers world request reply world := by
    intro request looksUp reply
    cases request <;> first | exact looksUp.elim | exact ledger_unmoved rfl rfl
  have reads : (ledger key).answers world (.get key) (.ok user) world :=
    ledger_unmoved ⟨rfl, fun _ same => by cases same; exact stored⟩ rfl
  obtain ⟨resolving, resolves, opens⟩ := exists_opens reads (ledger_unmoved rfl rfl) looks
    fun _ _ _ _ => ledger_unmoved rfl rfl
  exact ⟨_, (opens.answered resolves).trans answered⟩

theorem exists_put (stored : world.server.stored = some (vaultUser version observed conditions))
    (succeeds : Bool) : ∃ trace final, (ledger key).Answered (plainReconciler.reconcile key) world
      trace final ⟨world.server, world.puts ++ [succeeds]⟩ := by
  have started : (ledger key).Answered
      (plainReconciler.reconcileObject (vaultUser version observed conditions)) world [] _ world :=
    .refl ..
  have imported := started.snoc (.ok (vaultSecret "1a2b")) (ledger_unmoved rfl rfl)
  have put : (ledger key).Answered _ _ _ _ ⟨world.server, world.puts ++ [succeeds]⟩ :=
    imported.snoc (putReply succeeds) ⟨rfl, by cases succeeds <;> rfl⟩
  obtain ⟨whole, answered⟩ := exists_reconcile stored put
  exact ⟨whole, _, answered⟩

/-- The stored user is the one in the vault, as a reconcile that succeeds leaves it. -/
def vaultSynced (version : Version) : Object .user :=
  vaultUser version version.generation
    [Verdict.passwordSynced.condition 7, Verdict.ready.condition 8]

theorem exists_sync (stored : world.server.stored = some (vaultUser version observed [])) :
    ∃ trace final after, (ledger key).Answered (plainReconciler.reconcile key) world trace final
        ⟨after, world.puts ++ [true]⟩ ∧
      after.stored = some (vaultSynced ⟨world.server.nextVersion, version.generation⟩) := by
  have started : (ledger key).Answered
      (plainReconciler.reconcileObject (vaultUser version observed [])) world [] _ world :=
    .refl ..
  have imported := started.snoc (.ok (vaultSecret "1a2b")) (ledger_unmoved rfl rfl)
  have put : (ledger key).Answered _ _ _ _ ⟨world.server, world.puts ++ [true]⟩ :=
    imported.snoc (putReply true) ⟨rfl, rfl⟩
  have synced := put.snoc 7 (ledger_unmoved rfl rfl)
  have noted := synced.snoc () (ledger_unmoved rfl rfl)
  have limited := noted.snoc (.ok []) (ledger_unmoved rfl rfl)
  have declared := limited.snoc () (ledger_unmoved rfl rfl)
  have timed := declared.snoc 8 (ledger_unmoved rfl rfl)
  have recorded : (ledger key).Answered _ _ _ _ ⟨_, world.puts ++ [true]⟩ :=
    timed.snoc (.ok ⟨world.server.nextVersion, version.generation⟩)
      ⟨⟨_, ⟨stored, rfl, rfl⟩, .changed _ rfl⟩, (List.append_nil _).symm⟩
  obtain ⟨whole, answered⟩ := exists_reconcile stored recorded
  exact ⟨whole, _, _, answered, rfl⟩

/-- The user as it is created. -/
def vaultCreated : Object .user := { vaultUser ⟨1, 1⟩ 0 [] with status := {} }

/-- The user is created, and its credentials are recorded. -/
theorem exists_named : ∃ server,
    (ledger ⟨"shop", "vault"⟩).Reachable (plainReconciler.reconcile ⟨"shop", "vault"⟩) Ledger.empty
      ⟨⟨server, []⟩, none⟩ ∧ server.stored = some (vaultUser ⟨2, 1⟩ 0 []) := by
  have created : (ledger ⟨"shop", "vault"⟩).foreign Ledger.empty
      ⟨⟨some vaultCreated, 2, 2, []⟩, []⟩ :=
    ⟨.create vaultCreated ⟨1, 1⟩ rfl rfl rfl rfl rfl rfl, rfl⟩
  have idle : (ledger ⟨"shop", "vault"⟩).Reachable (plainReconciler.reconcile ⟨"shop", "vault"⟩)
      Ledger.empty _ := .tail .refl (.foreign created)
  have started : (ledger ⟨"shop", "vault"⟩).Answered (plainReconciler.reconcileObject vaultCreated)
      ⟨⟨some vaultCreated, 2, 2, []⟩, []⟩ [] _ _ := .refl ..
  have imported := started.snoc (.ok (vaultSecret "1a2b")) (ledger_unmoved rfl rfl)
  have recorded : (ledger ⟨"shop", "vault"⟩).Answered _ _ _ _ ⟨_, []⟩ :=
    imported.snoc (.ok ⟨2, 1⟩) ⟨⟨_, ⟨rfl, rfl, rfl⟩, .changed _ rfl⟩, rfl⟩
  obtain ⟨whole, answered⟩ := exists_reconcile rfl recorded
  exact ⟨_, answered.round idle, rfl⟩

/-- Any outcomes can follow. -/
theorem exists_outcomes {initial : Ledger} {server : World .user} {puts : List Bool}
    (stored : server.stored = some (vaultUser version observed conditions))
    (idle : (ledger key).Reachable (plainReconciler.reconcile key) initial ⟨⟨server, puts⟩, none⟩)
    (outcomes : List Bool) :
    (ledger key).Reachable (plainReconciler.reconcile key) initial
      ⟨⟨server, puts ++ outcomes⟩, none⟩ := by
  induction outcomes generalizing puts with
  | nil =>
      rw [List.append_nil]
      exact idle
  | cons succeeds rest ih =>
      obtain ⟨trace, final, answered⟩ := @exists_put key ⟨server, puts⟩ _ _ _ stored succeeds
      have next := ih (answered.round idle)
      rwa [List.append_assoc] at next

/-- For the outcomes of all calls of `PutUser`, in their order: the stored condition is
true of the last one exactly if there was no success, or the last one succeeded. -/
theorem passwordSynced_truthful_iff (outcomes : List Bool) :
    (∀ (r : TopologyReconciler) (key : NamespacedName)
      (config : Config (@Request.Answer (Object .user)) Ledger (Result × Option GoError)),
      (ledger key).Reachable (r.reconcile key) Ledger.empty config →
      config.world.puts = outcomes → ∀ user, config.world.server.stored = some user →
      ClaimsSync user.status.conditions → outcomes.getLast? = some true) ↔
    (true ∈ outcomes → outcomes.getLast? = some true) := by
  constructor
  · intro truthful succeeded
    obtain ⟨before, after, rfl⟩ := List.append_of_mem succeeded
    obtain ⟨server, idle, named⟩ := exists_named
    have attempted := exists_outcomes named idle before
    obtain ⟨trace, final, synced, answered, stored⟩ :=
      @exists_sync ⟨"shop", "vault"⟩ ⟨server, [] ++ before⟩ _ _ named
    have reached := exists_outcomes stored (answered.round attempted) after
    refine truthful plainReconciler _ _ reached ?_ _ stored ?_
    · rw [List.nil_append, List.append_assoc, List.singleton_append]
    · exact ⟨_, List.mem_cons_self, rfl, rfl⟩
  · intro lasting r key config reachable same user stored claims
    subst same
    exact lasting (((ledger_vouching key).stored reachable rfl).1 user stored claims)

/-- The user is put, the Secret gets another hash, and the next `PutUser` fails. The
reconcile records the failure and returns it, and the stored status still says that the
password is synced. -/
theorem vaultUser_stale : ∃ server user trace err,
    (ledger ⟨"shop", "vault"⟩).Reachable (plainReconciler.reconcile ⟨"shop", "vault"⟩) Ledger.empty
      ⟨⟨server, [true, false]⟩, some (trace, .done ({}, some err))⟩ ∧
    server.stored = some user ∧ ClaimsSync user.status.conditions ∧ user.status.conditions =
      [Verdict.passwordSynced.condition 7, (Verdict.notReady err.error).condition 9] := by
  obtain ⟨server, idle, named⟩ := exists_named
  obtain ⟨_, _, synced, answered, stored⟩ := @exists_sync ⟨"shop", "vault"⟩ ⟨server, []⟩ _ _ named
  have started : (ledger ⟨"shop", "vault"⟩).Answered (plainReconciler.reconcileObject
      (vaultSynced ⟨server.nextVersion, 1⟩)) ⟨synced, [true]⟩ [] _ _ := .refl ..
  have imported := started.snoc (.ok (vaultSecret "3c4d")) (ledger_unmoved rfl rfl)
  have put : (ledger ⟨"shop", "vault"⟩).Answered _ _ _ _ ⟨synced, [true, false]⟩ :=
    imported.snoc (putReply false) ⟨rfl, rfl⟩
  have noted := put.snoc () (ledger_unmoved rfl rfl)
  have timed := noted.snoc 9 (ledger_unmoved rfl rfl)
  have recorded : (ledger ⟨"shop", "vault"⟩).Answered _ _ _ _ ⟨_, [true, false]⟩ :=
    timed.snoc (.ok ⟨synced.nextVersion, 1⟩) ⟨⟨_, ⟨stored, rfl, rfl⟩, .changed _ rfl⟩, rfl⟩
  obtain ⟨whole, failed⟩ := exists_reconcile stored recorded
  have running : (ledger ⟨"shop", "vault"⟩).Reachable
      (plainReconciler.reconcile ⟨"shop", "vault"⟩) Ledger.empty _ :=
    .tail (answered.round idle) .start
  exact ⟨_, _, _, _, failed.reachable running, rfl, ⟨_, List.mem_cons_self, rfl, rfl⟩, rfl⟩

end Runs

end TopologyOperator.ApiServer
