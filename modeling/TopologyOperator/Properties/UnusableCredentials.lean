import TopologyOperator.ApiServer.StoredObject
import TopologyOperator.Controller.Footprint
import TopologyOperator.Dialogue.History

/-!
# Unusable credentials

A `User` whose credentials Secret is unusable is not declared. Imported credentials are
checked before anything is recorded. Of generated credentials only the username is; that
there is no password comes out when the settings are generated, after the status was
written. `DeleteFunc` then deletes the user that the status names.
-/

namespace TopologyOperator.ApiServer

open Dialogue Environment UserReconciler

variable {libraries : Libraries} {user : Object .user} {secret : Secret} {key : NamespacedName}
  {world after : World .user} {trace : Trace (Object .user)}
  {result : Object .user × Except GoError Unit}

section Unusable

/-- There is a username, under `usernameFromMeta` the name of the object. -/
def UsernameUsable (user : Object .user) (secret : Secret) : Prop :=
  (secretToCredentials secret).username ≠ "" ∧
    (user.spec.usernameFromMeta = true →
      (secretToCredentials secret).username = user.objectMeta.name)

/-- There is a hash, or a password. -/
def PasswordUsable (secret : Secret) : Prop :=
  ¬ ((secretToCredentials secret).passwordHash = none ∧ (secretToCredentials secret).password = "")

def Unusable (user : Object .user) (secret : Secret) : Prop :=
  ¬ (UsernameUsable user secret ∧ PasswordUsable secret)

end Unusable

section Reads

def readsSecret : Request (Object .user) → Bool
  | .getSecret .. => true
  | _ => false

/-- The last Secret that was read. -/
def LastRead (trace : Trace (Object .user)) (secret : Secret) : Prop :=
  ∃ key, (trace.filter fun event => readsSecret event.request).getLast? =
    some ⟨.getSecret .cache key, .ok secret⟩

/-- A read that no other follows is the last one. -/
theorem lastRead_append {before later : Trace (Object .user)} {found : Secret}
    (quiet : ∀ event ∈ later, readsSecret event.request = false) :
    LastRead (before ++ ⟨.getSecret .cache key, .ok found⟩ :: later) secret ↔ secret = found := by
  have none : later.filter (fun event => readsSecret event.request) = [] := by
    rw [List.filter_eq_nil_iff]
    exact fun event member => Bool.eq_false_iff.mp (quiet event member)
  rw [LastRead, List.filter_append, List.filter_cons_of_pos rfl, none, List.getLast?_concat]
  constructor
  · rintro ⟨other, same⟩
    cases same
    rfl
  · rintro rfl
    exact ⟨key, rfl⟩

end Reads

section Run

/-- The request touches neither the broker nor the stored object. -/
def Reserved : Request (Object .user) → Prop
  | .get _ | .broker _ | .update _ | .updateStatus _ => False
  | _ => True

/-- What both modes do with credentials that have passed their checks. -/
def pursue (libraries : Libraries) (user : Object .user) (credentials : UserCredentials)
    (secretName failure : String) :
    Prog (Object .user) (Object .user × Except GoError Unit) := do
  let recorded ← recordCredentials user credentials.username secretName
  match recorded.2 with
  | .error err => return (recorded.1, .error err)
  | .ok () => putUser libraries recorded.1 credentials failure credentials.username

/-- The checks of both modes. -/
structure Passes (user : Object .user) (secret : Secret) (secretName : String) : Prop where
  username : UsernameUsable user secret
  imported : user.spec.importCredentialsSecret ≠ none → PasswordUsable secret
  generated : user.spec.importCredentialsSecret = none → secretName = credentialsSecretName user

/-- The runs of `DeclareFunc`. -/
inductive DeclareRun (libraries : Libraries) (user : Object .user) :
    Trace (Object .user) → Object .user × Except GoError Unit → Prop where
  | early {trace : Trace (Object .user)} {result : Object .user × Except GoError Unit}
      (reserved : ∀ event ∈ trace, Reserved event.request) : DeclareRun libraries user trace result
  | pursued {opening rest : Trace (Object .user)} {result : Object .user × Except GoError Unit}
      (key : NamespacedName) (secret : Secret) (secretName failure : String)
      (reserved : ∀ event ∈ opening, Reserved event.request)
      (passes : Passes user secret secretName)
      (pursuing : (pursue libraries user (secretToCredentials secret) secretName failure).Exec rest
        (.done result)) :
      DeclareRun libraries user (opening ++ ⟨.getSecret .cache key, .ok secret⟩ :: rest) result

/-- The runs with imported credentials. -/
theorem declareWithImportedCredentials_run {reference : LocalObjectReference}
    (given : user.spec.importCredentialsSecret = some reference)
    (random : user.spec.usernameFromMeta = false)
    (exec : (declareWithImportedCredentials libraries user reference).Exec trace (.done result)) :
    DeclareRun libraries user trace result := by
  obtain ⟨imported, first, second, rfl, importing, rest⟩ := Program.exec_bind_done.mp exec
  have reserved : ∀ event ∈ first, Reserved event.request :=
    (importCredentials_calls trivial).of_exec importing
  rcases imported with failure | credentials
  · obtain ⟨rfl, -⟩ := rest
    rw [List.append_nil]
    exact .early reserved
  obtain ⟨secret, rfl, rfl, named⟩ := importCredentials_exec importing
  dsimp only at rest
  split at rest
  · obtain ⟨rfl, -⟩ := rest
    exact .early reserved
  next usable =>
  have passes : Passes user secret reference.name := by
    refine ⟨⟨named, fun fromMeta => ?_⟩, fun _ => usable, fun none => ?_⟩
    · rw [random] at fromMeta
      cases fromMeta
    · rw [given] at none
      cases none
  exact @DeclareRun.pursued _ _ [] _ _ _ secret reference.name _ (fun _ none => by cases none)
    passes rest

/-- The runs with generated credentials. -/
theorem declareWithGeneratedCredentials_run (random : user.spec.importCredentialsSecret = none)
    (exec : (declareWithGeneratedCredentials libraries user).Exec trace (.done result)) :
    DeclareRun libraries user trace result := by
  obtain ⟨declared, first, second, rfl, declaring, going⟩ := Program.exec_bind_done.mp exec
  have reservedFirst : ∀ event ∈ first, Reserved event.request :=
    (declareCredentials_calls (fun _ => trivial) (fun _ _ => trivial) (fun _ => trivial)
      (fun _ => trivial) user).of_exec declaring
  rcases declared with failure | username
  · obtain ⟨rfl, -⟩ := going
    rw [List.append_nil]
    exact .early reservedFirst
  obtain ⟨found, third, last, rfl, reading, rest⟩ := Program.exec_bind_done.mp going
  have reserved : ∀ event ∈ first ++ third, Reserved event.request :=
    List.forall_mem_append.mpr ⟨reservedFirst,
      (getUserCredentials_calls trivial).of_exec reading⟩
  rcases found with failure | secret
  · obtain ⟨rfl, -⟩ := rest
    rw [List.append_nil]
    exact .early reserved
  have read := getUserCredentials_exec reading
  dsimp only at rest
  split at rest
  · obtain ⟨rfl, -⟩ := rest
    rw [List.append_nil]
    exact .early reserved
  next named =>
  split at rest
  · obtain ⟨rfl, -⟩ := rest
    rw [List.append_nil]
    exact .early reserved
  next matching =>
  subst read
  refine .pursued _ secret (credentialsSecretName user) _ reservedFirst ⟨⟨named, ?_⟩, ?_, ?_⟩ rest
  · intro fromMeta
    by_contra different
    exact matching ⟨fromMeta, different⟩
  · exact fun given => absurd random given
  · exact fun _ => rfl

/-- Every run of a declaration is one of these. -/
theorem declareFunc_run
    (exec : (UserReconciler.declareFunc libraries user).Exec trace (.done result)) :
    DeclareRun libraries user trace result := by
  unfold UserReconciler.declareFunc at exec
  split at exec
  · obtain ⟨rfl, -⟩ := exec
    exact .early fun _ none => by cases none
  next admitted =>
  split at exec
  · next reference given =>
      have random : user.spec.usernameFromMeta = false :=
        Bool.eq_false_iff.mpr fun fromMeta => admitted ⟨fromMeta, by rw [given]; rfl⟩
      exact declareWithImportedCredentials_run given random exec
  · next none => exact declareWithGeneratedCredentials_run none exec

/-- What follows the checks reads no Secret. -/
theorem pursue_calls (credentials : UserCredentials) (secretName failure : String) :
    (pursue libraries user credentials secretName failure).Calls
      fun request => readsSecret request = false := by
  have records : (recordCredentials user credentials.username secretName).Calls
      fun request => readsSecret request = false := recordCredentials_calls rfl
  refine records.bind fun recorded => ?_
  split
  · trivial
  · refine putUser_calls libraries ?_ (fun _ _ => ?_) ?_ (fun _ => ?_) (fun _ _ => ?_) .. <;> rfl

/-- If the status names the credentials and there is no password, nothing follows the
checks. -/
theorem pursue_eq_of_named {secretName failure : String} {rest : Trace (Object .user)}
    (unusable : ¬ PasswordUsable secret)
    (names : statusNames user (secretToCredentials secret).username secretName = true)
    (exec : (pursue libraries user (secretToCredentials secret) secretName failure).Exec rest
      (.done result)) : rest = [] := by
  unfold pursue recordCredentials at exec
  rw [if_pos names] at exec
  have missing := not_not.mp unusable
  simp only [putUser, generateUserSettings, missing] at exec
  split at exec <;> exact exec.1

end Run

section Traceless

/-- The broker was not called, and the stored names are as before. -/
structure Traceless (world after : World .user) (trace : Trace (Object .user)) : Prop where
  silent : ∀ event ∈ trace, ∀ call, event.request ≠ .broker call
  username : after.stored.map (·.status.username) = world.stored.map (·.status.username)
  credentials : after.stored.map (·.status.credentials) = world.stored.map (·.status.credentials)

/-- Reserved requests leave the world as it is. -/
theorem answered_reserved {program final : Prog (Object .user) (Object .user × Except GoError Unit)}
    (answered : (environment key).Answered program world trace final after)
    (reserved : ∀ event ∈ trace, Reserved event.request) : after = world := by
  induction answered with
  | refl => rfl
  | call answered _ ih =>
      obtain ⟨here, later⟩ := List.forall_mem_cons.mp reserved
      rw [ih later]
      rcases Answers.cases answered with same | ⟨_, _, rfl, -⟩ | ⟨_, _, rfl, -⟩
      · exact same
      · exact here.elim
      · exact here.elim

theorem traceless_of_reserved
    {program final : Prog (Object .user) (Object .user × Except GoError Unit)}
    (answered : (environment key).Answered program world trace final after)
    (reserved : ∀ event ∈ trace, Reserved event.request) : Traceless world after trace := by
  rw [answered_reserved answered reserved]
  refine ⟨fun event member call same => ?_, rfl, rfl⟩
  have held := reserved event member
  rw [same] at held
  exact held

/-- Whenever `DeclareFunc` fails on this content, it leaves no trace. -/
def FailsTraceless (libraries : Libraries) (key : NamespacedName) (user : Object .user)
    (secret : Secret) : Prop :=
  ∀ world after trace updated err,
    (environment key).Answered (UserReconciler.declareFunc libraries user) world trace
      (.done (updated, .error err)) after →
    LastRead trace secret → Unusable user secret → Traceless world after trace

/-- Unusable content leaves no trace if it is imported, if it is the username that cannot be
used, or if its names are in the status already. -/
theorem failsTraceless_of_checked
    (checked : user.spec.importCredentialsSecret ≠ none ∨ ¬ UsernameUsable user secret ∨
      PasswordUsable secret ∨
      statusNames user (secretToCredentials secret).username (credentialsSecretName user) = true) :
    FailsTraceless libraries key user secret := by
  intro world after trace updated err answered last unusable
  cases declareFunc_run answered.exec with
  | early reserved => exact traceless_of_reserved answered reserved
  | pursued key found secretName failure reserved passes pursuing =>
      obtain rfl := (lastRead_append ((pursue_calls ..).of_exec pursuing)).mp last
      have passwordless : ¬ PasswordUsable secret :=
        fun password => unusable ⟨passes.username, password⟩
      have generated : user.spec.importCredentialsSecret = none := by
        by_contra imported
        exact passwordless (passes.imported imported)
      have names := ((checked.resolve_left (not_not.mpr generated)).resolve_left
        (not_not.mpr passes.username)).resolve_left passwordless
      rw [← passes.generated generated] at names
      obtain rfl := pursue_eq_of_named passwordless names pursuing
      apply traceless_of_reserved answered
      exact List.forall_mem_append.mpr ⟨reserved, List.forall_mem_singleton.mpr trivial⟩

end Traceless

section Recorded

/-- Requests that touch neither the broker nor the stored object may be answered in any
way. -/
theorem answers_of_reserved {request : Request (Object .user)} (reserved : Reserved request)
    (reply : request.Answer) : Answers world request reply world := by
  cases request <;> first | exact reserved.elim | rfl

/-- The Secret that is created for a user can be labelled and owned. -/
theorem labelAndOwn_generatedSecret (user : Object .user) (credentials : UserCredentials) :
    ∃ mutated, labelAndOwn user (generatedSecret user credentials) = .ok mutated := by
  simp [labelAndOwn, setControllerReference, generatedSecret, getControllerOf]

/-- A run in which random strings are drawn and the Secret is created. -/
theorem exists_declareCredentials (user : Object .user) : ∃ trace username,
    (declareCredentials user : Prog (Object .user) _).Exec trace (.done (.ok username)) := by
  obtain ⟨drawn, credentials, generating⟩ : ∃ drawn credentials,
      (generateCredentials user : Prog (Object .user) _).Exec drawn (.done (.ok credentials)) := by
    unfold generateCredentials generateUsername
    split
    · exact ⟨_, _, exec_ask_bind.mpr ⟨.ok "password", [], rfl, rfl, rfl⟩⟩
    · exact ⟨_, _, exec_ask_bind.mpr ⟨.ok "username", _, rfl,
        exec_ask_bind.mpr ⟨.ok "password", [], rfl, rfl, rfl⟩⟩⟩
  obtain ⟨mutated, labelled⟩ := labelAndOwn_generatedSecret user credentials
  have created : (createOrUpdate secretClient (labelAndOwn user)
      (generatedSecret user credentials) : Prog (Object .user) _).Exec
      [⟨.getSecret .cache (credentialsKey user), .error ⟨.notFound, ""⟩⟩,
        ⟨.createSecret mutated, .ok ⟨1, 1⟩⟩]
      (.done ((secretClient : ObjectClient (Object .user) Secret).withVersion mutated ⟨1, 1⟩,
        .ok ())) := by
    refine exec_ask_bind.mpr ⟨.error ⟨.notFound, ""⟩, _, rfl, ?_⟩
    simp only [show (GoError.api ⟨.notFound, ""⟩).isNotFound = true from rfl, ↓reduceIte, labelled]
    exact exec_ask_bind.mpr ⟨.ok ⟨1, 1⟩, [], rfl, rfl, rfl⟩
  exact ⟨_, credentials.username, Program.exec_bind_done.mpr ⟨_, _, _, rfl, generating,
    Program.exec_bind_done.mpr ⟨_, _, [], rfl, exec_retryOnConflict created, rfl, rfl⟩⟩⟩

/-- The object that is stored when the credentials were recorded. -/
def recorded (world : World .user) (user : Object .user) (secret : Secret) : Object .user :=
  (withCredentials user (secretToCredentials secret).username
    (credentialsSecretName user)).withVersion ⟨world.nextVersion, user.objectMeta.generation⟩

/-- Credentials without a password are recorded, and then no settings can be generated. -/
theorem answered_pursue {failure : String} (named : UsernameUsable user secret)
    (passwordless : ¬ PasswordUsable secret)
    (unnamed : ¬ statusNames user (secretToCredentials secret).username
      (credentialsSecretName user) = true) (stored : world.stored = some user) :
    ∃ trace err after, (∀ event ∈ trace, readsSecret event.request = false) ∧
      (environment key).Answered (pursue libraries user (secretToCredentials secret)
        (credentialsSecretName user) failure) world trace
        (.done (recorded world user secret, .error err)) after ∧
      after.stored = settled (recorded world user secret) := by
  refine ⟨[⟨.updateStatus (withCredentials user (secretToCredentials secret).username
    (credentialsSecretName user)), .ok ⟨world.nextVersion, user.objectMeta.generation⟩⟩],
    .wrapped failure (.text "neither passwordHash nor password is set in credentials") "",
    world.replace (withCredentials user (secretToCredentials secret).username
      (credentialsSecretName user)) ⟨world.nextVersion, user.objectMeta.generation⟩,
    List.forall_mem_singleton.mpr rfl, ?_, rfl⟩
  unfold pursue recordCredentials
  rw [if_neg unnamed]
  refine .call ⟨user, ⟨stored, rfl, rfl⟩, .changed _ rfl⟩ ?_
  simp only [putUser, generateUserSettings, not_not.mp passwordless, named.1]
  exact .refl ..

/-- Generated credentials without a password are recorded. -/
theorem exists_recorded (generated : user.spec.importCredentialsSecret = none)
    (named : UsernameUsable user secret) (passwordless : ¬ PasswordUsable secret)
    (unnamed : ¬ statusNames user (secretToCredentials secret).username
      (credentialsSecretName user) = true) (stored : world.stored = some user) :
    ∃ trace err after,
      (environment key).Answered (UserReconciler.declareFunc libraries user) world trace
        (.done (recorded world user secret, .error err)) after ∧
      LastRead trace secret ∧ after.stored = settled (recorded world user secret) := by
  obtain ⟨opening, username, declaring⟩ := exists_declareCredentials user
  have reserved : ∀ event ∈ opening, Reserved event.request :=
    (declareCredentials_calls (fun _ => trivial) (fun _ _ => trivial) (fun _ => trivial)
      (fun _ => trivial) user).of_exec declaring
  obtain ⟨rest, err, after, quiet, pursuing, becomes⟩ := @answered_pursue libraries user secret key
    world "failed to generate user settings from credential: " named passwordless unnamed stored
  have program : UserReconciler.declareFunc libraries user =
      declareWithGeneratedCredentials libraries user := by
    simp only [UserReconciler.declareFunc, generated, Option.isSome_none, Bool.false_eq_true,
      and_false, ↓reduceIte]
  rw [program]
  have matching : ¬ (user.spec.usernameFromMeta = true ∧
      (secretToCredentials secret).username ≠ user.objectMeta.name) :=
    fun ⟨fromMeta, different⟩ => different (named.2 fromMeta)
  have declared : (environment key).Answered (declareCredentials user) world opening
      (.done (.ok username)) world :=
    .of_exec declaring fun event member => answers_of_reserved (reserved event member) event.answer
  refine ⟨opening ++ ⟨.getSecret .cache (credentialsKey user), .ok secret⟩ :: rest, err, after,
    declared.bind (.call rfl ?_), (lastRead_append quiet).mpr rfl, becomes⟩
  simp only [Program.done_bind, Program.pure_eq, if_neg named.1, if_neg matching]
  exact pursuing

end Recorded

/-- On a given content of the Secret, `DeclareFunc` leaves no trace exactly if it is not the
password of generated credentials that is missing, or the status names them already. -/
theorem unusable_credentials_traceless_iff (libraries : Libraries) (key : NamespacedName)
    (user : Object .user) (secret : Secret) :
    FailsTraceless libraries key user secret ↔
      user.spec.importCredentialsSecret ≠ none ∨ ¬ UsernameUsable user secret ∨
      PasswordUsable secret ∨
      statusNames user (secretToCredentials secret).username (credentialsSecretName user) =
        true := by
  refine ⟨fun traceless => ?_, failsTraceless_of_checked⟩
  by_contra unchecked
  simp only [not_or, not_not] at unchecked
  obtain ⟨generated, named, passwordless, unnamed⟩ := unchecked
  obtain ⟨trace, err, after, answered, last, becomes⟩ := @exists_recorded libraries user secret key
    ⟨some user, 1, 1, []⟩ generated named passwordless unnamed rfl
  have kept := traceless _ _ _ _ _ answered last fun usable => passwordless usable.2
  have username := kept.username
  have credentials := kept.credentials
  rw [becomes] at username credentials
  unfold settled at username credentials
  split at username
  · cases username
  · next present =>
      rw [if_neg present] at credentials
      apply unnamed
      simp only [Option.map_some, Option.some.injEq] at username credentials
      rw [statusNames, Bool.and_eq_true, decide_eq_true_eq, decide_eq_true_eq]
      exact ⟨credentials.symm, username.symm⟩

section Example

/-- A user with generated credentials. -/
def ledgerUser : Object .user where
  objectMeta := { name := "ledger", ns := "shop", uid := 1, resourceVersion := 1 }
  spec := { rabbitmqClusterReference := { name := "rabbit" } }

/-- The Secret for its credentials exists, labelled and owned, with a username only. -/
def ledgerSecret : Secret where
  objectMeta := {
    name := "ledger-user-credentials"
    ns := "shop"
    labels := [(topologyOperatorLabel, topologyOperatorLabelValue)]
    ownerReferences :=
      unblockOwnerDeletion [controllerReference apiVersion "User" ledgerUser.objectMeta] }
  data := [("username", "guest")]

/-- The broker user `guest` is recorded although it was never put, so that it is deleted
with the `User`. -/
theorem ledgerUser_recorded : ∃ trace updated err after,
    (environment ⟨"shop", "ledger"⟩).Answered (UserReconciler.declareFunc .verbatim ledgerUser)
      ⟨some ledgerUser, 2, 2, []⟩ trace (.done (updated, .error err)) after ∧
    LastRead trace ledgerSecret ∧ Unusable ledgerUser ledgerSecret ∧
    (∀ event ∈ trace, ∀ call, event.request ≠ .broker call) ∧
    ∃ object, after.stored = some object ∧ object.status.username = "guest" ∧
      ∃ reported, UserReconciler.deleteFunc object =
        (.call (.broker (.deleteUser "guest")) reported : Prog (Object .user) _) := by
  have started : (environment ⟨"shop", "ledger"⟩).Answered
      (UserReconciler.declareFunc .verbatim ledgerUser) ⟨some ledgerUser, 2, 2, []⟩ [] _ _ :=
    .refl ..
  have named := started.snoc (.ok "cmFuZG9t") rfl
  have generated := named.snoc (.ok "c2VjcmV0") rfl
  have found := generated.snoc (.ok ledgerSecret) rfl
  have read := found.snoc (.ok ledgerSecret) rfl
  have recorded := read.snoc (.ok ⟨2, 1⟩) ⟨ledgerUser, ⟨rfl, rfl, rfl⟩, .changed ⟨2, 1⟩ rfl⟩
  refine ⟨_, _, _, _, recorded, ⟨_, rfl⟩, fun usable => usable.2 ⟨rfl, rfl⟩, ?_, _, rfl, rfl, _,
    rfl⟩
  intro event member call same
  simp only [List.mem_append, List.mem_singleton, List.not_mem_nil, false_or] at member
  rcases member with (((rfl | rfl) | rfl) | rfl) | rfl <;> cases same

end Example

end TopologyOperator.ApiServer
