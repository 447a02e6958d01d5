import TopologyOperator.ApiServer.Opening
import TopologyOperator.ApiServer.StoredSecret
import TopologyOperator.Controller.Obligations

/-!
# Generated credentials are not rotated

Every reconcile of a user without imported credentials generates fresh ones, but
only a Secret that does not exist is created with them. What the Secret holds stays
as it is, and the user is put into the broker with what the Secret holds.
-/

namespace TopologyOperator.SecretServer

open Dialogue Environment ApiServer UserReconciler
open TopologyReconciler (Opens openSecret resolve_secret)

variable {libraries : Libraries} {key : NamespacedName} {world next after : World}

/-- All versions of the Secret have the same data. -/
def Valid (world : World) : Prop :=
  ∀ first ∈ world.versions, ∀ second ∈ world.versions, first.data = second.data

theorem valid_absent : Valid .absent := by
  intro first member
  cases member

/-- A new version has to have the data of the earlier ones. -/
theorem Valid.push {secret : Secret} (valid : Valid world)
    (shares : ∀ held ∈ world.versions, secret.data = held.data) : Valid (world.push secret) := by
  intro first firstMember second secondMember
  rw [World.push_versions, List.mem_cons] at firstMember secondMember
  rcases firstMember with rfl | firstMember
  · rcases secondMember with rfl | secondMember
    · rfl
    · exact shares second secondMember
  · rcases secondMember with rfl | secondMember
    · exact (shares first firstMember).symm
    · exact valid first firstMember second secondMember

/-- Users leave the data of the Secret alone. -/
theorem Valid.foreign (valid : Valid world) (move : Foreign key world next) : Valid next := by
  cases move with
  | create secret absent =>
      apply valid.push
      intro held member
      rw [absent] at member
      cases member
  | touch secret latest found named data =>
      apply valid.push
      intro held member
      rw [data]
      exact valid latest (World.mem_of_stored found) held member

theorem valid_stable : (environment key).Stable Valid Valid :=
  fun _ _ valid _ move => Valid.foreign valid move

/-- A version that was stored stays in the history. -/
theorem mem_stable (secret : Secret) :
    (environment key).Stable Valid fun now => secret ∈ now.versions :=
  fun _ _ _ member move => (Foreign.grows move).subset member

section Guard

variable {trace : Trace (Object .user)} {request : Request (Object .user)} {reply : request.Answer}

/-- The settings are those of the Secret: its username, and its hash or the salted
hash of its password. -/
structure CarriesCredentials (libraries : Libraries) (secret : Secret)
    (settings : UserSettings) : Prop where
  username : secret.data.lookup "username" = some settings.name
  password : secret.data.lookup "passwordHash" = some settings.passwordHash ∨
    secret.data.lookup "passwordHash" = none ∧ ∃ password salt,
      secret.data.lookup "password" = some password ∧
        settings.passwordHash = libraries.saltedPasswordHash salt password

/-- The Secret is updated with data that it had already, and without imported
credentials the user is put with the credentials of the Secret. -/
structure Faithful (libraries : Libraries) (key : NamespacedName) (world : World)
    (trace : Trace (Object .user)) (request : Request (Object .user)) : Prop where
  updates : ∀ secret, request = .updateSecret secret → ∃ held ∈ world.versions,
    held.data = secret.data
  puts : ∀ username settings, request = .broker (.putUser username settings) → ∃ read rest,
    trace = ⟨.get key, .ok read⟩ :: rest ∧ (read.spec.importCredentialsSecret = none →
      username = settings.name ∧ ∃ secret ∈ world.versions,
        CarriesCredentials libraries secret settings)

/-- The operator keeps the data of the Secret, if it updates it with data that it had. -/
theorem Valid.answers (valid : Valid world)
    (updates : ∀ secret, request = .updateSecret secret → ∃ held ∈ world.versions,
      held.data = secret.data)
    (answered : Answers key world request reply after) : Valid after := by
  rcases answered.cases with rfl | ⟨secret, version, -, absent, rfl⟩ |
      ⟨secret, version, rfl, -, rfl⟩
  · exact valid
  · apply valid.push
    intro held member
    rw [absent] at member
    cases member
  · obtain ⟨earlier, member, same⟩ := updates secret rfl
    apply valid.push
    intro held heldMember
    exact same.symm.trans (valid earlier member held heldMember)

/-- A Secret that does not exist may be created. -/
theorem faithful_create {secret : Secret} :
    Faithful libraries key world trace (.createSecret secret) := by
  constructor
  · intro other same
    cases same
  · intro username settings same
    cases same

/-- A Secret that was read may be written with the same data. -/
theorem faithful_update {held secret : Secret} (member : held ∈ world.versions)
    (data : secret.data = held.data) :
    Faithful libraries key world trace (.updateSecret secret) := by
  constructor
  · intro other same
    cases same
    exact ⟨held, member, data.symm⟩
  · intro username settings same
    cases same

/-- Requests that write no Secret. -/
def SecretFree : Request (Object .user) → Prop
  | .createSecret _ | .updateSecret _ => False
  | _ => True

/-- Requests that write no Secret and put no user. -/
def Quiet : Request (Object .user) → Prop
  | .createSecret _ | .updateSecret _ | .broker (.putUser ..) => False
  | _ => True

/-- A request that writes no Secret and puts no user is faithful. -/
theorem Quiet.faithful (quiet : Quiet request) : Faithful libraries key world trace request := by
  constructor
  · rintro secret rfl
    exact quiet.elim
  · rintro username settings rfl
    exact quiet.elim

/-- A request that writes no Secret leaves it as it is. -/
theorem SecretFree.answers (free : SecretFree request)
    (answered : Answers key world request reply after) : after = world := by
  rcases answered.cases with same | ⟨secret, version, rfl, -⟩ | ⟨secret, version, rfl, -⟩
  · exact same
  · exact free.elim
  · exact free.elim

theorem Quiet.secretFree (quiet : Quiet request) : SecretFree request := by
  cases request with
  | createSecret => exact quiet.elim
  | updateSecret => exact quiet.elim
  | _ => trivial

end Guard

section Secrets

variable {trace : Trace (Object .user)} {user : Object .user} {secret mutated : Secret}

/-- Parts that write no Secret and put no user. -/
theorem safe_of_quiet {α : Type} {program : Prog (Object .user) α} {assertion : World → Prop}
    (calls : program.Calls Quiet) (stable : (environment key).Stable Valid assertion)
    (valid : Valid world) (holds : assertion world) :
    (environment key).Safe Valid (Faithful libraries key)
      (fun value now later => assertion now ∧
        ∃ suffix, later = trace ++ suffix ∧ program.Exec suffix (.done value))
      program world trace := by
  refine Safe.of_calls valid_stable stable calls
    (fun _ _ _ _ quiet _ _ => Quiet.faithful quiet) ?_ valid holds
    fun value now suffix exec _ holdsNow => ⟨holdsNow, suffix, rfl, exec⟩
  intro now request reply later quiet validNow holdsNow answered
  have same := SecretFree.answers (Quiet.secretFree quiet) answered
  rw [same]
  exact ⟨validNow, holdsNow⟩

/-- The label and the owner do not change the data. -/
theorem labelAndOwn_eq_ok (labelled : labelAndOwn user secret = .ok mutated) :
    mutated.data = secret.data ∧ mutated.objectMeta.key = secret.objectMeta.key := by
  unfold labelAndOwn at labelled
  dsimp only at labelled
  split at labelled
  · cases labelled
  · next objectMeta set =>
      obtain ⟨references, rfl⟩ := setControllerReference_eq set
      cases labelled
      exact ⟨rfl, rfl⟩

/-- The Secret is created if it is missing, or labelled as it is. -/
theorem createOrUpdate_safe (named : secret.objectMeta.key = secretKey key) (valid : Valid world) :
    (environment key).Safe Valid (Faithful libraries key)
      (fun result _ _ => result.1.objectMeta.key = secretKey key)
      (createOrUpdate secretClient (labelAndOwn user) secret) world trace := by
  have always : (environment key).Stable Valid fun _ => True := fun _ _ _ _ _ => trivial
  refine Safe.call valid_stable always valid trivial (fun _ _ _ => Quiet.faithful trivial)
    fun now reply later validNow _ answered => ?_
  obtain ⟨rfl, found⟩ := answered
  refine ⟨validNow, ?_⟩
  rw [Program.done_bind]
  cases reply with
  | error err =>
      dsimp only
      split
      · split
        · exact fun _ _ _ => named
        · next mutated labelled =>
            have mutatedNamed := (labelAndOwn_eq_ok labelled).2.trans named
            refine Safe.call valid_stable always validNow trivial (fun _ _ _ => faithful_create)
              fun before reply after validBefore _ answered => ?_
            change Answers key before (.createSecret mutated) reply after at answered
            refine ⟨validBefore.answers (fun other same => by cases same) answered, ?_⟩
            rw [Program.done_bind]
            cases reply <;> exact fun _ _ _ => mutatedNamed
      · exact fun _ _ _ => named
  | ok existing =>
      obtain ⟨existingNamed, readable⟩ := found existing rfl
      have member := (readable named).mem
      rw [named] at existingNamed
      dsimp only
      split
      · exact fun _ _ _ => existingNamed
      · next mutated labelled =>
          obtain ⟨data, sameKey⟩ := labelAndOwn_eq_ok labelled
          split
          · exact fun _ _ _ => existingNamed
          · refine Safe.call valid_stable (mem_stable existing) validNow member
              (fun _ _ member => faithful_update member data)
              fun before reply after validBefore member answered => ?_
            change Answers key before (.updateSecret mutated) reply after at answered
            have updates : ∀ other, (.updateSecret mutated : Request (Object .user)) =
                .updateSecret other → ∃ held ∈ before.versions, held.data = other.data := by
              intro other same
              cases same
              exact ⟨existing, member, data.symm⟩
            refine ⟨validBefore.answers updates answered, ?_⟩
            rw [Program.done_bind]
            cases reply <;> exact fun _ _ _ => sameKey.trans existingNamed

/-- However the Secret is declared, what it holds stays as it is. -/
theorem declareCredentials_safe (named : user.objectMeta.key = key) (valid : Valid world) :
    (environment key).Safe Valid (Faithful libraries key)
      (fun _ _ later => ∃ suffix, later = trace ++ suffix)
      (declareCredentials user) world trace := by
  have always : (environment key).Stable Valid fun _ => True := fun _ _ _ _ _ => trivial
  have draws : (generateCredentials user : Prog (Object .user) _).Calls Quiet :=
    generateCredentials_calls (fun _ => trivial) user
  have declared : (environment key).Safe Valid (Faithful libraries key) (fun _ _ _ => True)
      (declareCredentials user) world trace := by
    refine Safe.bind (safe_of_quiet draws always valid trivial) valid ?_
    intro generated now later validNow _
    cases generated with
    | error err => exact fun _ _ _ => trivial
    | ok credentials =>
        have attempts : ∀ (secret : Secret) now later, secret.objectMeta.key = secretKey key →
            Valid now → (environment key).Safe Valid (Faithful libraries key)
              (fun result _ _ => result.1.objectMeta.key = secretKey key)
              (createOrUpdate secretClient (labelAndOwn user) secret) now later :=
          fun _ _ _ named validNow => createOrUpdate_safe named validNow
        have generatedNamed : (generatedSecret user credentials).objectMeta.key = secretKey key :=
          credentialsKey_eq named
        refine Safe.bind (retryOnConflict_safe attempts _ generatedNamed validNow) validNow ?_
        intro result final _ _ _
        split <;> exact fun _ _ _ => trivial
  refine declared.exec.weaken ?_
  rintro _ _ _ _ ⟨-, suffix, same, -⟩
  exact ⟨suffix, same⟩

end Secrets

section Put

variable {trace suffix : Trace (Object .user)} {read user : Object .user} {secret : Secret}

/-- An entry that is not empty is there. -/
theorem lookup_of_getD {entries : List (String × String)} {name : String}
    (given : (entries.lookup name).getD "" ≠ "") :
    entries.lookup name = some ((entries.lookup name).getD "") := by
  cases found : entries.lookup name with
  | none =>
      rw [found] at given
      exact absurd rfl given
  | some value => rfl

/-- Settings that were generated from the Secret carry its credentials. -/
theorem carriesCredentials_of_exec {tags : List String} {settings : UserSettings}
    (exec : (generateUserSettings libraries (secretToCredentials secret) tags).Exec trace
      (.done (.ok settings))) : CarriesCredentials libraries secret settings := by
  obtain ⟨given, hash, rfl, source⟩ := generateUserSettings_exec exec
  refine ⟨lookup_of_getD given, ?_⟩
  rcases source with hashed | ⟨plain, password, salt, rfl⟩
  · exact .inl hashed
  · exact .inr ⟨plain, _, salt, lookup_of_getD password, rfl⟩

/-- The user is put with the credentials of a stored Secret. -/
theorem putUser_safe {failure username : String} (valid : Valid world)
    (member : secret ∈ world.versions) :
    (environment key).Safe Valid (Faithful libraries key) (fun _ _ _ => True)
      (putUser libraries user (secretToCredentials secret) failure username)
      world (⟨.get key, .ok read⟩ :: suffix) := by
  have salts : (generateUserSettings libraries (secretToCredentials secret) user.spec.tags).Calls
      Quiet := generateUserSettings_calls libraries trivial ..
  have finishes : (finishUser libraries user username).Calls Quiet := by
    apply finishUser_calls libraries trivial (fun _ => trivial)
    intro call limits
    cases call <;> trivial
  refine Safe.bind (safe_of_quiet salts (mem_stable secret) valid member) valid ?_
  rintro generated now _ validNow ⟨memberNow, salted, rfl, exec⟩
  cases generated with
  | error err => exact fun _ _ _ => trivial
  | ok settings =>
      have carries := carriesCredentials_of_exec exec
      refine Safe.call valid_stable (mem_stable secret) validNow memberNow
        (fun before _ memberBefore => ⟨?_, ?_⟩) fun before reply after validBefore _ answered => ?_
      · intro other same
        cases same
      · intro name other same
        cases same
        exact ⟨read, suffix ++ salted, rfl, fun _ => ⟨rfl, secret, memberBefore, carries⟩⟩
      · cases (answered : after = before)
        refine ⟨validBefore, ?_⟩
        rw [Program.done_bind]
        split
        · exact fun _ _ _ => trivial
        · have always : (environment key).Stable Valid fun _ => True := fun _ _ _ _ _ => trivial
          exact (safe_of_quiet finishes always validBefore trivial).weaken fun _ _ _ _ _ => trivial

/-- What is read back is stored. -/
theorem getUserCredentials_safe (named : user.objectMeta.key = key) (valid : Valid world) :
    (environment key).Safe Valid (Faithful libraries key)
      (fun result now later => (∃ suffix, later = trace ++ suffix) ∧
        ∀ secret, result = .ok secret → secret ∈ now.versions)
      (getUserCredentials user) world trace := by
  have always : (environment key).Stable Valid fun _ => True := fun _ _ _ _ _ => trivial
  refine Safe.call valid_stable always valid trivial (fun _ _ _ => Quiet.faithful trivial)
    fun now reply after validNow _ answered => ?_
  obtain ⟨rfl, found⟩ := answered
  refine ⟨validNow, ?_⟩
  cases reply with
  | error err => exact fun _ _ _ => ⟨⟨_, rfl⟩, fun secret absurd => by cases absurd⟩
  | ok secret =>
      have member := ((found secret rfl).2 (credentialsKey_eq named)).mem
      refine Safe.done valid_stable (mem_stable secret) validNow member
        fun later _ memberLater => ⟨⟨_, rfl⟩, fun other same => ?_⟩
      cases same
      exact memberLater

/-- A user is put with what its Secret holds, whatever was drawn. -/
theorem declareWithGeneratedCredentials_safe (named : user.objectMeta.key = key)
    (valid : Valid world) :
    (environment key).Safe Valid (Faithful libraries key) (fun _ _ _ => True)
      (declareWithGeneratedCredentials libraries user) world (⟨.get key, .ok read⟩ :: suffix) := by
  refine Safe.bind (declareCredentials_safe named valid) valid ?_
  rintro declared now _ validNow ⟨more, rfl⟩
  cases declared with
  | error err => exact fun _ _ _ => trivial
  | ok generated =>
      refine Safe.bind (getUserCredentials_safe named validNow) validNow ?_
      rintro retrieved later _ validLater ⟨⟨last, rfl⟩, stored⟩
      cases retrieved with
      | error err => exact fun _ _ _ => trivial
      | ok secret =>
          have member := stored secret rfl
          have records : (recordCredentials user (secretToCredentials secret).username
              (credentialsSecretName user)).Calls Quiet := recordCredentials_calls trivial
          dsimp only
          split
          · exact fun _ _ _ => trivial
          split
          · exact fun _ _ _ => trivial
          refine Safe.bind (safe_of_quiet records (mem_stable secret) validLater member)
            validLater ?_
          rintro ⟨recorded, outcome⟩ final _ validFinal ⟨memberFinal, rest, rfl, -⟩
          cases outcome with
          | error err => exact fun _ _ _ => trivial
          | ok => exact putUser_safe validFinal memberFinal

/-- The declaration of a user is faithful to its Secret. -/
theorem declareUser_safe (named : user.objectMeta.key = key) (spec : user.spec = read.spec)
    (valid : Valid world) :
    (environment key).Safe Valid (Faithful libraries key) (fun _ _ _ => True)
      (UserReconciler.declareFunc libraries user) world (⟨.get key, .ok read⟩ :: suffix) := by
  unfold UserReconciler.declareFunc
  split
  · exact fun _ _ _ => trivial
  split
  · next reference imports =>
      have free : (declareWithImportedCredentials libraries user reference).Calls SecretFree :=
        declareWithImportedCredentials_calls libraries (fun _ _ => trivial) (fun _ => trivial)
          trivial trivial (fun _ => trivial) (fun _ => trivial) ..
      have always : (environment key).Stable Valid fun _ => True := fun _ _ _ _ _ => trivial
      have faithful : ∀ now more request, SecretFree request →
          Faithful libraries key now (⟨.get key, .ok read⟩ :: suffix ++ more) request := by
        intro now more request allowed
        constructor
        · rintro secret rfl
          exact allowed.elim
        · intro username settings _
          refine ⟨read, suffix ++ more, rfl, fun absent => ?_⟩
          rw [← spec, imports] at absent
          cases absent
      refine (safe_of_calls valid_stable always free
        (fun now more request _ allowed _ _ => faithful now more request allowed)
        (fun now request reply after allowed validNow _ answered => ?_) valid trivial).weaken
          fun _ _ _ _ _ => trivial
      rw [SecretFree.answers allowed answered]
      exact ⟨validNow, trivial⟩
  · exact declareWithGeneratedCredentials_safe named valid

end Put

section Run

/-- Releasing a user concerns neither its Secret nor the broker's users. -/
theorem quiet_of_releasing {object : Object .user} {request : Request (Object .user)}
    (releasing : Releasing object request) : Quiet request := by
  cases request with
  | broker call => cases call <;> trivial
  | createSecret => exact releasing
  | updateSecret => exact releasing
  | _ => trivial

/-- Every reconcile of a user is faithful to its Secret. -/
theorem reconcile_faithful (r : TopologyReconciler) (key : NamespacedName) (world : World) :
    (environment key).Safe Valid (Faithful r.libraries key) (fun _ _ _ => True)
      (r.reconcile key) world [] := by
  have always : (environment key).Stable Valid fun _ => True := fun _ _ _ _ _ => trivial
  have quietly : ∀ now (request : Request (Object .user)) reply after, Quiet request → Valid now →
      True → Answers key now request reply after → Valid after ∧ True := by
    intro now request reply after quiet validNow _ answered
    rw [SecretFree.answers (Quiet.secretFree quiet) answered]
    exact ⟨validNow, trivial⟩
  intro now drift validNow
  refine ⟨Quiet.faithful trivial, fun reply after answered => ?_⟩
  obtain ⟨rfl, found⟩ := answered
  refine ⟨validNow, ?_⟩
  rcases reply with failure | read
  · exact fun _ _ _ => trivial
  have named := found read rfl
  by_cases marked : read.objectMeta.deletionTimestamp.isSome = true
  · have calls : (r.reconcileRead read).Calls Quiet :=
      (reconcileRead_releasing r marked).mono fun _ => quiet_of_releasing
    exact (safe_of_quiet calls always validNow trivial).weaken fun _ _ _ _ _ => trivial
  · have unmarked : read.objectMeta.deletionTimestamp = none := by simpa using marked
    refine reconcileRead_safe valid_stable always r unmarked
      (fun _ _ _ _ only _ _ => Quiet.faithful (quiet_of_releasing (releasing_of_statusOnly only)))
      (fun now request reply after only => quietly now request reply after
        (quiet_of_releasing (releasing_of_statusOnly only)))
      (fun later suffix _ validLater _ => ?_) validNow trivial
    have adds : (addFinalizerIfNeeded read).Calls Quiet := addFinalizerIfNeeded_calls trivial
    unfold TopologyReconciler.reconcileObject
    rw [if_neg marked]
    refine Safe.bind (safe_of_quiet adds always validLater trivial) validLater ?_
    rintro added final _ validFinal ⟨-, more, rfl, exec⟩
    cases added with
    | error err => exact fun _ _ _ => trivial
    | ok user =>
        have carrying := addFinalizerIfNeeded_carrying unmarked exec
        refine Safe.bind (declareUser_safe (carrying.key.trans named) carrying.spec validFinal)
          validFinal ?_
        intro declared last trace validLast _
        have reports : (TopologyReconciler.recordDeclared declared.1 declared.2).Calls Quiet :=
          recordDeclared_calls trivial (fun _ => trivial) (fun _ _ => trivial) _
        exact (safe_of_quiet reports always validLast trivial).weaken fun _ _ _ _ _ => trivial

variable {r : TopologyReconciler}
  {config later : Config (@Request.Answer (Object .user)) World (Result × Option GoError)}

/-- Along a run, versions of the Secret are only added. -/
theorem grows_of_steps
    (steps : Relation.ReflTransGen ((environment key).Step (r.reconcile key)) config later) :
    config.world.versions <:+ later.world.versions :=
  (environment key).steps_respect (fun before after => before.versions <:+ after.versions)
    (fun _ => True) (fun _ => List.suffix_rfl) List.IsSuffix.trans
    (fun _ _ _ _ move => Foreign.grows move)
    (fun _ _ _ _ _ _ _ answered => Answers.grows answered) steps fun _ _ => trivial

/-- In every run: once the Secret exists it is stored with the same data ever after,
and when a user without imported credentials is about to be put, it is put with the
username and the password, or the hash, that the stored Secret holds. -/
theorem credentials_never_rotated (r : TopologyReconciler) (key : NamespacedName)
    {config later : Config (@Request.Answer (Object .user)) World (Result × Option GoError)}
    (reachable : (environment key).Reachable (r.reconcile key) .absent config)
    (steps : Relation.ReflTransGen ((environment key).Step (r.reconcile key)) config later) :
    (∀ secret, config.world.stored = some secret →
      ∃ current, later.world.stored = some current ∧ current.data = secret.data) ∧
    ∀ trace username settings next,
      later.activity = some (trace, .call (.broker (.putUser username settings)) next) →
      ∃ read rest, trace = ⟨.get key, .ok read⟩ :: rest ∧
        (read.spec.importCredentialsSecret = none →
          username = settings.name ∧ ∃ secret, later.world.stored = some secret ∧
            CarriesCredentials r.libraries secret settings) := by
  have reached : (environment key).Reachable (r.reconcile key) .absent later :=
    reachable.trans steps
  obtain ⟨valid, guarded⟩ := reachable_safe valid_absent valid_stable
    (fun world _ => reconcile_faithful r key world) reached
  have current : ∀ secret ∈ later.world.versions,
      ∃ current, later.world.stored = some current ∧ current.data = secret.data := by
    intro secret member
    obtain ⟨latest, earlier, versions⟩ := List.exists_cons_of_ne_nil (List.ne_nil_of_mem member)
    have stored : later.world.stored = some latest := by
      unfold World.stored
      rw [versions]
      rfl
    exact ⟨latest, stored, valid latest (World.mem_of_stored stored) secret member⟩
  refine ⟨fun secret found => ?_, fun trace username settings next running => ?_⟩
  · exact current secret ((grows_of_steps steps).subset (World.mem_of_stored found))
  · obtain ⟨read, rest, opening, puts⟩ :=
      (guarded trace (.broker (.putUser username settings)) next running).puts username settings rfl
    refine ⟨read, rest, opening, fun generated => ?_⟩
    obtain ⟨name, secret, member, carries⟩ := puts generated
    obtain ⟨latest, stored, data⟩ := current secret member
    refine ⟨name, latest, stored, ?_, ?_⟩
    · rw [data]
      exact carries.username
    · rw [data]
      exact carries.password

end Run

section Example

/-- A user whose credentials are generated. -/
def shopUser : Object .user where
  objectMeta := { name := "app", ns := "shop", uid := 1, finalizers := [Kind.finalizer .user] }
  spec := { rabbitmqClusterReference := { connectionSecret := some ⟨"rabbit"⟩ } }

/-- The Secret that is created for it. -/
def shopSecret : Secret where
  objectMeta :=
    { name := credentialsSecretName shopUser
      ns := "shop"
      labels := [(topologyOperatorLabel, topologyOperatorLabelValue)]
      ownerReferences := [⟨apiVersion, "User", "app", 1, some true, some false⟩] }
  data := [("username", "alice"), ("password", "secret")]

/-- The operator generates credentials, stores them and is about to put the user. -/
theorem shopUser_put : ∃ config : Config (@Request.Answer (Object .user)) World
    (Result × Option GoError), ∃ rest settings next,
    (environment ⟨"shop", "app"⟩).Reachable
      (TopologyReconciler.reconcile ⟨.verbatim, "", false⟩ ⟨"shop", "app"⟩) .absent config ∧
    config.activity = some (⟨.get ⟨"shop", "app"⟩, .ok shopUser⟩ :: rest,
      .call (.broker (.putUser "alice" settings)) next) := by
  have looks : (environment ⟨"shop", "app"⟩).answers .absent (.getSecret .cache ⟨"shop", "rabbit"⟩)
      (.ok (openSecret ⟨"shop", "rabbit"⟩)) .absent :=
    ⟨rfl, fun secret same => by
      cases same
      exact ⟨rfl, fun absurd => by simp [secretKey] at absurd⟩⟩
  have opens : Opens (environment ⟨"shop", "app"⟩) ⟨"shop", "app"⟩ shopUser .absent
      [⟨.getSecret .cache ⟨"shop", "rabbit"⟩, .ok (openSecret ⟨"shop", "rabbit"⟩)⟩] :=
    ⟨⟨rfl, fun user same => by cases same; rfl⟩, rfl, List.forall_mem_singleton.mpr looks,
      fun _ _ _ _ => rfl⟩
  have connected := opens.reachable (resolve_secret rfl rfl) .refl
  have named := connected.answer (.ok "alice") rfl
  have drawn := named.answer (.ok "secret") rfl
  have missed := drawn.answer (.error ⟨.notFound, "not found"⟩)
    ⟨rfl, fun secret absurd => by cases absurd⟩
  have creates : Answers ⟨"shop", "app"⟩ .absent (.createSecret shopSecret) (.ok ⟨1, 0⟩) _ :=
    Answers.creates rfl rfl rfl
  have created := missed.answer (.ok ⟨1, 0⟩) creates
  have retrieved := created.answer (.ok _) ⟨rfl, fun secret same => by
    cases same
    exact ⟨rfl, fun _ => ⟨List.mem_cons_self .., rfl⟩⟩⟩
  have recorded := retrieved.answer (.ok ⟨2, 0⟩) rfl
  have salted := recorded.answer "salt" rfl
  exact ⟨_, _, _, _, salted, rfl⟩

/-- In that run the user is put with what the stored Secret holds. -/
theorem shopUser_carries : ∃ config : Config (@Request.Answer (Object .user)) World
    (Result × Option GoError), ∃ trace settings next secret,
    config.activity = some (trace, .call (.broker (.putUser "alice" settings)) next) ∧
    config.world.stored = some secret ∧ CarriesCredentials .verbatim secret settings := by
  obtain ⟨config, rest, settings, next, reachable, running⟩ := shopUser_put
  obtain ⟨-, puts⟩ :=
    credentials_never_rotated ⟨.verbatim, "", false⟩ ⟨"shop", "app"⟩ reachable .refl
  obtain ⟨read, _, opening, carries⟩ := puts _ _ _ _ running
  cases opening
  obtain ⟨-, secret, stored, carried⟩ := carries rfl
  exact ⟨config, _, settings, next, secret, running, stored, carried⟩

end Example

end TopologyOperator.SecretServer
