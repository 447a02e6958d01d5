import TopologyOperator.ApiServer.Reconcile

/-!
# The obligation on a reconcile of a user

The name of a user and the Secret with its credentials are recorded in the stored
status before the user is put into the broker, and a status write never forgets the
name. `WrittenAhead` is what this asks of every request of a reconcile; both ways to
obtain credentials, imported and generated, meet it.
-/

namespace TopologyOperator.ApiServer

open Dialogue Environment UserReconciler

section Status

variable {kind : Kind} {key : NamespacedName} {world next after : World kind} {uid : UID}
  {holds : Status → Prop}

/-- The status of this incarnation, as long as it is stored. -/
def StatusHas (uid : UID) (holds : Status → Prop) (world : World kind) : Prop :=
  uid < world.nextUid ∧
    ∀ object, world.stored = some object → object.objectMeta.uid = uid → holds object.status

/-- Users do not write the status. -/
theorem StatusHas.foreign (has : StatusHas uid holds world) (move : Foreign key world next) :
    StatusHas uid holds next := by
  refine ⟨Nat.lt_of_lt_of_le has.1 move.nextUid_le, fun object found same => ?_⟩
  rcases move.origin found with ⟨before, stored, preserved, -⟩ | ⟨created, -⟩
  · rw [preserved.status]
    exact has.2 before stored (preserved.uid.symm.trans same)
  · have known := has.1
    rw [← same, created] at known
    exact absurd known (Nat.lt_irrefl _)

/-- What the operator writes into the status has to be as required. -/
theorem StatusHas.answers {request : Request (Object kind)} {reply : request.Answer}
    (has : StatusHas uid holds world)
    (writes : ∀ written, request = .updateStatus written → written.objectMeta.uid = uid →
      holds written.status)
    (answered : Answers world request reply after) : StatusHas uid holds after := by
  rcases answered.cases with rfl | ⟨written, current, rfl, matching, became, -, nextUid⟩ |
      ⟨written, current, rfl, matching, became, -, nextUid⟩
  · exact has
  · refine ⟨nextUid ▸ has.1, fun object found same => ?_⟩
    obtain ⟨version, rfl⟩ := became.stored object found
    exact has.2 current matching.1 (matching.2.1.trans same)
  · refine ⟨nextUid ▸ has.1, fun object found same => ?_⟩
    obtain ⟨version, rfl⟩ := became.stored object found
    exact writes written rfl (matching.2.1.symm.trans same)

/-- Users do not write the status. -/
theorem statusHas_stable (uid : UID) (holds : Status → Prop) :
    (environment key : Environment _ (World kind)).Stable Valid (StatusHas uid holds) :=
  fun _ _ _ has move => has.foreign move

end Status

section Guard

variable {libraries : Libraries} {key : NamespacedName} {world : World .user}
  {trace suffix : Trace (Object .user)}

/-- The status records this name and these credentials. -/
def Records (username : String) (credentials : Option LocalObjectReference) (status : Status) :
    Prop :=
  status.username = username ∧ status.credentials = credentials

/-- A recorded name is not lost if the status of this object is stored. -/
def Remembers (object : Object .user) (status : Status) : Prop :=
  status.username ≠ "" → object.status.username ≠ ""

/-- The settings were generated from the data of the Secret. -/
def Produces (libraries : Libraries) (secret : Secret) (settings : UserSettings) : Prop :=
  ∃ tags salted, (generateUserSettings libraries (secretToCredentials secret) tags :
    Prog (Object .user) _).Exec salted (.done (.ok settings))

/-- The reconcile has read this Secret. -/
def ReadSecret (trace : Trace (Object .user)) (secretKey : NamespacedName) (secret : Secret) :
    Prop :=
  ∃ reader, (⟨.getSecret reader secretKey, .ok secret⟩ : Event (@Request.Answer (Object .user))) ∈
    trace

/-- The reconcile has put this user. -/
def HasPut (trace : Trace (Object .user)) (username : String) : Prop :=
  ∃ settings reply, (⟨.broker (.putUser username settings), reply⟩ :
    Event (@Request.Answer (Object .user))) ∈ trace

/-- The stored status names the user that is put and the Secret that its settings
were generated from. -/
def Announced (libraries : Libraries) (key : NamespacedName) (world : World .user)
    (trace : Trace (Object .user)) (username : String) (settings : UserSettings) : Prop :=
  ∃ read suffix, trace = ⟨.get key, .ok read⟩ :: suffix ∧ username ≠ "" ∧
    (read.spec.usernameFromMeta = true → username = read.objectMeta.name) ∧
    ∃ object secretName secret, world.stored = some object ∧
      object.objectMeta.uid = read.objectMeta.uid ∧
      Records username (some ⟨secretName⟩) object.status ∧
      ReadSecret suffix ⟨read.objectMeta.ns, secretName⟩ secret ∧ Produces libraries secret settings

/-- What a reconcile of a user does only in order. -/
structure WrittenAhead (libraries : Libraries) (key : NamespacedName) (world : World .user)
    (trace : Trace (Object .user)) (request : Request (Object .user)) : Prop where
  announced : ∀ username settings, request = .broker (.putUser username settings) →
    Announced libraries key world trace username settings
  limits : ∀ call username, request = .broker call → call.limitsUser = some username →
    ∀ other, HasPut trace other → other = username
  remembers : ∀ written object, request = .updateStatus written → world.stored = some object →
    object.objectMeta.uid = written.objectMeta.uid → Remembers written object.status

/-- The requests that neither write the object nor reach the broker. -/
def Sideline : Request (Object .user) → Prop
  | .update _ | .updateStatus _ | .broker _ => False
  | _ => True

/-- What neither writes the object nor reaches the broker is always in order. -/
theorem writtenAhead_of_sideline {request : Request (Object .user)} (sideline : Sideline request) :
    WrittenAhead libraries key world trace request := by
  refine ⟨?_, ?_, ?_⟩
  · rintro username settings rfl
    exact sideline.elim
  · rintro call username rfl
    exact sideline.elim
  · rintro written object rfl
    exact sideline.elim

/-- A user was put in one part of the trace or in the other. -/
theorem HasPut.append {first second : Trace (Object .user)} {username : String} :
    HasPut (first ++ second) username ↔ HasPut first username ∨ HasPut second username := by
  simp only [HasPut, List.mem_append, exists_or]

theorem not_hasPut_append {first second : Trace (Object .user)}
    (noFirst : ∀ username, ¬ HasPut first username)
    (noSecond : ∀ username, ¬ HasPut second username) (username : String) :
    ¬ HasPut (first ++ second) username :=
  fun put => (HasPut.append.mp put).elim (noFirst username) (noSecond username)

theorem not_hasPut_nil (username : String) : ¬ HasPut [] username := by
  rintro ⟨settings, reply, none⟩
  cases none

/-- Where putting a user is not allowed, none was put. -/
theorem not_hasPut {allowed : Request (Object .user) → Prop}
    (none : ∀ username settings, ¬ allowed (.broker (.putUser username settings)))
    (before : ∀ event ∈ trace, allowed event.request) (username : String) :
    ¬ HasPut trace username := by
  rintro ⟨settings, reply, member⟩
  exact none username settings (before _ member)

/-- What is asked for while a user is released keeps the names and puts no user. -/
theorem writtenAhead_upkeep : Upkeep key (WrittenAhead libraries key)
    fun object : Object .user => StatusHas object.objectMeta.uid
      (Records object.status.username object.status.credentials) where
  opened object now valid stored := by
    refine ⟨valid.known object stored, fun other found _ => ?_⟩
    rw [Option.some.inj (found.symm.trans stored)]
    exact ⟨rfl, rfl⟩
  stable object := statusHas_stable _ _
  guarded object now suffix request before releasing valid has := by
    refine ⟨?_, ?_, ?_⟩
    · rintro username settings rfl
      cases (releasing : BrokerCall.declares _ = false)
    · rintro call username rfl - other ⟨settings, reply, member⟩
      rcases List.mem_cons.mp member with opening | later
      · cases opening
      · cases (before _ later : BrokerCall.declares _ = false)
    · rintro written stored rfl found same named
      have sameNames : SameNames object written := releasing
      have recorded := has.2 stored found (same.trans sameNames.uid)
      rw [sameNames.username, ← recorded.1]
      exact named
  answered object now request reply after releasing valid has answered := by
    refine has.answers ?_ answered
    rintro written rfl -
    have sameNames : SameNames object written := releasing
    exact ⟨sameNames.username, sameNames.credentials⟩

end Guard

section Declare

variable {libraries : Libraries} {key : NamespacedName} {world after : World .user}
  {trace suffix : Trace (Object .user)} {uid : UID} {username secretName : String}
  {credentials : Option LocalObjectReference}

/-- The status of the incarnation, which stays, records the name and the credentials. -/
def Ahead (uid : UID) (username : String) (credentials : Option LocalObjectReference)
    (world : World .user) : Prop :=
  Held uid world ∧ StatusHas uid (Records username credentials) world

/-- What is recorded stays recorded. -/
theorem ahead_stable : (environment key).Stable Valid (Ahead uid username credentials) :=
  Stable.and (fun _ _ _ held move => Held.foreign held move) (statusHas_stable _ _)

/-- A request on the sideline leaves the server as it is. -/
theorem answers_of_sideline {request : Request (Object .user)} {reply : request.Answer}
    (sideline : Sideline request) (answered : Answers world request reply after) :
    after = world := by
  rcases answered.cases with same | ⟨written, current, rfl, -⟩ | ⟨written, current, rfl, -⟩
  · exact same
  · exact sideline.elim
  · exact sideline.elim

/-- Parts that leave the object and the broker alone. -/
theorem safe_of_sideline {α : Type} {program : Prog (Object .user) α}
    {assertion : World .user → Prop} (calls : program.Calls Sideline)
    (stable : (environment key).Stable Valid assertion) (valid : Valid world)
    (holds : assertion world) :
    (environment key).Safe Valid (WrittenAhead libraries key)
      (fun value now later => assertion now ∧
        ∃ suffix, later = trace ++ suffix ∧ program.Exec suffix (.done value))
      program world trace := by
  refine Safe.of_calls valid_stable stable calls
    (fun _ _ _ _ sideline _ _ => writtenAhead_of_sideline sideline) ?_ valid holds
    fun value now suffix exec _ holdsNow => ⟨holdsNow, suffix, rfl, exec⟩
  intro now request reply later sideline validNow holdsNow answered
  cases answers_of_sideline sideline answered
  exact ⟨validNow, holdsNow⟩

theorem not_hasPut_of_sideline {α : Type} {program : Prog (Object .user) α}
    (calls : program.Calls Sideline) {outcome : Outcome α}
    (exec : program.Exec trace outcome) (username : String) : ¬ HasPut trace username :=
  not_hasPut (fun _ _ absurd => absurd) (calls.of_exec exec) username

/-- Every object that is stored after an accepted write has the written status. -/
theorem statusHas_of_write {written : Object .user} {version : Version}
    (known : uid < world.nextUid)
    (answered : Answers world (.updateStatus written) (.ok version) after) :
    StatusHas uid (· = written.status) after := by
  obtain ⟨current, matching, stores⟩ := answered
  obtain ⟨became, -, nextUid⟩ := stores.became
  refine ⟨nextUid ▸ known, fun object found _ => ?_⟩
  obtain ⟨stamp, rfl⟩ := became.stored object found
  rfl

/-- What holds after the status was written ahead, or not. -/
structure Recording (user : Object .user) (username secretName : String)
    (trace : Trace (Object .user)) (result : Object .user × Except GoError Unit)
    (now : World .user) (later : Trace (Object .user)) : Prop where
  suffix : ∃ suffix, later = trace ++ suffix ∧ ∀ other, ¬ HasPut suffix other
  uid : result.1.objectMeta.uid = user.objectMeta.uid
  spec : result.1.spec = user.spec
  remembers : StatusHas user.objectMeta.uid (Remembers result.1) now
  ahead : result.2 = .ok () → Ahead user.objectMeta.uid username (some ⟨secretName⟩) now

/-- Recording the credentials stores them before the user is put. -/
theorem recordCredentials_safe {user : Object .user} (given : username ≠ "")
    (valid : Valid world)
    (ahead : Ahead user.objectMeta.uid user.status.username user.status.credentials world) :
    (environment key).Safe Valid (WrittenAhead libraries key)
      (Recording user username secretName trace)
      (recordCredentials user username secretName) world trace := by
  unfold recordCredentials
  split
  · next names =>
      obtain ⟨secret, name⟩ : user.status.credentials = some ⟨secretName⟩ ∧
          user.status.username = username := by simpa [statusNames] using names
      refine Safe.done valid_stable ahead_stable valid ahead fun now _ aheadNow => ?_
      refine ⟨⟨[], (List.append_nil _).symm, not_hasPut_nil⟩, rfl, rfl,
        ⟨aheadNow.2.1, fun object found same named => ?_⟩, fun _ => ?_⟩
      · exact (aheadNow.2.2 object found same).1 ▸ named
      · rw [← name, ← secret]
        exact aheadNow
  · refine Safe.call valid_stable ahead_stable valid ahead (fun now validNow aheadNow => ?_)
      fun now reply later validNow aheadNow answered => ?_
    · exact ⟨fun _ _ same => (nomatch same), fun _ _ same => (nomatch same),
        fun written object same _ _ _ => by cases same; exact given⟩
    have rightful : Rightful now (.updateStatus (withCredentials user username secretName)) :=
      trivial
    change Answers now (.updateStatus (withCredentials user username secretName)) reply later
      at answered
    have validLater := validNow.answers rightful answered
    have heldLater := aheadNow.1.answers (fun written same => by cases same) answered
    have knownLater : StatusHas user.objectMeta.uid (fun _ => True) later :=
      StatusHas.answers ⟨aheadNow.2.1, fun _ _ _ => trivial⟩ (fun _ _ _ => trivial) answered
    refine ⟨validLater, ?_⟩
    have noPut : ∀ other, ¬ HasPut
        [⟨.updateStatus (withCredentials user username secretName), reply⟩] other := by
      rintro other ⟨settings, answer, member⟩
      cases List.mem_singleton.mp member
    cases reply with
    | error err =>
        refine Safe.done valid_stable (statusHas_stable user.objectMeta.uid fun _ => True)
          validLater knownLater fun final _ known => ?_
        exact ⟨⟨_, rfl, noPut⟩, rfl, rfl, ⟨known.1, fun _ _ _ _ => given⟩, fun ok => by cases ok⟩
    | ok version =>
        have recorded := statusHas_of_write aheadNow.2.1 answered
        have aheadLater : Ahead user.objectMeta.uid username (some ⟨secretName⟩) later :=
          ⟨heldLater, recorded.1, fun object found same => by
            rw [recorded.2 object found same]
            exact ⟨rfl, rfl⟩⟩
        refine Safe.done valid_stable ahead_stable validLater aheadLater fun final _ ahead => ?_
        exact ⟨⟨_, rfl, noPut⟩, rfl, rfl, ⟨ahead.2.1, fun _ _ _ _ => given⟩, fun _ => ahead⟩

/-- What follows the user: its limits, and the report. -/
def AfterPut (username : String) : Request (Object .user) → Prop
  | .now | .eventf _ => True
  | .broker call => call.limitsUser = some username
  | _ => False

/-- The object in memory does not forget the name that is stored. -/
def Consistent (uid : UID) (result : Object .user × Except GoError Unit) (now : World .user) :
    Prop :=
  result.1.objectMeta.uid = uid ∧ StatusHas uid (Remembers result.1) now

/-- Reading the object puts no user. -/
theorem not_hasPut_opening {read : Object .user} (noPut : ∀ other, ¬ HasPut suffix other)
    (other : String) : ¬ HasPut (⟨.get key, .ok read⟩ :: suffix) other := by
  rintro ⟨settings, reply, member⟩
  rcases List.mem_cons.mp member with opening | later
  · cases opening
  · exact noPut other ⟨settings, reply, later⟩

/-- Once a user was put, only that user is dealt with. -/
theorem writtenAhead_of_afterPut {request : Request (Object .user)}
    (earlier : ∀ other, HasPut trace other → other = username)
    (before : ∀ event ∈ suffix, AfterPut username event.request)
    (follows : AfterPut username request) :
    WrittenAhead libraries key world (trace ++ suffix) request := by
  refine ⟨?_, ?_, ?_⟩
  · rintro other settings rfl
    cases (follows : BrokerCall.limitsUser _ = _)
  · rintro call other rfl limited name put
    obtain rfl : username = other :=
      Option.some.inj ((show call.limitsUser = some username from follows).symm.trans limited)
    have none : ∀ name settings, ¬ AfterPut username (.broker (.putUser name settings)) :=
      fun _ _ absurd => by cases (absurd : BrokerCall.limitsUser _ = _)
    exact (HasPut.append.mp put).elim (earlier name) fun later =>
      absurd later (not_hasPut none before name)
  · rintro written object rfl
    exact follows.elim

/-- The limits and the report leave the object as it is stored. -/
theorem answers_of_afterPut {request : Request (Object .user)} {reply : request.Answer}
    (follows : AfterPut username request) (answered : Answers world request reply after) :
    after = world := by
  rcases answered.cases with same | ⟨written, current, rfl, -⟩ | ⟨written, current, rfl, -⟩
  · exact same
  · exact follows.elim
  · exact follows.elim

variable {read user : Object .user} {secret : Secret}

/-- The status names the credentials, and the object in memory does not forget it. -/
theorem ahead_remembers_stable {credentials : Option LocalObjectReference} :
    (environment key).Stable Valid fun now : World .user =>
      Ahead uid username credentials now ∧ StatusHas uid (Remembers user) now :=
  Stable.and ahead_stable (statusHas_stable _ _)

/-- The end of a declaration, with no user put but the one in the status. -/
theorem finishUser_safe {credentials : Option LocalObjectReference}
    (sameUid : user.objectMeta.uid = uid)
    (earlier : ∀ other, HasPut trace other → other = username) (valid : Valid world)
    (holds : Ahead uid username credentials world ∧ StatusHas uid (Remembers user) world) :
    (environment key).Safe Valid (WrittenAhead libraries key)
      (fun result now _ => Consistent uid result now) (finishUser libraries user username) world
      trace := by
  refine Safe.of_calls valid_stable ahead_remembers_stable
    (finishUser_calls libraries trivial (fun _ => trivial) (fun _ limits => limits) user)
    (fun _ _ _ before follows _ _ => writtenAhead_of_afterPut earlier before follows)
    (fun now request reply after follows validNow holds answered => ?_) valid holds
    fun result now _ exec _ holds => ?_
  · cases answers_of_afterPut follows answered
    exact ⟨validNow, holds⟩
  · have names := finishUser_sameNames libraries exec
    refine ⟨names.uid.trans sameUid, holds.2.1, fun object found same named => ?_⟩
    rw [names.username]
    exact holds.2.2 object found same named

/-- The user is put under the name that the status records, with settings from the
Secret that the status records. -/
theorem putUser_safe {failure : String} (sameUid : user.objectMeta.uid = read.objectMeta.uid)
    (noPut : ∀ other, ¬ HasPut suffix other)
    (found : ReadSecret suffix ⟨read.objectMeta.ns, secretName⟩ secret)
    (named : read.spec.usernameFromMeta = true →
      (secretToCredentials secret).username = read.objectMeta.name)
    (valid : Valid world)
    (ahead : Ahead read.objectMeta.uid (secretToCredentials secret).username
      (some ⟨secretName⟩) world)
    (remembers : StatusHas read.objectMeta.uid (Remembers user) world) :
    (environment key).Safe Valid (WrittenAhead libraries key)
      (fun result now _ => Consistent read.objectMeta.uid result now)
      (putUser libraries user (secretToCredentials secret) failure
        (secretToCredentials secret).username)
      world (⟨.get key, .ok read⟩ :: suffix) := by
  have stable : (environment key).Stable Valid fun now : World .user =>
      Ahead read.objectMeta.uid (secretToCredentials secret).username (some ⟨secretName⟩) now ∧
        StatusHas read.objectMeta.uid (Remembers user) now := ahead_remembers_stable
  have salts : (generateUserSettings libraries (secretToCredentials secret) user.spec.tags).Calls
      Sideline := generateUserSettings_calls libraries trivial ..
  refine Safe.bind (safe_of_sideline salts stable valid ⟨ahead, remembers⟩) valid ?_
  rintro generated now _ validNow ⟨holds, salted, rfl, exec⟩
  rcases generated with err | settings
  · exact Safe.done valid_stable stable validNow holds fun _ _ holds => ⟨sameUid, holds.2⟩
  obtain ⟨given, hash, generated, -⟩ := generateUserSettings_exec exec
  have name : settings.name = (secretToCredentials secret).username := by
    rw [generated]
    rfl
  have noPutYet : ∀ other, ¬ HasPut (⟨.get key, .ok read⟩ :: suffix ++ salted) other :=
    not_hasPut_append (not_hasPut_opening noPut) (not_hasPut_of_sideline salts exec)
  refine Safe.call valid_stable stable validNow holds (fun now _ holds => ⟨?_, ?_, ?_⟩) ?_
  · rintro username other same
    cases same
    obtain ⟨object, stored, same, -⟩ := holds.1.1.1
    obtain ⟨reader, member⟩ := found
    rw [name]
    exact ⟨read, suffix ++ salted, rfl, given, named, object, secretName, secret, stored, same,
      holds.1.2.2 object stored same, ⟨reader, List.mem_append_left _ member⟩, _, _, exec⟩
  · rintro call username same limited
    cases same
    cases limited
  · rintro written object same
    cases same
  intro now reply after validNow holds answered
  cases (answered : after = now)
  refine ⟨validNow, ?_⟩
  rw [Program.done_bind]
  split
  · exact Safe.done valid_stable stable validNow holds fun _ _ holds => ⟨sameUid, holds.2⟩
  · refine finishUser_safe sameUid (fun other put => ?_) validNow holds
    rcases HasPut.append.mp put with first | ⟨_, _, last⟩
    · exact absurd first (noPutYet other)
    · cases List.mem_singleton.mp last
      exact name

/-- The object in memory has the names that are stored. -/
theorem consistent_done {outcome : Except GoError Unit} (carrying : Carrying read user)
    (valid : Valid world)
    (ahead : Ahead read.objectMeta.uid read.status.username read.status.credentials world) :
    (environment key).Safe Valid (WrittenAhead libraries key)
      (fun result now _ => Consistent read.objectMeta.uid result now)
      (.done (user, outcome)) world trace := by
  refine Safe.done valid_stable ahead_stable valid ahead fun now _ aheadNow => ?_
  refine ⟨carrying.uid, aheadNow.2.1, fun object found same named => ?_⟩
  rw [carrying.status, ← (aheadNow.2.2 object found same).1]
  exact named

/-- The status is written, then the user is put. -/
theorem recordThenPut_safe {failure : String} (carrying : Carrying read user)
    (noPut : ∀ other, ¬ HasPut suffix other)
    (found : ReadSecret suffix ⟨read.objectMeta.ns, secretName⟩ secret)
    (given : (secretToCredentials secret).username ≠ "")
    (named : read.spec.usernameFromMeta = true →
      (secretToCredentials secret).username = read.objectMeta.name)
    (valid : Valid world)
    (ahead : Ahead read.objectMeta.uid read.status.username read.status.credentials world) :
    (environment key).Safe Valid (WrittenAhead libraries key)
      (fun result now _ => Consistent read.objectMeta.uid result now)
      ((recordCredentials user (secretToCredentials secret).username secretName).bind
        fun recorded =>
        match recorded.2 with
        | .error err => .done (recorded.1, .error err)
        | .ok () => putUser libraries recorded.1 (secretToCredentials secret) failure
            (secretToCredentials secret).username)
      world (⟨.get key, .ok read⟩ :: suffix) := by
  rw [← carrying.uid, ← carrying.status] at ahead
  refine Safe.bind (recordCredentials_safe given valid ahead) valid ?_
  rintro ⟨recorded, outcome⟩ now _ validNow ⟨⟨more, rfl, noMore⟩, uid, -, remembers, aheadNow⟩
  rw [carrying.uid] at uid remembers aheadNow
  cases outcome with
  | error err =>
      exact Safe.done valid_stable (statusHas_stable _ _) validNow remembers
        fun _ _ remembers => ⟨uid, remembers⟩
  | ok =>
      obtain ⟨reader, member⟩ := found
      exact putUser_safe uid (not_hasPut_append noPut noMore)
        ⟨reader, List.mem_append_left _ member⟩ named validNow (aheadNow rfl) remembers

/-- A user with imported credentials is recorded and then put. -/
theorem declareWithImportedCredentials_safe {reference : LocalObjectReference}
    (carrying : Carrying read user) (noPut : ∀ other, ¬ HasPut suffix other)
    (free : read.spec.usernameFromMeta = false) (valid : Valid world)
    (ahead : Ahead read.objectMeta.uid read.status.username read.status.credentials world) :
    (environment key).Safe Valid (WrittenAhead libraries key)
      (fun result now _ => Consistent read.objectMeta.uid result now)
      (declareWithImportedCredentials libraries user reference) world
      (⟨.get key, .ok read⟩ :: suffix) := by
  have reads : (importCredentials reference.name user.objectMeta.ns :
      Prog (Object .user) _).Calls Sideline := importCredentials_calls trivial
  refine Safe.bind (safe_of_sideline reads ahead_stable valid ahead) valid ?_
  rintro imported now _ validNow ⟨aheadNow, more, rfl, exec⟩
  rcases imported with err | credentials
  · exact consistent_done carrying validNow aheadNow
  dsimp only
  split
  · exact consistent_done carrying validNow aheadNow
  · have noMore := not_hasPut_of_sideline reads exec
    obtain ⟨secret, rfl, rfl, given⟩ := importCredentials_exec exec
    refine recordThenPut_safe carrying (not_hasPut_append noPut noMore) ⟨.cache, ?_⟩ given
      (fun named => by simp [free] at named) validNow aheadNow
    rw [show read.objectMeta.ns = user.objectMeta.ns from
      (congrArg NamespacedName.ns carrying.key).symm]
    exact List.mem_append_right _ (List.mem_singleton.mpr rfl)

/-- So is a user whose credentials are generated. -/
theorem declareWithGeneratedCredentials_safe
    (carrying : Carrying read user) (noPut : ∀ other, ¬ HasPut suffix other) (valid : Valid world)
    (ahead : Ahead read.objectMeta.uid read.status.username read.status.credentials world) :
    (environment key).Safe Valid (WrittenAhead libraries key)
      (fun result now _ => Consistent read.objectMeta.uid result now)
      (declareWithGeneratedCredentials libraries user) world
      (⟨.get key, .ok read⟩ :: suffix) := by
  have declares : (declareCredentials user : Prog (Object .user) _).Calls Sideline :=
    declareCredentials_calls (fun _ => trivial) (fun _ _ => trivial) (fun _ => trivial)
      (fun _ => trivial) user
  have reads : (getUserCredentials user : Prog (Object .user) _).Calls Sideline :=
    getUserCredentials_calls trivial
  refine Safe.bind (safe_of_sideline declares ahead_stable valid ahead) valid ?_
  rintro declared now _ validNow ⟨aheadNow, more, rfl, execDeclared⟩
  rcases declared with err | generated
  · exact consistent_done carrying validNow aheadNow
  refine Safe.bind (safe_of_sideline reads ahead_stable validNow aheadNow) validNow ?_
  rintro retrieved later _ validLater ⟨aheadLater, last, rfl, exec⟩
  rcases retrieved with err | secret
  · exact consistent_done carrying validLater aheadLater
  dsimp only
  split
  · exact consistent_done carrying validLater aheadLater
  split
  · exact consistent_done carrying validLater aheadLater
  · next given allowed =>
      have noMore := not_hasPut_of_sideline declares execDeclared
      have noLast := not_hasPut_of_sideline reads exec
      have sameNs : user.objectMeta.ns = read.objectMeta.ns :=
        congrArg NamespacedName.ns carrying.key
      have sameName : user.objectMeta.name = read.objectMeta.name :=
        congrArg NamespacedName.name carrying.key
      obtain rfl := getUserCredentials_exec exec
      refine recordThenPut_safe carrying
        (not_hasPut_append (not_hasPut_append noPut noMore) noLast) ⟨.cache, ?_⟩ given
        (fun named => ?_) validLater aheadLater
      · rw [← sameNs]
        exact List.mem_append_right _ (List.mem_singleton.mpr rfl)
      · rw [← sameName]
        by_contra different
        exact allowed ⟨carrying.spec ▸ named, different⟩

/-- The declaration of a user meets the obligation either way. -/
theorem declareUser_safe (carrying : Carrying read user) (noPut : ∀ other, ¬ HasPut suffix other)
    (valid : Valid world)
    (ahead : Ahead read.objectMeta.uid read.status.username read.status.credentials world) :
    (environment key).Safe Valid (WrittenAhead libraries key)
      (fun result now _ => Consistent read.objectMeta.uid result now)
      (UserReconciler.declareFunc libraries user) world (⟨.get key, .ok read⟩ :: suffix) := by
  unfold UserReconciler.declareFunc
  split
  · exact consistent_done carrying valid ahead
  · next allowed =>
      split
      · next reference imports =>
          refine declareWithImportedCredentials_safe carrying noPut ?_ valid ahead
          rw [carrying.spec] at allowed imports
          simpa [imports] using allowed
      · exact declareWithGeneratedCredentials_safe carrying noPut valid ahead

/-- The outcome is reported and stored. -/
def Reports (declared : Object .user) : Request (Object .user) → Prop
  | .now | .eventf _ => True
  | .updateStatus written => SameNames declared written
  | _ => False

/-- Reporting the outcome does not forget the name. -/
theorem report_safe {α : Type} {program : Prog (Object .user) α} {declared : Object .user}
    (calls : program.Calls (Reports declared)) (sameUid : declared.objectMeta.uid = uid)
    (valid : Valid world) (remembers : StatusHas uid (Remembers declared) world) :
    (environment key).Safe Valid (WrittenAhead libraries key) (fun _ _ _ => True)
      program world trace := by
  refine Safe.of_calls valid_stable (statusHas_stable uid (Remembers declared)) calls
    (fun now suffix request _ reports _ remembers => ⟨?_, ?_, ?_⟩)
    (fun now request reply after reports validNow remembers answered => ⟨?_, ?_⟩) valid remembers
    fun _ _ _ _ _ _ => trivial
  · rintro username settings rfl
    exact reports.elim
  · rintro call username rfl
    exact reports.elim
  · rintro written object rfl found same named
    have names : SameNames declared written := reports
    rw [names.username]
    exact remembers.2 object found (same.trans (names.uid.trans sameUid)) named
  · refine validNow.answers ?_ answered
    cases request with
    | update written => exact reports.elim
    | _ => trivial
  · refine remembers.answers ?_ answered
    rintro written rfl - named
    have names : SameNames declared written := reports
    rwa [← names.username]

/-- The declaring part of a reconcile meets the obligation. -/
theorem reconcileUser_safe (r : TopologyReconciler) (carrying : Carrying read user)
    (noPut : ∀ other, ¬ HasPut suffix other) (valid : Valid world)
    (ahead : Ahead read.objectMeta.uid read.status.username read.status.credentials world) :
    (environment key).Safe Valid (WrittenAhead r.libraries key) (fun _ _ _ => True)
      (r.reconcileDeclare user) world (⟨.get key, .ok read⟩ :: suffix) := by
  refine Safe.bind (declareUser_safe carrying noPut valid ahead) valid ?_
  rintro ⟨declared, outcome⟩ now later validNow ⟨sameUid, remembers⟩
  exact report_safe (recordDeclared_calls trivial (fun _ => trivial) (fun _ names => names) outcome)
    sameUid validNow remembers

end Declare

end TopologyOperator.ApiServer
