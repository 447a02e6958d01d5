import TopologyOperator.Client.SecretStoreInvariant

/-!
# The secret store client is created once

Whatever the reconciles, the creation of the client and the renewal of its token do at
the same time: all reconciles get the same client or the same error, a client is only
used with a token that Vault has granted, and at most one token is kept alive, the one in
use. A creation that has failed is never repeated.
-/

namespace TopologyOperator.Vault

open Dialogue Program

section Callers

variable {world after : World} {env : ProcessEnv} {κ : Type} [DecidableEq κ]
  {config next : System.Config (fun _ : Member κ => VaultRequest.Answer) Member.Value World}

/-- The outcome of the creation stays as it is. -/
structure Frozen (world after : World) : Prop where
  once : after.once = .finished
  client : after.secretClient = world.secretClient
  error : after.creationError = world.creationError

/-- The creation does not begin again, and its outcome stays as it is. -/
structure Onward (world after : World) : Prop where
  started : world.once ≠ .notStarted → after.once ≠ .notStarted
  frozen : world.once = .finished → Frozen world after

/-- A step that does not touch the outcome leaves it. -/
theorem Onward.of_same (once : after.once = world.once)
    (client : after.secretClient = world.secretClient)
    (error : after.creationError = world.creationError) : Onward world after :=
  ⟨fun started => once ▸ started, fun finished => ⟨once.trans finished, client, error⟩⟩

/-- The renewal of the token leaves the outcome of the creation. -/
theorem Renewal.onward {trace : VaultTrace} {request : VaultRequest} {reply : request.Answer}
    {next : request.Answer → VaultProg Next}
    (renewal : Renewal world (some (trace, .call request next)))
    (answered : Answers world request reply after) : Onward world after := by
  cases renewal with
  | running runs renews =>
      obtain ⟨asks, -⟩ := renews
      cases request with
      | readFile | newLifetimeWatcher | setNamespace | write | setToken | startWatcher =>
          cases answered
          exact .of_same rfl rfl rfl
      | send err =>
          obtain ⟨-, rfl⟩ := answered
          exact .of_same rfl rfl rfl
      | _ => exact absurd asks id

/-- The creation fixes its outcome once, when it ends. -/
theorem Creation.onward {trace : VaultTrace} {request : VaultRequest} {reply : request.Answer}
    {next : request.Answer → VaultProg Unit}
    (creation : Creation world (some (trace, .call request next)))
    (answered : Answers world request reply after) : Onward world after := by
  have later := creation.answer answered
  cases creation with
  | running once =>
      cases later with
      | running once' =>
          refine ⟨fun _ notStarted => ?_, fun finished => ?_⟩
          · cases once'.symm.trans notStarted
          · cases once.symm.trans finished

/-- No step of any goroutine begins the creation again. -/
theorem reachable_onward (reachable : (goroutines env κ).Reachable {} config)
    (step : (goroutines env κ).Step config next) : Onward config.world next.world := by
  have sound := reachable_sound reachable
  have creating : ∀ activity, config.activities .initializer = some activity →
      Creation config.world (some activity) := fun _ running => running ▸ sound.creation
  have renewing : ∀ activity, config.activities .renewer = some activity →
      Renewal config.world (some activity) := fun _ running => running ▸ sound.renewal
  cases step with
  | foreign move =>
      obtain ⟨same, aside⟩ := move.aside
      exact .of_same same aside.client aside.error
  | launch i _ launched =>
      cases i with
      | initializer =>
          obtain ⟨started, -, rfl⟩ := launched
          refine ⟨(fun _ absurd => by cases absurd), fun finished => ?_⟩
          cases started.symm.trans finished
      | renewer =>
          obtain ⟨sent, -, -, rfl⟩ := launched
          exact .of_same rfl rfl rfl
      | caller =>
          obtain ⟨-, rfl⟩ := launched
          exact .of_same rfl rfl rfl
  | retire i running retired =>
      cases i with
      | initializer =>
          obtain ⟨-, rfl⟩ := retired
          exact ⟨(fun _ absurd => by cases absurd), fun _ => ⟨rfl, rfl, rfl⟩⟩
      | renewer =>
          obtain ⟨next, -, rfl⟩ := retired
          exact .of_same rfl rfl rfl
      | caller =>
          obtain ⟨-, rfl⟩ := retired
          exact .of_same rfl rfl rfl
  | answer i running answered =>
      cases i with
      | initializer => exact (creating _ running).onward answered
      | renewer => exact (renewing _ running).onward answered
      | caller j =>
          rcases consulting_cases (reachable_consulting reachable j _ running).1 answered with
            rfl | ⟨first, rfl⟩
          · exact .of_same rfl rfl rfl
          · refine ⟨(fun _ absurd => by cases absurd), fun finished => ?_⟩
            cases first.symm.trans finished

/-- From then on. -/
theorem frozen_along (reachable : (goroutines env κ).Reachable {} config)
    (run : Relation.ReflTransGen (goroutines env κ).Step config next)
    (finished : config.world.once = .finished) : Frozen config.world next.world := by
  induction run with
  | refl => exact ⟨finished, rfl, rfl⟩
  | tail earlier step ih =>
      have later := (reachable_onward (reachable.trans earlier) step).frozen ih.once
      exact ⟨later.once, later.client.trans ih.client, later.error.trans ih.error⟩

/-- What a caller knows of the creation. -/
structure Informed (world : World) (trace : VaultTrace) : Prop where
  entered : (⟨.enterOnce, ()⟩ : Event VaultRequest.Answer) ∈ trace → world.once ≠ .notStarted
  waited : (⟨.awaitOnce, ()⟩ : Event VaultRequest.Answer) ∈ trace → world.once = .finished
  client : ∀ loaded, (⟨.loadClient, loaded⟩ : Event VaultRequest.Answer) ∈ trace →
    world.once = .finished ∧ loaded = world.secretClient
  error : ∀ loaded, (⟨.loadError, loaded⟩ : Event VaultRequest.Answer) ∈ trace →
    world.once = .finished ∧ loaded = world.creationError

/-- What a caller was told stays true. -/
theorem Informed.onward {trace : VaultTrace} (informed : Informed world trace)
    (onward : Onward world after) : Informed after trace where
  entered member := onward.started (informed.entered member)
  waited member := (onward.frozen (informed.waited member)).once
  client loaded member := by
    obtain ⟨finished, same⟩ := informed.client loaded member
    have frozen := onward.frozen finished
    exact ⟨frozen.once, same.trans frozen.client.symm⟩
  error loaded member := by
    obtain ⟨finished, same⟩ := informed.error loaded member
    have frozen := onward.frozen finished
    exact ⟨frozen.once, same.trans frozen.error.symm⟩

/-- One more answer to the caller. -/
theorem Informed.answer {trace : VaultTrace} {request : VaultRequest} {reply : request.Answer}
    (informed : Informed world trace) (consulting : Consulting trace request)
    (onward : Onward world after) (answered : Answers world request reply after) :
    Informed after (trace ++ [⟨request, reply⟩]) := by
  have earlier := informed.onward onward
  refine ⟨fun member => ?_, fun member => ?_, fun loaded member => ?_, fun loaded member => ?_⟩
  · rcases List.mem_append.mp member with before | last
    · exact earlier.entered before
    · cases List.mem_singleton.mp last
      by_cases first : world.once = .notStarted
      · rw [answered, if_pos first]
        exact fun absurd => by cases absurd
      · exact onward.started first
  · rcases List.mem_append.mp member with before | last
    · exact earlier.waited before
    · cases List.mem_singleton.mp last
      exact (onward.frozen answered.1).once
  · rcases List.mem_append.mp member with before | last
    · exact earlier.client loaded before
    · cases List.mem_singleton.mp last
      have frozen := onward.frozen (informed.waited consulting)
      exact ⟨frozen.once, answered.1.trans frozen.client.symm⟩
  · rcases List.mem_append.mp member with before | last
    · exact earlier.error loaded before
    · cases List.mem_singleton.mp last
      have frozen := onward.frozen (informed.waited consulting)
      exact ⟨frozen.once, answered.1.trans frozen.error.symm⟩

/-- In every reachable state, each caller was told the truth. -/
theorem reachable_informed (reachable : (goroutines env κ).Reachable {} config) (j : κ) :
    ∀ activity, config.activities (.caller j) = some activity →
      Informed config.world activity.1 := by
  refine reachable.member (fun world trace _ => Informed world trace) (fun _ _ _ _ => ?_) ?_ ?_
  · exact ⟨(fun absurd => by cases absurd), (fun absurd => by cases absurd),
      (fun _ absurd => by cases absurd), fun _ absurd => by cases absurd⟩
  · intro config next trace request resume reply earlier step running informed answered
    exact informed.answer (reachable_consulting earlier j _ running).1
      (reachable_onward earlier step) answered
  · exact fun _ _ _ _ earlier step informed => informed.onward (reachable_onward earlier step)

end Callers

section Enabled

variable {env : ProcessEnv} {κ : Type}
  {config : System.Config (fun _ : Member κ => VaultRequest.Answer) Member.Value World}

/-- The creation goes on, or waits for the first login. -/
theorem Creation.enabled {trace : VaultTrace} {program : VaultProg Unit}
    (creation : Creation config.world (some (trace, program)))
    (running : config.activities .initializer = some (trace, program))
    (proceeds : program ≠ .abort) :
    (goroutines env κ).Enabled config .initializer ∨
      Spawned config.world ∧ config.world.firstLogin = none ∧ config.world.channel = none := by
  cases creation with
  | running once creates phase =>
      cases program with
      | done => exact .inl (.retire running ⟨rfl, rfl⟩)
      | abort => exact absurd rfl proceeds
      | call request resume =>
          obtain ⟨stage, -⟩ := creates
          have moves : ∀ (reply : request.Answer) after, Answers config.world request reply after →
              (goroutines env κ).Enabled config .initializer := fun _ _ answered =>
            .answer running answered
          cases request with
          | systemCertPool | newClient => exact .inl (moves (.ok ()) _ rfl)
          | goRenewToken | storeError | storeClient => exact .inl (moves () _ rfl)
          | receive =>
              rw [show stageOf trace = .waiting from stage] at phase
              obtain ⟨-, spawned, channel⟩ := phase
              cases first : config.world.firstLogin with
              | none => exact .inr ⟨spawned, rfl, channel.trans first⟩
              | some result => exact .inl (moves result _ ⟨channel.trans first, rfl⟩)
          | _ => exact absurd stage id

/-- The goroutine that has not reported its first login goes on. -/
theorem Renewal.enabled {activity : Option (VaultTrace × VaultProg Next)}
    (renewal : Renewal config.world activity) (running : config.activities .renewer = activity)
    (proceeds : ∀ trace, activity ≠ some (trace, .abort)) (spawned : Spawned config.world)
    (unsent : config.world.firstLogin = none) (empty : config.world.channel = none) :
    (goroutines env κ).Enabled config .renewer := by
  cases renewal with
  | unsent waits =>
      rcases waits with absent | ready
      · exact absurd absent spawned.renewer
      · exact .launch running ⟨false, ready, rfl, rfl⟩
  | resting _ first => cases unsent.symm.trans first
  | watching _ first => cases unsent.symm.trans first
  | returned _ first => cases unsent.symm.trans first
  | @running _ trace program _ renews =>
      cases program with
      | done next => exact .retire running ⟨next, rfl, rfl⟩
      | abort => exact absurd rfl (proceeds trace)
      | call request resume =>
          obtain ⟨asks, -⟩ := renews
          have moves : ∀ (reply : request.Answer) after, Answers config.world request reply after →
              (goroutines env κ).Enabled config .renewer := fun _ _ answered =>
            .answer running answered
          cases request with
          | readFile => exact moves (.ok "") _ rfl
          | write => exact moves (.ok none) _ rfl
          | newLifetimeWatcher => exact moves (.ok ()) _ rfl
          | setNamespace | setToken | startWatcher => exact moves () _ rfl
          | send => exact moves () _ ⟨empty, rfl⟩
          | _ => exact absurd asks id

end Enabled

section Results

variable {env : ProcessEnv} {κ : Type} [DecidableEq κ]
  {config later : System.Config (fun _ : Member κ => VaultRequest.Answer) Member.Value World}

/-- A read of Vault returns what it was answered. -/
theorem readCredentials_returns (path : String) : (readCredentials path).Returns := by
  intro reply
  rcases reply with err | _ | secret
  · trivial
  · trivial
  change Returns (if secret.warnings ≠ [] then _ else _)
  split
  · trivial
  split
  · trivial
  · trivial
  · split
    · exact fun _ => trivial
    · exact fun _ => trivial
    · trivial
    · trivial

/-- How a caller comes to the client: it waits until the creation has ended, and is told of
its outcome. -/
def consultation (client : Bool) (err : Option GoError) : VaultTrace :=
  [⟨.enterOnce, ()⟩, ⟨.awaitOnce, ()⟩, ⟨.loadClient, client⟩, ⟨.loadError, err⟩]

/-- How a call can end. -/
theorem credentialsAt_exec {path : String} {trace : VaultTrace}
    {outcome : Outcome (Except GoError (String × String))}
    (exec : (credentialsAt path).Exec trace outcome) :
    ∃ client err rest, trace = consultation client err ++ rest ∧
      match err, client with
      | some err, _ => outcome = .done (.error err)
      | none, true => (readCredentials path).Exec rest outcome
      | none, false => outcome = .abort := by
  obtain ⟨_, _, rfl, _, _, rfl, client, _, rfl, err, rest, rfl, ends⟩ := exec
  refine ⟨client, err, rest, rfl, ?_⟩
  rcases err with _ | err
  · cases client with
    | true => exact ends
    | false => exact ends.2
  · exact ends.2

/-- The outcome of a call is that of its own read of Vault: of what it did once it had been
told that there is a client. -/
def OwnRead (trace : VaultTrace) (outcome : Outcome (Except GoError (String × String))) : Prop :=
  ∃ path rest, trace = consultation true none ++ rest ∧ (readCredentials path).Exec rest outcome

/-- How a call ends, by the outcome of the creation. -/
inductive CallEnds (world : World) (trace : VaultTrace)
    (outcome : Outcome (Except GoError (String × String))) : Prop where
  | failed (err : GoError) (error : world.creationError = some err)
      (same : outcome = .done (.error err))
  | reads (error : world.creationError = none) (own : OwnRead trace outcome)

/-- What a caller is told of the client is the outcome of the creation. -/
theorem Settled.told {world : World} (settled : Settled world) :
    world.secretClient = true ∧ world.creationError = none ∧ world.firstLogin = some none ∨
      ∃ err, world.creationError = some err := by
  cases settled with
  | created client error _ first => exact .inl ⟨client, error, first⟩
  | failed _ error => exact .inr ⟨_, error⟩
  | refused _ error => exact .inr ⟨_, error⟩

/-- Once the creation has ended, its outcome is settled. -/
theorem reachable_settled (reachable : (goroutines env κ).Reachable {} config)
    (finished : config.world.once = .finished) : Settled config.world := by
  have creation := (reachable_sound reachable).creation
  generalize config.activities .initializer = activity at creation
  cases creation with
  | pending once => rcases once with once | once <;> cases finished.symm.trans once
  | running once => cases finished.symm.trans once
  | finished _ settled => exact settled

/-- A call that ends has waited for the creation, and ends as that did. -/
theorem reachable_callEnds (reachable : (goroutines env κ).Reachable {} config) {i : κ}
    {trace : VaultTrace} {program : VaultProg (Except GoError (String × String))}
    (running : config.activities (.caller i) = some (trace, program))
    {outcome : Outcome (Except GoError (String × String))} (ends : program.Exec [] outcome) :
    config.world.once = .finished ∧ CallEnds config.world trace outcome := by
  obtain ⟨_, launched, _, ⟨⟨path, rfl⟩, -⟩, completes⟩ := reachable.exec _ running
  have exec := completes [] outcome ends
  rw [List.append_nil] at exec
  have informed := reachable_informed reachable i _ running
  obtain ⟨client, err, rest, rfl, ended⟩ := credentialsAt_exec exec
  obtain ⟨finished, rfl⟩ := informed.client client (by simp [consultation])
  obtain ⟨-, rfl⟩ := informed.error err (by simp [consultation])
  refine ⟨finished, ?_⟩
  rcases (reachable_settled reachable finished).told with ⟨client, error, -⟩ | ⟨err, error⟩
  · rw [client, error] at ended
    refine .reads error ⟨path, rest, ?_, ended⟩
    rw [client, error]
  · rw [error] at ended
    exact .failed err error ended

/-- The creation of the client has ended, with an error or without one. -/
def CreationEnded (world : World) (error : Option GoError) : Prop :=
  world.once = .finished ∧ world.creationError = error

/-- In every run of the goroutines: if two callers return, at whatever times, the creation
of the client has ended both times and with the same outcome. If that is an error, both
callers return it; otherwise each returns the outcome of its own read of Vault. -/
theorem creation_agreed (env : ProcessEnv) {κ : Type} [DecidableEq κ]
    {config later : System.Config (fun _ : Member κ => VaultRequest.Answer) Member.Value World}
    (reachable : (goroutines env κ).Reachable {} config)
    (run : Relation.ReflTransGen (goroutines env κ).Step config later)
    {i j : κ} {trace other : VaultTrace} {value result : Except GoError (String × String)}
    (first : config.activities (.caller i) = some (trace, .done value))
    (second : later.activities (.caller j) = some (other, .done result)) :
    (∃ err, CreationEnded config.world (some err) ∧ CreationEnded later.world (some err) ∧
        value = .error err ∧ result = .error err) ∨
      CreationEnded config.world none ∧ CreationEnded later.world none ∧
        OwnRead trace (.done value) ∧ OwnRead other (.done result) := by
  obtain ⟨finished, ends⟩ := reachable_callEnds reachable first ⟨rfl, rfl⟩
  obtain ⟨finished', ends'⟩ := reachable_callEnds (reachable.trans run) second ⟨rfl, rfl⟩
  have frozen := frozen_along reachable run finished
  cases ends with
  | failed err error same =>
      have error' := frozen.error.trans error
      cases ends' with
      | failed err' given same' =>
          cases given.symm.trans error'
          exact .inl ⟨err, ⟨finished, error⟩, ⟨finished', error'⟩, Outcome.done.inj same,
            Outcome.done.inj same'⟩
      | reads none => cases none.symm.trans error'
  | reads none own =>
      have none' := frozen.error.trans none
      cases ends' with
      | failed err error => cases error.symm.trans none'
      | reads _ own' => exact .inr ⟨⟨finished, none⟩, ⟨finished', none'⟩, own, own'⟩

/-- In every run of the goroutines: no caller uses a client that is not there, and one
that asks Vault does so with a token that Vault has granted. -/
theorem client_usable (env : ProcessEnv) {κ : Type} [DecidableEq κ]
    {config : System.Config (fun _ : Member κ => VaultRequest.Answer) Member.Value World}
    (reachable : (goroutines env κ).Reachable {} config) {i : κ} {trace : VaultTrace}
    {program : VaultProg (Except GoError (String × String))}
    (running : config.activities (.caller i) = some (trace, program)) :
    program ≠ .abort ∧ ∀ path resume, program = .call (.read path) resume →
      config.world.connection.token ≠ "" ∧
      ∃ auth ∈ config.world.granted, auth.clientToken = config.world.connection.token := by
  constructor
  · rintro rfl
    have panics : (Program.abort : VaultProg (Except GoError (String × String))).Exec [] .abort :=
      ⟨rfl, rfl⟩
    obtain ⟨-, ends⟩ := reachable_callEnds reachable running panics
    cases ends with
    | failed err _ same => cases same
    | reads _ own =>
        obtain ⟨path, rest, -, exec⟩ := own
        obtain ⟨value, absurd⟩ := returns_iff.mp (readCredentials_returns path) rest _ exec
        cases absurd
  · rintro path resume rfl
    obtain ⟨⟨loadedClient, loadedError⟩, -⟩ := reachable_consulting reachable i _ running
    have informed := reachable_informed reachable i _ running
    obtain ⟨finished, -⟩ := informed.client true loadedClient
    obtain ⟨-, none⟩ := informed.error none loadedError
    have tokens := (reachable_sound reachable).tokens
    rcases (reachable_settled reachable finished).told with ⟨-, -, first⟩ | ⟨err, error⟩
    · exact ⟨tokens.present first, tokens.granted (tokens.present first)⟩
    · cases none.trans error

/-- In every run of the goroutines: `renewToken` runs at most once, and at most one token
is kept alive, which is renewable and the one in use. -/
theorem renewal_unique (env : ProcessEnv) {κ : Type} [DecidableEq κ]
    {config : System.Config (fun _ : Member κ => VaultRequest.Answer) Member.Value World}
    (reachable : (goroutines env κ).Reachable {} config) :
    config.world.spawned ≤ 1 ∧ config.world.watchers.length ≤ 1 ∧
      ∀ auth ∈ config.world.watchers,
        auth.clientToken = config.world.connection.token ∧ auth.renewable = true := by
  obtain ⟨creation, renewal, -⟩ := reachable_sound reachable
  refine ⟨creation.spawned_le, ?_⟩
  have bounded : ∀ watched : Option SecretAuth,
      (∀ auth, watched = some auth →
        auth.clientToken = config.world.connection.token ∧ auth.renewable = true) →
      config.world.watchers = watched.toList → config.world.watchers.length ≤ 1 ∧
        ∀ auth ∈ config.world.watchers,
          auth.clientToken = config.world.connection.token ∧ auth.renewable = true := by
    intro watched current watchers
    rw [watchers]
    refine ⟨Option.length_toList_le, fun auth member => ?_⟩
    exact current auth (Option.mem_toList.mp member)
  generalize config.activities .renewer = activity at renewal
  cases renewal with
  | unsent _ _ watchers => exact bounded none (fun _ absurd => by cases absurd) watchers
  | resting _ _ watchers => exact bounded none (fun _ absurd => by cases absurd) watchers
  | returned _ _ watchers => exact bounded none (fun _ absurd => by cases absurd) watchers
  | watching _ _ watchers current renewable =>
      refine bounded (some _) (fun auth same => ?_) watchers
      cases same
      exact ⟨current, renewable⟩
  | running _ _ _ watchers _ renewable => exact bounded _ renewable watchers

theorem initializeClient_returns (env : ProcessEnv) : (initializeClient env).Returns := by
  unfold initializeClient
  split
  · exact fun _ => trivial
  refine Returns.bind ?_ fun certificates => ?_
  · unfold trustedCerts
    split
    · exact fun _ => trivial
    · trivial
  split
  · exact fun _ => trivial
  intro created
  rcases created with err | ⟨⟩
  · exact fun _ => trivial
  intro _ result
  rcases result with _ | err <;> exact fun _ => trivial

theorem login_returns (env : ProcessEnv) : (login env).Returns := by
  intro token
  rcases token with err | jwt
  · trivial
  have named : (setVaultNamespace env).Returns := by
    unfold setVaultNamespace
    split
    · exact fun _ => trivial
    · trivial
  refine named.bind fun _ reply => ?_
  rcases reply with err | secret
  · trivial
  change (adoptToken secret).Returns
  unfold adoptToken
  split
  · trivial
  · exact fun _ => trivial

theorem manageTokenLifecycle_returns (token : Option SecretAuth) :
    (manageTokenLifecycle token).Returns := by
  rcases token with _ | auth
  · trivial
  rw [manageTokenLifecycle]
  split
  · intro reply
    rcases reply with err | ⟨⟩
    · trivial
    · exact fun _ => trivial
  · trivial

theorem renewToken_returns (env : ProcessEnv) (sent : Bool) : (renewToken env sent).Returns := by
  refine (login_returns env).bind fun outcome => ?_
  cases sent with
  | true => exact (manageTokenLifecycle_returns _).bind fun _ => trivial
  | false =>
      intro _
      rcases outcome with err | auth
      · trivial
      · exact (manageTokenLifecycle_returns _).bind fun _ => trivial

/-- Neither goroutine panics. -/
theorem reachable_proceeds (reachable : (goroutines env κ).Reachable {} config) :
    (∀ trace, config.activities .initializer ≠ some (trace, .abort)) ∧
      ∀ trace, config.activities .renewer ≠ some (trace, .abort) := by
  constructor
  · intro trace running
    obtain ⟨_, program, _, ⟨-, rfl, -⟩, completes⟩ := reachable.exec _ running
    obtain ⟨value, absurd⟩ := returns_iff.mp (initializeClient_returns env) _ _
      (completes [] .abort ⟨rfl, rfl⟩)
    cases absurd
  · intro trace running
    obtain ⟨_, program, _, ⟨sent, -, rfl, -⟩, completes⟩ := reachable.exec _ running
    obtain ⟨value, absurd⟩ := returns_iff.mp (renewToken_returns env sent) _ _
      (completes [] .abort ⟨rfl, rfl⟩)
    cases absurd

/-- In every run of the goroutines: while a caller waits for the client, its creation or
the goroutine that logs in can take a step. -/
theorem never_stuck (env : ProcessEnv) {κ : Type} [DecidableEq κ]
    {config : System.Config (fun _ : Member κ => VaultRequest.Answer) Member.Value World}
    (reachable : (goroutines env κ).Reachable {} config) {i : κ} {trace : VaultTrace}
    {resume : Unit → VaultProg (Except GoError (String × String))}
    (waits : config.activities (.caller i) = some (trace, .call .awaitOnce resume))
    (unfinished : config.world.once ≠ .finished) :
    (goroutines env κ).Enabled config .initializer ∨
      (goroutines env κ).Enabled config .renewer := by
  have sound := reachable_sound reachable
  obtain ⟨creating, renewing⟩ := reachable_proceeds reachable
  have started : config.world.once ≠ .notStarted :=
    (reachable_informed reachable i _ waits).entered (reachable_consulting reachable i _ waits).1
  have creation := sound.creation
  cases running : config.activities .initializer with
  | none =>
      rw [running] at creation
      cases creation with
      | pending once =>
          exact .inl (.launch running ⟨once.resolve_left started, rfl, rfl⟩)
      | finished once => exact absurd once unfinished
  | some activity =>
      rw [running] at creation
      rcases creation.enabled running (fun absurd => creating activity.1 (absurd ▸ running)) with
        enabled | ⟨spawned, unsent, empty⟩
      · exact .inl enabled
      · exact .inr (sound.renewal.enabled rfl renewing spawned unsent empty)

end Results

section Example

variable {env : ProcessEnv} {world after : World}
  {creating : Option (VaultTrace × VaultProg Unit)}
  {renewing : Option (VaultTrace × VaultProg Next)}
  {calling : Option (VaultTrace × VaultProg (Except GoError (String × String)))}

/-- The goroutines with one caller. -/
def side (creating : Option (VaultTrace × VaultProg Unit))
    (renewing : Option (VaultTrace × VaultProg Next))
    (calling : Option (VaultTrace × VaultProg (Except GoError (String × String)))) :
    (i : Member Unit) → Option (VaultTrace × VaultProg i.Value)
  | .initializer => creating
  | .renewer => renewing
  | .caller _ => calling

/-- The activities with that of one goroutine replaced. -/
def replaced : (i : Member Unit) → Option (VaultTrace × VaultProg i.Value) →
    Option (VaultTrace × VaultProg Unit) → Option (VaultTrace × VaultProg Next) →
    Option (VaultTrace × VaultProg (Except GoError (String × String))) →
    (j : Member Unit) → Option (VaultTrace × VaultProg j.Value)
  | .initializer, activity, _, renewing, calling => side activity renewing calling
  | .renewer, activity, creating, _, calling => side creating activity calling
  | .caller _, activity, creating, renewing, _ => side creating renewing activity

/-- Replacing one activity of three. -/
theorem update_side {i : Member Unit} {activity : Option (VaultTrace × VaultProg i.Value)} :
    Function.update (side creating renewing calling) i activity =
      replaced i activity creating renewing calling := by
  funext j
  cases i <;> cases j <;> rfl

variable {start : System.Config (fun _ : Member Unit => VaultRequest.Answer) Member.Value World}
  (run : Relation.ReflTransGen (goroutines env Unit).Step start
    ⟨world, side creating renewing calling⟩)

include run

/-- One goroutine is answered. -/
theorem side_answer (i : Member Unit) {trace : VaultTrace} {request : VaultRequest}
    {next : request.Answer → VaultProg i.Value}
    (running : side creating renewing calling i = some (trace, .call request next))
    (reply : request.Answer) (answered : Answers world request reply after) :
    Relation.ReflTransGen (goroutines env Unit).Step start ⟨after,
      replaced i (some (trace ++ [⟨request, reply⟩], next reply)) creating renewing calling⟩ := by
  have step := Relation.ReflTransGen.tail run (.answer i running answered)
  rwa [update_side] at step

/-- A goroutine that is idle may be launched. -/
theorem side_launch (i : Member Unit) {program : VaultProg i.Value}
    (idle : side creating renewing calling i = none)
    (launched : Launches env i world program after) :
    Relation.ReflTransGen (goroutines env Unit).Step start ⟨after,
      replaced i (some ([], program)) creating renewing calling⟩ := by
  have step := Relation.ReflTransGen.tail run (.launch i idle launched)
  rwa [update_side] at step

/-- A goroutine that has ended may be retired. -/
theorem side_retire (i : Member Unit) {trace : VaultTrace} {program : VaultProg i.Value}
    (running : side creating renewing calling i = some (trace, program))
    (retired : Retires i world trace program after) :
    Relation.ReflTransGen (goroutines env Unit).Step start
      ⟨after, replaced i none creating renewing calling⟩ := by
  have step := Relation.ReflTransGen.tail run (.retire i running retired)
  rwa [update_side] at step

omit run

/-- Nothing has happened yet. -/
theorem side_idle : (goroutines env Unit).Reachable {} ⟨{}, side none none none⟩ := by
  have same : (fun _ => none : (i : Member Unit) → Option (VaultTrace × VaultProg i.Value)) =
      side none none none := by
    funext i
    cases i <;> rfl
  rw [← same]
  exact .refl

def vaultEnv : ProcessEnv where
  vaultAddr := "http://vault"

def vaultToken : SecretAuth := ⟨"s.token", true⟩

/-- The client is there, and its token is kept alive. -/
def loggedIn : World where
  once := .finished
  secretClient := true
  connection := { token := "s.token" }
  renewer := .watching vaultToken
  watchers := [vaultToken]
  spawned := 1
  firstLogin := some none
  granted := [vaultToken]

/-- A reconcile has asked for credentials, and nothing else has happened. -/
theorem side_called (path : String) : (goroutines vaultEnv Unit).Reachable {}
    ⟨{}, side none none (some ([], credentialsAt path))⟩ :=
  side_launch side_idle (.caller ()) rfl ⟨⟨path, rfl⟩, rfl⟩

/-- The caller waits for the creation, and the creation for the goroutine that logs in. -/
structure Waiting
    (config : System.Config (fun _ : Member Unit => VaultRequest.Answer) Member.Value World) :
    Prop where
  caller : ∃ trace resume, config.activities (.caller ()) = some (trace, .call .awaitOnce resume)
  creation : ∃ trace resume, config.activities .initializer = some (trace, .call .receive resume)
  empty : config.world.channel = none
  unfinished : config.world.once ≠ .finished

/-- The creation starts the goroutine that logs in, and waits for it. That is granted a
token, and the caller goes on to read. -/
theorem side_reads (path : String) : ∃ waiting trace,
    (goroutines vaultEnv Unit).Reachable {} waiting ∧ Waiting waiting ∧
    (goroutines vaultEnv Unit).Reachable {}
      ⟨loggedIn, side none none (some (trace, readCredentials path))⟩ := by
  have waits := side_answer (side_called path) (.caller ()) rfl () rfl
  have created := side_launch waits .initializer rfl ⟨rfl, rfl, rfl⟩
  have client := side_answer created .initializer rfl (.ok ()) rfl
  have spawned := side_answer client .initializer rfl () rfl
  have renewing := side_launch spawned .renewer rfl ⟨false, rfl, rfl, rfl⟩
  have jwt := side_answer renewing .renewer rfl (.ok "jwt") rfl
  have granted := side_answer jwt .renewer rfl (.ok (some { auth := some vaultToken })) rfl
  have adopted := side_answer granted .renewer rfl () rfl
  have sent := side_answer adopted .renewer rfl () ⟨rfl, rfl⟩
  have watcher := side_answer sent .renewer rfl (.ok ()) rfl
  have watched := side_answer watcher .renewer rfl () rfl
  have watching := side_retire watched .renewer rfl ⟨.watch vaultToken, rfl, rfl⟩
  have received := side_answer watching .initializer rfl none ⟨rfl, rfl⟩
  have stored := side_answer received .initializer rfl () rfl
  have finished := side_retire stored .initializer rfl ⟨rfl, rfl⟩
  have passed := side_answer finished (.caller ()) rfl () ⟨rfl, rfl⟩
  have loaded := side_answer passed (.caller ()) rfl true ⟨rfl, rfl⟩
  have told := side_answer loaded (.caller ()) rfl none ⟨rfl, rfl⟩
  exact ⟨_, _, spawned, ⟨⟨_, _, rfl⟩, ⟨_, _, rfl⟩, rfl, Once.noConfusion⟩, told⟩

/-- With the client there, a caller goes straight to the read. -/
theorem side_calls (path : String) : ∃ trace,
    Relation.ReflTransGen (goroutines vaultEnv Unit).Step ⟨loggedIn, side none none none⟩
      ⟨loggedIn, side none none (some (trace, readCredentials path))⟩ := by
  have called : Relation.ReflTransGen (goroutines vaultEnv Unit).Step
      ⟨loggedIn, side none none none⟩ ⟨loggedIn, side none none (some ([], credentialsAt path))⟩ :=
    side_launch .refl (.caller ()) rfl ⟨⟨path, rfl⟩, rfl⟩
  have entered := side_answer called (.caller ()) rfl () rfl
  have passed := side_answer entered (.caller ()) rfl () ⟨rfl, rfl⟩
  have loaded := side_answer passed (.caller ()) rfl true ⟨rfl, rfl⟩
  have told := side_answer loaded (.caller ()) rfl none ⟨rfl, rfl⟩
  exact ⟨_, told⟩

/-- A caller may have to wait, and then somebody else can go on. -/
theorem caller_waits : ∃ config,
    (goroutines vaultEnv Unit).Reachable {} config ∧ Waiting config ∧
      ((goroutines vaultEnv Unit).Enabled config .initializer ∨
        (goroutines vaultEnv Unit).Enabled config .renewer) := by
  obtain ⟨config, -, reachable, waiting, -⟩ := side_reads "rabbit"
  obtain ⟨trace, resume, waits⟩ := waiting.caller
  exact ⟨config, reachable, waiting, never_stuck vaultEnv reachable waits waiting.unfinished⟩

/-- A caller may come to read, with a token. -/
theorem caller_reads : ∃ config,
    (goroutines vaultEnv Unit).Reachable {} config ∧
      (∃ trace path resume,
        config.activities (.caller ()) = some (trace, .call (.read path) resume)) ∧
      config.world.connection.token ≠ "" := by
  obtain ⟨-, trace, -, -, reads⟩ := side_reads "rabbit"
  exact ⟨_, reads, ⟨trace, "rabbit", _, rfl⟩,
    ((client_usable vaultEnv reads (i := ()) rfl).2 "rabbit" _ rfl).1⟩

/-- A token may come to be watched. -/
theorem token_watched : ∃ config,
    (goroutines vaultEnv Unit).Reachable {} config ∧ config.world.watchers = [vaultToken] ∧
      config.world.watchers.length ≤ 1 := by
  obtain ⟨-, trace, -, -, reads⟩ := side_reads "rabbit"
  exact ⟨_, reads, rfl, (renewal_unique vaultEnv reads).2.1⟩

/-- Two calls, one after the other. -/
theorem caller_returns : ∃ config later trace other value result,
    (goroutines vaultEnv Unit).Reachable {} config ∧
      Relation.ReflTransGen (goroutines vaultEnv Unit).Step config later ∧
      config.activities (.caller ()) = some (trace, .done value) ∧
      later.activities (.caller ()) = some (other, .done result) ∧
      CreationEnded config.world none ∧ OwnRead trace (.done value) ∧
      OwnRead other (.done result) := by
  obtain ⟨-, trace, -, -, reads⟩ := side_reads "rabbit"
  obtain ⟨other, calls⟩ := side_calls "hare"
  have returned := side_answer reads (.caller ()) rfl (.ok none) rfl
  have retired : ∀ trace value, Relation.ReflTransGen (goroutines vaultEnv Unit).Step
      ⟨loggedIn, side none none (some (trace, .done value))⟩ ⟨loggedIn, side none none none⟩ :=
    fun trace value => side_retire .refl (.caller ()) rfl ⟨⟨value, rfl⟩, rfl⟩
  have again := fun trace value =>
    side_answer ((retired trace value).trans calls) (.caller ()) rfl (.ok none) rfl
  have agreed := creation_agreed vaultEnv returned (again _ _) (i := ()) (j := ()) rfl rfl
  obtain ⟨ended, -, own, own'⟩ := agreed.resolve_left fun ⟨_, failed, _⟩ => by cases failed.2
  exact ⟨_, _, _, _, _, _, returned, again _ _, rfl, rfl, ended, own, own'⟩

end Example

end TopologyOperator.Vault
