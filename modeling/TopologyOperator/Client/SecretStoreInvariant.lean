import TopologyOperator.Client.SecretStoreObligations

/-!
# The invariant of the secret store client

The package variables and the channel follow the stage of the creation, the watchers and
the token follow the iteration of `renewToken`. Every step of every goroutine keeps this.
-/

namespace TopologyOperator.Vault

open Dialogue Program

/-- The package variables are as they were at the start. -/
structure Unset (world : World) : Prop where
  client : world.secretClient = false
  error : world.creationError = none

/-- `renewToken` was not started. -/
structure Unspawned (world : World) : Prop where
  renewer : world.renewer = .absent
  spawned : world.spawned = 0
  channel : world.channel = none
  first : world.firstLogin = none

/-- `renewToken` was started, once. -/
structure Spawned (world : World) : Prop where
  renewer : world.renewer ≠ .absent
  spawned : world.spawned = 1

/-- The creation of the client has ended: it has succeeded, it has failed before a login,
or the first login has failed. -/
inductive Settled (world : World) : Prop where
  | created (client : world.secretClient = true) (error : world.creationError = none)
      (spawned : Spawned world) (first : world.firstLogin = some none)
  | failed {err : GoError} (client : world.secretClient = false)
      (error : world.creationError = some err) (unspawned : Unspawned world)
  | refused {err login : GoError} (client : world.secretClient = false)
      (error : world.creationError = some err) (spawned : Spawned world)
      (first : world.firstLogin = some (some login))

/-- The world at each stage of the creation. -/
def Phase (world : World) : Stage → Prop
  | .preparing => Unset world ∧ Unspawned world
  | .waiting => Unset world ∧ Spawned world ∧ world.channel = world.firstLogin
  | .received result => Unset world ∧ Spawned world ∧ world.firstLogin = some result
  | .stored => Settled world

/-- The creation of the client. -/
inductive Creation (world : World) : Option (VaultTrace × VaultProg Unit) → Prop where
  | pending (once : world.once = .notStarted ∨ world.once = .started) (unset : Unset world)
      (unspawned : Unspawned world) : Creation world none
  | running {trace : VaultTrace} {program : VaultProg Unit} (once : world.once = .running)
      (creates : program.Guarded Creates (fun _ later => stageOf later = .stored) trace)
      (phase : Phase world (stageOf trace)) : Creation world (some (trace, program))
  | finished (once : world.once = .finished) (settled : Settled world) : Creation world none

/-- The goroutine of `renewToken`. -/
inductive Renewal (world : World) : Option (VaultTrace × VaultProg Next) → Prop where
  | unsent (waits : world.renewer = .absent ∨ world.renewer = .ready false)
      (first : world.firstLogin = none) (watchers : world.watchers = []) : Renewal world none
  | resting (waits : world.renewer = .ready true ∨ world.renewer = .sleeping)
      (first : world.firstLogin = some none) (watchers : world.watchers = []) : Renewal world none
  | watching {auth : SecretAuth} (waits : world.renewer = .watching auth)
      (first : world.firstLogin = some none) (watchers : world.watchers = [auth])
      (current : auth.clientToken = world.connection.token) (renewable : auth.renewable = true) :
      Renewal world none
  | returned {err : GoError} (waits : world.renewer = .returned)
      (first : world.firstLogin = some (some err)) (watchers : world.watchers = []) :
      Renewal world none
  | running {sent : Bool} {trace : VaultTrace} {program : VaultProg Next}
      (runs : world.renewer = .running sent)
      (renews : program.Guarded (Renews sent) (Renewed sent) trace)
      (first : world.firstLogin = if sent then some none else sentOf trace)
      (watchers : world.watchers = (watchOf trace).toList)
      (current : ∀ token, tokenOf trace = some token →
        world.connection.token = token ∧ token ≠ "")
      (renewable : ∀ auth, watchOf trace = some auth →
        auth.clientToken = world.connection.token ∧ auth.renewable = true)
      (granted : ∀ auth, GrantedIn trace auth → auth ∈ world.granted) :
      Renewal world (some (trace, program))

/-- The token in use was granted, and there is one once the first login has succeeded. -/
structure Tokens (world : World) : Prop where
  granted : world.connection.token ≠ "" →
    ∃ auth ∈ world.granted, auth.clientToken = world.connection.token
  present : world.firstLogin = some none → world.connection.token ≠ ""

/-- A step that does not concern what the creation of the client has done. -/
structure Aside (world after : World) : Prop where
  client : after.secretClient = world.secretClient
  error : after.creationError = world.creationError
  channel : after.channel = world.channel
  first : after.firstLogin = world.firstLogin
  spawned : after.spawned = world.spawned
  absent : after.renewer = .absent ↔ world.renewer = .absent

section Steps

variable {world after : World} {env : ProcessEnv} {stage : Stage}

theorem Unset.aside (unset : Unset world) (aside : Aside world after) : Unset after :=
  ⟨aside.client.trans unset.client, aside.error.trans unset.error⟩

theorem Unspawned.aside (unspawned : Unspawned world) (aside : Aside world after) :
    Unspawned after :=
  ⟨aside.absent.mpr unspawned.renewer, aside.spawned.trans unspawned.spawned,
    aside.channel.trans unspawned.channel, aside.first.trans unspawned.first⟩

theorem Spawned.aside (spawned : Spawned world) (aside : Aside world after) : Spawned after :=
  ⟨fun absent => spawned.renewer (aside.absent.mp absent), aside.spawned.trans spawned.spawned⟩

/-- A creation that has ended stays as it ended. -/
theorem Settled.aside (settled : Settled world) (aside : Aside world after) : Settled after := by
  cases settled with
  | created client error spawned first =>
      exact .created (aside.client.trans client) (aside.error.trans error)
        (spawned.aside aside) (aside.first.trans first)
  | failed client error unspawned =>
      exact .failed (aside.client.trans client) (aside.error.trans error) (unspawned.aside aside)
  | refused client error spawned first =>
      exact .refused (aside.client.trans client) (aside.error.trans error)
        (spawned.aside aside) (aside.first.trans first)

/-- A step aside leaves the stage of the creation. -/
theorem Phase.aside (phase : Phase world stage) (aside : Aside world after) :
    Phase after stage := by
  cases stage with
  | preparing => exact ⟨phase.1.aside aside, phase.2.aside aside⟩
  | waiting =>
      obtain ⟨unset, spawned, channel⟩ := phase
      exact ⟨unset.aside aside, spawned.aside aside, by rw [aside.channel, aside.first, channel]⟩
  | received result =>
      obtain ⟨unset, spawned, first⟩ := phase
      exact ⟨unset.aside aside, spawned.aside aside, aside.first.trans first⟩
  | stored => exact Settled.aside phase aside

/-- A step aside leaves the creation where it is. -/
theorem Creation.aside {activity : Option (VaultTrace × VaultProg Unit)}
    (creation : Creation world activity) (same : after.once = world.once)
    (aside : Aside world after) : Creation after activity := by
  cases creation with
  | pending once unset unspawned =>
      exact .pending (same ▸ once) (unset.aside aside) (unspawned.aside aside)
  | running once creates phase => exact .running (same.trans once) creates (phase.aside aside)
  | finished once settled => exact .finished (same.trans once) (settled.aside aside)

/-- A creation that has ended has started `renewToken` at most once. -/
theorem Settled.spawned_le (settled : Settled world) : world.spawned ≤ 1 := by
  cases settled with
  | created _ _ spawned => exact Nat.le_of_eq spawned.spawned
  | failed _ _ unspawned => exact Nat.le_trans (Nat.le_of_eq unspawned.spawned) (Nat.zero_le 1)
  | refused _ _ spawned => exact Nat.le_of_eq spawned.spawned

/-- At every stage, `renewToken` was started at most once. -/
theorem Creation.spawned_le {activity : Option (VaultTrace × VaultProg Unit)}
    (creation : Creation world activity) : world.spawned ≤ 1 := by
  cases creation with
  | pending _ _ unspawned => exact Nat.le_trans (Nat.le_of_eq unspawned.spawned) (Nat.zero_le 1)
  | finished _ settled => exact settled.spawned_le
  | @running trace _ _ _ phase =>
      generalize stageOf trace = stage at phase
      cases stage with
      | preparing => exact Nat.le_trans (Nat.le_of_eq phase.2.spawned) (Nat.zero_le 1)
      | waiting => exact Nat.le_of_eq phase.2.1.spawned
      | received result => exact Nat.le_of_eq phase.2.1.spawned
      | stored => exact Settled.spawned_le phase

/-- The goroutine of `renewToken` sees these parts of the world only. -/
theorem Renewal.congr {activity : Option (VaultTrace × VaultProg Next)}
    (renewal : Renewal world activity) (renewer : after.renewer = world.renewer)
    (firstLogin : after.firstLogin = world.firstLogin) (same : after.watchers = world.watchers)
    (connection : after.connection.token = world.connection.token)
    (grants : after.granted = world.granted) : Renewal after activity := by
  cases renewal with
  | unsent waits first watchers =>
      exact .unsent (renewer ▸ waits) (firstLogin.trans first) (same.trans watchers)
  | resting waits first watchers =>
      exact .resting (renewer ▸ waits) (firstLogin.trans first) (same.trans watchers)
  | watching waits first watchers current renewable =>
      exact .watching (renewer.trans waits) (firstLogin.trans first) (same.trans watchers)
        (current.trans connection.symm) renewable
  | returned waits first watchers =>
      exact .returned (renewer.trans waits) (firstLogin.trans first) (same.trans watchers)
  | running runs renews first watchers current renewable granted =>
      refine .running (renewer.trans runs) renews (firstLogin.trans first) (same.trans watchers)
        (fun token set => (current token set).imp_left connection.trans) (fun auth watched => ?_)
        (fun auth member => grants ▸ granted auth member)
      rw [connection]
      exact renewable auth watched

/-- The token is a matter of the first login, the connection and the grants. -/
theorem Tokens.congr (tokens : Tokens world) (firstLogin : after.firstLogin = world.firstLogin)
    (connection : after.connection.token = world.connection.token)
    (grants : after.granted = world.granted) : Tokens after := by
  constructor
  · rw [connection, grants]
    exact tokens.granted
  · rw [connection, firstLogin]
    exact tokens.present

/-- The loop of `manageTokenLifecycle` and the pause after it. -/
theorem Waits.aside (waits : Waits world after) :
    after.once = world.once ∧ Aside world after := by
  cases waits with
  | renewed => exact ⟨rfl, rfl, rfl, rfl, rfl, rfl, Iff.rfl⟩
  | ended auth watching => exact ⟨rfl, rfl, rfl, rfl, rfl, rfl, by simp [watching]⟩
  | slept sleeping => exact ⟨rfl, rfl, rfl, rfl, rfl, rfl, by simp [sleeping]⟩

/-- A caller that waits does not disturb the renewal. -/
theorem Renewal.waits {activity : Option (VaultTrace × VaultProg Next)}
    (renewal : Renewal world activity) (waits : Waits world after) : Renewal after activity := by
  cases waits with
  | renewed => exact renewal
  | ended auth watching =>
      cases renewal with
      | watching here first watchers =>
          cases here.symm.trans watching
          refine .resting (.inr rfl) first ?_
          rw [watchers]
          exact List.erase_cons_head ..
      | unsent here => rcases here with here | here <;> cases here.symm.trans watching
      | resting here => rcases here with here | here <;> cases here.symm.trans watching
      | returned here => cases here.symm.trans watching
      | running here => cases here.symm.trans watching
  | slept sleeping =>
      cases renewal with
      | resting here first watchers => exact .resting (.inl rfl) first watchers
      | unsent here => rcases here with here | here <;> cases here.symm.trans sleeping
      | watching here => cases here.symm.trans sleeping
      | returned here => cases here.symm.trans sleeping
      | running here => cases here.symm.trans sleeping

/-- Nor does it touch the token. -/
theorem Tokens.waits (tokens : Tokens world) (waits : Waits world after) : Tokens after := by
  cases waits with
  | renewed => exact tokens
  | ended => exact tokens.congr rfl rfl rfl
  | slept => exact tokens.congr rfl rfl rfl

/-- Only before the start there is no goroutine. -/
theorem Renewal.absent {activity : Option (VaultTrace × VaultProg Next)}
    (renewal : Renewal world activity) (absent : world.renewer = .absent) :
    activity = none ∧ world.watchers = [] ∧ world.firstLogin = none := by
  cases renewal with
  | unsent _ first watchers => exact ⟨rfl, watchers, first⟩
  | resting here => rcases here with here | here <;> cases here.symm.trans absent
  | watching here => cases here.symm.trans absent
  | returned here => cases here.symm.trans absent
  | running here => cases here.symm.trans absent

section Creator

variable {trace : VaultTrace} {request : VaultRequest} {reply : request.Answer}
  {next : request.Answer → VaultProg Unit}

/-- One more answer to the creation of the client. -/
theorem Creation.answer (creation : Creation world (some (trace, .call request next)))
    (answered : Answers world request reply after) :
    Creation after (some (trace ++ [⟨request, reply⟩], next reply)) := by
  cases creation with
  | running once creates phase =>
      obtain ⟨stage, rest⟩ := creates
      cases request with
      | systemCertPool | newClient =>
          cases answered
          refine .running once (rest reply) ?_
          rw [stageOf_snoc]
          exact phase
      | goRenewToken =>
          cases answered
          refine .running once (rest reply) ?_
          rw [show stageOf trace = .preparing from stage] at phase
          rw [stageOf_snoc]
          obtain ⟨unset, unspawned⟩ := phase
          refine ⟨⟨unset.client, unset.error⟩, ⟨(fun absurd => by cases absurd), ?_⟩, ?_⟩
          · exact congrArg (· + 1) unspawned.spawned
          · exact unspawned.channel.trans unspawned.first.symm
      | receive =>
          obtain ⟨full, rfl⟩ := answered
          refine .running once (rest reply) ?_
          rw [show stageOf trace = .waiting from stage] at phase
          rw [stageOf_snoc]
          obtain ⟨unset, spawned, channel⟩ := phase
          exact ⟨⟨unset.client, unset.error⟩, ⟨spawned.renewer, spawned.spawned⟩,
            channel.symm.trans full⟩
      | storeError err =>
          cases answered
          refine .running once (rest reply) ?_
          rw [stageOf_snoc]
          rcases stage with preparing | ⟨login, received⟩
          · rw [preparing] at phase
            obtain ⟨unset, unspawned⟩ := phase
            exact .failed unset.client rfl
              ⟨unspawned.renewer, unspawned.spawned, unspawned.channel, unspawned.first⟩
          · rw [received] at phase
            obtain ⟨unset, spawned, first⟩ := phase
            exact .refused unset.client rfl ⟨spawned.renewer, spawned.spawned⟩ first
      | storeClient =>
          cases answered
          refine .running once (rest reply) ?_
          rw [show stageOf trace = .received none from stage] at phase
          rw [stageOf_snoc]
          obtain ⟨unset, spawned, first⟩ := phase
          exact .created rfl unset.error ⟨spawned.renewer, spawned.spawned⟩ first
      | _ => exact absurd stage id

/-- It does not disturb the goroutine that it starts. -/
theorem Renewal.creation {activity : Option (VaultTrace × VaultProg Next)}
    (renewal : Renewal world activity) (tokens : Tokens world)
    (creation : Creation world (some (trace, .call request next)))
    (answered : Answers world request reply after) : Renewal after activity ∧ Tokens after := by
  cases creation with
  | running once creates phase =>
      obtain ⟨stage, -⟩ := creates
      cases request with
      | systemCertPool | newClient =>
          cases answered
          exact ⟨renewal, tokens⟩
      | goRenewToken =>
          cases answered
          rw [show stageOf trace = .preparing from stage] at phase
          obtain ⟨rfl, watchers, first⟩ := renewal.absent phase.2.renewer
          exact ⟨.unsent (.inr rfl) first watchers, tokens.congr rfl rfl rfl⟩
      | receive =>
          obtain ⟨-, rfl⟩ := answered
          exact ⟨renewal.congr rfl rfl rfl rfl rfl, tokens.congr rfl rfl rfl⟩
      | storeError _ | storeClient =>
          cases answered
          exact ⟨renewal.congr rfl rfl rfl rfl rfl, tokens.congr rfl rfl rfl⟩
      | _ => exact absurd stage id

end Creator

section Renewer

variable {trace : VaultTrace} {request : VaultRequest} {reply : request.Answer}
  {next : request.Answer → VaultProg Next}

/-- A grant of the iteration was there before, or is the last answer. -/
theorem GrantedIn.of_snoc {auth : SecretAuth} {event : Event VaultRequest.Answer}
    (granted : GrantedIn (trace ++ [event]) auth) :
    GrantedIn trace auth ∨ GrantedIn [event] auth := by
  obtain ⟨path, params, answer, member, grants⟩ := granted
  rcases List.mem_append.mp member with earlier | last
  · exact .inl ⟨path, params, answer, earlier, grants⟩
  · exact .inr ⟨path, params, answer, last, grants⟩

/-- An answer that sets, sends and starts nothing. -/
theorem Renewal.quiet (renewal : Renewal world (some (trace, .call request next)))
    (renewer : after.renewer = world.renewer) (firstLogin : after.firstLogin = world.firstLogin)
    (same : after.watchers = world.watchers)
    (connection : after.connection.token = world.connection.token)
    (alone : Pristine [⟨request, reply⟩])
    (grants : ∀ auth, auth ∈ world.granted ∨ GrantedIn [⟨request, reply⟩] auth →
      auth ∈ after.granted) :
    Renewal after (some (trace ++ [⟨request, reply⟩], next reply)) := by
  cases renewal with
  | running runs renews first watchers current renewable granted =>
      refine .running (renewer.trans runs) (renews.2 reply) ?_ ?_ (fun token set => ?_)
        (fun auth watched => ?_) (fun auth member => ?_)
      · rw [firstLogin, first, sentOf_snoc, alone.unsent, Option.or_none]
      · rw [same, watchers, watchOf_snoc, alone.unwatched, Option.or_none]
      · rw [tokenOf_snoc, alone.token, Option.or_none] at set
        exact (current token set).imp_left connection.trans
      · rw [watchOf_snoc, alone.unwatched, Option.or_none] at watched
        rw [connection]
        exact renewable auth watched
      · exact grants auth (member.of_snoc.imp_left (granted auth))

/-- One more answer brings the renewal to its next stage. -/
theorem Renewal.answer (renewal : Renewal world (some (trace, .call request next)))
    (answered : Answers world request reply after) :
    Renewal after (some (trace ++ [⟨request, reply⟩], next reply)) := by
  have self := renewal
  cases renewal with
  | running runs renews first watchers current renewable granted =>
      obtain ⟨asks, rest⟩ := renews
      cases request with
      | readFile | newLifetimeWatcher =>
          cases answered
          refine self.quiet rfl rfl rfl rfl ⟨rfl, rfl, rfl⟩ ?_
          rintro auth (member | ⟨path, params, answer, member, -⟩)
          · exact member
          · cases List.mem_singleton.mp member
      | setNamespace =>
          cases answered
          refine self.quiet rfl rfl rfl rfl ⟨rfl, rfl, rfl⟩ ?_
          rintro auth (member | ⟨path, params, answer, member, -⟩)
          · exact member
          · cases List.mem_singleton.mp member
      | write path params =>
          cases answered
          refine self.quiet rfl rfl rfl rfl ⟨rfl, rfl, rfl⟩ ?_
          rintro auth (member | ⟨path, params, answer, member, grants⟩)
          · exact List.mem_append_left _ member
          · cases List.mem_singleton.mp member
            refine List.mem_append_right _ ?_
            rw [grants]
            exact .head _
      | setToken token =>
          cases answered
          obtain ⟨pristine, nonempty, -⟩ := asks
          refine .running runs (rest reply) ?_ ?_ (fun other set => ?_) (fun auth watched => ?_)
            (fun auth member => ?_)
          · rw [pristine.unsent] at first
            rw [sentOf_snoc, pristine.unsent]
            exact first
          · rw [pristine.unwatched] at watchers
            rw [watchOf_snoc, pristine.unwatched]
            exact watchers
          · rw [tokenOf_snoc, pristine.token] at set
            cases set
            exact ⟨rfl, nonempty⟩
          · rw [watchOf_snoc, pristine.unwatched] at watched
            cases watched
          · refine member.of_snoc.elim (granted auth) ?_
            rintro ⟨path, params, answer, member, -⟩
            cases List.mem_singleton.mp member
      | send err =>
          obtain ⟨-, rfl⟩ := answered
          obtain ⟨rfl, unsent, unwatched, -⟩ := asks
          refine .running runs (rest reply) ?_ ?_ (fun token set => ?_) (fun auth watched => ?_)
            (fun auth member => ?_)
          · rw [sentOf_snoc, unsent]
            rfl
          · rw [unwatched] at watchers
            rw [watchOf_snoc, unwatched]
            exact watchers
          · rw [tokenOf_snoc] at set
            exact current token ((Option.or_none ..).symm.trans set)
          · rw [watchOf_snoc, unwatched] at watched
            cases watched
          · refine member.of_snoc.elim (granted auth) ?_
            rintro ⟨path, params, answer, member, -⟩
            cases List.mem_singleton.mp member
      | startWatcher auth =>
          cases answered
          obtain ⟨loggedIn, renewal⟩ := asks
          have token := loggedIn.token
          refine .running runs (rest reply) ?_ ?_ (fun token set => ?_) (fun other watched => ?_)
            (fun auth member => ?_)
          · rw [sentOf_snoc]
            exact first.trans (by rw [show sentOf [⟨.startWatcher auth, reply⟩] = none from rfl,
              Option.or_none])
          · rw [loggedIn.unwatched] at watchers
            rw [watchOf_snoc, loggedIn.unwatched]
            exact congrArg (auth :: ·) watchers
          · rw [tokenOf_snoc] at set
            exact current _ ((Option.or_none ..).symm.trans set)
          · rw [watchOf_snoc, loggedIn.unwatched] at watched
            cases watched
            exact ⟨(current _ token).1.symm, renewal⟩
          · refine member.of_snoc.elim (granted auth) ?_
            rintro ⟨path, params, answer, member, -⟩
            cases List.mem_singleton.mp member
      | _ => exact absurd asks id

/-- The first login is reported while the creation waits for it. -/
theorem Creation.renewal {activity : Option (VaultTrace × VaultProg Unit)}
    (creation : Creation world activity)
    (renewal : Renewal world (some (trace, .call request next)))
    (answered : Answers world request reply after) : Creation after activity := by
  cases renewal with
  | running runs renews first =>
      obtain ⟨asks, -⟩ := renews
      have spawned : world.renewer ≠ .absent := by
        rw [runs]
        exact fun absurd => by cases absurd
      cases request with
      | readFile | newLifetimeWatcher =>
          cases answered
          exact creation
      | setNamespace | write | setToken | startWatcher =>
          cases answered
          exact creation.aside rfl ⟨rfl, rfl, rfl, rfl, rfl, Iff.rfl⟩
      | send err =>
          obtain ⟨-, rfl⟩ := answered
          obtain ⟨rfl, unsent, -⟩ := asks
          have none : world.firstLogin = none := first.trans unsent
          have unsettled : ¬ Settled world := by
            rintro (⟨-, -, -, first⟩ | ⟨-, -, unspawned⟩ | ⟨-, -, -, first⟩)
            · cases none.symm.trans first
            · exact spawned unspawned.renewer
            · cases none.symm.trans first
          cases creation with
          | pending _ _ unspawned => exact absurd unspawned.renewer spawned
          | finished _ settled => exact absurd settled unsettled
          | @running earlier _ once creates phase =>
              refine .running once creates ?_
              generalize stageOf earlier = stage at phase
              cases stage with
              | preparing => exact absurd phase.2.renewer spawned
              | waiting =>
                  obtain ⟨unset, once, -⟩ := phase
                  exact ⟨⟨unset.client, unset.error⟩, ⟨spawned, once.spawned⟩, rfl⟩
              | received result => cases none.symm.trans phase.2.2
              | stored => exact absurd phase unsettled
      | _ => exact absurd asks id

/-- The renewal uses only tokens that were granted to it. -/
theorem Tokens.renewal (tokens : Tokens world)
    (renewal : Renewal world (some (trace, .call request next)))
    (answered : Answers world request reply after) : Tokens after := by
  cases renewal with
  | running runs renews first watchers current renewable granted =>
      obtain ⟨asks, -⟩ := renews
      cases request with
      | readFile | newLifetimeWatcher =>
          cases answered
          exact tokens
      | setNamespace | startWatcher =>
          cases answered
          exact tokens.congr rfl rfl rfl
      | write path params =>
          cases answered
          refine ⟨fun nonempty => ?_, tokens.present⟩
          obtain ⟨auth, member, same⟩ := tokens.granted nonempty
          exact ⟨auth, List.mem_append_left _ member, same⟩
      | setToken token =>
          cases answered
          obtain ⟨-, nonempty, auth, grantedIn, same⟩ := asks
          exact ⟨fun _ => ⟨auth, granted auth grantedIn, same⟩, fun _ => nonempty⟩
      | send err =>
          obtain ⟨-, rfl⟩ := answered
          obtain ⟨rfl, -, -, set⟩ := asks
          refine ⟨tokens.granted, fun success => ?_⟩
          obtain ⟨token, present⟩ := Option.ne_none_iff_exists'.mp (set (Option.some.inj success))
          obtain ⟨rfl, nonempty⟩ := current token present
          exact nonempty
      | _ => exact absurd asks id

end Renewer


/-- A caller changes nothing, except that the first one starts the creation. -/
theorem consulting_cases {trace : VaultTrace} {request : VaultRequest} {reply : request.Answer}
    (consulting : Consulting trace request) (answered : Answers world request reply after) :
    after = world ∨ world.once = .notStarted ∧ after = { world with once := .started } := by
  cases request with
  | read | iterationOrder => exact .inl answered
  | awaitOnce | loadClient | loadError => exact .inl answered.2
  | enterOnce =>
      by_cases first : world.once = .notStarted
      · refine .inr ⟨first, answered.trans ?_⟩
        rw [if_pos first]
      · refine .inl (answered.trans ?_)
        rw [if_neg first]
  | _ => exact absurd consulting id

/-- The creation, the goroutine and the token. -/
structure Sound {κ : Type}
    (config : System.Config (fun _ : Member κ => VaultRequest.Answer) Member.Value World) :
    Prop where
  creation : Creation config.world (config.activities .initializer)
  renewal : Renewal config.world (config.activities .renewer)
  tokens : Tokens config.world

variable {κ : Type} [DecidableEq κ]
  {config next : System.Config (fun _ : Member κ => VaultRequest.Answer) Member.Value World}

/-- A new iteration of the loop. -/
theorem Renewal.launch {sent : Bool} (renewal : Renewal world none)
    (ready : world.renewer = .ready sent) :
    Renewal { world with renewer := .running sent } (some ([], renewToken env sent)) := by
  have begin : ∀ {first : Option (Option GoError)}, world.firstLogin = first →
      first = (if sent then some none else none) → world.watchers = [] →
      Renewal { world with renewer := .running sent } (some ([], renewToken env sent)) := by
    intro first known expected watchers
    refine .running rfl (renewToken_renews env sent) (known.trans expected) watchers
      (fun _ absurd => by cases absurd) (fun _ absurd => by cases absurd) ?_
    rintro auth ⟨path, params, reply, member, -⟩
    cases member
  cases renewal with
  | unsent here first watchers =>
      rcases here with here | here
      · cases here.symm.trans ready
      · cases here.symm.trans ready
        exact begin first rfl watchers
  | resting here first watchers =>
      rcases here with here | here
      · cases here.symm.trans ready
        exact begin first rfl watchers
      · cases here.symm.trans ready
  | watching here => cases here.symm.trans ready
  | returned here => cases here.symm.trans ready

/-- The iteration has ended. -/
theorem Renewal.retire {trace : VaultTrace} {next : Next}
    (renewal : Renewal world (some (trace, .done next))) :
    Renewal { world with renewer := next.renewer } none := by
  cases renewal with
  | @running sent _ _ runs renewed first watchers current renewable =>
      have reported : (sent = false → sentOf trace = some none) →
          world.firstLogin = some none := by
        intro sentFirst
        cases sent with
        | true => exact first
        | false => exact first.trans (sentFirst rfl)
      cases next with
      | watch auth =>
          obtain ⟨-, watched, -, sentFirst⟩ := renewed
          obtain ⟨current, renewable⟩ := renewable auth watched
          exact .watching rfl (reported sentFirst) (watchers.trans (by rw [watched]; rfl)) current
            renewable
      | again =>
          obtain ⟨unwatched, sentFirst⟩ := renewed
          exact .resting (.inr rfl) (reported sentFirst) (watchers.trans (by rw [unwatched]; rfl))
      | stop =>
          obtain ⟨unwatched, rfl, err, failed⟩ := renewed
          exact .returned rfl (first.trans failed) (watchers.trans (by rw [unwatched]; rfl))

variable {activities : (i : Member κ) → Option (VaultTrace × VaultProg i.Value)} {i : Member κ}

/-- Launching a goroutine keeps the invariant. -/
theorem Sound.launch {program : VaultProg i.Value} (sound : Sound ⟨world, activities⟩)
    (idle : activities i = none) (launched : Launches env i world program after) :
    Sound ⟨after, Function.update activities i (some ([], program))⟩ := by
  obtain ⟨creation, renewal, tokens⟩ := sound
  cases i with
  | initializer =>
      obtain ⟨once, rfl, rfl⟩ := launched
      refine ⟨?_, renewal.congr rfl rfl rfl rfl rfl, tokens.congr rfl rfl rfl⟩
      simp only [Function.update_self]
      simp only [idle] at creation
      cases creation with
      | pending _ unset unspawned =>
          exact .running rfl (initializeClient_creates env)
            (Phase.aside ⟨unset, unspawned⟩ ⟨rfl, rfl, rfl, rfl, rfl, Iff.rfl⟩)
      | finished finished => cases once.symm.trans finished
  | renewer =>
      obtain ⟨sent, ready, rfl, rfl⟩ := launched
      refine ⟨?_, ?_, tokens.congr rfl rfl rfl⟩
      · exact creation.aside rfl ⟨rfl, rfl, rfl, rfl, rfl, by simp [ready]⟩
      · simp only [Function.update_self]
        simp only [idle] at renewal
        exact renewal.launch ready
  | caller i =>
      obtain ⟨-, rfl⟩ := launched
      exact ⟨creation, renewal, tokens⟩

/-- So does the end of a goroutine. -/
theorem Sound.retire {trace : VaultTrace} {program : VaultProg i.Value}
    (sound : Sound ⟨world, activities⟩) (running : activities i = some (trace, program))
    (retired : Retires i world trace program after) :
    Sound ⟨after, Function.update activities i none⟩ := by
  obtain ⟨creation, renewal, tokens⟩ := sound
  cases i with
  | initializer =>
      obtain ⟨rfl, rfl⟩ := retired
      refine ⟨?_, renewal.congr rfl rfl rfl rfl rfl, tokens.congr rfl rfl rfl⟩
      simp only [Function.update_self]
      simp only [running] at creation
      cases creation with
      | running _ stored phase =>
          rw [show stageOf trace = .stored from stored] at phase
          exact .finished rfl (Settled.aside phase ⟨rfl, rfl, rfl, rfl, rfl, Iff.rfl⟩)
  | renewer =>
      obtain ⟨next, rfl, rfl⟩ := retired
      simp only [running] at renewal
      refine ⟨?_, ?_, tokens.congr rfl rfl rfl⟩
      · refine creation.aside rfl ⟨rfl, rfl, rfl, rfl, rfl, ?_⟩
        cases renewal with
        | running runs => cases next <;> simp [runs, Next.renewer]
      · simp only [Function.update_self]
        exact renewal.retire
  | caller i =>
      obtain ⟨-, rfl⟩ := retired
      exact ⟨creation, renewal, tokens⟩

/-- So does every answer, to whichever goroutine it is given. -/
theorem Sound.answer {trace : VaultTrace} {request : VaultRequest} {reply : request.Answer}
    {next : request.Answer → VaultProg i.Value} (sound : Sound ⟨world, activities⟩)
    (running : activities i = some (trace, .call request next))
    (consulting : ∀ j, i = .caller j → Consulting trace request)
    (answered : Answers world request reply after) :
    Sound ⟨after,
      Function.update activities i (some (trace ++ [⟨request, reply⟩], next reply))⟩ := by
  obtain ⟨creation, renewal, tokens⟩ := sound
  cases i with
  | initializer =>
      simp only [running] at creation
      obtain ⟨renewal, tokens⟩ := renewal.creation tokens creation answered
      refine ⟨?_, renewal, tokens⟩
      simp only [Function.update_self]
      exact creation.answer answered
  | renewer =>
      simp only [running] at renewal
      refine ⟨creation.renewal renewal answered, ?_, tokens.renewal renewal answered⟩
      simp only [Function.update_self]
      exact renewal.answer answered
  | caller j =>
      rcases consulting_cases (consulting j rfl) answered with rfl | ⟨first, rfl⟩
      · exact ⟨creation, renewal, tokens⟩
      refine ⟨?_, renewal.congr rfl rfl rfl rfl rfl, tokens.congr rfl rfl rfl⟩
      change Creation world (activities .initializer) at creation
      change Creation _ (activities .initializer)
      generalize activities .initializer = activity at creation
      cases creation with
      | pending _ unset unspawned =>
          have aside : Aside world { world with once := .started } :=
            ⟨rfl, rfl, rfl, rfl, rfl, Iff.rfl⟩
          exact .pending (.inr rfl) (unset.aside aside) (unspawned.aside aside)
      | running once => cases first.symm.trans once
      | finished once => cases first.symm.trans once

/-- What a caller asks for at any time. -/
theorem reachable_consulting (reachable : (goroutines env κ).Reachable {} config) (j : κ) :
    ∀ activity, config.activities (.caller j) = some activity →
      activity.2.Guarded Consulting (fun _ _ => True) activity.1 := by
  refine reachable.guarded ?_
  rintro world program after ⟨⟨path, rfl⟩, -⟩
  exact credentialsAt_consulting path

/-- The invariant holds in every reachable state. -/
theorem reachable_sound (reachable : (goroutines env κ).Reachable {} config) : Sound config := by
  induction reachable with
  | refl =>
      refine ⟨.pending (.inl rfl) ⟨rfl, rfl⟩ ⟨rfl, rfl, rfl, rfl⟩, .unsent (.inl rfl) rfl rfl,
        fun absurd => absurd.elim rfl, fun absurd => by cases absurd⟩
  | tail earlier step ih =>
      cases step with
      | foreign move =>
          obtain ⟨same, aside⟩ := move.aside
          exact ⟨ih.creation.aside same aside, ih.renewal.waits move, ih.tokens.waits move⟩
      | launch i idle launched => exact ih.launch idle launched
      | retire i running retired => exact ih.retire running retired
      | answer i running answered =>
          refine ih.answer running ?_ answered
          rintro j rfl
          exact (reachable_consulting earlier j _ running).1

end Steps

end TopologyOperator.Vault
