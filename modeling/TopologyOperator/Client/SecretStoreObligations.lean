import TopologyOperator.Client.SecretStore

/-!
# What the goroutines of the secret store client ask for

The order in which the creation of the client, one iteration of `renewToken` and a caller
make their requests, as guards on the events before each of them.
-/

namespace TopologyOperator.Vault

open Dialogue Program

/-- How far the creation of the client is. -/
inductive Stage where
  | preparing
  | waiting
  | received (result : Option GoError)
  | stored
  deriving DecidableEq

def Stage.advance (stage : Stage) : Event VaultRequest.Answer → Stage
  | ⟨.goRenewToken, _⟩ => .waiting
  | ⟨.receive, result⟩ => .received result
  | ⟨.storeClient, _⟩ | ⟨.storeError _, _⟩ => .stored
  | _ => stage

def stageOf (trace : VaultTrace) : Stage := trace.foldl Stage.advance .preparing

@[simp] theorem stageOf_snoc (trace : VaultTrace) (event : Event VaultRequest.Answer) :
    stageOf (trace ++ [event]) = (stageOf trace).advance event := by
  simp [stageOf]

section Creation

/-- What the creation asks for at which stage. -/
def Creates (trace : VaultTrace) : VaultRequest → Prop
  | .systemCertPool | .newClient | .goRenewToken => stageOf trace = .preparing
  | .receive => stageOf trace = .waiting
  | .storeError _ => stageOf trace = .preparing ∨ ∃ err, stageOf trace = .received (some err)
  | .storeClient => stageOf trace = .received none
  | _ => False

variable {trace : VaultTrace}

/-- An error is stored before the creation has a client, or after the login has failed. -/
theorem storeError_creates {err : GoError}
    (stage : stageOf trace = .preparing ∨ ∃ err, stageOf trace = .received (some err)) :
    (askVault (.storeError err)).Guarded Creates (fun _ later => stageOf later = .stored) trace :=
  ⟨stage, fun _ => stageOf_snoc ..⟩

/-- Loading certificates is part of the preparation. -/
theorem trustedCerts_creates {vaultURL : String} (stage : stageOf trace = .preparing) :
    (trustedCerts vaultURL).Guarded Creates (fun _ later => stageOf later = .preparing) trace := by
  unfold trustedCerts
  split
  · exact ⟨stage, fun _ => (stageOf_snoc ..).trans stage⟩
  · exact stage

/-- The creation ends with a client or an error. -/
theorem initializeClient_creates (env : ProcessEnv) :
    (initializeClient env).Guarded Creates (fun _ later => stageOf later = .stored) [] := by
  unfold initializeClient
  split
  · exact storeError_creates (.inl rfl)
  refine (trustedCerts_creates rfl).bind fun certificates trusted stage => ?_
  split
  · exact storeError_creates (.inl stage)
  refine ⟨stage, fun created => ?_⟩
  have created' : stageOf (trusted ++ [⟨.newClient, created⟩]) = .preparing :=
    (stageOf_snoc ..).trans stage
  rcases created with err | ⟨⟩
  · exact storeError_creates (.inl created')
  refine ⟨created', fun _ => ⟨stageOf_snoc .., fun result => ?_⟩⟩
  rcases result with _ | err
  · exact ⟨stageOf_snoc .., fun _ => stageOf_snoc ..⟩
  · exact storeError_creates (.inr ⟨err, stageOf_snoc ..⟩)

end Creation

section Renewal

/-- The token that an iteration of `renewToken` has set. -/
def tokenOf (trace : VaultTrace) : Option String := trace.findSome? fun
  | ⟨.setToken token, _⟩ => some token
  | _ => none

/-- What it has sent. -/
def sentOf (trace : VaultTrace) : Option (Option GoError) := trace.findSome? fun
  | ⟨.send err, _⟩ => some err
  | _ => none

/-- The watcher that it has started. -/
def watchOf (trace : VaultTrace) : Option SecretAuth := trace.findSome? fun
  | ⟨.startWatcher auth, _⟩ => some auth
  | _ => none

/-- Vault has granted a token in answer to a request of the iteration. -/
def GrantedIn (trace : VaultTrace) (auth : SecretAuth) : Prop :=
  ∃ path params reply, (⟨.write path params, reply⟩ : Event VaultRequest.Answer) ∈ trace ∧
    grants reply = some auth

/-- The iteration has logged in, and has reported so if it is the first one. -/
structure LoggedIn (sent : Bool) (trace : VaultTrace) (auth : SecretAuth) : Prop where
  token : tokenOf trace = some auth.clientToken
  reported : sent = false → sentOf trace = some none
  unwatched : watchOf trace = none

/-- Nothing was set, sent or started. -/
structure Pristine (trace : VaultTrace) : Prop where
  token : tokenOf trace = none
  unsent : sentOf trace = none
  unwatched : watchOf trace = none

/-- What an iteration asks for. -/
def Renews (sent : Bool) (trace : VaultTrace) : VaultRequest → Prop
  | .readFile _ | .setNamespace _ | .write .. => Pristine trace
  | .setToken token => Pristine trace ∧ token ≠ "" ∧
      ∃ auth, GrantedIn trace auth ∧ auth.clientToken = token
  | .send err => sent = false ∧ sentOf trace = none ∧ watchOf trace = none ∧
      (err = none → tokenOf trace ≠ none)
  | .newLifetimeWatcher auth => LoggedIn sent trace auth
  | .startWatcher auth => LoggedIn sent trace auth ∧ auth.renewable = true
  | _ => False

/-- How an iteration ends. -/
def Renewed (sent : Bool) (next : Next) (trace : VaultTrace) : Prop :=
  match next with
  | .watch auth => tokenOf trace = some auth.clientToken ∧ watchOf trace = some auth ∧
      auth.renewable = true ∧ (sent = false → sentOf trace = some none)
  | .again => watchOf trace = none ∧ (sent = false → sentOf trace = some none)
  | .stop => watchOf trace = none ∧ sent = false ∧ ∃ err, sentOf trace = some (some err)

variable {sent : Bool} {trace : VaultTrace}

@[simp] theorem tokenOf_snoc (event : Event VaultRequest.Answer) :
    tokenOf (trace ++ [event]) = (tokenOf trace).or (tokenOf [event]) :=
  List.findSome?_append

@[simp] theorem sentOf_snoc (event : Event VaultRequest.Answer) :
    sentOf (trace ++ [event]) = (sentOf trace).or (sentOf [event]) :=
  List.findSome?_append

@[simp] theorem watchOf_snoc (event : Event VaultRequest.Answer) :
    watchOf (trace ++ [event]) = (watchOf trace).or (watchOf [event]) :=
  List.findSome?_append

theorem Pristine.snoc (pristine : Pristine trace) {event : Event VaultRequest.Answer}
    (alone : Pristine [event]) : Pristine (trace ++ [event]) where
  token := by simp [pristine.token, alone.token]
  unsent := by simp [pristine.unsent, alone.unsent]
  unwatched := by simp [pristine.unwatched, alone.unwatched]

/-- How a login ends. -/
def LoginEnds (trace : VaultTrace) : Except GoError SecretAuth → Prop
  | .error _ => Pristine trace
  | .ok auth => tokenOf trace = some auth.clientToken ∧ sentOf trace = none ∧ watchOf trace = none

/-- The answer to a login is checked before its token is set. -/
theorem adoptToken_renews (pristine : Pristine trace) {secret : Option VaultSecret}
    (granted : ∀ auth, clientAuth secret = some auth → GrantedIn trace auth) :
    (adoptToken secret).Guarded (Renews sent) (fun outcome later => LoginEnds later outcome)
      trace := by
  unfold adoptToken
  cases checked : clientAuth secret with
  | none => exact pristine
  | some auth =>
      have nonempty : auth.clientToken ≠ "" := by
        obtain ⟨found, -, rest⟩ := Option.bind_eq_some_iff.mp checked
        obtain ⟨other, -, rest⟩ := Option.bind_eq_some_iff.mp rest
        split at rest
        · cases rest
        · next nonempty =>
            cases rest
            exact nonempty
      refine ⟨⟨pristine, nonempty, auth, granted auth checked, rfl⟩, fun _ => ⟨?_, ?_, ?_⟩⟩
      · rw [tokenOf_snoc, pristine.token]
        rfl
      · rw [sentOf_snoc, pristine.unsent]
        rfl
      · rw [watchOf_snoc, pristine.unwatched]
        rfl

/-- The answer of Vault to a login decides how it ends. -/
theorem authenticate_renews (env : ProcessEnv) (jwt : String) (pristine : Pristine trace) :
    (authenticate env jwt).Guarded (Renews sent) (fun outcome later => LoginEnds later outcome)
      trace := by
  refine ⟨pristine, fun reply => ?_⟩
  have written : Pristine (trace ++ [⟨.write _ _, reply⟩]) := pristine.snoc ⟨rfl, rfl, rfl⟩
  rcases reply with err | secret
  · exact written
  · exact adoptToken_renews written fun auth checked =>
      ⟨_, _, _, List.mem_append_right _ (.head _), checked⟩

/-- A login sets nothing before Vault has granted a token. -/
theorem login_renews (env : ProcessEnv) (pristine : Pristine trace) :
    (login env).Guarded (Renews sent) (fun outcome later => LoginEnds later outcome) trace := by
  refine ⟨pristine, fun token => ?_⟩
  have read : Pristine (trace ++ [⟨.readFile tokenPath, token⟩]) := pristine.snoc ⟨rfl, rfl, rfl⟩
  rcases token with err | jwt
  · exact read
  have named : (setVaultNamespace env).Guarded (Renews sent) (fun _ later => Pristine later)
      (trace ++ [⟨.readFile tokenPath, .ok jwt⟩]) := by
    unfold setVaultNamespace
    split
    · exact ⟨read, fun _ => read.snoc ⟨rfl, rfl, rfl⟩⟩
    · exact read
  exact named.bind fun _ later pristine => authenticate_renews env jwt pristine

/-- The token of the login is the one that is kept alive. -/
theorem manageTokenLifecycle_renews {auth : SecretAuth} (loggedIn : LoggedIn sent trace auth) :
    (manageTokenLifecycle (some auth)).Guarded (Renews sent)
      (fun outcome later => Renewed sent (logged outcome) later) trace := by
  rw [manageTokenLifecycle]
  by_cases renewable : auth.renewable = true
  · rw [if_pos renewable]
    refine ⟨loggedIn, fun reply => ?_⟩
    have created : LoggedIn sent (trace ++ [⟨.newLifetimeWatcher auth, reply⟩]) auth := by
      refine ⟨?_, fun first => ?_, ?_⟩
      · rw [tokenOf_snoc, loggedIn.token]
        rfl
      · rw [sentOf_snoc, loggedIn.reported first]
        rfl
      · rw [watchOf_snoc, loggedIn.unwatched]
        rfl
    rcases reply with err | ⟨⟩
    · exact ⟨created.unwatched, created.reported⟩
    refine ⟨⟨created, renewable⟩, fun _ => ⟨?_, ?_, renewable, fun first => ?_⟩⟩
    · rw [tokenOf_snoc, created.token]
      rfl
    · rw [watchOf_snoc, created.unwatched]
      rfl
    · rw [sentOf_snoc, created.reported first]
      rfl
  · rw [if_neg renewable]
    exact ⟨loggedIn.unwatched, loggedIn.reported⟩

/-- One iteration of the goroutine. -/
theorem renewToken_renews (env : ProcessEnv) (sent : Bool) :
    (renewToken env sent).Guarded (Renews sent) (Renewed sent) [] := by
  refine (login_renews env ⟨rfl, rfl, rfl⟩).bind fun outcome later ends => ?_
  cases sent with
  | true =>
      rcases outcome with err | auth
      · exact ⟨ends.unwatched, fun absurd => by cases absurd⟩
      · have loggedIn : LoggedIn true later auth :=
          ⟨ends.1, (fun absurd => by cases absurd), ends.2.2⟩
        exact (manageTokenLifecycle_renews loggedIn).bind fun outcome later renewed => renewed
  | false =>
      rcases outcome with err | auth
      · refine ⟨⟨rfl, ends.unsent, ends.unwatched, fun absurd => by cases absurd⟩, fun _ => ?_⟩
        refine ⟨?_, rfl, err, ?_⟩
        · rw [watchOf_snoc, ends.unwatched]
          rfl
        · rw [sentOf_snoc, ends.unsent]
          rfl
      · obtain ⟨token, unsent, unwatched⟩ := ends
        have set : tokenOf later ≠ none := by
          rw [token]
          exact Option.some_ne_none _
        refine ⟨⟨rfl, unsent, unwatched, fun _ => set⟩, fun _ => ?_⟩
        have loggedIn : LoggedIn false (later ++ [⟨.send none, ()⟩]) auth := by
          refine ⟨?_, fun _ => ?_, ?_⟩
          · rw [tokenOf_snoc, token]
            rfl
          · rw [sentOf_snoc, unsent]
            rfl
          · rw [watchOf_snoc, unwatched]
            rfl
        exact (manageTokenLifecycle_renews loggedIn).bind fun outcome later renewed => renewed

end Renewal

section Callers

/-- What a caller asks for. The package variables are read after the creation has ended,
and Vault is asked if there is a client and no error. -/
def Consulting (trace : VaultTrace) : VaultRequest → Prop
  | .loadClient | .loadError => (⟨.awaitOnce, ()⟩ : Event VaultRequest.Answer) ∈ trace
  | .read _ => (⟨.loadClient, true⟩ : Event VaultRequest.Answer) ∈ trace ∧
      (⟨.loadError, none⟩ : Event VaultRequest.Answer) ∈ trace
  | .awaitOnce => (⟨.enterOnce, ()⟩ : Event VaultRequest.Answer) ∈ trace
  | .enterOnce | .iterationOrder _ => True
  | _ => False

/-- Credentials are read only with a client and without an error. -/
theorem readCredentials_consulting (path : String) {trace : VaultTrace}
    (client : (⟨.loadClient, true⟩ : Event VaultRequest.Answer) ∈ trace)
    (error : (⟨.loadError, none⟩ : Event VaultRequest.Answer) ∈ trace) :
    (readCredentials path).Guarded Consulting (fun _ _ => True) trace := by
  refine ⟨⟨client, error⟩, fun reply => ?_⟩
  rcases reply with err | _ | secret
  · trivial
  · trivial
  change Guarded _ _ (if secret.warnings ≠ [] then _ else _) _
  split
  · trivial
  split
  · trivial
  · trivial
  · split
    · exact ⟨trivial, fun _ => trivial⟩
    · exact ⟨trivial, fun _ => trivial⟩
    · trivial
    · trivial

/-- A caller waits for the creation and then reads the package variables. -/
theorem credentialsAt_consulting (path : String) :
    (credentialsAt path).Guarded Consulting (fun _ _ => True) [] := by
  refine ⟨trivial, fun _ => ⟨.head _, fun _ => ⟨.tail _ (.head _), fun client =>
    ⟨.tail _ (.head _), fun err => ?_⟩⟩⟩⟩
  rcases err with _ | err
  · cases client with
    | true =>
        refine readCredentials_consulting path ?_ (List.mem_append_right _ (.head _))
        exact List.mem_append_left _ (List.mem_append_right _ (.head _))
    | false => trivial
  · trivial

end Callers

end TopologyOperator.Vault
