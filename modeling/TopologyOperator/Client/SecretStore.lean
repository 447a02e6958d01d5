import TopologyOperator.Client.VaultReader
import TopologyOperator.Dialogue.Parallel

/-!
# The goroutines of the secret store client

Any number of reconciles read credentials at the same time. The first of them starts the
creation of the client, all of them wait until it has ended. The creation starts the
goroutine of `renewToken`, which logs in and reports the outcome through a channel with
room for one value, and then goes on for as long as the operator runs.

The world holds what they share. Beside the package variables, the channel and the state
of the Vault client it records the tokens that Vault has granted and the outcome of the
first login.
-/

namespace TopologyOperator.Vault

open Dialogue

/-- The function in `createSecretStoreClientOnce` has not been started, is about to run,
is running, or has returned. -/
inductive Once where
  | notStarted
  | started
  | running
  | finished
  deriving DecidableEq

/-- Where the goroutine of `renewToken` is. Its loop knows whether the outcome of the
first login was sent. -/
inductive Renewer where
  | absent
  | ready (sentFirstLoginAttemptErr : Bool)
  | running (sentFirstLoginAttemptErr : Bool)
  | watching (auth : SecretAuth)
  | sleeping
  | returned
  deriving DecidableEq

/-- The state of the `vault.Client`. -/
structure Connection where
  ns : String := ""
  token : String := ""

structure World where
  once : Once := .notStarted
  secretClient : Bool := false
  creationError : Option GoError := none
  connection : Connection := {}
  /-- `firstLoginAttemptResultCh` -/
  channel : Option (Option GoError) := none
  renewer : Renewer := .absent
  /-- The lifetime watchers that are running. -/
  watchers : List SecretAuth := []
  /-- How often `renewToken` was started, what it has sent, and the logins that Vault
  has answered with a token. -/
  spawned : Nat := 0
  firstLogin : Option (Option GoError) := none
  granted : List SecretAuth := []

/-- The token that an answer of Vault grants. -/
def grants : Except String (Option VaultSecret) → Option SecretAuth
  | .error _ => none
  | .ok secret => clientAuth secret

/-- How requests are answered. A request that has to wait has no answer yet. -/
def Answers (world : World) : (request : VaultRequest) → request.Answer → World → Prop
  | .read _, _, after | .readFile _, _, after | .systemCertPool, _, after | .newClient, _, after
  | .newLifetimeWatcher _, _, after | .iterationOrder _, _, after => after = world
  | .write .., reply, after =>
      after = { world with granted := world.granted ++ (grants reply).toList }
  | .setNamespace ns, _, after =>
      after = { world with connection := { world.connection with ns := ns } }
  | .setToken token, _, after =>
      after = { world with connection := { world.connection with token := token } }
  | .startWatcher auth, _, after => after = { world with watchers := auth :: world.watchers }
  | .goRenewToken, _, after =>
      after = { world with renewer := .ready false, spawned := world.spawned + 1 }
  | .send err, _, after => world.channel = none ∧
      after = { world with channel := some err, firstLogin := some err }
  | .receive, reply, after => world.channel = some reply ∧ after = { world with channel := none }
  | .enterOnce, _, after => after =
      { world with once := if world.once = .notStarted then .started else world.once }
  | .awaitOnce, _, after => world.once = .finished ∧ after = world
  | .storeClient, _, after => after = { world with secretClient := true }
  | .storeError err, _, after => after = { world with creationError := some err }
  | .loadClient, reply, after => reply = world.secretClient ∧ after = world
  | .loadError, reply, after => reply = world.creationError ∧ after = world

inductive Member (κ : Type) where
  | initializer
  | renewer
  | caller (i : κ)
  deriving DecidableEq

/-- What the programs of the goroutines return. -/
@[reducible] def Member.Value {κ : Type} : Member κ → Type
  | .initializer => Unit
  | .renewer => Next
  | .caller _ => Except GoError (String × String)

/-- The loop of `manageTokenLifecycle` and the pause after it. -/
inductive Waits (world : World) : World → Prop where
  | renewed (auth : SecretAuth) (watching : world.renewer = .watching auth) : Waits world world
  | ended (auth : SecretAuth) (watching : world.renewer = .watching auth) :
      Waits world { world with renewer := .sleeping, watchers := world.watchers.erase auth }
  | slept (sleeping : world.renewer = .sleeping) : Waits world { world with renewer := .ready true }

/-- Where the goroutine goes on after an iteration. -/
def Next.renewer : Next → Renewer
  | .watch auth => .watching auth
  | .again => .sleeping
  | .stop => .returned

/-- When a goroutine begins to run a program. -/
def Launches (env : ProcessEnv) {κ : Type} :
    (i : Member κ) → World → VaultProg i.Value → World → Prop
  | .initializer, world, program, after => world.once = .started ∧
      program = initializeClient env ∧ after = { world with once := .running }
  | .renewer, world, program, after => ∃ sent, world.renewer = .ready sent ∧
      program = renewToken env sent ∧ after = { world with renewer := .running sent }
  | .caller _, world, program, after => (∃ path, program = credentialsAt path) ∧ after = world

/-- When it has run the program to its end. -/
def Retires {κ : Type} : (i : Member κ) → World → VaultTrace → VaultProg i.Value → World → Prop
  | .initializer, world, _, program, after =>
      program = .done () ∧ after = { world with once := .finished }
  | .renewer, world, _, program, after => ∃ next : Next,
      program = .done next ∧ after = { world with renewer := next.renewer }
  | .caller _, world, _, program, after => (∃ value, program = .done value) ∧ after = world

/-- The goroutines, side by side. -/
def goroutines (env : ProcessEnv) (κ : Type) :
    System (fun _ : Member κ => VaultRequest.Answer) Member.Value World where
  foreign := Waits
  answers _ := Answers
  launches := Launches env
  retires := Retires

end TopologyOperator.Vault
