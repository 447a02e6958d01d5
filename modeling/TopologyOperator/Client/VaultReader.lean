import TopologyOperator.Client.Request

/-!
# The client of the secret store

The part of the operator that logs in to Vault and reads credentials there. The first
caller of `GetSecretStoreClient` creates the client; the creation starts a goroutine that
logs in, reports the outcome of the first login through a channel and then keeps the
token alive, or logs in again, for as long as the operator runs.

Each function is a program whose requests go to Vault, to the file system and to what
the goroutines share: the package variables, the `sync.Once`, the channel and the state
of the Vault client. The loop of `renewToken` is cut at the points where it waits, into
`renewToken` for one iteration up to the loop that watches a token.
-/

namespace TopologyOperator.Vault

open Dialogue

/-- The environment variables that the client reads. One that is not set is empty. -/
structure ProcessEnv where
  vaultAddr : String
  operatorVaultNamespace : String := ""
  operatorVaultAuthPath : String := ""
  operatorVaultRole : String := ""

structure SecretAuth where
  clientToken : String
  renewable : Bool
  deriving DecidableEq

/-- The parts of a `vault.Secret` that the operator reads. -/
structure VaultSecret where
  warnings : List String := []
  data : Option Arguments := none
  auth : Option SecretAuth := none

inductive VaultRequest where
  /-- Vault, the file system and the certificates. -/
  | read (path : String)
  | write (path : String) (params : List (String × String))
  | readFile (path : String)
  | systemCertPool
  | newClient
  | newLifetimeWatcher (auth : SecretAuth)
  /-- The state of the Vault client, and the watchers that are running. -/
  | setNamespace (ns : String)
  | setToken (token : String)
  | startWatcher (auth : SecretAuth)
  /-- `go renewToken`, and the channel that it is given. -/
  | goRenewToken
  | send (err : Option GoError)
  | receive
  /-- `createSecretStoreClientOnce.Do`, which waits until the function has returned that
  the first call has started. -/
  | enterOnce
  | awaitOnce
  /-- The package variables `SecretClient` and `SecretClientCreationError`. -/
  | storeClient
  | storeError (err : GoError)
  | loadClient
  | loadError
  | iterationOrder (entries : Arguments)

namespace VaultRequest

@[reducible] def Answer : VaultRequest → Type
  | read _ | write .. => Except String (Option VaultSecret)
  | readFile _ => Except String String
  | systemCertPool | newClient | newLifetimeWatcher _ => Except String Unit
  | setNamespace _ | setToken _ | startWatcher _ | goRenewToken | send _ | enterOnce | awaitOnce
  | storeClient | storeError _ => Unit
  | receive | loadError => Option GoError
  | loadClient => Bool
  | iterationOrder entries => { order : Arguments // order.Perm entries }

end VaultRequest

abbrev VaultProg (α : Type) : Type := Program VaultRequest VaultRequest.Answer α

abbrev VaultTrace : Type := List (Event VaultRequest.Answer)

def askVault (request : VaultRequest) : VaultProg request.Answer := Program.request request

/-- The verb `%v` for a list of strings. -/
def formatStrings (strings : List String) : String := "[" ++ " ".intercalate strings ++ "]"

/-- The verb `%T` for a value of a decoded secret, whose numbers are kept as text. -/
def goType : Option Encoding.Json.Value → String
  | none | some .null => "<nil>"
  | some (.bool _) => "bool"
  | some (.number _) => "json.Number"
  | some (.string _) => "string"
  | some (.array _) => "[]interface {}"
  | some (.object _) => "map[string]interface {}"

def getValue (key : String) (data : Arguments) : Except GoError String :=
  match data.lookup key with
  | some (.string result) => .ok result
  | other => .error (.text ("expected " ++ key ++ " to be a string but is a " ++ goType other))

/-- The keys, in the order of an iteration. -/
def availableKeys (m : Arguments) : VaultProg (List String) := do
  let order ← askVault (.iterationOrder m)
  return order.1.map Prod.fst

/-- The checks of `ReadCredentials` on the data of a secret. -/
def extractCredentials (data : Arguments) : Except GoError (String × String) :=
  match getValue "username" data with
  | .error err => .error (.wrapped "unable to get username from Vault secret: " err "")
  | .ok username =>
      match getValue "password" data with
      | .error err => .error (.wrapped "unable to get password from Vault secret: " err "")
      | .ok password => .ok (username, password)

def readCredentials (path : String) : VaultProg (Except GoError (String × String)) := do
  match ← askVault (.read path) with
  | .error err => return .error (.wrapped "unable to read Vault secret: " (.text err) "")
  | .ok none => return .error (.text "returned Vault secret is nil")
  | .ok (some secret) =>
      if secret.warnings ≠ [] then
        return .error (.text
          ("warnings were returned from Vault: " ++ formatStrings secret.warnings))
      else
        match secret.data with
        | none => return .error (.text "returned Vault secret has a nil Data map")
        | some [] => return .error (.text "returned Vault secret has an empty Data map")
        | some data =>
            match data.lookup "data" with
            | none | some .null => do
                let keys ← availableKeys data
                return .error (.text ("returned Vault secret has a Data map that contains no " ++
                  "value for key 'data'. Available keys are: " ++ formatStrings keys))
            | some (.object members) => return extractCredentials members
            | some other =>
                return .error (.text ("data type assertion failed for Vault secret of type: " ++
                  goType (some other) ++ " read from path " ++ path))

def defaultAuthPath : String := "auth/kubernetes"

def defaultVaultRole : String := "messaging-topology-operator"

def tokenPath : String := "/var/run/secrets/kubernetes.io/serviceaccount/token"

def readServiceAccountToken : VaultProg (Except GoError String) := do
  match ← askVault (.readFile tokenPath) with
  | .error err =>
      return .error (.wrapped ("unable to read file " ++ tokenPath ++ ": ") (.text err) "")
  | .ok token => return .ok token

/-- `ReadVaultClientSecret` and `LoginToVault`. -/
def readVaultClientSecret (jwtToken vaultRole authPath : String) :
    VaultProg (Except GoError (Option VaultSecret)) := do
  match ← askVault (.write (authPath ++ "/login") [("jwt", jwtToken), ("role", vaultRole)]) with
  | .error err => return .error (.text err)
  | .ok secret => return .ok secret

/-- The value of a variable, or a default. -/
def orDefault (value default : String) : String := if value = "" then default else value

/-- The auth part of the answer, which must hold a token. -/
def clientAuth (secret : Option VaultSecret) : Option SecretAuth := do
  let auth ← (← secret).auth
  if auth.clientToken = "" then none else some auth

/-- The token of the answer is used from now on. -/
def adoptToken (vaultSecret : Option VaultSecret) : VaultProg (Except GoError SecretAuth) :=
  match clientAuth vaultSecret with
  | none => return .error (.text "no client token found in Vault secret")
  | some auth => do
      askVault (.setToken auth.clientToken)
      return .ok auth

def setVaultNamespace (env : ProcessEnv) : VaultProg Unit :=
  if env.operatorVaultNamespace ≠ "" then askVault (.setNamespace env.operatorVaultNamespace)
  else return ()

/-- The login itself, with the token of the service account. -/
def authenticate (env : ProcessEnv) (jwt : String) : VaultProg (Except GoError SecretAuth) := do
  let loginAuthPath := orDefault env.operatorVaultAuthPath defaultAuthPath
  let role := orDefault env.operatorVaultRole defaultVaultRole
  match ← readVaultClientSecret jwt role loginAuthPath with
  | .error err => return .error (.wrapped "unable to obtain Vault client secret: " err "")
  | .ok vaultSecret => adoptToken vaultSecret

/-- Of the answer to a login only the auth part is used afterwards. -/
def login (env : ProcessEnv) : VaultProg (Except GoError SecretAuth) := do
  match ← readServiceAccountToken with
  | .error err =>
      return .error (.wrapped "unable to read file containing service account token: " err "")
  | .ok jwt => do
      setVaultNamespace env
      authenticate env jwt

/-- What `renewToken` does next: watch a token, log in again after a pause, or return. -/
inductive Next where
  | watch (auth : SecretAuth)
  | again
  | stop
  deriving DecidableEq

/-- `manageTokenLifecycle` up to its loop. -/
def manageTokenLifecycle : Option SecretAuth → VaultProg (Except GoError Next)
  | none => return .ok .again
  | some auth =>
      if auth.renewable then do
        match ← askVault (.newLifetimeWatcher auth) with
        | .error err =>
            return .error (.wrapped
              "unable to initialize new lifetime watcher for renewing auth token: " (.text err) "")
        | .ok () => do
            askVault (.startWatcher auth)
            return .ok (.watch auth)
      else return .ok .again

/-- An error that is only logged. -/
def logged : Except GoError Next → Next
  | .error _ => .again
  | .ok next => next

/-- The outcome of a login as it is sent through the channel. -/
def errorOf {α : Type} : Except GoError α → Option GoError
  | .error err => some err
  | .ok _ => none

/-- One iteration of `renewToken`, up to the point where it waits. -/
def renewToken (env : ProcessEnv) (sentFirstLoginAttemptErr : Bool) : VaultProg Next := do
  let vaultLoginResp ← login env
  if sentFirstLoginAttemptErr then return logged (← manageTokenLifecycle vaultLoginResp.toOption)
  else do
    askVault (.send (errorOf vaultLoginResp))
    match vaultLoginResp with
    | .error _ => return .stop
    | .ok auth => return logged (← manageTokenLifecycle (some auth))

/-- The certificates are loaded for an address that starts with `https`. -/
def trustedCerts (vaultURL : String) : VaultProg (Except String Unit) :=
  if "https".toList.isPrefixOf vaultURL.toList then askVault .systemCertPool else return .ok ()

/-- The function that `InitializeClient` returns. -/
def initializeClient (env : ProcessEnv) : VaultProg Unit :=
  if env.vaultAddr = "" then
    askVault (.storeError
      (.text "VAULT_ADDR environment variable not set; cannot initialize vault client"))
  else do
    match ← trustedCerts env.vaultAddr with
    | .error err =>
        askVault (.storeError (.wrapped "failed to retrieve system trusted certs: " (.text err) ""))
    | .ok () =>
        match ← askVault .newClient with
        | .error err =>
            askVault (.storeError (.wrapped "unable to initialize Vault client: " (.text err) ""))
        | .ok () => do
            askVault .goRenewToken
            match ← askVault .receive with
            | some err => askVault (.storeError (.wrapped "unable to login to Vault: " err ""))
            | none => askVault .storeClient

def getSecretStoreClient : VaultProg (Bool × Option GoError) := do
  askVault .enterOnce
  askVault .awaitOnce
  let client ← askVault .loadClient
  let err ← askVault .loadError
  return (client, err)

/-- How the resolution of a cluster and the upstream of a schema replication read
credentials. A client that is not there cannot be called. -/
def credentialsAt (path : String) : VaultProg (Except GoError (String × String)) := do
  let (client, err) ← getSecretStoreClient
  match err with
  | some err => return .error err
  | none => if client then readCredentials path else .abort

end TopologyOperator.Vault
