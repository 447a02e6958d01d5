import TopologyOperator.Controller.Resources

/-!
# Users

`DeclareFunc` and `DeleteFunc` of the `UserReconciler`. The credentials of a user
are imported from a Secret or generated into one; the status names the Secret and
the username before the user is put into the broker.
-/

namespace TopologyOperator

namespace UserReconciler

variable {Resource : Type} (libraries : Libraries)

/-- The name of the Secret with generated credentials. -/
def credentialsSecretName (user : Object .user) : String :=
  user.objectMeta.name ++ "-user-credentials"

def credentialsKey (user : Object .user) : NamespacedName :=
  ⟨user.objectMeta.ns, credentialsSecretName user⟩

/-- The name of the object, or a random username. -/
def generateUsername (user : Object .user) : Prog Resource (Except String String) :=
  if user.spec.usernameFromMeta then return .ok user.objectMeta.name
  else ask (.randomEncodedString 24)

def generateCredentials (user : Object .user) : Prog Resource (Except GoError UserCredentials) := do
  match ← generateUsername user with
  | .error err => return .error (.wrapped "failed to generate random username: " (.text err) "")
  | .ok username =>
      match ← ask (.randomEncodedString 24) with
      | .error err => return .error (.wrapped "failed to generate random password: " (.text err) "")
      | .ok password => return .ok { username := username, password := password }

/-- Owner references of the kind `User` do not block the deletion of the owner. -/
def unblockOwnerDeletion (references : List OwnerReference) : List OwnerReference :=
  references.map fun reference =>
    if reference.kind = "User" then { reference with blockOwnerDeletion := some false }
    else reference

/-- The mutation that is applied to the credentials Secret: label and owner. -/
def labelAndOwn (user : Object .user) (secret : Secret) : Except GoError Secret :=
  let labelled := { secret.objectMeta with
    labels := assign topologyOperatorLabel topologyOperatorLabelValue secret.objectMeta.labels }
  match setControllerReference apiVersion "User" user.objectMeta labelled with
  | .error err => .error (.text ("failed setting controller reference: " ++ err))
  | .ok objectMeta =>
      .ok { secret with objectMeta := { objectMeta with
        ownerReferences := unblockOwnerDeletion objectMeta.ownerReferences } }

def secretClient : ObjectClient Resource Secret where
  get secret := ask (.getSecret .cache secret.objectMeta.key)
  create secret := ask (.createSecret secret)
  update secret := ask (.updateSecret secret)
  withVersion secret version :=
    { secret with objectMeta := { secret.objectMeta with
      resourceVersion := version.resourceVersion
      generation := version.generation } }

/-- The Secret that is created if there is none. -/
def generatedSecret (user : Object .user) (credentials : UserCredentials) : Secret where
  objectMeta := { name := credentialsSecretName user, ns := user.objectMeta.ns }
  data := ("username", credentials.username) :: match credentials.passwordHash with
    | some hash => [("passwordHash", hash)]
    | none => [("password", credentials.password)]

def declareCredentials (user : Object .user) : Prog Resource (Except GoError String) := do
  match ← generateCredentials user with
  | .error err => return .error err
  | .ok credentials =>
      let result ← retryOnConflict (createOrUpdate secretClient (labelAndOwn user)) defaultRetry
        (generatedSecret user credentials)
      match result.2 with
      | .error err => return .error err
      | .ok () => return .ok credentials.username

/-- The credentials that a Secret holds; missing keys are read as empty, except for
the hash. -/
def secretToCredentials (secret : Secret) : UserCredentials where
  username := (secret.data.lookup "username").getD ""
  password := (secret.data.lookup "password").getD ""
  passwordHash := secret.data.lookup "passwordHash"

def importCredentials (secretName secretNamespace : String) :
    Prog Resource (Except GoError UserCredentials) := do
  match ← ask (.getSecret .cache ⟨secretNamespace, secretName⟩) with
  | .error err =>
      return .error (.wrapped ("could not find password secret " ++ secretName ++
        " in namespace " ++
        secretNamespace ++ "; Err: ") (.api err) "")
  | .ok secret =>
      if (secretToCredentials secret).username = "" then
        return .error (.text ("could not find username key in credentials secret: " ++
          secret.objectMeta.name))
      else return .ok (secretToCredentials secret)

/-- Imported credentials are those of the Secret that was read. -/
theorem importCredentials_exec {secretName secretNamespace : String} {trace : Trace Resource}
    {credentials : UserCredentials}
    (exec : (importCredentials secretName secretNamespace).Exec trace (.done (.ok credentials))) :
    ∃ secret, trace = [⟨.getSecret .cache ⟨secretNamespace, secretName⟩, .ok secret⟩] ∧
      credentials = secretToCredentials secret ∧ credentials.username ≠ "" := by
  obtain ⟨answer, rest, rfl, remaining⟩ := exec_ask_bind.mp exec
  cases answer with
  | error err => cases remaining.2
  | ok secret =>
      dsimp only at remaining
      split at remaining
      · cases remaining.2
      · next given =>
          obtain ⟨rfl, stops⟩ := remaining
          cases stops
          exact ⟨secret, rfl, rfl, given⟩

/-- The status that names the credentials. -/
def withCredentials (user : Object .user) (username secretName : String) : Object .user :=
  { user with status := { user.status with
    credentials := some ⟨secretName⟩
    username := username } }

/-- `setUserStatus`: the local status is changed even if the write fails. -/
def setUserStatus (user : Object .user) (username secretName : String) :
    Prog (Object .user) (Object .user × Except GoError Unit) :=
  updateStatus (withCredentials user username secretName)

def getUserCredentials (user : Object .user) : Prog Resource (Except GoError Secret) := do
  match ← ask (.getSecret .cache (credentialsKey user)) with
  | .error err => return .error (.api err)
  | .ok secret => return .ok secret

theorem getUserCredentials_exec {user : Object .user} {trace : Trace Resource} {secret : Secret}
    (exec : (getUserCredentials user).Exec trace (.done (.ok secret))) :
    trace = [⟨.getSecret .cache (credentialsKey user), .ok secret⟩] := by
  obtain ⟨answer, rest, rfl, remaining⟩ := exec_ask_bind.mp exec
  cases answer with
  | error err => cases remaining.2
  | ok found =>
      obtain ⟨rfl, stops⟩ := remaining
      cases stops
      rfl

def reconcileUserLimits (user : Object .user) (username : String) :
    Prog Resource (Except GoError Unit) :=
  reconcileLimits ["max-connections", "max-channels"] (generateUserLimits user.spec.userLimits)
    (ask (.broker (.getUserLimits username)))
    (fun limits => ask (.broker (.deleteUserLimits username limits)))
    (fun limits => ask (.broker (.putUserLimits username limits)))

/-- The status names this Secret and this username. -/
def statusNames (user : Object .user) (username secretName : String) : Bool :=
  user.status.credentials = some ⟨secretName⟩ && user.status.username = username

/-- Write the status ahead, unless it names the credentials already. An empty
username in the status differs from the username, which is not empty. -/
def recordCredentials (user : Object .user) (username secretName : String) :
    Prog (Object .user) (Object .user × Except GoError Unit) :=
  if statusNames user username secretName then return (user, .ok ())
  else setUserStatus user username secretName

/-- The user is in the broker: record the condition, publish an event and reconcile
the limits. -/
def finishUser (user : Object .user) (username : String) :
    Prog (Object .user) (Object .user × Except GoError Unit) := do
  let condition ← passwordSynced user.status.conditions
  eventf .normal "PasswordUpdated" "update"
    ("synced password for user " ++ libraries.quote user.status.username)
  let limits ← reconcileUserLimits user username
  return (user.setStatusConditions [condition], limits)

/-- The part that imported and generated credentials share: generate settings
(`failure` is the text around an error of that) and put the user. -/
def putUser (user : Object .user) (credentials : UserCredentials) (failure : String)
    (username : String) : Prog (Object .user) (Object .user × Except GoError Unit) := do
  match ← generateUserSettings libraries credentials user.spec.tags with
  | .error err => return (user, .error (.wrapped failure err ""))
  | .ok settings =>
      let reply ← ask (.broker (.putUser settings.name settings))
      match validateResponse reply with
      | .error err => return (user, .error err)
      | .ok () => finishUser libraries user username

def declareWithImportedCredentials (user : Object .user) (reference : LocalObjectReference) :
    Prog (Object .user) (Object .user × Except GoError Unit) := do
  match ← importCredentials reference.name user.objectMeta.ns with
  | .error err => return (user, .error err)
  | .ok credentials =>
      if credentials.passwordHash = none ∧ credentials.password = "" then
        return (user, .error (.text (
          "neither passwordHash nor password is set in credentials secret " ++
          libraries.quote reference.name ++ "; " ++
          "for a User created before v1.20, label the existing <name>-user-credentials secret " ++
          "with rabbitmq.com/topology-operator=true and remove spec.importCredentialsSecret to " ++
          "preserve its username and password; " ++
          "for a new User using metadata.name as the username, remove " ++
          "spec.importCredentialsSecret and set spec.usernameFromMeta: true")))
      else do
        let recorded ← recordCredentials user credentials.username reference.name
        match recorded.2 with
        | .error err => return (recorded.1, .error err)
        | .ok () =>
            putUser libraries recorded.1 credentials
              "failed to generate user settings from credentials: " credentials.username

def declareWithGeneratedCredentials (user : Object .user) :
    Prog (Object .user) (Object .user × Except GoError Unit) := do
  match ← declareCredentials user with
  | .error err => return (user, .error err)
  | .ok _ =>
      match ← getUserCredentials user with
      | .error err =>
          return (user, .error (.wrapped ("failed to retrieve generated credentials secret " ++
            "(may be requeuing after label migration): ") err ""))
      | .ok secret =>
          if (secretToCredentials secret).username = "" then
            return (user, .error (.text (
              "could not find non-empty username key in generated credentials secret: " ++
              secret.objectMeta.name)))
          else if user.spec.usernameFromMeta ∧
              (secretToCredentials secret).username ≠ user.objectMeta.name then
            return (user, .error (.text (
              "spec.usernameFromMeta is true but the existing credentials secret " ++
              libraries.quote (credentialsSecretName user) ++
              " has a username different from metadata.name " ++
              libraries.quote user.objectMeta.name ++ "; " ++
              "unset spec.usernameFromMeta to preserve the existing username and password")))
          else do
            let recorded ← recordCredentials user (secretToCredentials secret).username
              (credentialsSecretName user)
            match recorded.2 with
            | .error err => return (recorded.1, .error err)
            | .ok () =>
                putUser libraries recorded.1 (secretToCredentials secret)
                  "failed to generate user settings from credential: "
                  (secretToCredentials secret).username

def declareFunc (user : Object .user) :
    Prog (Object .user) (Object .user × Except GoError Unit) :=
  if user.spec.usernameFromMeta ∧ user.spec.importCredentialsSecret.isSome then
    return (user, .error (.text
      "spec.usernameFromMeta cannot be set together with spec.importCredentialsSecret"))
  else match user.spec.importCredentialsSecret with
    | some reference => declareWithImportedCredentials libraries user reference
    | none => declareWithGeneratedCredentials libraries user

/-- A user without a username in its status was never put into the broker. -/
def deleteFunc (user : Object .user) : Prog Resource (Except GoError Unit) :=
  if user.status.username = "" then return .ok ()
  else do
    let reply ← ask (.broker (.deleteUser user.status.username))
    return deleted reply

end UserReconciler

end TopologyOperator
