import TopologyOperator.Client.Request

/-!
# Resolving a cluster reference

`parseReference` turns the `RabbitmqClusterReference` of a resource into
connection credentials, either from a connection Secret or from a
`RabbitmqCluster`, its default user and its management Service.
`generateRabbitholeClient` builds the broker client from them.
-/

namespace TopologyOperator

variable {Resource : Type}

def uriAnnotationKey : String := "rabbitmq.com/operator-connection-uri"

def allowedNamespacesAnnotationKey : String := "rabbitmq.com/topology-allowed-namespaces"

/-- The check that is made on the annotations of a cluster or of a Secret. -/
def allowedByAnnotations (rmq : RabbitmqClusterReference) (requestNamespace : String)
    (annotations : List (String × String)) : Bool :=
  if rmq.ns ≠ "" ∧ rmq.ns ≠ requestNamespace then
    match annotations.lookup allowedNamespacesAnnotationKey with
    | some allowedNamespaces =>
        (splitByComma allowedNamespaces).any fun allowedNamespace =>
          requestNamespace = allowedNamespace ∨ allowedNamespace = "*"
    | none => false
  else true

def allowedNamespace (rmq : RabbitmqClusterReference) (requestNamespace : String)
    (cluster : RabbitmqCluster) : Bool :=
  allowedByAnnotations rmq requestNamespace cluster.objectMeta.annotations

def allowedNamespaceSecret (rmq : RabbitmqClusterReference) (requestNamespace : String)
    (secret : Secret) : Bool :=
  allowedByAnnotations rmq requestNamespace secret.objectMeta.annotations

/-- Connection credentials: a map with the keys `username`, `password`, `uri`. -/
abbrev ConnectionCreds := List (String × String)

def connectionCreds (username password uri : String) : ConnectionCreds :=
  [("username", username), ("password", password), ("uri", uri)]

section Libraries

variable (libraries : Libraries)

/-- `extractURIandScheme`: the URI, with the scheme `http` if it has none, and
whether to use TLS. -/
def extractURIandScheme (uri : String) : Except GoError (String × Bool) :=
  let uri := if "http".toList.isPrefixOf uri.toList then uri else "http://" ++ uri
  match libraries.urlScheme uri with
  | .error err => .error (.text err)
  | .ok scheme => .ok (uri, scheme = "https")

/-- A missing `username` or `password` is read as the empty string. -/
def readCredentialsFromKubernetesSecret (secret : Secret) :
    Except GoError (ConnectionCreds × Bool) :=
  match secret.data.lookup "uri" with
  | none => .error (keyMissingErr "uri")
  | some uri =>
      match extractURIandScheme libraries uri with
      | .error err => .error err
      | .ok (uri, tlsEnabled) =>
          .ok (connectionCreds ((secret.data.lookup "username").getD "")
            ((secret.data.lookup "password").getD "") uri, tlsEnabled)

def readUsernamePassword (secret : Secret) : String × String :=
  ((secret.data.lookup "username").getD "", (secret.data.lookup "password").getD "")

/-- The name of the management port of a Service. -/
def managementPortName (useTLS : Bool) : String :=
  if useTLS then "management-tls" else "management"

/-- The first management port of a Service; zero if there is none. -/
def managementUiPort (svc : Service) (useTLS : Bool) : Int :=
  ((svc.ports.find? fun port => port.name = managementPortName useTLS).map (·.port)).getD 0

def managementURI (svc : Service) (useTLS : Bool) (clusterDomain path : String) :
    Except GoError String :=
  if managementUiPort svc useTLS = 0 then
    .error (.text ("failed to find " ++ managementPortName useTLS ++ " from service " ++ svc.name))
  else
    .ok (libraries.urlString (if useTLS then "https" else "http")
      (svc.name ++ "." ++ svc.ns ++ ".svc" ++ clusterDomain ++ ":" ++
        toString (managementUiPort svc useTLS)) path)

/-- The path of the default user in the secret store; empty if there is none. -/
def vaultPath (cluster : RabbitmqCluster) : String := cluster.vaultDefaultUserPath.getD ""

/-- Whether the management endpoint of the cluster is reached over TLS. -/
def useTLSForConnection (cluster : RabbitmqCluster) (connectUsingHTTP : Bool) : Bool :=
  cluster.tlsEnabled && (!connectUsingHTTP || cluster.disableNonTLSListeners)

/-- The default user of a cluster: from the secret store if the cluster is
configured for it, otherwise from the Secret named in `status.binding`. -/
def readDefaultUser (cluster : RabbitmqCluster) (ns : String) :
    Prog Resource (Except GoError (String × String)) :=
  if vaultPath cluster ≠ "" then do
    match ← ask .secretStoreClient with
    | .error err =>
        return .error (.wrapped "unable to create a client connection to secret store: "
          (.text err) "")
    | .ok () =>
        match ← ask (.readCredentials (vaultPath cluster)) with
        | .error err =>
            return .error (.wrapped "unable to retrieve credentials from secret store: "
              (.text err) "")
        | .ok credentials => return .ok credentials
  else match cluster.binding with
    | none => return .error (.text "no status.binding set")
    | some binding => do
        match ← ask (.getSecret .api ⟨ns, binding.name⟩) with
        | .error err =>
            if (GoError.api err).isNotFound then
              return .error (.wrapped ("failed to get default-user secret from reference: " ++
                err.message ++ " Error: ") .errNoSuchRabbitmqCluster "")
            else return .error (.api err)
        | .ok secret => return .ok (readUsernamePassword secret)

/-- The management endpoint of a cluster: the URI annotation if there is one,
otherwise the port of the management Service. -/
def readEndpoint (cluster : RabbitmqCluster) (serviceReference : LocalObjectReference)
    (ns clusterDomain : String) (connectUsingHTTP : Bool) :
    Prog Resource (Except GoError (String × Bool)) :=
  match cluster.objectMeta.annotations.lookup uriAnnotationKey with
  | some uriAnnotation => return extractURIandScheme libraries uriAnnotation
  | none => do
      match ← ask (.getService ⟨ns, serviceReference.name⟩) with
      | .error err =>
          if (GoError.api err).isNotFound then
            return .error (.wrapped ("failed to get service from reference: " ++ err.message ++
              " Error: ") .errNoSuchRabbitmqCluster "")
          else return .error (.api err)
      | .ok svc =>
          match libraries.iniKeys cluster.additionalConfig with
          | .error err =>
              return .error (.wrapped
                "unable to parse additionconfig setting from the rabbitmqcluster resource: "
                (.text err) "")
          | .ok additionalConfig =>
              match managementURI libraries svc (useTLSForConnection cluster connectUsingHTTP)
                clusterDomain ((additionalConfig.lookup "management.path_prefix").getD "") with
              | .error err =>
                  return .error (.wrapped "failed to get endpoint from specified rabbitmqcluster: "
                    err "")
              | .ok endpoint =>
                  return .ok (endpoint, useTLSForConnection cluster connectUsingHTTP)

/-- `ParseReference` for a cluster that was read and is allowed. -/
def parseCluster (cluster : RabbitmqCluster) (ns clusterDomain : String)
    (connectUsingHTTP : Bool) : Prog Resource (Except GoError (ConnectionCreds × Bool)) :=
  if cluster.replicas = some 0 then return .error .errClusterScaledToZero
  else match cluster.serviceReference with
    | none => return .error .errNoServiceReferenceSet
    | some serviceReference => do
        match ← readDefaultUser cluster ns with
        | .error err => return .error err
        | .ok (user, pass) =>
            match ← readEndpoint libraries cluster serviceReference ns clusterDomain
              connectUsingHTTP with
            | .error err => return .error err
            | .ok (uri, useTLS) => return .ok (connectionCreds user pass uri, useTLS)

def parseReference (rmq : RabbitmqClusterReference) (requestNamespace clusterDomain : String)
    (connectUsingHTTP : Bool) : Prog Resource (Except GoError (ConnectionCreds × Bool)) :=
  match rmq.connectionSecret with
  | some connectionSecret => do
      match ← ask (.getSecret .cache
        ⟨rmq.connectionSecretNamespace requestNamespace, connectionSecret.name⟩) with
      | .error err => return .error (.api err)
      | .ok secret =>
          if allowedNamespaceSecret rmq requestNamespace secret then
            return readCredentialsFromKubernetesSecret libraries secret
          else return .error .errResourceNotAllowed
  | none => do
      match ← ask (.getRabbitmqCluster
        ⟨rmq.connectionSecretNamespace requestNamespace, rmq.name⟩) with
      | .error err =>
          return .error (.wrapped ("failed to get cluster from reference: " ++ err.message ++
            " Error: ") .errNoSuchRabbitmqCluster "")
      | .ok cluster =>
          if allowedNamespace rmq requestNamespace cluster then
            parseCluster libraries cluster (rmq.connectionSecretNamespace requestNamespace)
              clusterDomain connectUsingHTTP
          else return .error .errResourceNotAllowed

end Libraries

/-- `generateRabbitholeClient`, the client factory of the operator. -/
def generateRabbitholeClient (creds : ConnectionCreds) (tlsEnabled : Bool) :
    Prog Resource (Except GoError Unit) :=
  match creds.lookup "username" with
  | none => return .error (keyMissingErr "username")
  | some defaultUser =>
      match creds.lookup "password" with
      | none => return .error (keyMissingErr "password")
      | some defaultUserPass =>
          match creds.lookup "uri" with
          | none => return .error (keyMissingErr "uri")
          | some uri => do
              match ← ask (.newClient uri defaultUser defaultUserPass tlsEnabled) with
              | .error err =>
                  return .error (.text ("failed to instantiate rabbit rabbitmqClient: " ++ err))
              | .ok () => return .ok ()

theorem generateRabbitholeClient_ok {creds : ConnectionCreds} {tls : Bool} {trace : Trace Resource}
    (exec : (generateRabbitholeClient creds tls).Exec trace (.done (.ok ()))) :
    ∃ uri username password, trace = [⟨.newClient uri username password tls, .ok ()⟩] := by
  unfold generateRabbitholeClient at exec
  split at exec
  · cases exec.2
  · split at exec
    · cases exec.2
    · split at exec
      · cases exec.2
      · obtain ⟨created, rest, rfl, afterCreating⟩ := exec_ask_bind.mp exec
        rcases created with failure | ⟨⟩
        · cases afterCreating.2
        · obtain ⟨rfl, -⟩ := afterCreating
          exact ⟨_, _, _, rfl⟩

end TopologyOperator
