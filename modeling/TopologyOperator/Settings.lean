import TopologyOperator.Client.Request

/-!
# Settings sent to the broker

The translation of specs into the payloads of the management API.
-/

namespace TopologyOperator

open Encoding (Json.unmarshalMap)

variable {Resource : Type}

/-- The conversion of an `int` to `int32`. -/
def toInt32 (value : Int) : Int := value.bmod (2 ^ 32)

section Libraries

variable (libraries : Libraries)

/-- Unmarshal the raw JSON of `what` into a map; absent JSON is an empty map. -/
def unmarshalArguments (what : String) : Option RawExtension → Except GoError Arguments
  | none => .ok []
  | some extension =>
      match Json.unmarshalMap extension.raw with
      | some arguments => .ok arguments
      | none =>
          .error (.text ("failed to unmarshall " ++ what ++ ": " ++
            libraries.unmarshalError extension.raw))

def generateBindingInfo (binding : Object .binding) : Except GoError BindingInfo :=
  match unmarshalArguments libraries "binding arguments" binding.spec.arguments with
  | .error err => .error err
  | .ok arguments => .ok {
      vhost := binding.spec.vhost
      source := binding.spec.source
      destination := binding.spec.destination
      destinationType := binding.spec.destinationType
      routingKey := binding.spec.routingKey
      arguments := arguments }

/-- The properties key of a binding without arguments; `~` is escaped. -/
def generatePropertiesKey (binding : Object .binding) : String :=
  if binding.spec.routingKey = "" then "~"
  else if binding.spec.arguments = none then
    String.ofList (binding.spec.routingKey.toList.flatMap fun c =>
      if c = '~' then ['%', '7', 'E'] else [c])
  else ""

def generateExchangeSettings (exchange : Object .exchange) : Except GoError ExchangeSettings :=
  match unmarshalArguments libraries "exchange arguments" exchange.spec.arguments with
  | .error err => .error err
  | .ok arguments => .ok {
      durable := exchange.spec.durable
      autoDelete := exchange.spec.autoDelete
      type := exchange.spec.type
      arguments := arguments }

def generateQueueSettings (queue : Object .queue) : Except GoError QueueSettings :=
  match unmarshalArguments libraries "queue arguments" queue.spec.arguments with
  | .error err => .error err
  | .ok arguments => .ok {
      type := queue.spec.type
      durable := queue.spec.durable.getD false
      autoDelete := queue.spec.autoDelete
      arguments := arguments }

/-- The body of `GeneratePolicy` and of `GenerateOperatorPolicy`. `none` is the
panic on a missing definition. -/
def generatePolicyDefinition (vhost pattern applyTo name : String) (priority : Int) :
    Option RawExtension → Option (Except GoError PolicyDefinition)
  | none => none
  | some definition =>
      match unmarshalArguments libraries "policy definition" (some definition) with
      | .error err => some (.error err)
      | .ok definition => some (.ok ⟨vhost, pattern, applyTo, name, priority, definition⟩)

def generatePolicy (policy : Object .policy) : Option (Except GoError PolicyDefinition) :=
  generatePolicyDefinition libraries policy.spec.vhost policy.spec.pattern policy.spec.applyTo
    policy.spec.name policy.spec.priority policy.spec.definition

def generateOperatorPolicy (policy : Object .operatorPolicy) :
    Option (Except GoError PolicyDefinition) :=
  generatePolicyDefinition libraries policy.spec.vhost policy.spec.pattern policy.spec.applyTo
    policy.spec.name policy.spec.priority policy.spec.definition

def generateShovelDefinition (shovel : Object .shovel) (srcUri destUri : String) :
    Except GoError ShovelDefinition := do
  let spec := shovel.spec
  let srcConArgs ← unmarshalArguments libraries "source consumer args" spec.sourceConsumerArgs
  let appProperties ← unmarshalArguments libraries "destination application properties"
    spec.destinationApplicationProperties
  let destProperties ← unmarshalArguments libraries "destination properties"
    spec.destinationProperties
  let destPubProperties ← unmarshalArguments libraries "destination publish properties"
    spec.destinationPublishProperties
  let destMsgAnnotations ← unmarshalArguments libraries "destination message annotations"
    spec.destinationMessageAnnotations
  let srcQueueArgs ← unmarshalArguments libraries "source queue args" spec.sourceQueueArgs
  let destQueueArgs ← unmarshalArguments libraries "destination queue args"
    spec.destinationQueueArgs
  return {
    sourceURI := splitByComma srcUri
    destinationURI := splitByComma destUri
    ackMode := spec.ackMode
    addForwardHeaders := spec.addForwardHeaders
    deleteAfter := spec.deleteAfter
    destinationAddForwardHeaders := spec.destinationAddForwardHeaders
    destinationAddTimestampHeader := spec.destinationAddTimestampHeader
    destinationAddress := spec.destinationAddress
    destinationApplicationProperties := appProperties
    destinationExchange := spec.destinationExchange
    destinationExchangeKey := spec.destinationExchangeKey
    destinationProperties := destProperties
    destinationProtocol := spec.destinationProtocol
    destinationPublishProperties := destPubProperties
    destinationQueue := spec.destinationQueue
    destinationQueueArgs := destQueueArgs
    destinationMessageAnnotations := destMsgAnnotations
    prefetchCount := spec.prefetchCount
    reconnectDelay := spec.reconnectDelay
    sourceAddress := spec.sourceAddress
    sourceDeleteAfter := spec.sourceDeleteAfter
    sourceExchange := spec.sourceExchange
    sourceExchangeKey := spec.sourceExchangeKey
    sourcePrefetchCount := spec.sourcePrefetchCount
    sourceProtocol := spec.sourceProtocol
    sourceQueue := spec.sourceQueue
    sourceQueueArgs := srcQueueArgs
    sourceConsumerArgs := srcConArgs }

end Libraries

def generateQueueDeleteOptions (queue : Object .queue) : QueueDeleteOptions where
  ifEmpty := queue.spec.type ≠ "quorum" && queue.spec.deleteIfEmpty
  ifUnused := queue.spec.type ≠ "quorum" && queue.spec.deleteIfUnused

def generatePermissions (permission : Object .permission) : Permissions where
  read := permission.spec.permissions.read
  write := permission.spec.permissions.write
  configure := permission.spec.permissions.configure

def generateTopicPermissions (permission : Object .topicPermission) : TopicPermissions where
  read := permission.spec.permissions.read
  write := permission.spec.permissions.write
  exchange := permission.spec.permissions.exchange

def generateVhostSettings (vhost : Object .vhost) : VhostSettings where
  tracing := vhost.spec.tracing
  tags := vhost.spec.tags
  defaultQueueType := vhost.spec.defaultQueueType

/-- One optional entry of a map of limits. -/
def limitEntry (key : String) : Option Int → LimitsValues
  | none => []
  | some limit => [(key, limit)]

def generateVhostLimits : Option VhostLimits → LimitsValues
  | none => []
  | some limits =>
      limitEntry "max-connections" limits.connections ++ limitEntry "max-queues" limits.queues

def generateUserLimits : Option UserLimits → LimitsValues
  | none => []
  | some limits =>
      limitEntry "max-connections" limits.connections ++ limitEntry "max-channels" limits.channels

/-- The reconnect delay falls back to 1. -/
def generateFederationDefinition (federation : Object .federation) (uri : String) :
    FederationDefinition where
  uri := splitByComma uri
  expires := federation.spec.expires
  messageTTL := toInt32 federation.spec.messageTTL
  maxHops := federation.spec.maxHops
  prefetchCount := federation.spec.prefetchCount
  reconnectDelay := federation.spec.reconnectDelay.getD 1
  ackMode := federation.spec.ackMode
  trustUserId := federation.spec.trustUserId
  exchange := federation.spec.exchange
  queue := federation.spec.queue
  queueType := federation.spec.queueType
  resourceCleanupMode := federation.spec.resourceCleanupMode

def generateSchemaReplicationParameters (secret : Secret) (endpoints : String) :
    Except GoError UpstreamEndpoints :=
  match secret.data.lookup "username" with
  | none => .error (.text ("could not find username in secret " ++ secret.objectMeta.name))
  | some username =>
      match secret.data.lookup "password" with
      | none => .error (.text ("could not find password in secret " ++ secret.objectMeta.name))
      | some password =>
          if endpoints = "" then
            match secret.data.lookup "endpoints" with
            | none =>
                .error (.text ("could not find endpoints in secret " ++ secret.objectMeta.name ++
                  " or from spec.endpoints"))
            | some endpoints => .ok ⟨username, password, splitByComma endpoints⟩
          else .ok ⟨username, password, splitByComma endpoints⟩

/-- An absent hash means that the password is used. -/
structure UserCredentials where
  username : String := ""
  passwordHash : Option String := none
  password : String := ""
  deriving DecidableEq

/-- The settings of a user under a given password hash. -/
def userSettings (username hash : String) (tags : List String) : UserSettings :=
  ⟨username, tags, hash, "rabbit_password_hashing_sha512"⟩

/-- A salt is drawn only when the password has to be hashed. -/
def generateUserSettings (libraries : Libraries) (credentials : UserCredentials)
    (tags : List String) : Prog Resource (Except GoError UserSettings) :=
  if credentials.username = "" then
    return .error (.text "username is required in credentials")
  else match credentials.passwordHash with
    | some hash => return .ok (userSettings credentials.username hash tags)
    | none =>
        if credentials.password = "" then
          return .error (.text "neither passwordHash nor password is set in credentials")
        else do
          let salt ← ask .passwordSalt
          return .ok (userSettings credentials.username
            (libraries.saltedPasswordHash salt credentials.password) tags)

/-- What settings are generated from: the name, and the hash or the salted password. -/
theorem generateUserSettings_exec {libraries : Libraries} {credentials : UserCredentials}
    {tags : List String} {trace : Trace Resource} {settings : UserSettings}
    (exec : (generateUserSettings libraries credentials tags).Exec trace (.done (.ok settings))) :
    credentials.username ≠ "" ∧ ∃ hash, settings = userSettings credentials.username hash tags ∧
      (credentials.passwordHash = some hash ∨
        credentials.passwordHash = none ∧ credentials.password ≠ "" ∧
          ∃ salt, hash = libraries.saltedPasswordHash salt credentials.password) := by
  unfold generateUserSettings at exec
  split at exec
  · cases exec.2
  · next given =>
      refine ⟨given, ?_⟩
      split at exec
      · next hash found =>
          cases exec.2
          exact ⟨hash, rfl, .inl found⟩
      · next absent =>
          split at exec
          · cases exec.2
          · next password =>
              obtain ⟨salt, rest, -, stops⟩ := exec_ask_bind.mp exec
              cases stops.2
              exact ⟨_, rfl, .inr ⟨absent, password, salt, rfl⟩⟩

end TopologyOperator
