import TopologyOperator.Controller.Footprint
import TopologyOperator.Dialogue.Lockstep

/-!
# What becomes of credentials

Two reconciles whose answers differ in credentials only go on in lockstep: they issue the
same requests, up to the credentials that they send to a broker or store in a Secret, and
end with the same result. A Secret may differ in its passwords and in what it holds for
brokers. Its metadata and the username count as public, and so does whether a key is
there, whether the password is empty, and what the operator finds out about the URI of a
connection.
-/

namespace TopologyOperator

open Dialogue Program

variable {Resource : Type} {kind : Kind}

/-- Whether a URI asks for TLS, or why it is not accepted. -/
def transport (libraries : Libraries) (uri : String) : Except GoError Bool :=
  (extractURIandScheme libraries uri).map Prod.snd

/-- Two Secrets with the same metadata, the same keys and the same username. -/
structure Secret.SameShape (secret other : Secret) : Prop where
  objectMeta : secret.objectMeta = other.objectMeta
  present : ∀ key, (secret.data.lookup key).isSome = (other.data.lookup key).isSome
  username : secret.data.lookup "username" = other.data.lookup "username"

/-- Two Secrets that differ in credentials only. Their URIs are both accepted with the same
answer on TLS, or both rejected for the same reason. -/
structure Secret.Alike (libraries : Libraries) (secret other : Secret) : Prop
    extends secret.SameShape other where
  password : secret.data.lookup "password" = some "" ↔ other.data.lookup "password" = some ""
  uri : (secret.data.lookup "uri").map (transport libraries) =
    (other.data.lookup "uri").map (transport libraries)

/-- The requests that neither hold credentials nor are answered with them. -/
def Request.plain : Request Resource → Bool
  | .getSecret .. | .createSecret _ | .updateSecret _ | .readCredentials _
  | .randomEncodedString _ | .passwordSalt | .newClient .. | .broker (.putUser ..)
  | .broker (.putGlobalParameter ..) | .broker (.putFederationUpstream ..)
  | .broker (.declareShovel ..) => false
  | _ => true

/-- Requests that are the same up to credentials, with the answers that are. -/
inductive Conceals (alike : Secret → Secret → Prop) :
    (request other : Request Resource) → (request.Answer → other.Answer → Prop) → Prop where
  | plain {request : Request Resource} (plain : request.plain = true) :
      Conceals alike request request Eq
  | getSecret (reader : Reader) (key : NamespacedName) :
      Conceals alike (.getSecret reader key) (.getSecret reader key) (Matched alike)
  | readCredentials (path : String) :
      Conceals alike (.readCredentials path) (.readCredentials path)
        (Matched fun found other => found.1 = other.1)
  | randomEncodedString (length : Nat) :
      Conceals alike (.randomEncodedString length) (.randomEncodedString length)
        (Matched fun _ _ => True)
  | passwordSalt : Conceals alike .passwordSalt .passwordSalt fun _ _ => True
  | createSecret {secret other : Secret} (same : secret.objectMeta = other.objectMeta) :
      Conceals alike (.createSecret secret) (.createSecret other) Eq
  | updateSecret {secret other : Secret} (same : secret.objectMeta = other.objectMeta) :
      Conceals alike (.updateSecret secret) (.updateSecret other) Eq
  | newClient (uri uri' username password password' : String) (tls : Bool) :
      Conceals alike (.newClient uri username password tls) (.newClient uri' username password' tls)
        Eq
  | putUser (username : String) (settings : UserSettings) (passwordHash : String) :
      Conceals alike (.broker (.putUser username settings))
        (.broker (.putUser username { settings with passwordHash := passwordHash })) Eq
  | putGlobalParameter (name : String) (value : UpstreamEndpoints) (password : String)
      (endpoints : List String) :
      Conceals alike (.broker (.putGlobalParameter name value))
        (.broker (.putGlobalParameter name
          { value with password := password, endpoints := endpoints })) Eq
  | putFederationUpstream (vhost name : String) (definition : FederationDefinition)
      (uri : List String) :
      Conceals alike (.broker (.putFederationUpstream vhost name definition))
        (.broker (.putFederationUpstream vhost name { definition with uri := uri })) Eq
  | declareShovel (vhost name : String) (definition : ShovelDefinition)
      (sourceURI destinationURI : List String) :
      Conceals alike (.broker (.declareShovel vhost name definition))
        (.broker (.declareShovel vhost name
          { definition with sourceURI := sourceURI, destinationURI := destinationURI })) Eq

/-- Two programs of the operator that go on in lockstep, up to credentials. -/
abbrev Concealing {α β : Type} (alike : Secret → Secret → Prop) (related : α → β → Prop)
    (program : Prog Resource α) (other : Prog Resource β) : Prop :=
  Lockstep (Conceals alike) related program other

section Rules

variable {alike : Secret → Secret → Prop} {α : Type}

/-- A program without credentials goes on in lockstep with itself. -/
theorem concealing_plain {program : Prog Resource α} (calls : program.Calls (·.plain = true)) :
    Concealing alike Eq program program :=
  .of_calls calls fun _ plain => .plain plain

/-- One request, then the rest. -/
theorem concealing_ask {β : Type} {related : α → β → Prop} {request other : Request Resource}
    {next : request.Answer → Prog Resource α} {resume : other.Answer → Prog Resource β}
    {same : request.Answer → other.Answer → Prop} (coupled : Conceals alike request other same)
    (rest : ∀ reply answer, same reply answer → Concealing alike related (next reply)
      (resume answer)) :
    Concealing alike related ((ask request).bind next) ((ask other).bind resume) :=
  ⟨same, coupled, rest⟩

/-- Retries go on from states that are the same up to credentials. -/
theorem retryOnConflict_concealing {σ : Type} {same : σ → σ → Prop}
    {attempt : σ → Prog Resource (σ × Except GoError Unit)}
    (attempts : ∀ state other, same state other →
      Concealing alike (fun first second => same first.1 second.1 ∧ first.2 = second.2)
        (attempt state) (attempt other))
    (retries : Nat) (state other : σ) (start : same state other) :
    Concealing alike (fun first second => same first.1 second.1 ∧ first.2 = second.2)
      (retryOnConflict attempt retries state) (retryOnConflict attempt retries other) := by
  induction retries generalizing state other with
  | zero => exact attempts state other start
  | succ retries ih =>
      refine (attempts state other start).bind ?_
      rintro ⟨kept, result⟩ ⟨kept', _⟩ ⟨same, rfl⟩
      cases result with
      | ok => exact ⟨same, rfl⟩
      | error err =>
          change Concealing alike _ (if err.isConflict then _ else _)
            (if err.isConflict then _ else _)
          split
          · exact ih kept kept' same
          · exact ⟨same, rfl⟩

end Rules

section Resolution

variable {alike : Secret → Secret → Prop} {libraries : Libraries}

theorem Secret.Alike.getD_username {secret other : Secret} (same : secret.Alike libraries other) :
    (secret.data.lookup "username").getD "" = (other.data.lookup "username").getD "" :=
  congrArg (·.getD "") same.username

/-- Credentials of a connection with one username, and one answer on TLS. -/
def SameConnection (found other : ConnectionCreds × Bool) : Prop :=
  ∃ username password password' uri uri',
    found.1 = connectionCreds username password uri ∧
      other.1 = connectionCreds username password' uri' ∧ found.2 = other.2

/-- The connections that two alike Secrets describe differ in their credentials only. -/
theorem readCredentialsFromKubernetesSecret_matched {secret other : Secret}
    (same : secret.Alike libraries other) :
    Matched SameConnection (readCredentialsFromKubernetesSecret libraries secret)
      (readCredentialsFromKubernetesSecret libraries other) := by
  have transported := same.uri
  unfold readCredentialsFromKubernetesSecret
  rw [same.getD_username]
  generalize secret.data.lookup "uri" = found at transported ⊢
  generalize other.data.lookup "uri" = found' at transported ⊢
  rcases found with _ | uri <;> rcases found' with _ | uri'
  · exact .error _
  · cases transported
  · cases transported
  · have transports : transport libraries uri = transport libraries uri' :=
      Option.some.inj transported
    unfold transport at transports
    dsimp only
    generalize extractURIandScheme libraries uri = accepted at transports ⊢
    generalize extractURIandScheme libraries uri' = accepted' at transports ⊢
    rcases accepted with err | ⟨kept, tls⟩ <;> rcases accepted' with err' | ⟨kept', tls'⟩
    · cases transports
      exact .error _
    · cases transports
    · cases transports
    · cases transports
      exact .ok ⟨_, _, _, _, _, rfl, rfl, rfl⟩

/-- The name of the default user is public, the password is not. -/
theorem readDefaultUser_concealing (alikes : ∀ secret other, alike secret other →
    secret.Alike libraries other) (cluster : RabbitmqCluster) (ns : String) :
    Concealing alike (Matched fun found other : String × String => found.1 = other.1)
      (readDefaultUser cluster ns : Prog Resource _) (readDefaultUser cluster ns) := by
  unfold readDefaultUser
  split
  · refine concealing_ask (.plain rfl) ?_
    rintro client _ rfl
    rcases client with err | ⟨⟩
    · exact .error _
    refine concealing_ask (.readCredentials _) ?_
    rintro _ _ (err | same)
    · exact .error _
    · exact .ok same
  split
  · exact .error _
  refine concealing_ask (.getSecret _ _) ?_
  rintro _ _ (err | same)
  · dsimp only
    split
    · exact .error _
    · exact .error _
  · exact .ok (alikes _ _ same).getD_username

/-- The endpoint of a cluster does not depend on credentials. -/
theorem parseCluster_concealing (alikes : ∀ secret other, alike secret other →
    secret.Alike libraries other) (cluster : RabbitmqCluster) (ns clusterDomain : String)
    (connectUsingHTTP : Bool) :
    Concealing alike (Matched SameConnection)
      (parseCluster libraries cluster ns clusterDomain connectUsingHTTP : Prog Resource _)
      (parseCluster libraries cluster ns clusterDomain connectUsingHTTP) := by
  unfold parseCluster
  split
  · exact .error _
  split
  · exact .error _
  refine (readDefaultUser_concealing alikes cluster ns).bind ?_
  rintro _ _ (err | @⟨⟨username, password⟩, ⟨_, password'⟩, rfl⟩)
  · exact .error _
  refine (concealing_plain (readEndpoint_calls libraries (fun _ => rfl) ..)).bind ?_
  rintro endpoint _ rfl
  rcases endpoint with err | ⟨uri, tls⟩
  · exact .error _
  · exact .ok ⟨username, password, password', uri, uri, rfl, rfl, rfl⟩

/-- A reference is resolved to connections that differ in their credentials only. -/
theorem parseReference_concealing (alikes : ∀ secret other, alike secret other →
    secret.Alike libraries other) (rmq : RabbitmqClusterReference)
    (requestNamespace clusterDomain : String) (connectUsingHTTP : Bool) :
    Concealing alike (Matched SameConnection)
      (parseReference libraries rmq requestNamespace clusterDomain connectUsingHTTP :
        Prog Resource _)
      (parseReference libraries rmq requestNamespace clusterDomain connectUsingHTTP) := by
  unfold parseReference
  split
  · refine concealing_ask (.getSecret _ _) ?_
    rintro _ _ (err | @⟨secret, other, same⟩)
    · exact .error _
    have allowed : allowedNamespaceSecret rmq requestNamespace secret =
        allowedNamespaceSecret rmq requestNamespace other := by
      rw [allowedNamespaceSecret, (alikes _ _ same).objectMeta, allowedNamespaceSecret]
    dsimp only
    rw [allowed]
    split
    · exact readCredentialsFromKubernetesSecret_matched (alikes _ _ same)
    · exact .error _
  · refine concealing_ask (.plain rfl) ?_
    rintro found _ rfl
    rcases found with err | cluster
    · exact .error _
    dsimp only
    split
    · exact parseCluster_concealing alikes ..
    · exact .error _

/-- Whether a client is created does not depend on the credentials in the connection. -/
theorem generateRabbitholeClient_concealing {found other : ConnectionCreds × Bool}
    (same : SameConnection found other) :
    Concealing alike Eq (generateRabbitholeClient found.1 found.2 : Prog Resource _)
      (generateRabbitholeClient other.1 other.2) := by
  obtain ⟨username, password, password', uri, uri', first, second, tls⟩ := same
  rw [first, second, tls]
  refine concealing_ask (.newClient uri uri' username password password' _) ?_
  rintro created _ rfl
  rcases created with err | ⟨⟩ <;> rfl

end Resolution

section Secrets

variable {alike : Secret → Secret → Prop} {libraries : Libraries}
  (alikes : ∀ secret other, alike secret other → secret.Alike libraries other)

/-- Secrets of one shape have the same keys, whatever they hold there. -/
theorem secretKey_matched {secret other : Secret} (same : secret.SameShape other)
    (key : String) : Matched (fun _ _ => True) (secretKey secret key) (secretKey other key) := by
  have present := same.present key
  unfold secretKey
  rw [same.objectMeta]
  generalize secret.data.lookup key = found at present ⊢
  generalize other.data.lookup key = found' at present ⊢
  rcases found with _ | value <;> rcases found' with _ | value'
  · exact .error _
  · cases present
  · cases present
  · exact .ok trivial

/-- The URIs of a shovel are found in two fields of its definition only. -/
theorem generateShovelDefinition_matched (shovel : Object .shovel)
    (srcUri destUri srcUri' destUri' : String) :
    Matched (fun definition other => other = { definition with
        sourceURI := splitByComma srcUri', destinationURI := splitByComma destUri' })
      (generateShovelDefinition libraries shovel srcUri destUri)
      (generateShovelDefinition libraries shovel srcUri' destUri') := by
  refine .bind_same _ fun _ => .bind_same _ fun _ => .bind_same _ fun _ => .bind_same _ fun _ =>
    .bind_same _ fun _ => .bind_same _ fun _ => .bind_same _ fun _ => ?_
  exact .ok rfl

/-- The parameters have the username of the Secret. -/
theorem generateSchemaReplicationParameters_matched {secret other : Secret}
    (same : secret.SameShape other) (endpoints : String) :
    Matched (fun value value' : UpstreamEndpoints => ∃ password endpoints,
        value' = { value with password := password, endpoints := endpoints })
      (generateSchemaReplicationParameters secret endpoints)
      (generateSchemaReplicationParameters other endpoints) := by
  have password := same.present "password"
  have listed := same.present "endpoints"
  unfold generateSchemaReplicationParameters
  rw [same.username, same.objectMeta]
  generalize secret.data.lookup "password" = found at password ⊢
  generalize other.data.lookup "password" = found' at password ⊢
  generalize secret.data.lookup "endpoints" = lists at listed ⊢
  generalize other.data.lookup "endpoints" = lists' at listed ⊢
  rcases other.data.lookup "username" with _ | username
  · exact .error _
  rcases found with _ | value <;> rcases found' with _ | value'
  · exact .error _
  · cases password
  · cases password
  dsimp only
  split
  · rcases lists with _ | entries <;> rcases lists' with _ | entries'
    · exact .error _
    · cases listed
    · cases listed
    · exact .ok ⟨_, _, rfl⟩
  · exact .ok ⟨_, _, rfl⟩

include alikes

/-- The Secret with a URI is found with the same shape. -/
theorem getUriSecret_concealing (ns : String) (reference : LocalObjectReference) :
    Concealing alike (Matched Secret.SameShape)
      (getUriSecret ns reference : Prog Resource _) (getUriSecret ns reference) := by
  refine concealing_ask (.getSecret _ _) ?_
  rintro _ _ (err | same)
  · exact .error _
  · exact .ok (alikes _ _ same).toSameShape

/-- The URI of an upstream goes to the broker and nowhere else. -/
theorem declareFederation_concealing (federation : Object .federation) :
    Concealing alike Eq (FederationReconciler.declareFunc federation : Prog Resource _)
      (FederationReconciler.declareFunc federation) := by
  have uri : ∀ reference, Concealing alike (Matched fun _ _ => True)
      (FederationReconciler.getUri federation.objectMeta.ns reference : Prog Resource _)
      (FederationReconciler.getUri federation.objectMeta.ns reference) := by
    intro reference
    refine (getUriSecret_concealing alikes _ reference).bind ?_
    rintro _ _ (err | same)
    · exact .error _
    · exact secretKey_matched same "uri"
  unfold FederationReconciler.declareFunc
  split
  · trivial
  refine (uri _).bind ?_
  rintro _ _ (err | same)
  · rfl
  refine concealing_ask (.putFederationUpstream _ _ _ _) ?_
  rintro reply _ rfl
  rfl

/-- The URIs of a shovel go to the broker and nowhere else. -/
theorem declareShovel_concealing (shovel : Object .shovel) :
    Concealing alike Eq (ShovelReconciler.declareFunc libraries shovel : Prog Resource _)
      (ShovelReconciler.declareFunc libraries shovel) := by
  have uris : ∀ reference, Concealing alike (Matched fun _ _ => True)
      (ShovelReconciler.getUris shovel.objectMeta.ns reference : Prog Resource _)
      (ShovelReconciler.getUris shovel.objectMeta.ns reference) := by
    intro reference
    refine (getUriSecret_concealing alikes _ reference).bind ?_
    rintro _ _ (err | @⟨secret, other, same⟩)
    · exact .error _
    dsimp only
    obtain ⟨err, src, src'⟩ | ⟨srcUri, srcUri', src, src', -⟩ :=
      (secretKey_matched same "srcUri").elim
    · rw [src, src']
      exact .error _
    rw [src, src']
    obtain ⟨err, dest, dest'⟩ | ⟨destUri, destUri', dest, dest', -⟩ :=
      (secretKey_matched same "destUri").elim
    · rw [dest, dest']
      exact .error _
    · rw [dest, dest']
      exact .ok trivial
  unfold ShovelReconciler.declareFunc
  split
  · trivial
  refine (uris _).bind ?_
  rintro _ _ (err | @⟨⟨srcUri, destUri⟩, ⟨srcUri', destUri'⟩, -⟩)
  · rfl
  have definitions : Matched _ (generateShovelDefinition libraries shovel srcUri destUri)
      (generateShovelDefinition libraries shovel srcUri' destUri') :=
    generateShovelDefinition_matched shovel srcUri destUri srcUri' destUri'
  dsimp only
  obtain ⟨err, first, second⟩ | ⟨definition, _, first, second, rfl⟩ := definitions.elim
  · rw [first, second]
    rfl
  rw [first, second]
  refine concealing_ask (.declareShovel _ _ _ _ _) ?_
  rintro reply _ rfl
  rfl

/-- The credentials of an upstream go to the broker and nowhere else. -/
theorem declareSchemaReplication_concealing (replication : Object .schemaReplication) :
    Concealing alike Eq (SchemaReplicationReconciler.declareFunc replication : Prog Resource _)
      (SchemaReplicationReconciler.declareFunc replication) := by
  have upstream : Concealing alike (Matched Secret.SameShape)
      (SchemaReplicationReconciler.getUpstreamSecret replication : Prog Resource _)
      (SchemaReplicationReconciler.getUpstreamSecret replication) := by
    unfold SchemaReplicationReconciler.getUpstreamSecret
    split
    · refine concealing_ask (.plain rfl) ?_
      rintro client _ rfl
      rcases client with err | ⟨⟩
      · exact .error _
      refine concealing_ask (.readCredentials _) ?_
      rintro _ _ (err | @⟨⟨username, password⟩, ⟨_, password'⟩, rfl⟩)
      · exact .error _
      · refine .ok ⟨rfl, fun key => ?_, rfl⟩
        simp only [List.lookup_cons]
        split
        · rfl
        · split <;> rfl
    · split
      · exact .error _
      · exact getUriSecret_concealing alikes _ _
  have endpoints : Concealing alike (Matched fun value value' : UpstreamEndpoints =>
        ∃ password endpoints, value' = { value with password := password, endpoints := endpoints })
      (SchemaReplicationReconciler.getUpstreamEndpoints replication : Prog Resource _)
      (SchemaReplicationReconciler.getUpstreamEndpoints replication) := by
    refine upstream.bind ?_
    rintro _ _ (err | same)
    · exact .error _
    · exact generateSchemaReplicationParameters_matched same _
  refine endpoints.bind ?_
  rintro _ _ (err | ⟨password, endpoints, rfl⟩)
  · rfl
  refine concealing_ask (.putGlobalParameter _ _ _ _) ?_
  rintro reply _ rfl
  rfl

end Secrets

section Users

variable {alike : Secret → Secret → Prop} {libraries : Libraries}

open UserReconciler

/-- Credentials of one user, in one form. -/
structure SameAccount (credentials other : UserCredentials) : Prop where
  username : credentials.username = other.username
  passwordHash : credentials.passwordHash.isSome = other.passwordHash.isSome
  password : credentials.password = "" ↔ other.password = ""

/-- Two alike Secrets hold credentials of one user, in one form. -/
theorem secretToCredentials_sameAccount {secret other : Secret}
    (same : secret.Alike libraries other) :
    SameAccount (secretToCredentials secret) (secretToCredentials other) := by
  have present := same.present "password"
  have empty := same.password
  refine ⟨same.getD_username, same.present _, ?_⟩
  change (secret.data.lookup "password").getD "" = "" ↔ (other.data.lookup "password").getD "" = ""
  generalize secret.data.lookup "password" = found at present empty ⊢
  generalize other.data.lookup "password" = found' at present empty ⊢
  rcases found with _ | value <;> rcases found' with _ | value'
  · exact Iff.rfl
  · cases present
  · cases present
  · exact ⟨fun same => Option.some.inj (empty.mp (congrArg some same)),
      fun same => Option.some.inj (empty.mpr (congrArg some same))⟩

/-- The settings of a user differ in the password hash only. -/
theorem generateUserSettings_concealing {credentials other : UserCredentials}
    (same : SameAccount credentials other) (tags : List String) :
    Concealing alike (Matched fun settings settings' => ∃ passwordHash,
        settings' = { settings with passwordHash := passwordHash })
      (generateUserSettings libraries credentials tags : Prog Resource _)
      (generateUserSettings libraries other tags) := by
  obtain ⟨username, hashed, empty⟩ := same
  unfold generateUserSettings
  rw [username]
  split
  · exact .error _
  generalize credentials.passwordHash = hash at hashed ⊢
  generalize other.passwordHash = hash' at hashed ⊢
  rcases hash with _ | hash <;> rcases hash' with _ | hash'
  · dsimp only
    by_cases blank : credentials.password = ""
    · rw [if_pos blank, if_pos (empty.mp blank)]
      exact .error _
    · rw [if_neg blank, if_neg (blank ∘ empty.mpr)]
      exact concealing_ask .passwordSalt fun _ _ _ => .ok ⟨_, rfl⟩
  · cases hashed
  · cases hashed
  · exact .ok ⟨_, rfl⟩

/-- After a user was put, there is nothing secret left to do. -/
theorem finishUser_plain (user : Object .user) (username : String) :
    (finishUser libraries user username).Calls (·.plain = true) := by
  refine finishUser_calls libraries ?_ (fun _ => ?_) (fun call limits => ?_) user
  · rfl
  · rfl
  · cases call <;> first | rfl | cases limits

/-- The password of a user goes to the broker as a hash. -/
theorem putUser_concealing {credentials other : UserCredentials}
    (same : SameAccount credentials other) (user : Object .user) (failure username : String) :
    Concealing alike Eq (putUser libraries user credentials failure username)
      (putUser libraries user other failure username) := by
  refine (generateUserSettings_concealing same user.spec.tags).bind ?_
  rintro _ _ (err | ⟨passwordHash, rfl⟩)
  · rfl
  refine concealing_ask (.putUser _ _ _) ?_
  rintro reply _ rfl
  split
  · rfl
  · exact concealing_plain (finishUser_plain user username)

/-- Recording the credentials, and what follows. -/
theorem record_concealing (libraries : Libraries) {credentials other : UserCredentials}
    (same : SameAccount credentials other) (user : Object .user) (secretName failure : String) :
    Concealing alike Eq
      ((recordCredentials user credentials.username secretName).bind fun recorded =>
        match recorded.2 with
        | .error err => return (recorded.1, .error err)
        | .ok () => putUser libraries recorded.1 credentials failure credentials.username)
      ((recordCredentials user other.username secretName).bind fun recorded =>
        match recorded.2 with
        | .error err => return (recorded.1, .error err)
        | .ok () => putUser libraries recorded.1 other failure other.username) := by
  rw [same.username]
  refine (concealing_plain (recordCredentials_calls rfl)).bind ?_
  rintro recorded _ rfl
  split
  · rfl
  · exact putUser_concealing same recorded.1 failure _

section Declare

variable (alikes : ∀ secret other, alike secret other → secret.Alike libraries other)

/-- Between Secrets with the same data, only the metadata can make a difference. -/
theorem eq_iff_objectMeta {secret written : Secret} (same : written.data = secret.data) :
    secret = written ↔ secret.objectMeta = written.objectMeta := by
  refine ⟨congrArg Secret.objectMeta, fun metas => ?_⟩
  obtain ⟨_, _⟩ := secret
  obtain ⟨_, _⟩ := written
  cases same
  cases metas
  rfl

/-- Labels and owners are set by the metadata, and leave the data alone. -/
theorem labelAndOwn_matched (user : Object .user) {secret other : Secret}
    (same : secret.objectMeta = other.objectMeta) :
    Matched (fun owned owned' => owned.objectMeta = owned'.objectMeta ∧
        owned.data = secret.data ∧ owned'.data = other.data)
      (labelAndOwn user secret) (labelAndOwn user other) := by
  unfold labelAndOwn
  rw [same]
  dsimp only
  split
  · exact .error _
  · exact .ok ⟨rfl, rfl, rfl⟩

include alikes

/-- Whether the Secret is created, updated or left alone is decided by its metadata. -/
theorem createOrUpdate_concealing (user : Object .user) {secret other : Secret}
    (same : secret.objectMeta = other.objectMeta) :
    Concealing alike (fun first second : Secret × Except GoError Unit =>
        first.1.objectMeta = second.1.objectMeta ∧ first.2 = second.2)
      (createOrUpdate secretClient (labelAndOwn user) secret : Prog Resource _)
      (createOrUpdate secretClient (labelAndOwn user) other) := by
  unfold createOrUpdate secretClient
  dsimp only
  rw [same]
  refine concealing_ask (.getSecret _ _) ?_
  rintro _ _ (err | @⟨existing, existing', found⟩)
  · dsimp only
    split
    · obtain ⟨err, first, second⟩ | ⟨owned, owned', first, second, kept, -⟩ :=
        (labelAndOwn_matched user same).elim
      · rw [first, second]
        exact ⟨same, rfl⟩
      rw [first, second]
      refine concealing_ask (.createSecret kept) ?_
      rintro reply _ rfl
      rcases reply with err | version
      · exact ⟨kept, rfl⟩
      · refine ⟨?_, rfl⟩
        dsimp only
        rw [kept]
    · exact ⟨same, rfl⟩
  · have metas := (alikes _ _ found).objectMeta
    dsimp only
    obtain ⟨err, first, second⟩ | ⟨owned, owned', first, second, kept, data, data'⟩ :=
      (labelAndOwn_matched user metas).elim
    · rw [first, second]
      exact ⟨metas, rfl⟩
    rw [first, second]
    dsimp only
    have changed : existing = owned ↔ existing' = owned' := by
      rw [eq_iff_objectMeta data, eq_iff_objectMeta data', metas, kept]
    by_cases steady : existing = owned
    · rw [if_pos steady, if_pos (changed.mp steady)]
      exact ⟨metas, rfl⟩
    · rw [if_neg steady, if_neg (steady ∘ changed.mpr)]
      refine concealing_ask (.updateSecret kept) ?_
      rintro reply _ rfl
      rcases reply with err | version
      · exact ⟨kept, rfl⟩
      · refine ⟨?_, rfl⟩
        dsimp only
        rw [kept]

/-- What is drawn at random goes into the Secret of the user. -/
theorem declareCredentials_concealing (user : Object .user) :
    Concealing alike (Matched fun _ _ => True) (declareCredentials user : Prog Resource _)
      (declareCredentials user) := by
  have username : Concealing alike (Matched fun _ _ => True)
      (generateUsername user : Prog Resource _) (generateUsername user) := by
    unfold generateUsername
    split
    · exact .ok trivial
    · exact ⟨_, .randomEncodedString _, fun _ _ drawn => drawn⟩
  have generated : Concealing alike (Matched fun _ _ => True)
      (generateCredentials user : Prog Resource _) (generateCredentials user) := by
    refine username.bind ?_
    rintro _ _ (err | -)
    · exact .error _
    refine concealing_ask (.randomEncodedString _) ?_
    rintro _ _ (err | -)
    · exact .error _
    · exact .ok trivial
  refine generated.bind ?_
  rintro _ _ (err | @⟨credentials, credentials', -⟩)
  · exact .error _
  have attempts : ∀ secret other : Secret, secret.objectMeta = other.objectMeta →
      Concealing alike _ (createOrUpdate secretClient (labelAndOwn user) secret : Prog Resource _)
        (createOrUpdate secretClient (labelAndOwn user) other) :=
    fun _ _ => createOrUpdate_concealing alikes user
  refine (retryOnConflict_concealing attempts defaultRetry (generatedSecret user credentials)
    (generatedSecret user credentials') rfl).bind ?_
  rintro ⟨kept, result⟩ ⟨kept', _⟩ ⟨-, rfl⟩
  rcases result with err | ⟨⟩
  · exact .error _
  · exact .ok trivial

/-- Imported credentials reach the broker and nothing else. -/
theorem declareWithImportedCredentials_concealing (user : Object .user)
    (reference : LocalObjectReference) :
    Concealing alike Eq (declareWithImportedCredentials libraries user reference)
      (declareWithImportedCredentials libraries user reference) := by
  have imported : Concealing alike (Matched SameAccount)
      (importCredentials reference.name user.objectMeta.ns : Prog (Object .user) _)
      (importCredentials reference.name user.objectMeta.ns) := by
    refine concealing_ask (.getSecret _ _) ?_
    rintro _ _ (err | @⟨secret, other, found⟩)
    · exact .error _
    have same := secretToCredentials_sameAccount (alikes _ _ found)
    dsimp only
    rw [same.username, (alikes _ _ found).objectMeta]
    split
    · exact .error _
    · exact .ok same
  refine imported.bind ?_
  rintro _ _ (err | @⟨credentials, credentials', same⟩)
  · rfl
  have unusable : (credentials.passwordHash = none ∧ credentials.password = "") ↔
      (credentials'.passwordHash = none ∧ credentials'.password = "") := by
    rw [← Option.isNone_iff_eq_none, ← Option.isNone_iff_eq_none, same.password,
      ← Option.not_isSome, ← Option.not_isSome, same.passwordHash]
  dsimp only
  by_cases blank : credentials.passwordHash = none ∧ credentials.password = ""
  · rw [if_pos blank, if_pos (unusable.mp blank)]
    rfl
  · rw [if_neg blank, if_neg (blank ∘ unusable.mpr)]
    exact record_concealing libraries same user reference.name _

/-- Generated credentials are read back, and reach the broker and nothing else. -/
theorem declareWithGeneratedCredentials_concealing (user : Object .user) :
    Concealing alike Eq (declareWithGeneratedCredentials libraries user)
      (declareWithGeneratedCredentials libraries user) := by
  refine (declareCredentials_concealing alikes user).bind ?_
  rintro _ _ (err | -)
  · rfl
  have read : Concealing alike (Matched alike) (getUserCredentials user : Prog (Object .user) _)
      (getUserCredentials user) := by
    refine concealing_ask (.getSecret _ _) ?_
    rintro _ _ (err | found)
    · exact .error _
    · exact .ok found
  refine read.bind ?_
  rintro _ _ (err | @⟨secret, other, found⟩)
  · rfl
  have same := secretToCredentials_sameAccount (alikes _ _ found)
  dsimp only
  rw [same.username, (alikes _ _ found).objectMeta]
  split
  · rfl
  split
  · rfl
  · have recorded : Concealing alike Eq _ _ := record_concealing libraries same user
      (credentialsSecretName user) "failed to generate user settings from credential: "
    rwa [same.username] at recorded

/-- The declaration of a user conceals its password. -/
theorem declareUser_concealing (user : Object .user) :
    Concealing alike Eq (UserReconciler.declareFunc libraries user)
      (UserReconciler.declareFunc libraries user) := by
  unfold UserReconciler.declareFunc
  split
  · rfl
  split
  · exact declareWithImportedCredentials_concealing alikes user _
  · exact declareWithGeneratedCredentials_concealing alikes user

end Declare

end Users

section Plain

/-- Nothing is deleted with credentials. -/
theorem deleteFunc_plain (libraries : Libraries) (object : Object kind) :
    (deleteFunc libraries object).Calls (·.plain = true) := by
  have plain : ∀ {program : Prog (Object kind) (Except GoError Unit)},
      program.Calls (·.plain = true) → (deleting object program).Calls (·.plain = true) := by
    refine fun calls => calls.bind fun outcome => ?_
    split <;> trivial
  cases kind with
  | binding =>
      exact plain (deleteBinding_calls libraries (fun _ _ _ => ⟨rfl, rfl⟩) fun _ => rfl)
  | exchange => exact plain (deleteExchange_calls rfl)
  | operatorPolicy => exact plain (deleteOperatorPolicy_calls rfl)
  | policy => exact plain (deletePolicy_calls rfl)
  | schemaReplication => exact plain (deleteSchemaReplication_calls rfl)
  | permission | topicPermission =>
      exact deleteForUser_calls (fun _ => rfl) rfl fun _ _ => calls_ask.mpr rfl
  | queue => exact plain (deleteQueue_calls rfl rfl)
  | federation => exact plain (deleteFederation_calls rfl)
  | shovel => exact plain (deleteShovel_calls rfl)
  | user => exact plain (deleteUser_calls rfl)
  | vhost => exact plain (deleteVhost_calls rfl)

end Plain

section Reconcile

variable {alike : Secret → Secret → Prop} {r : TopologyReconciler}
  (alikes : ∀ secret other, alike secret other → secret.Alike r.libraries other)
include alikes

/-- Every declare function conceals the credentials that it handles. -/
theorem declareFunc_concealing (object : Object kind) :
    Concealing alike Eq (declareFunc r.libraries object) (declareFunc r.libraries object) := by
  have declares : ∀ {program : Prog (Object kind) (Except GoError Unit)},
      Concealing alike Eq program program →
        Concealing alike Eq (declaring object program) (declaring object program) := by
    refine fun conceals => conceals.bind ?_
    rintro outcome _ rfl
    rfl
  cases kind with
  | federation => exact declares (declareFederation_concealing alikes object)
  | shovel => exact declares (declareShovel_concealing alikes object)
  | schemaReplication => exact declares (declareSchemaReplication_concealing alikes object)
  | user => exact declareUser_concealing alikes object
  | permission =>
      exact concealing_plain (declarePermission_calls (fun _ => rfl) (fun _ => rfl)
        fun _ _ => rfl)
  | topicPermission =>
      exact concealing_plain (declareTopicPermission_calls (fun _ => rfl) (fun _ => rfl)
        fun _ _ => rfl)
  | binding =>
      exact declares (concealing_plain (declareBinding_calls r.libraries fun _ _ => rfl))
  | exchange =>
      exact declares (concealing_plain (declareExchange_calls r.libraries fun _ _ => rfl))
  | queue => exact declares (concealing_plain (declareQueue_calls r.libraries fun _ _ => rfl))
  | policy => exact declares (concealing_plain (declarePolicy_calls r.libraries fun _ _ => rfl))
  | operatorPolicy =>
      exact declares (concealing_plain (declareOperatorPolicy_calls r.libraries fun _ _ => rfl))
  | vhost =>
      exact declares (concealing_plain (declareVhost_calls rfl rfl (fun _ => rfl) fun _ => rfl))

/-- So does the reconcile of an object that was read, with its finalizer, events and status. -/
theorem reconcileObject_concealing (object : Object kind) :
    Concealing alike Eq (r.reconcileObject object) (r.reconcileObject object) := by
  unfold TopologyReconciler.reconcileObject
  split
  · refine (concealing_plain (deleteFunc_plain r.libraries object)).bind ?_
    rintro outcome _ rfl
    rcases outcome with err | released
    · exact concealing_plain (calls_ask_bind rfl fun _ => trivial)
    · exact concealing_plain (calls_ask_bind rfl fun _ =>
        Calls.bind (removeFinalizer_calls rfl) fun _ => trivial)
  · refine (concealing_plain (addFinalizerIfNeeded_calls rfl)).bind ?_
    rintro added _ rfl
    rcases added with err | object
    · rfl
    refine (declareFunc_concealing alikes object).bind ?_
    rintro declared _ rfl
    refine concealing_plain (recordDeclared_calls ?_ (fun _ => ?_) (fun _ _ => ?_) _) <;> rfl

/-- A reconcile whose answers differ in credentials only does not differ in more. -/
theorem reconcile_concealing (key : NamespacedName) :
    Concealing alike Eq (r.reconcile key : Prog (Object kind) _) (r.reconcile key) := by
  refine concealing_ask (.plain rfl) ?_
  rintro found _ rfl
  rcases found with err | object
  · rfl
  refine (concealing_plain (extractSystemCertPool_calls rfl fun _ => rfl)).bind ?_
  rintro certificates _ rfl
  rcases certificates with err | ⟨⟩
  · rfl
  refine (parseReference_concealing alikes _ _ _ _).bind ?_
  rintro _ _ (err | @⟨found, other, same⟩)
  · exact concealing_plain (handleRMQReferenceParseError_calls rfl (fun _ => rfl)
      (fun _ _ => rfl) fun _ => rfl)
  refine (generateRabbitholeClient_concealing same).bind ?_
  rintro client _ rfl
  rcases client with err | ⟨⟩
  · rfl
  · exact reconcileObject_concealing alikes object

end Reconcile

end TopologyOperator
