import TopologyOperator.Client.ParseReference

/-!
# Incomplete connection secrets

A connection secret is documented to hold a `uri`, a `username` and a `password`.
`readCredentialsFromKubernetesSecret` tests for the first only and copies the other two
into a map that always has their keys, so the tests of `generateRabbitholeClient` on that
map cannot fail.
-/

namespace TopologyOperator

open Dialogue

variable {Resource : Type} {libraries : Libraries} {rmq : RabbitmqClusterReference}
  {reference : LocalObjectReference} {requestNamespace clusterDomain : String}
  {connectUsingHTTP : Bool} {secret : Secret} {trace : Trace Resource}

/-- `ParseReference`, and `generateRabbitholeClient` on its result. -/
def buildClient (libraries : Libraries) (rmq : RabbitmqClusterReference)
    (requestNamespace clusterDomain : String) (connectUsingHTTP : Bool) :
    Prog Resource (Except GoError Unit) := do
  match ← parseReference libraries rmq requestNamespace clusterDomain connectUsingHTTP with
  | .error err => return .error err
  | .ok (creds, tlsEnabled) => generateRabbitholeClient creds tlsEnabled

/-- The read of a connection secret by which `parseReference` resolves a reference. -/
def secretRead (rmq : RabbitmqClusterReference) (reference : LocalObjectReference)
    (requestNamespace : String) (secret : Secret) : Event (@Request.Answer Resource) :=
  ⟨.getSecret .cache ⟨rmq.connectionSecretNamespace requestNamespace, reference.name⟩, .ok secret⟩

/-- The Secret has the three documented keys. -/
def Secret.Complete (secret : Secret) : Prop :=
  ∀ key ∈ ["uri", "username", "password"], (secret.data.lookup key).isSome = true

/-- The reasons for which a connection secret is rejected. -/
inductive Rejected (libraries : Libraries) (rmq : RabbitmqClusterReference)
    (requestNamespace : String) (secret : Secret) : Prop where
  | notAllowed (refused : allowedNamespaceSecret rmq requestNamespace secret = false)
  | noUri (missing : secret.data.lookup "uri" = none)
  | badUri (uri : String) (failure : GoError) (given : secret.data.lookup "uri" = some uri)
      (failed : extractURIandScheme libraries uri = .error failure)

/-- The client gets the empty string for a key that is missing. -/
def clientMade (secret : Secret) (uri : String) (tls : Bool) : Event (@Request.Answer Resource) :=
  ⟨.newClient uri ((secret.data.lookup "username").getD "")
    ((secret.data.lookup "password").getD "") tls, .ok ()⟩

theorem read_of_not_rejected (accepted : ¬ Rejected libraries rmq requestNamespace secret) :
    allowedNamespaceSecret rmq requestNamespace secret = true ∧ ∃ uri tls,
      readCredentialsFromKubernetesSecret libraries secret =
        .ok (connectionCreds ((secret.data.lookup "username").getD "")
          ((secret.data.lookup "password").getD "") uri, tls) := by
  constructor
  · by_contra refused
    exact accepted (.notAllowed (Bool.eq_false_iff.mpr refused))
  cases given : secret.data.lookup "uri" with
  | none => exact absurd (.noUri given) accepted
  | some text =>
      cases extracted : extractURIandScheme libraries text with
      | error failure => exact absurd (.badUri text failure given extracted) accepted
      | ok result =>
          refine ⟨result.1, result.2, ?_⟩
          simp only [readCredentialsFromKubernetesSecret, given, extracted]

variable (Resource) in
/-- A client is built from every Secret that is not rejected. -/
theorem exec_buildClient (bySecret : rmq.connectionSecret = some reference)
    (accepted : ¬ Rejected libraries rmq requestNamespace secret) :
    ∃ uri tls, (buildClient libraries rmq requestNamespace clusterDomain connectUsingHTTP).Exec
      ([secretRead rmq reference requestNamespace secret, clientMade secret uri tls] :
        Trace Resource) (.done (.ok ())) := by
  obtain ⟨allowed, uri, tls, read⟩ := read_of_not_rejected accepted
  have parsing : (parseReference libraries rmq requestNamespace clusterDomain
      connectUsingHTTP).Exec ([secretRead rmq reference requestNamespace secret] :
        Trace Resource) (.done (.ok
        (connectionCreds ((secret.data.lookup "username").getD "")
          ((secret.data.lookup "password").getD "") uri, tls))) := by
    simp only [parseReference, bySecret]
    refine exec_ask_bind.mpr ⟨.ok secret, [], rfl, ?_⟩
    simp only [allowed, ↓reduceIte, read]
    exact ⟨rfl, rfl⟩
  refine ⟨uri, tls, Program.exec_bind_done.mpr ⟨_, _, [clientMade secret uri tls], rfl,
    parsing, ?_⟩⟩
  exact exec_ask_bind.mpr ⟨.ok (), [], rfl, rfl, rfl⟩

/-- No client is built from a Secret that is rejected. -/
theorem not_rejected_of_exec (bySecret : rmq.connectionSecret = some reference)
    (exec : (buildClient libraries rmq requestNamespace clusterDomain connectUsingHTTP).Exec
      trace (.done (.ok ())))
    (read : secretRead rmq reference requestNamespace secret ∈ trace) :
    ¬ Rejected libraries rmq requestNamespace secret := by
  obtain ⟨parsed, first, second, rfl, parsing, building⟩ := Program.exec_bind_done.mp exec
  rcases parsed with failure | ⟨creds, tls⟩
  · cases building.2
  simp only [parseReference, bySecret] at parsing
  obtain ⟨found, rest, rfl, reading⟩ := exec_ask_bind.mp parsing
  rcases found with failure | other
  · cases reading.2
  dsimp only at reading
  split at reading
  next allowed =>
    obtain ⟨rfl, returned⟩ := reading
    have same : other = secret := by
      rcases List.mem_cons.mp read with here | there
      · cases here
        rfl
      · obtain ⟨_, _, _, rfl⟩ := generateRabbitholeClient_ok building
        cases List.mem_singleton.mp there
    subst same
    rintro (refused | missing | ⟨uri, failure, given, failed⟩)
    · rw [allowed] at refused
      cases refused
    · simp only [readCredentialsFromKubernetesSecret, missing] at returned
      cases returned
    · simp only [readCredentialsFromKubernetesSecret, given, failed] at returned
      cases returned
  next => cases reading.2

/-- Only complete Secrets pass exactly if the Secret is rejected for another reason, or has
both a `username` and a `password`. -/
theorem incomplete_secret_rejected_iff (libraries : Libraries) (rmq : RabbitmqClusterReference)
    (reference : LocalObjectReference) (requestNamespace clusterDomain : String)
    (connectUsingHTTP : Bool) (secret : Secret)
    (bySecret : rmq.connectionSecret = some reference) :
    (∀ trace : Trace Resource,
      (buildClient libraries rmq requestNamespace clusterDomain connectUsingHTTP).Exec trace
        (.done (.ok ())) →
      secretRead rmq reference requestNamespace secret ∈ trace → secret.Complete) ↔
    Rejected libraries rmq requestNamespace secret ∨
      (secret.data.lookup "username").isSome = true ∧
        (secret.data.lookup "password").isSome = true := by
  constructor
  · intro complete
    by_cases rejected : Rejected libraries rmq requestNamespace secret
    · exact .inl rejected
    · obtain ⟨uri, tls, exec⟩ := exec_buildClient Resource bySecret rejected
      have all := complete _ exec List.mem_cons_self
      exact .inr ⟨all "username" (by decide), all "password" (by decide)⟩
  · intro passes trace exec read
    have accepted := not_rejected_of_exec bySecret exec read
    obtain ⟨username, password⟩ := passes.resolve_left accepted
    have uri : (secret.data.lookup "uri").isSome = true := by
      rw [Option.isSome_iff_ne_none]
      exact fun missing => accepted (.noUri missing)
    exact List.forall_mem_cons.mpr ⟨uri, List.forall_mem_cons.mpr ⟨username,
      List.forall_mem_singleton.mpr password⟩⟩

section Example

/-- A reference by the connection secret `rabbit`. -/
def bySecretReference : RabbitmqClusterReference := { connectionSecret := some ⟨"rabbit"⟩ }

/-- A connection secret with a URI only. -/
def uriSecret : Secret where
  objectMeta := { name := "rabbit", ns := "shop" }
  data := [("uri", "rabbit:15672")]

/-- The client is built with an empty name and an empty password. -/
theorem uriSecret_passes :
    ¬ uriSecret.Complete ∧
      (buildClient .verbatim bySecretReference "shop" ".cluster.local" false).Exec
        ([secretRead bySecretReference ⟨"rabbit"⟩ "shop" uriSecret,
          ⟨.newClient "http://rabbit:15672" "" "" false, .ok ()⟩] : Trace (Object .queue))
        (.done (.ok ())) := by
  constructor
  · intro complete
    cases complete "username" (by decide)
  · exact exec_ask_bind.mpr ⟨.ok uriSecret, _, rfl, exec_ask_bind.mpr ⟨.ok (), [], rfl, rfl, rfl⟩⟩

/-- The connection secret with all its keys. -/
def fullSecret : Secret :=
  { uriSecret with data := [("uri", "rabbit:15672"), ("username", "ops"), ("password", "secret")] }

theorem fullSecret_complete :
    bySecretReference.connectionSecret = some ⟨"rabbit"⟩ ∧ ∀ trace : Trace (Object .queue),
      (buildClient .verbatim bySecretReference "shop" ".cluster.local" false).Exec trace
        (.done (.ok ())) →
      secretRead bySecretReference ⟨"rabbit"⟩ "shop" fullSecret ∈ trace → fullSecret.Complete :=
  ⟨rfl, (incomplete_secret_rejected_iff .verbatim bySecretReference ⟨"rabbit"⟩ "shop"
    ".cluster.local" false fullSecret rfl).mpr (.inr ⟨rfl, rfl⟩)⟩

end Example

end TopologyOperator
