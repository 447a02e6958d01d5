import TopologyOperator.Client.ParseReference

/-!
# How resolving a reference ends

`ResolveFailed` lists the exits of `parseReference` that return an error, each
with the answers that led to it. The controllers treat three sentinel errors
apart from all others, which are `Ordinary`. `Endpoint` lists where the URI comes
from if there is no error.
-/

namespace TopologyOperator

open Dialogue

variable {Resource : Type} {libraries : Libraries}

/-- The cluster that a reference names. -/
def RabbitmqClusterReference.clusterKey (rmq : RabbitmqClusterReference)
    (requestNamespace : String) : NamespacedName :=
  ⟨rmq.connectionSecretNamespace requestNamespace, rmq.name⟩

section Listed

/-- The annotation that allows other namespaces has an entry for this one. -/
def Listed (requestNamespace : String) (annotations : List (String × String)) : Prop :=
  ∃ entries, annotations.lookup allowedNamespacesAnnotationKey = some entries ∧
    ∃ entry ∈ splitByComma entries, entry = requestNamespace ∨ entry = "*"

/-- A reference leaves its namespace exactly if it names another one. -/
theorem connectionSecretNamespace_ne {rmq : RabbitmqClusterReference} {requestNamespace : String} :
    rmq.connectionSecretNamespace requestNamespace ≠ requestNamespace ↔
      rmq.ns ≠ "" ∧ rmq.ns ≠ requestNamespace := by
  unfold RabbitmqClusterReference.connectionSecretNamespace
  by_cases omitted : rmq.ns = "" <;> simp [omitted]

/-- The check refuses exactly the references to another namespace that does not list
this one. -/
theorem allowedByAnnotations_eq_false {rmq : RabbitmqClusterReference} {requestNamespace : String}
    {annotations : List (String × String)} :
    allowedByAnnotations rmq requestNamespace annotations = false ↔
      rmq.connectionSecretNamespace requestNamespace ≠ requestNamespace ∧
        ¬ Listed requestNamespace annotations := by
  rw [connectionSecretNamespace_ne]
  unfold allowedByAnnotations
  split
  · next crossing =>
      refine Iff.trans ?_ (and_iff_right crossing).symm
      split
      · next entries found =>
          simp only [List.any_eq_false, decide_eq_true_eq, Listed, found, Option.some.injEq,
            exists_eq_left', not_exists, not_and, @eq_comm _ requestNamespace]
      · next absent => simp [Listed, absent]
  · next same => simp [same]

/-- The annotation `*` admits all namespaces. -/
theorem allowedByAnnotations_star (rmq : RabbitmqClusterReference) (requestNamespace : String)
    (others : List (String × String)) :
    allowedByAnnotations rmq requestNamespace ((allowedNamespacesAnnotationKey, "*") :: others) =
      true := by
  rw [← Bool.not_eq_false, allowedByAnnotations_eq_false]
  rintro ⟨-, unlisted⟩
  exact unlisted ⟨"*", List.lookup_cons_self, "*", List.mem_singleton.mpr rfl, .inr rfl⟩

end Listed

/-- An error that wraps none of the sentinels of the resolution. -/
def GoError.Ordinary (err : GoError) : Prop :=
  err.is .errNoSuchRabbitmqCluster = false ∧ err.is .errClusterScaledToZero = false ∧
    err.is .errResourceNotAllowed = false

/-- The error exits of `parseReference`. -/
inductive ResolveFailed (rmq : RabbitmqClusterReference) (requestNamespace : String)
    (trace : Trace Resource) : GoError → Prop where
  /-- The connection secret cannot be read, or holds no usable URI. -/
  | unusableSecret {err : GoError} (reference : LocalObjectReference)
      (bySecret : rmq.connectionSecret = some reference) (ordinary : err.Ordinary) :
      ResolveFailed rmq requestNamespace trace err
  | secretNotAllowed (reference : LocalObjectReference) (secret : Secret)
      (bySecret : rmq.connectionSecret = some reference)
      (found : ⟨.getSecret .cache ⟨rmq.connectionSecretNamespace requestNamespace,
        reference.name⟩, .ok secret⟩ ∈ trace)
      (refused : allowedNamespaceSecret rmq requestNamespace secret = false) :
      ResolveFailed rmq requestNamespace trace .errResourceNotAllowed
  /-- The cluster cannot be read, whatever the reason. -/
  | unreadable (failure : ApiError) (byName : rmq.connectionSecret = none)
      (asked : trace = [⟨.getRabbitmqCluster (rmq.clusterKey requestNamespace), .error failure⟩]) :
      ResolveFailed rmq requestNamespace trace
        (.wrapped ("failed to get cluster from reference: " ++ failure.message ++ " Error: ")
          .errNoSuchRabbitmqCluster "")
  | clusterNotAllowed (cluster : RabbitmqCluster) (byName : rmq.connectionSecret = none)
      (found : ⟨.getRabbitmqCluster (rmq.clusterKey requestNamespace), .ok cluster⟩ ∈ trace)
      (refused : allowedNamespace rmq requestNamespace cluster = false) :
      ResolveFailed rmq requestNamespace trace .errResourceNotAllowed
  | scaledToZero (cluster : RabbitmqCluster) (byName : rmq.connectionSecret = none)
      (found : ⟨.getRabbitmqCluster (rmq.clusterKey requestNamespace), .ok cluster⟩ ∈ trace)
      (replicas : cluster.replicas = some 0) :
      ResolveFailed rmq requestNamespace trace .errClusterScaledToZero
  | secretNotFound {err : GoError} (cluster : RabbitmqCluster) (reference : LocalObjectReference)
      (failure : ApiError) (byName : rmq.connectionSecret = none)
      (found : ⟨.getRabbitmqCluster (rmq.clusterKey requestNamespace), .ok cluster⟩ ∈ trace)
      (bound : cluster.binding = some reference)
      (asked : ⟨.getSecret .api ⟨rmq.connectionSecretNamespace requestNamespace,
        reference.name⟩, .error failure⟩ ∈ trace)
      (missing : failure.reason = .notFound) (wraps : err.is .errNoSuchRabbitmqCluster = true)
      (permitted : err.is .errResourceNotAllowed = false) :
      ResolveFailed rmq requestNamespace trace err
  | serviceNotFound {err : GoError} (cluster : RabbitmqCluster) (reference : LocalObjectReference)
      (failure : ApiError) (byName : rmq.connectionSecret = none)
      (found : ⟨.getRabbitmqCluster (rmq.clusterKey requestNamespace), .ok cluster⟩ ∈ trace)
      (served : cluster.serviceReference = some reference)
      (asked : ⟨.getService ⟨rmq.connectionSecretNamespace requestNamespace,
        reference.name⟩, .error failure⟩ ∈ trace)
      (missing : failure.reason = .notFound) (wraps : err.is .errNoSuchRabbitmqCluster = true)
      (permitted : err.is .errResourceNotAllowed = false) :
      ResolveFailed rmq requestNamespace trace err
  | unusableCluster {err : GoError} (cluster : RabbitmqCluster)
      (byName : rmq.connectionSecret = none)
      (found : ⟨.getRabbitmqCluster (rmq.clusterKey requestNamespace), .ok cluster⟩ ∈ trace)
      (ordinary : err.Ordinary) : ResolveFailed rmq requestNamespace trace err

/-- An error of the API server says that something is missing by its reason alone. -/
theorem isNotFound_api {failure : ApiError} :
    (GoError.api failure).isNotFound = true ↔ failure.reason = .notFound := by
  simp [GoError.isNotFound, GoError.reason]

/-- A URI that is not accepted is an ordinary error. -/
theorem extractURIandScheme_error {uri : String} {err : GoError}
    (failed : extractURIandScheme libraries uri = .error err) : err.Ordinary := by
  simp only [extractURIandScheme] at failed
  split at failed
  · cases failed
    exact ⟨rfl, rfl, rfl⟩
  · cases failed

/-- So is a connection secret that cannot be used. -/
theorem readCredentialsFromKubernetesSecret_error {secret : Secret} {err : GoError}
    (failed : readCredentialsFromKubernetesSecret libraries secret = .error err) :
    err.Ordinary := by
  unfold readCredentialsFromKubernetesSecret at failed
  split at failed
  · cases failed
    exact ⟨rfl, rfl, rfl⟩
  · split at failed
    · next failure =>
        cases failed
        exact extractURIandScheme_error failure
    · cases failed

/-- So is a Service without a usable port. -/
theorem managementURI_error {svc : Service} {useTLS : Bool} {clusterDomain path : String}
    {err : GoError} (failed : managementURI libraries svc useTLS clusterDomain path = .error err) :
    err.Ordinary := by
  unfold managementURI at failed
  split at failed
  · cases failed
    exact ⟨rfl, rfl, rfl⟩
  · cases failed

/-- A missing Secret of the default user counts as a missing cluster, and nothing else does. -/
theorem readDefaultUser_error {cluster : RabbitmqCluster} {ns : String} {err : GoError}
    {trace : Trace Resource}
    (exec : (readDefaultUser cluster ns).Exec trace (.done (.error err))) :
    (∃ reference failure, cluster.binding = some reference ∧
      ⟨.getSecret .api ⟨ns, reference.name⟩, .error failure⟩ ∈ trace ∧
      failure.reason = .notFound ∧ err.is .errNoSuchRabbitmqCluster = true ∧
      err.is .errResourceNotAllowed = false) ∨ err.Ordinary := by
  unfold readDefaultUser at exec
  split at exec
  · obtain ⟨opened, opening, -, afterOpening⟩ := exec_ask_bind.mp exec
    rcases opened with failure | ⟨⟩
    · cases afterOpening.2
      exact .inr ⟨rfl, rfl, rfl⟩
    · obtain ⟨found, reading, -, afterReading⟩ := exec_ask_bind.mp afterOpening
      rcases found with failure | credentials <;> cases afterReading.2
      exact .inr ⟨rfl, rfl, rfl⟩
  · split at exec
    · cases exec.2
      exact .inr ⟨rfl, rfl, rfl⟩
    · next reference bound =>
        obtain ⟨found, reading, rfl, afterReading⟩ := exec_ask_bind.mp exec
        rcases found with failure | secret
        · by_cases missing : (GoError.api failure).isNotFound = true
          · simp only [missing, ↓reduceIte] at afterReading
            cases afterReading.2
            exact .inl ⟨reference, failure, bound, List.mem_cons_self, isNotFound_api.mp missing,
              rfl, rfl⟩
          · simp only [missing] at afterReading
            cases afterReading.2
            exact .inr ⟨rfl, rfl, rfl⟩
        · cases afterReading.2

/-- A missing Service counts as a missing cluster, and nothing else does. -/
theorem readEndpoint_error {cluster : RabbitmqCluster} {reference : LocalObjectReference}
    {ns clusterDomain : String} {connectUsingHTTP : Bool} {err : GoError}
    {trace : Trace Resource}
    (exec : (readEndpoint libraries cluster reference ns clusterDomain connectUsingHTTP).Exec trace
      (.done (.error err))) :
    (∃ failure, ⟨.getService ⟨ns, reference.name⟩, .error failure⟩ ∈ trace ∧
      failure.reason = .notFound ∧ err.is .errNoSuchRabbitmqCluster = true ∧
      err.is .errResourceNotAllowed = false) ∨ err.Ordinary := by
  unfold readEndpoint at exec
  split at exec
  · exact .inr (extractURIandScheme_error (by simpa using exec.2.symm))
  · obtain ⟨found, reading, rfl, afterReading⟩ := exec_ask_bind.mp exec
    rcases found with failure | svc
    · by_cases missing : (GoError.api failure).isNotFound = true
      · simp only [missing, ↓reduceIte] at afterReading
        cases afterReading.2
        exact .inl ⟨failure, List.mem_cons_self, isNotFound_api.mp missing, rfl, rfl⟩
      · simp only [missing] at afterReading
        cases afterReading.2
        exact .inr ⟨rfl, rfl, rfl⟩
    · dsimp only at afterReading
      split at afterReading
      · cases afterReading.2
        exact .inr ⟨rfl, rfl, rfl⟩
      · split at afterReading
        · next failure =>
            cases afterReading.2
            have ordinary := managementURI_error failure
            exact .inr ordinary
        · cases afterReading.2

/-- The error exits after a cluster was found. -/
theorem parseCluster_error {rmq : RabbitmqClusterReference} {requestNamespace : String}
    {cluster : RabbitmqCluster} {clusterDomain : String} {connectUsingHTTP : Bool} {err : GoError}
    {before trace : Trace Resource}
    (byName : rmq.connectionSecret = none)
    (found : ⟨.getRabbitmqCluster (rmq.clusterKey requestNamespace), .ok cluster⟩ ∈ before)
    (exec : (parseCluster libraries cluster (rmq.connectionSecretNamespace requestNamespace)
      clusterDomain connectUsingHTTP).Exec trace (.done (.error err))) :
    ResolveFailed rmq requestNamespace (before ++ trace) err := by
  have found := List.mem_append_left trace found
  unfold parseCluster at exec
  split at exec
  · next replicas =>
      cases exec.2
      exact .scaledToZero cluster byName found replicas
  · split at exec
    · cases exec.2
      exact .unusableCluster cluster byName found ⟨rfl, rfl, rfl⟩
    · next reference served =>
        obtain ⟨user, first, second, rfl, reading, rest⟩ := Program.exec_bind_done.mp exec
        rcases user with failure | ⟨username, password⟩
        · cases rest.2
          rcases readDefaultUser_error reading with
            ⟨binding, failure, bound, asked, missing, wraps, permitted⟩ | ordinary
          · exact .secretNotFound cluster binding failure byName found bound
              (List.mem_append_right _ (List.mem_append_left _ asked)) missing wraps permitted
          · exact .unusableCluster cluster byName found ordinary
        · obtain ⟨endpoint, third, last, rfl, reading, rest⟩ := Program.exec_bind_done.mp rest
          rcases endpoint with failure | ⟨uri, useTLS⟩
          · cases rest.2
            rcases readEndpoint_error reading with
              ⟨failure, asked, missing, wraps, permitted⟩ | ordinary
            · exact .serviceNotFound cluster reference failure byName found served
                (List.mem_append_right _ (List.mem_append_right _
                  (List.mem_append_left _ asked))) missing wraps permitted
            · exact .unusableCluster cluster byName found ordinary
          · cases rest.2

/-- Every error of `parseReference` comes from one of the listed exits. -/
theorem parseReference_error {rmq : RabbitmqClusterReference}
    {requestNamespace clusterDomain : String} {connectUsingHTTP : Bool} {err : GoError}
    {trace : Trace Resource}
    (exec : (parseReference libraries rmq requestNamespace clusterDomain connectUsingHTTP).Exec
      trace (.done (.error err))) : ResolveFailed rmq requestNamespace trace err := by
  unfold parseReference at exec
  split at exec
  · next reference bySecret =>
      obtain ⟨found, reading, rfl, afterReading⟩ := exec_ask_bind.mp exec
      rcases found with failure | secret
      · cases afterReading.2
        exact .unusableSecret reference bySecret ⟨rfl, rfl, rfl⟩
      · dsimp only at afterReading
        split at afterReading
        · exact .unusableSecret reference bySecret
            (readCredentialsFromKubernetesSecret_error (by simpa using afterReading.2.symm))
        · next refused =>
            cases afterReading.2
            exact .secretNotAllowed reference secret bySecret List.mem_cons_self
              (by simpa using refused)
  · next byName =>
      obtain ⟨found, reading, rfl, afterReading⟩ := exec_ask_bind.mp exec
      rcases found with failure | cluster
      · obtain ⟨rfl, stops⟩ := afterReading
        cases stops
        exact .unreadable failure byName rfl
      · dsimp only at afterReading
        split at afterReading
        · have failed := parseCluster_error byName (List.mem_singleton.mpr rfl) afterReading
          exact failed
        · next refused =>
            cases afterReading.2
            exact .clusterNotAllowed cluster byName List.mem_cons_self (by simpa using refused)

section Resolved

/-- Where the URI of a resolved reference and its flag come from. -/
inductive Endpoint (libraries : Libraries) : String → Bool → Prop where
  /-- The Secret or the annotation holds it. -/
  | extracted {uri : String} {tls : Bool} (text : String)
      (extracts : extractURIandScheme libraries text = .ok (uri, tls)) : Endpoint libraries uri tls
  /-- It is the management port of a Service. -/
  | managed {uri : String} {tls : Bool} (svc : Service) (clusterDomain path : String)
      (builds : managementURI libraries svc tls clusterDomain path = .ok uri) :
      Endpoint libraries uri tls

/-- A connection secret that is accepted says where the broker is. -/
theorem readCredentialsFromKubernetesSecret_ok {secret : Secret} {creds : ConnectionCreds}
    {tls : Bool} (read : readCredentialsFromKubernetesSecret libraries secret = .ok (creds, tls)) :
    ∃ username password uri, creds = connectionCreds username password uri ∧
      Endpoint libraries uri tls := by
  unfold readCredentialsFromKubernetesSecret at read
  split at read
  · cases read
  split at read
  · cases read
  next extracts =>
  cases read
  exact ⟨_, _, _, rfl, .extracted _ extracts⟩

/-- So does a cluster, by its annotation or its Service. -/
theorem readEndpoint_ok {cluster : RabbitmqCluster} {reference : LocalObjectReference}
    {ns clusterDomain uri : String} {connectUsingHTTP tls : Bool} {trace : Trace Resource}
    (exec : (readEndpoint libraries cluster reference ns clusterDomain connectUsingHTTP).Exec trace
      (.done (.ok (uri, tls)))) : Endpoint libraries uri tls := by
  unfold readEndpoint at exec
  split at exec
  · exact .extracted _ (by simpa using exec.2.symm)
  · obtain ⟨found, reading, rfl, afterReading⟩ := exec_ask_bind.mp exec
    rcases found with failure | svc
    · dsimp only at afterReading
      split at afterReading <;> cases afterReading.2
    · dsimp only at afterReading
      split at afterReading
      · cases afterReading.2
      split at afterReading
      · cases afterReading.2
      next builds =>
      cases afterReading.2
      exact .managed svc _ _ builds

/-- What is resolved from a cluster has the endpoint that was read for it. -/
theorem parseCluster_ok {cluster : RabbitmqCluster} {ns clusterDomain : String}
    {connectUsingHTTP tls : Bool} {creds : ConnectionCreds} {trace : Trace Resource}
    (exec : (parseCluster libraries cluster ns clusterDomain connectUsingHTTP).Exec trace
      (.done (.ok (creds, tls)))) :
    ∃ username password uri, creds = connectionCreds username password uri ∧
      Endpoint libraries uri tls := by
  unfold parseCluster at exec
  split at exec
  · cases exec.2
  split at exec
  · cases exec.2
  obtain ⟨user, first, second, rfl, -, rest⟩ := Program.exec_bind_done.mp exec
  rcases user with failure | ⟨username, password⟩
  · cases rest.2
  obtain ⟨endpoint, third, last, rfl, located, rest⟩ := Program.exec_bind_done.mp rest
  rcases endpoint with failure | ⟨uri, useTLS⟩ <;> cases rest.2
  exact ⟨username, password, uri, rfl, readEndpoint_ok located⟩

/-- The credentials of a resolved reference have all three keys. -/
theorem parseReference_ok {rmq : RabbitmqClusterReference}
    {requestNamespace clusterDomain : String} {connectUsingHTTP tls : Bool}
    {creds : ConnectionCreds} {trace : Trace Resource}
    (exec : (parseReference libraries rmq requestNamespace clusterDomain connectUsingHTTP).Exec
      trace (.done (.ok (creds, tls)))) :
    ∃ username password uri, creds = connectionCreds username password uri ∧
      Endpoint libraries uri tls := by
  unfold parseReference at exec
  split at exec
  · obtain ⟨found, reading, rfl, afterReading⟩ := exec_ask_bind.mp exec
    rcases found with failure | secret
    · cases afterReading.2
    dsimp only at afterReading
    split at afterReading
    · exact readCredentialsFromKubernetesSecret_ok (by simpa using afterReading.2.symm)
    · cases afterReading.2
  · obtain ⟨found, reading, rfl, afterReading⟩ := exec_ask_bind.mp exec
    rcases found with failure | cluster
    · cases afterReading.2
    dsimp only at afterReading
    split at afterReading
    · exact parseCluster_ok afterReading
    · cases afterReading.2

end Resolved

end TopologyOperator
