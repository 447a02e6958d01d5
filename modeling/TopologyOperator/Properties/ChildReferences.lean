import TopologyOperator.Client.Resolution
import TopologyOperator.Properties.BuiltTopology
import TopologyOperator.Webhook.Validation

/-!
# References of super streams and of their children

A super stream resolves its cluster reference itself and hands a new reference to its
children, which the topology reconciler resolves with `ParseReference`. For a reference
by name both read the same cluster and come to the same verdict. A reference by
connection secret is not understood: the super stream looks for a cluster without a
name, and reports that there is none although the Secret is there.
-/

namespace TopologyOperator.SuperStreamServer

open Dialogue Program SuperStreamReconciler

/-- What references are resolved against: the objects of Kubernetes and the secret
store. -/
structure ClusterState where
  rabbitmqCluster : NamespacedName → Except ApiError RabbitmqCluster
  secret : Reader → NamespacedName → Except ApiError Secret
  service : NamespacedName → Except ApiError Service
  secretStoreClient : Except String Unit
  credentials : String → Except String (String × String)

namespace ClusterState

variable {Resource : Type} (state : ClusterState)

/-- Reads are answered from the state. -/
def answer : (request : Request Resource) → request.Answer
  | .getRabbitmqCluster key => state.rabbitmqCluster key
  | .getSecret reader key => state.secret reader key
  | .getService key => state.service key
  | .secretStoreClient => state.secretStoreClient
  | .readCredentials path => state.credentials path
  | request => request.refusal

end ClusterState

/-- The object that a reference points to. -/
inductive Referent where
  | rabbitmqCluster (key : NamespacedName)
  | connectionSecret (key : NamespacedName)
  deriving DecidableEq

section Resolution

variable {Resource α : Type}

/-- The object that a resolution reads first. -/
def readFirst : Prog Resource α → Option Referent
  | .call (.getRabbitmqCluster key) _ => some (.rabbitmqCluster key)
  | .call (.getSecret .cache key) _ => some (.connectionSecret key)
  | _ => none

/-- The resolution ends with the verdict that the namespace is not allowed. -/
def Refused (state : ClusterState)
    (resolving : Prog Resource (Except GoError (ConnectionCreds × Bool))) : Prop :=
  resolving.outcome state.answer = .done (.error .errResourceNotAllowed)

variable {libraries : Libraries} {rmq : RabbitmqClusterReference}
  {requestNamespace clusterDomain : String} {connectUsingHTTP : Bool} {state : ClusterState}

theorem readFirst_parseReference (byName : rmq.connectionSecret = none) :
    readFirst (parseReference libraries rmq requestNamespace clusterDomain connectUsingHTTP :
      Prog Resource _) = some (.rabbitmqCluster (rmq.clusterKey requestNamespace)) := by
  unfold parseReference
  rw [byName]
  rfl

/-- A reference by name is refused by the annotations of the cluster. -/
theorem refused_parseReference (byName : rmq.connectionSecret = none) :
    Refused state (parseReference libraries rmq requestNamespace clusterDomain connectUsingHTTP :
      Prog Resource _) ↔
      ∃ cluster, state.rabbitmqCluster (rmq.clusterKey requestNamespace) = .ok cluster ∧
        allowedNamespace rmq requestNamespace cluster = false := by
  constructor
  · intro refused
    obtain ⟨trace, exec, answered⟩ := exists_exec_outcome state.answer
      (parseReference libraries rmq requestNamespace clusterDomain connectUsingHTTP :
        Prog Resource _)
    rw [show Program.outcome _ _ = _ from refused] at exec
    cases parseReference_error exec with
    | clusterNotAllowed cluster _ found notAllowed =>
        exact ⟨cluster, (answered _ found).symm, notAllowed⟩
    | unusableSecret _ bySecret | secretNotAllowed _ _ bySecret =>
        rw [byName] at bySecret
        cases bySecret
    | secretNotFound _ _ _ _ _ _ _ _ _ permitted
    | serviceNotFound _ _ _ _ _ _ _ _ _ permitted => cases permitted
    | unusableCluster _ _ _ ordinary => cases ordinary.2.2
  · rintro ⟨cluster, found, notAllowed⟩
    have told : state.answer (.getRabbitmqCluster (rmq.clusterKey requestNamespace) :
        Request Resource) = .ok cluster := found
    unfold Refused parseReference
    rw [byName]
    refine (outcome_ask_bind ..).trans ?_
    rw [show state.answer (.getRabbitmqCluster ⟨_, _⟩) = _ from told]
    simp only [notAllowed, Bool.false_eq_true, ↓reduceIte]
    rfl

end Resolution

section Alike

variable {r : TopologyReconciler} {state : ClusterState} {stream : SuperStream}

/-- `ParseReference` for the reference of the super stream itself. -/
def ownResolution (r : TopologyReconciler) (stream : SuperStream) :
    Prog SuperStream (Except GoError (ConnectionCreds × Bool)) :=
  parseReference r.libraries stream.spec.rabbitmqClusterReference stream.objectMeta.ns
    r.kubernetesClusterDomain r.connectUsingPlainHTTP

/-- The object that the super stream refers to exists and allows its namespace. -/
def Grants (state : ClusterState) (stream : SuperStream) : Prop :=
  let rmq := stream.spec.rabbitmqClusterReference
  let ns := stream.objectMeta.ns
  match rmq.connectionSecret with
  | some reference =>
      ∃ secret, state.secret .cache ⟨rmq.connectionSecretNamespace ns, reference.name⟩ =
        .ok secret ∧ allowedNamespaceSecret rmq ns secret = true
  | none =>
      ∃ cluster, state.rabbitmqCluster (rmq.clusterKey ns) = .ok cluster ∧
        allowedNamespace rmq ns cluster = true

/-- The super stream and its children resolve their references alike: the children read
the object that the super stream refers to and are refused if it is, and an object that
grants access is not reported missing. -/
structure ResolvesAlike (r : TopologyReconciler) (state : ClusterState) (stream : SuperStream) :
    Prop where
  sameObject : ∀ reference resource child,
    (resolution stream).outcome state.answer = .done (.ok reference) →
    Made (builderOf stream reference) resource child →
    readFirst (r.resolve child) = readFirst (ownResolution r stream)
  sameVerdict : ∀ reference resource child,
    (resolution stream).outcome state.answer = .done (.ok reference) →
    Made (builderOf stream reference) resource child →
    (Refused state (r.resolve child) ↔ Refused state (ownResolution r stream))
  notMissing : Grants state stream → ∀ err,
    (resolution stream).outcome state.answer = .done (.error err) →
    err.is .errNoSuchRabbitmqCluster = false

/-- A child has the reference and the namespace that its builder gives it. -/
theorem resolve_of_made {reference : RabbitmqClusterReference} {resource : ResourceBuilder}
    {child : Object resource.kind} (made : Made (builderOf stream reference) resource child) :
    r.resolve child = parseReference r.libraries reference stream.objectMeta.ns
      r.kubernetesClusterDomain r.connectUsingPlainHTTP := by
  have placed : child.objectMeta.ns = stream.objectMeta.ns := by
    have named := congrArg NamespacedName.ns made.named
    cases resource <;> exact named
  have referring : child.rabbitReference = reference := by
    cases resource with
    | superStreamExchange =>
        exact (congrArg ExchangeSpec.rabbitmqClusterReference made.spec).symm
    | superStreamPartition =>
        exact (congrArg QueueSpec.rabbitmqClusterReference made.spec).symm
    | superStreamBinding =>
        exact (congrArg BindingSpec.rabbitmqClusterReference made.spec).symm
  rw [TopologyReconciler.resolve, placed, referring]

/-- The reference of the children spells out the namespace. -/
theorem connectionSecretNamespace_referenceOf (stream : SuperStream) :
    (referenceOf stream).connectionSecretNamespace stream.objectMeta.ns =
      stream.spec.rabbitmqClusterReference.connectionSecretNamespace stream.objectMeta.ns := by
  simp only [referenceOf, RabbitmqClusterReference.connectionSecretNamespace]
  by_cases omitted : stream.spec.rabbitmqClusterReference.ns = ""
  · simp only [omitted, ↓reduceIte, ite_self]
  · simp only [omitted, ↓reduceIte]

theorem clusterKey_referenceOf (stream : SuperStream) :
    (referenceOf stream).clusterKey stream.objectMeta.ns =
      stream.spec.rabbitmqClusterReference.clusterKey stream.objectMeta.ns := by
  rw [RabbitmqClusterReference.clusterKey, connectionSecretNamespace_referenceOf]
  rfl

/-- The children are allowed to use the cluster exactly if the super stream is. -/
theorem allowedNamespace_referenceOf (cluster : RabbitmqCluster) :
    allowedNamespace (referenceOf stream) stream.objectMeta.ns cluster =
      allowedNamespace stream.spec.rabbitmqClusterReference stream.objectMeta.ns cluster := by
  rw [← Bool.coe_iff_coe, ← not_iff_not, Bool.not_eq_true, Bool.not_eq_true]
  unfold allowedNamespace
  rw [allowedByAnnotations_eq_false, allowedByAnnotations_eq_false,
    connectionSecretNamespace_referenceOf]

theorem reference_of_outcome {reference : RabbitmqClusterReference}
    (resolved : (resolution stream).outcome state.answer = .done (.ok reference)) :
    reference = referenceOf stream := by
  obtain ⟨trace, exec, -⟩ := exists_exec_outcome state.answer (resolution stream)
  rw [resolved] at exec
  exact resolution_eq exec

/-- A cluster that grants access is found. -/
theorem outcome_of_grants (byName : stream.spec.rabbitmqClusterReference.connectionSecret = none)
    (grants : Grants state stream) :
    (resolution stream).outcome state.answer = .done (.ok (referenceOf stream)) := by
  simp only [Grants, byName] at grants
  obtain ⟨cluster, found, allowed⟩ := grants
  refine (outcome_ask_bind ..).trans ?_
  rw [show state.answer (.getRabbitmqCluster ⟨_, _⟩) = _ from found]
  simp only [allowed, ↓reduceIte]
  rfl

theorem resolvesAlike_of_name
    (byName : stream.spec.rabbitmqClusterReference.connectionSecret = none) :
    ResolvesAlike r state stream where
  sameObject reference resource child resolved made := by
    cases reference_of_outcome resolved
    rw [resolve_of_made made, ownResolution, readFirst_parseReference rfl,
      readFirst_parseReference byName, clusterKey_referenceOf]
  sameVerdict reference resource child resolved made := by
    cases reference_of_outcome resolved
    rw [resolve_of_made made, ownResolution, refused_parseReference rfl,
      refused_parseReference byName, clusterKey_referenceOf]
    simp only [allowedNamespace_referenceOf]
  notMissing grants err failed := by
    rw [outcome_of_grants byName grants] at failed
    cases failed

/-- A state without clusters in which every Secret admits all namespaces. -/
def secretsOnly : ClusterState where
  rabbitmqCluster _ := .error ⟨.notFound, "not found"⟩
  secret _ key := .ok {
    objectMeta := {
      name := key.name
      ns := key.ns
      annotations := [(allowedNamespacesAnnotationKey, "*")] } }
  service _ := .error ⟨.notFound, "not found"⟩
  secretStoreClient := .error "no secret store"
  credentials _ := .error "no secret store"

/-- Whatever the state, the children of a super stream resolve their reference as the
super stream does, exactly if its reference is one by name. -/
theorem children_resolve_alike_iff (r : TopologyReconciler) (stream : SuperStream) :
    (∀ state, ResolvesAlike r state stream) ↔
      stream.spec.rabbitmqClusterReference.connectionSecret = none := by
  constructor
  · intro alike
    by_contra bySecret
    obtain ⟨reference, given⟩ := Option.ne_none_iff_exists'.mp bySecret
    have grants : Grants secretsOnly stream := by
      simp only [Grants, given]
      exact ⟨_, rfl, allowedByAnnotations_star ..⟩
    cases (alike secretsOnly).notMissing grants _ rfl
  · exact fun byName state => resolvesAlike_of_name byName

end Alike

section Example

/-- A super stream that is reached through a connection secret. -/
def ledgerStream : SuperStream where
  objectMeta := { name := "ledger", ns := "shop", uid := 1, resourceVersion := 1 }
  spec := {
    name := "ledger"
    vhost := "/"
    partitions := 1
    rabbitmqClusterReference := { connectionSecret := some ⟨"rabbit"⟩ } }

/-- The super stream is accepted and its Secret admits the namespace, but it is reported
that there is no such cluster. -/
theorem ledgerStream_reported_missing :
    SuperStreamCustomValidator.validateCreate ledgerStream = .ok () ∧
      Grants secretsOnly ledgerStream ∧
      ∃ err, (resolution ledgerStream).outcome secretsOnly.answer = .done (.error err) ∧
        err.is .errNoSuchRabbitmqCluster = true :=
  ⟨rfl, ⟨_, rfl, rfl⟩, _, rfl, rfl⟩

end Example

end TopologyOperator.SuperStreamServer
