import TopologyOperator.Controller.SuperStream
import TopologyOperator.Controller.Topology

/-!
# Watches

What `SetupWithManager` of the controllers registers: the events that reach a
controller, and the requests that its handlers turn them into. A request is the name
of an object to reconcile. Every topology controller is set up with its list type, so
every one of them watches clusters; the user controller watches Secrets as well.
-/

namespace TopologyOperator

/-- An event on a Kubernetes object, with the object as the event shows it. -/
inductive WatchEvent where
  | rabbitmqCluster (cluster : RabbitmqCluster)
  | secret (secret : Secret)
  | topology {kind : Kind} (object : Object kind)
  | superStream (superStream : SuperStream)

/-- The answer to `List` for the objects of one kind. -/
abbrev Listing (kind : Kind) : Type := Except ApiError (List (Object kind))

/-- The objects that were listed; none if the listing failed. -/
def Listing.items {kind : Kind} (listing : Listing kind) : List (Object kind) :=
  match listing with
  | .error _ => []
  | .ok items => items

namespace TopologyReconciler

variable {kind : Kind}

/-- Whether the object refers to the cluster by name. -/
def refersTo (object : Object kind) (cluster : RabbitmqCluster) : Bool :=
  let ref := object.rabbitReference
  if ref.connectionSecret.isSome then false
  else
    let refNamespace := if ref.ns = "" then object.objectMeta.ns else ref.ns
    ref.name = cluster.objectMeta.name && refNamespace = cluster.objectMeta.ns

/-- One request for every object that refers to the cluster. -/
def rabbitmqClusterToRequests (listing : Listing kind) (cluster : RabbitmqCluster) :
    List NamespacedName :=
  (listing.items.filter (refersTo · cluster)).map (·.objectMeta.key)

end TopologyReconciler

namespace UserReconciler

def ownerKind : String := "User"

/-- The field index `.spec.importCredentialsSecret.name`. -/
def importCredentialsIndex (user : Object .user) : List String :=
  match user.spec.importCredentialsSecret with
  | some reference => [reference.name]
  | none => []

/-- `List` of the users in the namespace of the Secret that are indexed under its
name. -/
def importers (listing : Listing .user) (secret : Secret) : List (Object .user) :=
  listing.items.filter fun user =>
    user.objectMeta.ns = secret.objectMeta.ns &&
      (importCredentialsIndex user).contains secret.objectMeta.name

/-- A Secret that is controlled by a user is taken for one with generated credentials;
any other Secret is looked up in the index. -/
def secretToUserRequests (listing : Listing .user) (secret : Secret) : List NamespacedName :=
  match getControllerOf secret.objectMeta.ownerReferences with
  | some owner =>
      if owner.kind = ownerKind then [⟨secret.objectMeta.ns, owner.name⟩]
      else (importers listing secret).map (·.objectMeta.key)
  | none => (importers listing secret).map (·.objectMeta.key)

end UserReconciler

namespace TopologyReconciler

/-- `SetupControllerBuilder`, which only the user reconciler has. -/
def secretRequests : {kind : Kind} → Listing kind → Secret → List NamespacedName
  | .user, listing, secret => UserReconciler.secretToUserRequests listing secret
  | _, _, _ => []

/-- The requests of the controller of a kind. -/
def requests {kind : Kind} (listing : Listing kind) : WatchEvent → List NamespacedName
  | .rabbitmqCluster cluster => rabbitmqClusterToRequests listing cluster
  | .secret secret => secretRequests listing secret
  | @WatchEvent.topology other object => if other = kind then [object.objectMeta.key] else []
  | .superStream _ => []

end TopologyReconciler

namespace SuperStreamReconciler

/-- The request for the super stream that controls the object. -/
def ownerRequests (objectMeta : ObjectMeta) : List NamespacedName :=
  match getControllerOf objectMeta.ownerReferences with
  | some owner =>
      if owner.kind = "SuperStream" ∧ apiGroup owner.apiVersion = some "rabbitmq.com" then
        [⟨objectMeta.ns, owner.name⟩]
      else []
  | none => []

/-- The requests of the super stream controller, which owns exchanges, bindings and
queues and watches nothing else. -/
def requests : WatchEvent → List NamespacedName
  | .superStream superStream => [superStream.objectMeta.key]
  | @WatchEvent.topology kind object =>
      match kind with
      | .exchange | .binding | .queue => ownerRequests object.objectMeta
      | _ => []
  | .rabbitmqCluster _ | .secret _ => []

end SuperStreamReconciler

section Requests

variable {kind : Kind} {object : Object kind} {cluster : RabbitmqCluster} {key : NamespacedName}

/-- An object refers to a cluster by name, in the namespace that it gives or in its own. -/
theorem TopologyReconciler.refersTo_iff : TopologyReconciler.refersTo object cluster = true ↔
    object.rabbitReference.connectionSecret = none ∧
      (⟨object.rabbitReference.connectionSecretNamespace object.objectMeta.ns,
        object.rabbitReference.name⟩ : NamespacedName) = cluster.objectMeta.key := by
  unfold TopologyReconciler.refersTo RabbitmqClusterReference.connectionSecretNamespace
  cases secret : object.rabbitReference.connectionSecret with
  | some reference => simp [secret]
  | none => simp [secret, ObjectMeta.key, and_comm]

/-- A cluster enqueues the listed objects that refer to it. -/
theorem TopologyReconciler.mem_rabbitmqClusterToRequests {listing : Listing kind} :
    key ∈ TopologyReconciler.rabbitmqClusterToRequests listing cluster ↔
      ∃ item ∈ listing.items, TopologyReconciler.refersTo item cluster = true ∧
        item.objectMeta.key = key := by
  simp only [TopologyReconciler.rabbitmqClusterToRequests, List.mem_map, List.mem_filter, and_assoc]

/-- An object that refers to the cluster is requested if it is listed with the reference
that it has. -/
theorem TopologyReconciler.requested_of_refersTo {listing : Listing kind} {item : Object kind}
    (refers : TopologyReconciler.refersTo object cluster = true) (listed : item ∈ listing.items)
    (same : item.objectMeta.key = object.objectMeta.key)
    (kept : item.rabbitReference = object.rabbitReference) :
    object.objectMeta.key ∈ TopologyReconciler.rabbitmqClusterToRequests listing cluster := by
  have sameNs : item.objectMeta.ns = object.objectMeta.ns := congrArg NamespacedName.ns same
  have itemRefers : TopologyReconciler.refersTo item cluster = true := by
    rw [TopologyReconciler.refersTo_iff] at refers ⊢
    rwa [kept, sameNs]
  exact TopologyReconciler.mem_rabbitmqClusterToRequests.mpr ⟨item, listed, itemRefers, same⟩

/-- The importers of a Secret are the users in its namespace that name it. -/
theorem UserReconciler.mem_importers {listing : Listing .user} {secret : Secret}
    {user : Object .user} : user ∈ UserReconciler.importers listing secret ↔
      user ∈ listing.items ∧ user.objectMeta.ns = secret.objectMeta.ns ∧
        user.spec.importCredentialsSecret = some ⟨secret.objectMeta.name⟩ := by
  unfold UserReconciler.importers UserReconciler.importCredentialsIndex
  cases imports : user.spec.importCredentialsSecret with
  | none => simp [imports]
  | some reference =>
      obtain ⟨name⟩ := reference
      simp [imports, @eq_comm _ name]

/-- Requests for a Secret are for users in its namespace. -/
theorem UserReconciler.secretToUserRequests_ns {listing : Listing .user} {secret : Secret}
    (member : key ∈ UserReconciler.secretToUserRequests listing secret) :
    key.ns = secret.objectMeta.ns := by
  have imported : key ∈ (UserReconciler.importers listing secret).map (·.objectMeta.key) →
      key.ns = secret.objectMeta.ns := by
    intro listed
    obtain ⟨user, importing, rfl⟩ := List.mem_map.mp listed
    exact (UserReconciler.mem_importers.mp importing).2.1
  unfold UserReconciler.secretToUserRequests at member
  split at member
  · split at member
    · rw [List.mem_singleton.mp member]
    · exact imported member
  · exact imported member

end Requests

end TopologyOperator
