import TopologyOperator.Client.Resolution
import TopologyOperator.Controller.Runs
import TopologyOperator.Controller.Watches

/-!
# Wake-ups

A reconcile that cannot resolve the reference of its resource may give up for good:
it records that the resource is not ready and returns without an error and without a
requeue. The resource then depends on events on the object that it refers to. They
reach it if it is of a topology kind and refers to a cluster by name; events on a
connection Secret, and all events for a super stream, are lost.
-/

namespace TopologyOperator

open Dialogue Program

/-- What a reference points to. -/
inductive Target where
  | rabbitmqCluster (key : NamespacedName)
  | secret (key : NamespacedName)

/-- The event is one on this object. -/
def WatchEvent.On : WatchEvent → Target → Prop
  | .rabbitmqCluster cluster, .rabbitmqCluster key => cluster.objectMeta.key = key
  | .secret changed, .secret key => changed.objectMeta.key = key
  | _, _ => False

/-- A resource with a reference to a cluster. -/
inductive CustomResource where
  | topology {kind : Kind} (object : Object kind)
  | superStream (superStream : SuperStream)

namespace CustomResource

def key : CustomResource → NamespacedName
  | topology object => object.objectMeta.key
  | superStream stream => stream.objectMeta.key

/-- The object that a reconcile of the resource reads to resolve the reference. -/
def target : CustomResource → Target
  | topology object =>
      match object.rabbitReference.connectionSecret with
      | some reference => .secret
          ⟨object.rabbitReference.connectionSecretNamespace object.objectMeta.ns, reference.name⟩
      | none => .rabbitmqCluster (object.rabbitReference.clusterKey object.objectMeta.ns)
  | superStream stream => .rabbitmqCluster
      (stream.spec.rabbitmqClusterReference.clusterKey stream.objectMeta.ns)

/-- The requests of the controller of the resource, with the answers to `List` for
each kind. -/
def requests (listings : (kind : Kind) → Listing kind) :
    CustomResource → WatchEvent → List NamespacedName
  | @topology kind _, event => TopologyReconciler.requests (listings kind) event
  | superStream _, event => SuperStreamReconciler.requests event

/-- The resource is listed. -/
def Listed (listings : (kind : Kind) → Listing kind) : CustomResource → Prop
  | @topology kind object =>
      ∃ item ∈ (listings kind).items, item.objectMeta.key = object.objectMeta.key
  | superStream _ => True

/-- The reference did not change since, if the resource is listed. -/
def Unchanged (listings : (kind : Kind) → Listing kind) : CustomResource → Prop
  | @topology kind object => ∀ item ∈ (listings kind).items,
      item.objectMeta.key = object.objectMeta.key → item.rabbitReference = object.rabbitReference
  | superStream _ => True

/-- A resource of a topology kind that refers to its cluster by name. -/
def NamesCluster : CustomResource → Prop
  | topology object => object.rabbitReference.connectionSecret = none
  | superStream _ => False

end CustomResource

/-- A status was stored whose `Ready` condition is false. -/
def StoresNotReady {Resource : Type} (conditions : Resource → List Condition)
    (trace : Trace Resource) : Prop :=
  ∃ written version, ⟨.updateStatus written, .ok version⟩ ∈ trace ∧
    ∃ condition ∈ conditions written, condition.type = "Ready" ∧ condition.status = .conditionFalse

/-- A reconcile of the resource could not resolve its reference, stored that it is not
ready and returned without an error and without a requeue. -/
def Stalls (r : TopologyReconciler) : CustomResource → Prop
  | .topology object => ∃ resolving handling err,
      (r.resolve object).Exec resolving (.done (.error err)) ∧
      (r.reconcile object.objectMeta.key).Exec
        (TopologyReconciler.opening object.objectMeta.key object (resolving ++ handling))
        (.done ({}, none)) ∧
      StoresNotReady (·.status.conditions) handling
  | .superStream stream => ∃ resolving handling err,
      (SuperStreamReconciler.getRabbitmqClusterReference stream.spec.rabbitmqClusterReference
        stream.objectMeta.ns).Exec resolving (.done (.error err)) ∧
      (SuperStreamReconciler.reconcile stream.objectMeta.key).Exec
        (⟨.get stream.objectMeta.key, .ok stream⟩ :: (resolving ++ handling))
        (.done ({}, none)) ∧
      StoresNotReady (·.status.conditions) handling

section Exits

variable {kind : Kind} {object : Object kind} {r : TopologyReconciler} {key : NamespacedName}
  {resolving handling : Trace (Object kind)} {err : GoError}

/-- After a reference that could not be resolved, the error is handled. -/
theorem handled_of_unresolved {outcome : Outcome (Result × Option GoError)}
    (failed : (r.resolve object).Exec resolving (.done (.error err)))
    (exec : (r.reconcile key).Exec
      (TopologyReconciler.opening key object (resolving ++ handling)) outcome) :
    (TopologyReconciler.handleRMQReferenceParseError object err).Exec handling outcome := by
  obtain ⟨reply, afterRead, opened, exec⟩ := exec_ask_bind.mp exec
  cases opened
  obtain ⟨trusted, afterPool, opened, exec⟩ := exec_ask_bind.mp exec
  cases opened
  change ((r.resolve object).bind _).Exec _ _ at exec
  rcases exec_bind.mp exec with ⟨resolved, first, second, split, resolves, rest⟩ | ⟨stops, -⟩
  · obtain ⟨rfl, same⟩ := resolves.unique failed split.symm
    cases same
    rw [List.append_cancel_left split]
    exact rest
  · cases (stops.unique failed (List.append_nil _)).2

/-- The converse, by which a resource stalls. -/
theorem stalls_of_handled
    (failed : (r.resolve object).Exec resolving (.done (.error err)))
    (handled : (TopologyReconciler.handleRMQReferenceParseError object err).Exec handling
      (.done ({}, none)))
    (stored : StoresNotReady (·.status.conditions) handling) :
    Stalls r (.topology object) := by
  refine ⟨resolving, handling, err, failed, ?_, stored⟩
  refine ⟨.ok object, _, rfl, .ok (), _, rfl, ?_⟩
  change ((r.resolve object).bind _).Exec _ _
  exact exec_bind.mpr (.inl ⟨.error err, resolving, handling, rfl, failed, handled⟩)

theorem releaseWithoutBroker_silent (object : Object kind) :
    (TopologyReconciler.releaseWithoutBroker object).Calls
      fun request => ∀ written, request ≠ .updateStatus written :=
  releaseWithoutBroker_calls (fun _ _ absurd => by cases absurd) fun _ absurd => by cases absurd

/-- Of the errors that are handled without an error and without a requeue, only two
are recorded in the status. -/
theorem sentinel_of_stored
    (handled : (TopologyReconciler.handleRMQReferenceParseError object err).Exec handling
      (.done ({}, none)))
    (stored : StoresNotReady (·.status.conditions) handling) :
    err.is .errClusterScaledToZero = true ∨ err.is .errResourceNotAllowed = true := by
  obtain ⟨written, version, member, -⟩ := stored
  have silent : ¬ (TopologyReconciler.releaseWithoutBroker object).Exec handling
      (.done ({}, none)) :=
    fun exec => (releaseWithoutBroker_silent object).of_exec exec _ member written rfl
  unfold TopologyReconciler.handleRMQReferenceParseError at handled
  split at handled
  · exact absurd handled silent
  split at handled
  · cases handled.2
  split at handled
  · exact absurd handled silent
  split at handled
  · next scaled => exact .inl scaled
  split at handled
  · next refused => exact .inr refused
  · obtain ⟨_, rest, -, exec⟩ := exec_ask_bind.mp handled
    obtain ⟨_, _, _, -, -, stops⟩ := exec_bind_done.mp exec
    cases stops.2

/-- Such an error is about a cluster that is referred to by name, or about a
connection Secret in another namespace. -/
theorem reference_of_sentinel {rmq : RabbitmqClusterReference} {requestNamespace : String}
    {trace : Trace (Object kind)} (failed : ResolveFailed rmq requestNamespace trace err)
    (sentinel : err.is .errClusterScaledToZero = true ∨ err.is .errResourceNotAllowed = true) :
    rmq.connectionSecret = none ∨
      rmq.connectionSecretNamespace requestNamespace ≠ requestNamespace := by
  cases failed with
  | unusableSecret reference bySecret ordinary =>
      obtain ⟨-, unscaled, permitted⟩ := ordinary
      rw [unscaled, permitted] at sentinel
      simp at sentinel
  | secretNotAllowed reference secret bySecret found refused =>
      exact .inr (allowedByAnnotations_eq_false.mp refused).1
  | unreadable failure byName => exact .inl byName
  | clusterNotAllowed cluster byName => exact .inl byName
  | scaledToZero cluster byName => exact .inl byName
  | secretNotFound cluster reference failure byName => exact .inl byName
  | serviceNotFound cluster reference failure byName => exact .inl byName
  | unusableCluster cluster byName => exact .inl byName

end Exits

section Wakeups

variable {r : TopologyReconciler} {resource : CustomResource} {event : WatchEvent}
  {listings : (kind : Kind) → Listing kind}

/-- The reference of a topology object that stalls. -/
theorem reference_of_stalls {kind : Kind} {object : Object kind}
    (stalls : Stalls r (.topology object)) :
    object.rabbitReference.connectionSecret = none ∨
      object.rabbitReference.connectionSecretNamespace object.objectMeta.ns ≠
        object.objectMeta.ns := by
  obtain ⟨resolving, handling, err, failed, exec, stored⟩ := stalls
  have sentinel := sentinel_of_stored (handled_of_unresolved failed exec) stored
  exact reference_of_sentinel (parseReference_error failed) sentinel

/-- Events on a Secret in another namespace never lead to a request for the object. -/
theorem not_mem_secretRequests {kind : Kind} {key : NamespacedName} {listing : Listing kind}
    {secret : Secret} (elsewhere : secret.objectMeta.ns ≠ key.ns) :
    key ∉ TopologyReconciler.secretRequests listing secret := by
  intro member
  cases kind with
  | user => exact elsewhere (UserReconciler.secretToUserRequests_ns member).symm
  | _ => cases member

/-- Events on the cluster that an object names lead to a request for it, if it is
listed. -/
theorem mem_clusterRequests_iff {kind : Kind} {object : Object kind} {cluster : RabbitmqCluster}
    (byName : object.rabbitReference.connectionSecret = none)
    (on : cluster.objectMeta.key = object.rabbitReference.clusterKey object.objectMeta.ns)
    (unchanged : (CustomResource.topology object).Unchanged listings) :
    object.objectMeta.key ∈
        TopologyReconciler.rabbitmqClusterToRequests (listings kind) cluster ↔
      (CustomResource.topology object).Listed listings := by
  constructor
  · intro requested
    obtain ⟨item, member, -, same⟩ :=
      TopologyReconciler.mem_rabbitmqClusterToRequests.mp requested
    exact ⟨item, member, same⟩
  · rintro ⟨item, member, same⟩
    have refers := TopologyReconciler.refersTo_iff.mpr ⟨byName, on.symm⟩
    exact TopologyReconciler.requested_of_refersTo refers member same (unchanged item member same)

/-- For a resource that stalls: an event on the object it refers to leads to a request
for it if and only if it is of a topology kind, names its cluster, and the handler has
listed it. -/
theorem wakeup_iff (r : TopologyReconciler) (resource : CustomResource)
    (stalls : Stalls r resource) (event : WatchEvent) (on : event.On resource.target)
    (listings : (kind : Kind) → Listing kind) (unchanged : resource.Unchanged listings) :
    resource.key ∈ resource.requests listings event ↔
      resource.NamesCluster ∧ resource.Listed listings := by
  cases resource with
  | superStream stream =>
      constructor
      · intro member
        cases event with
        | rabbitmqCluster cluster => cases member
        | _ => exact on.elim
      · intro named
        exact named.1.elim
  | @topology kind object =>
      have reference := reference_of_stalls stalls
      cases form : object.rabbitReference.connectionSecret with
      | none =>
          simp only [CustomResource.target, form] at on
          cases event with
          | rabbitmqCluster cluster =>
              have woken := mem_clusterRequests_iff form on unchanged
              exact woken.trans (and_iff_right form).symm
          | _ => exact on.elim
      | some secretReference =>
          simp only [CustomResource.target, form] at on
          have elsewhere := reference.resolve_left (by rw [form]; exact Option.some_ne_none _)
          have unnamed : ¬ (CustomResource.topology object).NamesCluster := by
            intro byName
            cases form.symm.trans byName
          cases event with
          | secret secret =>
              have secretNs : secret.objectMeta.ns =
                  object.rabbitReference.connectionSecretNamespace object.objectMeta.ns :=
                congrArg NamespacedName.ns on
              have lost : object.objectMeta.key ∉
                  TopologyReconciler.secretRequests (listings kind) secret :=
                not_mem_secretRequests (by rw [secretNs]; exact elsewhere)
              exact ⟨fun member => absurd member lost, fun named => absurd named.1 unnamed⟩
          | _ => exact on.elim

end Wakeups

section Example

/-- An exchange in a cluster that is scaled to zero. -/
def pausedExchange : Object .exchange where
  objectMeta := { name := "billing", ns := "shop" }
  spec := { name := "billing", rabbitmqClusterReference := { name := "rabbit" } }

def pausedCluster : RabbitmqCluster where
  objectMeta := { name := "rabbit", ns := "shop" }
  replicas := some 0

theorem pausedExchange_stalls : Stalls ⟨.verbatim, "", false⟩ (.topology pausedExchange) := by
  obtain ⟨handling, handled, stored⟩ : ∃ handling,
      (TopologyReconciler.handleRMQReferenceParseError pausedExchange .errClusterScaledToZero).Exec
        handling (.done ({}, none)) ∧ StoresNotReady (·.status.conditions) handling := by
    refine ⟨_, ⟨(), _, rfl, 7, _, rfl, .ok ⟨2, 1⟩, _, rfl, rfl, rfl⟩, ?_⟩
    exact ⟨_, _, .tail _ (.tail _ (.head _)), _, .head _, rfl, rfl⟩
  have failed : (TopologyReconciler.resolve ⟨.verbatim, "", false⟩ pausedExchange).Exec
      [⟨.getRabbitmqCluster ⟨"shop", "rabbit"⟩, .ok pausedCluster⟩]
      (.done (.error .errClusterScaledToZero)) := ⟨_, _, rfl, rfl, rfl⟩
  exact stalls_of_handled failed handled stored

/-- The exchange is the only object that is listed. -/
def pausedListings : (kind : Kind) → Listing kind
  | .exchange => .ok [pausedExchange]
  | _ => .ok []

/-- Once the cluster is scaled up, the exchange is reconciled again. -/
theorem pausedExchange_woken : ⟨"shop", "billing"⟩ ∈
    (CustomResource.topology pausedExchange).requests pausedListings
      (.rabbitmqCluster { pausedCluster with replicas := some 3 }) := by
  have on : (WatchEvent.rabbitmqCluster { pausedCluster with replicas := some 3 }).On
      (CustomResource.topology pausedExchange).target := rfl
  have unchanged : (CustomResource.topology pausedExchange).Unchanged pausedListings := by
    intro item member _
    cases List.mem_singleton.mp member
    rfl
  exact (wakeup_iff ⟨.verbatim, "", false⟩ (.topology pausedExchange) pausedExchange_stalls _ on
    pausedListings unchanged).mpr ⟨rfl, pausedExchange, .head _, rfl⟩

/-- An exchange with a connection Secret in a namespace that does not allow it. -/
def refusedExchange : Object .exchange where
  objectMeta := { name := "audit", ns := "reports" }
  spec :=
    { name := "audit"
      rabbitmqClusterReference := { ns := "rabbit", connectionSecret := some ⟨"broker"⟩ } }

theorem refusedExchange_stalls : Stalls ⟨.verbatim, "", false⟩ (.topology refusedExchange) := by
  obtain ⟨handling, handled, stored⟩ : ∃ handling,
      (TopologyReconciler.handleRMQReferenceParseError refusedExchange .errResourceNotAllowed).Exec
        handling (.done ({}, none)) ∧ StoresNotReady (·.status.conditions) handling := by
    refine ⟨_, ⟨7, _, rfl, .ok ⟨2, 1⟩, _, rfl, rfl, rfl⟩, ?_⟩
    exact ⟨_, _, .tail _ (.head _), _, .head _, rfl, rfl⟩
  have failed : (TopologyReconciler.resolve ⟨.verbatim, "", false⟩ refusedExchange).Exec
      [⟨.getSecret .cache ⟨"rabbit", "broker"⟩,
        .ok { objectMeta := { name := "broker", ns := "rabbit" } }⟩]
      (.done (.error .errResourceNotAllowed)) := ⟨_, _, rfl, rfl, rfl⟩
  exact stalls_of_handled failed handled stored

/-- A super stream in a cluster that does not allow its namespace. -/
def refusedStream : SuperStream where
  objectMeta := { name := "ledger", ns := "reports" }
  spec :=
    { name := "ledger"
      partitions := 1
      rabbitmqClusterReference := { name := "rabbit", ns := "rabbit" } }

theorem refusedStream_stalls : Stalls ⟨.verbatim, "", false⟩ (.superStream refusedStream) := by
  have failed : (SuperStreamReconciler.getRabbitmqClusterReference
      refusedStream.spec.rabbitmqClusterReference refusedStream.objectMeta.ns).Exec
      [⟨.getRabbitmqCluster ⟨"rabbit", "rabbit"⟩,
        .ok { objectMeta := { name := "rabbit", ns := "rabbit" } }⟩]
      (.done (.error .errResourceNotAllowed)) := ⟨_, _, rfl, rfl, rfl⟩
  obtain ⟨handling, handled, stored⟩ : ∃ handling,
      (SuperStreamReconciler.handleRMQReferenceParseError refusedStream .errResourceNotAllowed).Exec
        handling (.done ({}, none)) ∧ StoresNotReady (·.status.conditions) handling := by
    refine ⟨_, ⟨7, _, rfl, .ok ⟨2, 1⟩, _, rfl, rfl, rfl⟩, ?_⟩
    exact ⟨_, _, .tail _ (.head _), _, .head _, rfl, rfl⟩
  refine ⟨_, handling, _, failed, ⟨.ok refusedStream, _, rfl, ?_⟩, stored⟩
  change ((SuperStreamReconciler.getRabbitmqClusterReference _ _).bind _).Exec _ _
  exact exec_bind.mpr (.inl ⟨_, _, handling, rfl, failed, handled⟩)

/-- Whatever happens to the Secret, the exchange is not reconciled again; whatever
happens to the cluster, neither is the super stream. -/
theorem refused_lost :
    (Stalls ⟨.verbatim, "", false⟩ (.topology refusedExchange) ∧
      ∀ (event : WatchEvent) (listings : (kind : Kind) → Listing kind),
        event.On (CustomResource.topology refusedExchange).target →
        ⟨"reports", "audit"⟩ ∉
          (CustomResource.topology refusedExchange).requests listings event) ∧
    (Stalls ⟨.verbatim, "", false⟩ (.superStream refusedStream) ∧
      ∀ (event : WatchEvent) (listings : (kind : Kind) → Listing kind),
        event.On (CustomResource.superStream refusedStream).target →
        ⟨"reports", "ledger"⟩ ∉
          (CustomResource.superStream refusedStream).requests listings event) := by
  refine ⟨⟨refusedExchange_stalls, fun event listings on => ?_⟩,
    ⟨refusedStream_stalls, fun event listings on => ?_⟩⟩
  · cases event with
    | secret secret =>
        have elsewhere : secret.objectMeta.ns ≠ "reports" := by
          rw [show secret.objectMeta.ns = "rabbit" from congrArg NamespacedName.ns on]
          decide
        have lost : ⟨"reports", "audit"⟩ ∉
            TopologyReconciler.secretRequests (listings .exchange) secret :=
          not_mem_secretRequests elsewhere
        exact lost
    | _ => exact on.elim
  · cases event with
    | rabbitmqCluster cluster => exact List.not_mem_nil
    | _ => exact on.elim

end Example

end TopologyOperator
