import TopologyOperator.Client.Resolution
import TopologyOperator.Controller.Footprint
import TopologyOperator.Controller.Watches

/-!
# Events on clusters

An object whose cluster has no replicas is not requeued; it depends on events on the
cluster. The handler of these events decides anew which cluster an object refers to. It
agrees with `ParseReference`: an event is turned into one request for every object that
would ask for the cluster, and none for any other.
-/

namespace TopologyOperator

open Dialogue Program TopologyReconciler

variable {kind : Kind} {r : TopologyReconciler} {object : Object kind} {key : NamespacedName}

section Fetches

/-- Every run that resolves the reference of the object asks for this cluster. -/
def Fetches (r : TopologyReconciler) (object : Object kind) (key : NamespacedName) : Prop :=
  ∀ resolving outcome, (r.resolve object).Exec resolving outcome →
    ∃ reply, ⟨.getRabbitmqCluster key, reply⟩ ∈ resolving

/-- The object refers to its cluster by name, and this is the cluster. -/
def Names (object : Object kind) (key : NamespacedName) : Prop :=
  object.rabbitReference.connectionSecret = none ∧
    object.rabbitReference.clusterKey object.objectMeta.ns = key

/-- No run asks for a cluster that is not named. -/
theorem names_of_fetched {resolving : Trace (Object kind)}
    {outcome : Outcome (Except GoError (ConnectionCreds × Bool))}
    (exec : (r.resolve object).Exec resolving outcome) {reply : Except ApiError RabbitmqCluster}
    (fetched : ⟨.getRabbitmqCluster key, reply⟩ ∈ resolving) : Names object key := by
  rcases (parseReference_calls r.libraries ..).of_exec exec _ fetched with
    inside | ⟨byName, same⟩
  · exact inside.elim
  · cases same
    exact ⟨byName, rfl⟩

/-- Every run asks for the cluster that is named. -/
theorem fetches_of_names (names : Names object key) : Fetches r object key := by
  obtain ⟨byName, rfl⟩ := names
  intro resolving outcome exec
  rw [resolve, parseReference, byName] at exec
  obtain ⟨reply, rest, rfl, -⟩ := exec_ask_bind.mp exec
  exact ⟨reply, List.mem_cons_self⟩

theorem fetches_iff : Fetches r object key ↔ Names object key := by
  refine ⟨fun fetches => ?_, fetches_of_names⟩
  obtain ⟨resolving, exec, -⟩ := exists_exec_outcome (fun request => request.refusal)
    (r.resolve object)
  obtain ⟨reply, fetched⟩ := fetches resolving _ exec
  exact names_of_fetched exec fetched

instance : Decidable (Names object key) := inferInstanceAs (Decidable (_ ∧ _))

instance : Decidable (Fetches r object key) := decidable_of_iff _ fetches_iff.symm

/-- The handler decides as `ParseReference` does. -/
theorem refersTo_eq_fetches (cluster : RabbitmqCluster) :
    refersTo object cluster = decide (Fetches r object cluster.objectMeta.key) := by
  rw [Bool.eq_iff_iff, refersTo_iff, decide_eq_true_iff, fetches_iff]
  rfl

end Fetches

section Requests

/-- One request for every listed object that would ask for the cluster. -/
theorem requests_eq (r : TopologyReconciler) (items : List (Object kind))
    (cluster : RabbitmqCluster) :
    rabbitmqClusterToRequests (.ok items) cluster =
      (items.filter (Fetches r · cluster.objectMeta.key)).map (·.objectMeta.key) := by
  have agree : (refersTo · cluster) =
      fun item : Object kind => decide (Fetches r item cluster.objectMeta.key) :=
    funext fun item => refersTo_eq_fetches cluster
  rw [rabbitmqClusterToRequests, agree]
  rfl

theorem nodup_requests {items : List (Object kind)}
    (distinct : (items.map (·.objectMeta.key)).Nodup) (cluster : RabbitmqCluster) :
    (rabbitmqClusterToRequests (.ok items) cluster).Nodup :=
  distinct.sublist (List.filter_sublist.map _)

/-- A resolution that ends with the verdict that the cluster has no replicas has read it. -/
theorem found_of_scaledToZero {resolving : Trace (Object kind)}
    (exec : (r.resolve object).Exec resolving (.done (.error .errClusterScaledToZero))) :
    ∃ key cluster, ⟨.getRabbitmqCluster key, .ok cluster⟩ ∈ resolving ∧
      cluster.replicas = some 0 := by
  cases parseReference_error exec with
  | scaledToZero cluster _ found replicas => exact ⟨_, cluster, found, replicas⟩
  | unusableSecret _ _ ordinary | unusableCluster _ _ _ ordinary => cases ordinary.2.1
  | secretNotFound _ _ _ _ _ _ _ _ wraps | serviceNotFound _ _ _ _ _ _ _ _ wraps => cases wraps

/-- An event on a cluster is turned into the requests for the objects that ask for it, in
the order of the list and without duplicates. So an object that waits for its cluster to
have replicas again is requested by every event on it. -/
theorem cluster_events_reach_dependants (r : TopologyReconciler) :
    (∀ (items : List (Object kind)) (cluster : RabbitmqCluster),
      rabbitmqClusterToRequests (.ok items) cluster =
        (items.filter (Fetches r · cluster.objectMeta.key)).map (·.objectMeta.key) ∧
      ((items.map (·.objectMeta.key)).Nodup →
        (rabbitmqClusterToRequests (.ok items) cluster).Nodup)) ∧
    (∀ (object : Object kind) key, ¬ Fetches r object key →
      ∀ resolving outcome, (r.resolve object).Exec resolving outcome →
        ∀ reply, ⟨.getRabbitmqCluster key, reply⟩ ∉ resolving) ∧
    ∀ (object : Object kind) resolving,
      (r.resolve object).Exec resolving (.done (.error .errClusterScaledToZero)) →
      ∃ key found, ⟨.getRabbitmqCluster key, .ok found⟩ ∈ resolving ∧ found.replicas = some 0 ∧
        ∀ (cluster : RabbitmqCluster) (items : List (Object kind)),
          cluster.objectMeta.key = key →
          (∃ item ∈ items, item.objectMeta.key = object.objectMeta.key ∧
            item.rabbitReference = object.rabbitReference) →
          object.objectMeta.key ∈ requests (.ok items) (.rabbitmqCluster cluster) := by
  refine ⟨fun items cluster => ⟨requests_eq r items cluster, fun distinct =>
    nodup_requests distinct cluster⟩, ?_, ?_⟩
  · intro object key unasked resolving outcome exec reply fetched
    exact unasked (fetches_of_names (names_of_fetched exec fetched))
  · intro object resolving exec
    obtain ⟨key, found, fetched, replicas⟩ := found_of_scaledToZero exec
    refine ⟨key, found, fetched, replicas, ?_⟩
    rintro cluster items rfl ⟨item, listed, same, kept⟩
    have refers := refersTo_iff.mpr (names_of_fetched exec fetched)
    exact requested_of_refersTo refers listed same kept

end Requests

end TopologyOperator
