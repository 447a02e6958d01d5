import TopologyOperator.Client.Resolution
import TopologyOperator.Controller.Footprint
import TopologyOperator.Controller.SuperStream
import TopologyOperator.Dialogue.TwoRuns

/-!
# Isolation of namespaces

A reference to another namespace is followed only if the object it names lists the
namespace of the resource. If it does not, a reconcile depends on nothing of that
object but its metadata: two runs in cluster states that agree on the resource and
on this metadata issue the same requests and end in the same way.
-/

namespace TopologyOperator

open Dialogue
open Dialogue.Program (Replies Indistinguishable)

variable {kind : Kind} {Resource : Type}

section States

/-- What two cluster states have in common: everything but the contents of Secrets,
Services, the secret store, the broker and the `RabbitmqCluster`; of the object that
the reference names, they share the metadata. -/
def Agree (rmq : RabbitmqClusterReference) (requestNamespace : String) :
    (request : Request Resource) → request.Answer → request.Answer → Prop
  | .getRabbitmqCluster key, first, second =>
      key = rmq.clusterKey requestNamespace →
        first.map RabbitmqCluster.objectMeta = second.map RabbitmqCluster.objectMeta
  | .getSecret _ key, first, second =>
      (∃ named, rmq.connectionSecret = some named ∧
        key = ⟨rmq.connectionSecretNamespace requestNamespace, named.name⟩) →
        first.map Secret.objectMeta = second.map Secret.objectMeta
  | .getService _, _, _ => True
  | .getObject .., _, _ => True
  | .secretStoreClient, _, _ => True
  | .readCredentials _, _, _ => True
  | .newClient .., _, _ => True
  | .broker _, _, _ => True
  | _, first, second => second = first

/-- The requests that a refused reconcile may issue: no call of the broker, no
creation or update of a child. -/
def Silent : Request Resource → Prop
  | .broker _ | .newClient .. | .createObject _ | .updateObject _ => False
  | _ => True

/-- The requests that every two states answer in the same way. -/
def Shared : Request Resource → Prop
  | .get _ | .update _ | .updateStatus _ | .eventf _ | .now | .systemCertPool => True
  | _ => False

theorem silent_of_shared {request : Request Resource} (shared : Shared request) :
    Silent request := by
  cases request <;> trivial

/-- Two states give the same answer to a shared request. -/
theorem Agree.eq_of_shared {rmq : RabbitmqClusterReference} {requestNamespace : String}
    {request : Request Resource} {first second : request.Answer}
    (agree : Agree rmq requestNamespace request first second) (shared : Shared request) :
    second = first := by
  cases request <;> first | exact agree | exact shared.elim

/-- The cluster that the reference names refuses this namespace, whenever it is read. -/
def ClusterRefuses (rmq : RabbitmqClusterReference) (requestNamespace : String)
    (replies : Replies (@Request.Answer Resource)) : Prop :=
  ∀ position cluster, replies position (.getRabbitmqCluster (rmq.clusterKey requestNamespace)) =
    .ok cluster → ¬ Listed requestNamespace cluster.objectMeta.annotations

/-- The Secret that the reference names refuses this namespace, whenever it is read. -/
def SecretRefuses (rmq : RabbitmqClusterReference) (requestNamespace : String)
    (named : LocalObjectReference) (replies : Replies (@Request.Answer Resource)) : Prop :=
  ∀ position secret, replies position (.getSecret .cache
      ⟨rmq.connectionSecretNamespace requestNamespace, named.name⟩) = .ok secret →
    ¬ Listed requestNamespace secret.objectMeta.annotations

/-- The object that a topology reconciler resolves the reference to refuses. -/
def Refuses (rmq : RabbitmqClusterReference) (requestNamespace : String)
    (replies : Replies (@Request.Answer Resource)) : Prop :=
  match rmq.connectionSecret with
  | some named => SecretRefuses rmq requestNamespace named replies
  | none => ClusterRefuses rmq requestNamespace replies

end States

section Bookkeeping

/-- A super stream that is refused gets by with shared requests. -/
theorem superStream_handleRMQReferenceParseError_shared (superStream : SuperStream)
    (err : GoError) :
    (SuperStreamReconciler.handleRMQReferenceParseError superStream err).Calls Shared := by
  have attempts : ∀ state : SuperStream, True →
      (SuperStreamReconciler.updateStatus state).Calls Shared := by
    intro state _
    refine calls_ask_bind trivial fun answer => ?_
    split <;> trivial
  unfold SuperStreamReconciler.handleRMQReferenceParseError
  split
  · refine calls_ask_bind trivial fun _ => Program.Calls.bind ?_ fun _ => trivial
    refine calls_ask_bind trivial fun answer => ?_
    split <;> trivial
  · split
    · trivial
    · split
      · refine (notReady_calls trivial ..).bind fun condition =>
          Program.Calls.bind ?_ fun _ => trivial
        exact (retryOnConflict_calls attempts (fun _ _ _ _ _ => trivial) _ _ trivial).bind
          fun _ => trivial
      · trivial

end Bookkeeping

section Resolve

variable {rmq : RabbitmqClusterReference} {requestNamespace : String}
  {first second : Replies (@Request.Answer Resource)}

/-- Two answers that agree on the metadata are the same error, or two objects. -/
theorem except_map_eq {ε α β : Type} {read : α → β} {left right : Except ε α}
    (same : left.map read = right.map read) :
    (∃ err, left = .error err ∧ right = .error err) ∨
      ∃ a b, left = .ok a ∧ right = .ok b ∧ read a = read b := by
  rcases left with err | a <;> rcases right with other | b <;> simp_all [Except.map]

/-- In both states the program ends with the same error after one answer. -/
theorem refused_of_replies {α : Type} {request : Request Resource}
    {next : request.Answer → Prog Resource (Except GoError α)} {position : Nat} (err : GoError)
    (silent : Silent request) (left : next (first position request) = .done (.error err))
    (right : next (second position request) = .done (.error err)) :
    Indistinguishable Silent first second (.call request next) position ∧
      ∃ err, ((Program.call request next).run first position).2 = .done (.error err) := by
  refine ⟨.call silent (right.trans left.symm) ?_, err, ?_⟩
  · rw [left]
    exact .done _
  · rw [Program.run_call, left]
    rfl

/-- Both states refuse a reference by name, and a program that asks for the cluster ends
before anything else is read. -/
theorem cluster_refused {α : Type} {position : Nat}
    {next : Except ApiError RabbitmqCluster → Prog Resource (Except GoError α)}
    (unread : ∀ err, ∃ failure, next (.error err) = .done (.error failure))
    (unlisted : ∀ cluster, allowedNamespace rmq requestNamespace cluster = false →
      next (.ok cluster) = .done (.error .errResourceNotAllowed))
    (crossing : rmq.connectionSecretNamespace requestNamespace ≠ requestNamespace)
    (refused : ClusterRefuses rmq requestNamespace first)
    (agree : ∀ position request,
      Agree rmq requestNamespace request (first position request) (second position request)) :
    Indistinguishable Silent first second
        (.call (.getRabbitmqCluster (rmq.clusterKey requestNamespace)) next) position ∧
      ∃ err, ((Program.call (.getRabbitmqCluster (rmq.clusterKey requestNamespace)) next).run
        first position).2 = .done (.error err) := by
  have same := agree position (.getRabbitmqCluster (rmq.clusterKey requestNamespace)) rfl
  rcases except_map_eq same with ⟨err, left, right⟩ | ⟨cluster, other, left, right, shared⟩
  · obtain ⟨failure, fails⟩ := unread err
    exact refused_of_replies failure trivial (by rw [left, fails]) (by rw [right, fails])
  · have absent := refused position cluster left
    have denied := unlisted cluster (allowedByAnnotations_eq_false.mpr ⟨crossing, absent⟩)
    have otherDenied := unlisted other
      (allowedByAnnotations_eq_false.mpr ⟨crossing, shared ▸ absent⟩)
    exact refused_of_replies .errResourceNotAllowed trivial (by rw [left, denied])
      (by rw [right, otherDenied])

/-- Both states refuse the reference, and resolving it ends before anything else is
read. -/
theorem parseReference_refused {libraries : Libraries} {clusterDomain : String}
    {connectUsingHTTP : Bool} (position : Nat)
    (crossing : rmq.connectionSecretNamespace requestNamespace ≠ requestNamespace)
    (refuses : Refuses rmq requestNamespace first)
    (agree : ∀ position request,
      Agree rmq requestNamespace request (first position request) (second position request)) :
    Indistinguishable Silent first second
        (parseReference libraries rmq requestNamespace clusterDomain connectUsingHTTP) position ∧
      ∃ err, ((parseReference libraries rmq requestNamespace clusterDomain connectUsingHTTP).run
        first position).2 = .done (.error err) := by
  unfold parseReference
  split
  · next named bySecret =>
      have same := agree position (.getSecret .cache
        ⟨rmq.connectionSecretNamespace requestNamespace, named.name⟩) ⟨named, bySecret, rfl⟩
      have refused : SecretRefuses rmq requestNamespace named first := by
        simpa only [Refuses, bySecret] using refuses
      rcases except_map_eq same with ⟨err, left, right⟩ | ⟨secret, other, left, right, shared⟩
      · refine refused_of_replies (.api err) trivial ?_ ?_
        · rw [left]
          rfl
        · rw [right]
          rfl
      · have absent := refused position secret left
        have denied : allowedNamespaceSecret rmq requestNamespace secret = false :=
          allowedByAnnotations_eq_false.mpr ⟨crossing, absent⟩
        have otherDenied : allowedNamespaceSecret rmq requestNamespace other = false :=
          allowedByAnnotations_eq_false.mpr ⟨crossing, shared ▸ absent⟩
        refine refused_of_replies .errResourceNotAllowed trivial ?_ ?_
        · simp [left, denied]
        · simp [right, otherDenied]
  · next byName =>
      have refused : ClusterRefuses rmq requestNamespace first := by
        simpa only [Refuses, byName] using refuses
      refine cluster_refused (fun err => ⟨_, rfl⟩) (fun cluster denied => ?_) crossing refused agree
      simp [denied]

/-- The same for the reference of a super stream. -/
theorem getRabbitmqClusterReference_refused
    {first second : Replies (@Request.Answer SuperStream)} (position : Nat)
    (crossing : rmq.connectionSecretNamespace requestNamespace ≠ requestNamespace)
    (refused : ClusterRefuses rmq requestNamespace first)
    (agree : ∀ position request,
      Agree rmq requestNamespace request (first position request) (second position request)) :
    Indistinguishable Silent first second
        (SuperStreamReconciler.getRabbitmqClusterReference rmq requestNamespace) position ∧
      ∃ err, ((SuperStreamReconciler.getRabbitmqClusterReference rmq requestNamespace).run
        first position).2 = .done (.error err) := by
  refine cluster_refused (fun err => ⟨_, rfl⟩) (fun cluster denied => ?_) crossing refused agree
  simp [denied]

end Resolve

section Reconcile

/-- A reconcile whose reference is refused. -/
theorem reconcile_refused (r : TopologyReconciler) {key : NamespacedName} {object : Object kind}
    {first second : Replies (@Request.Answer (Object kind))}
    (read : first 0 (.get key) = .ok object)
    (crossing : object.rabbitReference.connectionSecretNamespace object.objectMeta.ns ≠
      object.objectMeta.ns)
    (refuses : Refuses object.rabbitReference object.objectMeta.ns first)
    (agree : ∀ position request, Agree object.rabbitReference object.objectMeta.ns request
      (first position request) (second position request)) :
    Indistinguishable Silent first second (r.reconcile key) 0 := by
  have shared : ∀ position request, Shared request →
      second position request = first position request :=
    fun position request within => (agree position request).eq_of_shared within
  refine .call trivial (by rw [shared 0 (.get key) trivial]) ?_
  simp only [read, Program.done_bind]
  refine .bind (.of_calls (extractSystemCertPool_calls trivial fun _ => trivial)
    (fun _ => silent_of_shared) shared) fun loaded later _ => ?_
  split
  · exact .done _
  · obtain ⟨alike, err, failed⟩ := parseReference_refused later crossing refuses agree
    refine .bind alike fun resolved last ended => ?_
    obtain rfl : Except.error err = resolved := Outcome.done.inj (failed.symm.trans ended)
    exact .of_calls (handleRMQReferenceParseError_calls trivial (fun _ => trivial)
      (fun _ _ => trivial) fun _ => trivial) (fun _ => silent_of_shared) shared

/-- The reconcile of a refused super stream does not tell two states apart. -/
theorem superStream_reconcile_refused {key : NamespacedName} {superStream : SuperStream}
    {first second : Replies (@Request.Answer SuperStream)}
    (read : first 0 (.get key) = .ok superStream)
    (crossing : superStream.spec.rabbitmqClusterReference.connectionSecretNamespace
      superStream.objectMeta.ns ≠ superStream.objectMeta.ns)
    (refused : ClusterRefuses superStream.spec.rabbitmqClusterReference superStream.objectMeta.ns
      first)
    (agree : ∀ position request, Agree superStream.spec.rabbitmqClusterReference
      superStream.objectMeta.ns request (first position request) (second position request)) :
    Indistinguishable Silent first second (SuperStreamReconciler.reconcile key) 0 := by
  have shared : ∀ position request, Shared request →
      second position request = first position request :=
    fun position request within => (agree position request).eq_of_shared within
  refine .call trivial (by rw [shared 0 (.get key) trivial]) ?_
  simp only [read, Program.done_bind]
  obtain ⟨alike, err, failed⟩ := getRabbitmqClusterReference_refused (0 + 1) crossing refused agree
  refine .bind alike fun resolved last ended => ?_
  obtain rfl : Except.error err = resolved := Outcome.done.inj (failed.symm.trans ended)
  exact .of_calls (superStream_handleRMQReferenceParseError_shared superStream err)
    (fun _ => silent_of_shared) shared

/-- The cluster that the reference names lists this namespace, whenever it is read. -/
def ClusterPermits (rmq : RabbitmqClusterReference) (requestNamespace : String)
    (replies : Replies (@Request.Answer Resource)) : Prop :=
  ∀ position cluster, replies position (.getRabbitmqCluster (rmq.clusterKey requestNamespace)) =
    .ok cluster → Listed requestNamespace cluster.objectMeta.annotations

/-- The object that a topology reconciler resolves the reference to lists this
namespace, whenever it is read. -/
def Permits (rmq : RabbitmqClusterReference) (requestNamespace : String)
    (replies : Replies (@Request.Answer Resource)) : Prop :=
  match rmq.connectionSecret with
  | some named => ∀ position secret, replies position (.getSecret .cache
      ⟨rmq.connectionSecretNamespace requestNamespace, named.name⟩) = .ok secret →
        Listed requestNamespace secret.objectMeta.annotations
  | none => ClusterPermits rmq requestNamespace replies

/-- A reference that is permitted is not refused, whatever else may fail. -/
theorem parseReference_permitted {libraries : Libraries} {rmq : RabbitmqClusterReference}
    {requestNamespace clusterDomain : String} {connectUsingHTTP : Bool}
    {replies : Replies (@Request.Answer Resource)} {position : Nat} {err : GoError}
    (permitted : rmq.connectionSecretNamespace requestNamespace = requestNamespace ∨
      Permits rmq requestNamespace replies)
    (failed : ((parseReference libraries rmq requestNamespace clusterDomain connectUsingHTTP).run
      replies position).2 = .done (.error err)) : err.is .errResourceNotAllowed = false := by
  have exec := Program.exec_run replies
    (parseReference libraries rmq requestNamespace clusterDomain connectUsingHTTP) position
  rw [failed] at exec
  have listed : ∀ annotations,
      allowedByAnnotations rmq requestNamespace annotations = false →
        Permits rmq requestNamespace replies ∧ ¬ Listed requestNamespace annotations := by
    intro annotations refused
    obtain ⟨crossing, unlisted⟩ := allowedByAnnotations_eq_false.mp refused
    exact ⟨permitted.resolve_left crossing, unlisted⟩
  cases parseReference_error exec with
  | unusableSecret reference bySecret ordinary => exact ordinary.2.2
  | secretNotAllowed reference secret bySecret found refused =>
      obtain ⟨permits, unlisted⟩ := listed _ refused
      obtain ⟨later, answered⟩ := Program.exists_run_answer replies _ position found
      simp only [Permits, bySecret] at permits
      exact absurd (permits later secret answered) unlisted
  | unreadable failure byName asked => rfl
  | clusterNotAllowed cluster byName found refused =>
      obtain ⟨permits, unlisted⟩ := listed _ refused
      obtain ⟨later, answered⟩ := Program.exists_run_answer replies _ position found
      simp only [Permits, byName] at permits
      exact absurd (permits later cluster answered) unlisted
  | scaledToZero cluster byName found replicas => rfl
  | secretNotFound cluster reference failure byName found bound asked missing wraps clear =>
      exact clear
  | serviceNotFound cluster reference failure byName found served asked missing wraps clear =>
      exact clear
  | unusableCluster cluster byName found ordinary => exact ordinary.2.2

/-- Nor is that of a super stream. -/
theorem getRabbitmqClusterReference_permitted {rmq : RabbitmqClusterReference}
    {requestNamespace : String} {replies : Replies (@Request.Answer SuperStream)} {position : Nat}
    {err : GoError}
    (permitted : rmq.connectionSecretNamespace requestNamespace = requestNamespace ∨
      ClusterPermits rmq requestNamespace replies)
    (failed : ((SuperStreamReconciler.getRabbitmqClusterReference rmq requestNamespace).run replies
      position).2 = .done (.error err)) : err.is .errResourceNotAllowed = false := by
  have exec := Program.exec_run replies
    (SuperStreamReconciler.getRabbitmqClusterReference rmq requestNamespace) position
  rw [failed] at exec
  obtain ⟨found, rest, same, afterReading⟩ := exec_ask_bind.mp exec
  rcases found with failure | cluster
  · cases afterReading.2
    rfl
  · dsimp only at afterReading
    split at afterReading
    · cases afterReading.2
    · next refused =>
        obtain ⟨later, answered⟩ := Program.exists_run_answer replies _ position
          (same ▸ List.mem_cons_self)
        obtain ⟨crossing, unlisted⟩ :=
          allowedByAnnotations_eq_false.mp (Bool.eq_false_iff.mpr refused)
        exact absurd (permitted.resolve_left crossing later cluster answered) unlisted

end Reconcile

/-- A reference to an object of another namespace that does not list the namespace
of the resource: no broker call and no child, and nothing of that namespace but the
metadata of the object influences the run. A reference within the namespace, or to an
object that lists it, is never refused. -/
theorem namespace_isolation (r : TopologyReconciler) :
    (∀ (kind : Kind) (key : NamespacedName) (object : Object kind)
        (first second : Replies (@Request.Answer (Object kind))),
      first 0 (.get key) = .ok object →
      object.rabbitReference.connectionSecretNamespace object.objectMeta.ns ≠
        object.objectMeta.ns →
      Refuses object.rabbitReference object.objectMeta.ns first →
      (∀ position request, Agree object.rabbitReference object.objectMeta.ns request
        (first position request) (second position request)) →
      Indistinguishable Silent first second (r.reconcile key) 0 ∧
        ∀ position, Indistinguishable Silent first second (r.resolve object) position) ∧
    (∀ (key : NamespacedName) (superStream : SuperStream)
        (first second : Replies (@Request.Answer SuperStream)),
      first 0 (.get key) = .ok superStream →
      superStream.spec.rabbitmqClusterReference.connectionSecretNamespace
        superStream.objectMeta.ns ≠ superStream.objectMeta.ns →
      ClusterRefuses superStream.spec.rabbitmqClusterReference superStream.objectMeta.ns first →
      (∀ position request, Agree superStream.spec.rabbitmqClusterReference
        superStream.objectMeta.ns request (first position request) (second position request)) →
      Indistinguishable Silent first second (SuperStreamReconciler.reconcile key) 0 ∧
        ∀ position, Indistinguishable Silent first second
          (SuperStreamReconciler.getRabbitmqClusterReference
            superStream.spec.rabbitmqClusterReference superStream.objectMeta.ns) position) ∧
    (∀ (kind : Kind) (object : Object kind) (replies : Replies (@Request.Answer (Object kind)))
        (position : Nat) (err : GoError),
      object.rabbitReference.connectionSecretNamespace object.objectMeta.ns =
          object.objectMeta.ns ∨
        Permits object.rabbitReference object.objectMeta.ns replies →
      ((r.resolve object).run replies position).2 = .done (.error err) →
      err.is .errResourceNotAllowed = false) ∧
    (∀ (rmq : RabbitmqClusterReference) (requestNamespace : String)
        (replies : Replies (@Request.Answer SuperStream)) (position : Nat) (err : GoError),
      rmq.connectionSecretNamespace requestNamespace = requestNamespace ∨
        ClusterPermits rmq requestNamespace replies →
      ((SuperStreamReconciler.getRabbitmqClusterReference rmq requestNamespace).run replies
        position).2 = .done (.error err) →
      err.is .errResourceNotAllowed = false) := by
  refine ⟨fun kind key object first second read crossing refuses agree => ?_,
    fun key superStream first second read crossing refuses agree => ?_,
    fun kind object replies position err permitted failed => ?_,
    fun rmq requestNamespace replies position err permitted failed => ?_⟩
  · exact ⟨reconcile_refused r read crossing refuses agree, fun position =>
      (parseReference_refused position crossing refuses agree).1⟩
  · exact ⟨superStream_reconcile_refused read crossing refuses agree, fun position =>
      (getRabbitmqClusterReference_refused position crossing refuses agree).1⟩
  · exact parseReference_permitted permitted failed
  · exact getRabbitmqClusterReference_permitted permitted failed

section Example

/-- An exchange that refers to a cluster of another namespace. -/
def crossingExchange : Object .exchange where
  objectMeta := { name := "orders", ns := "shop" }
  spec := { name := "orders", vhost := "/"
            rabbitmqClusterReference := { name := "rabbit", ns := "infra" } }

/-- The cluster state around a `RabbitmqCluster`. -/
def aroundCluster (cluster : RabbitmqCluster) : Replies (@Request.Answer (Object .exchange)) :=
  fun _ request =>
    match request with
    | .get _ => .ok crossingExchange
    | .systemCertPool => .ok ()
    | .getRabbitmqCluster _ => .ok cluster
    | other => other.refusal

/-- A cluster without an annotation, and the same cluster scaled to zero and bound to
another Secret, lead to the same run. -/
theorem crossingExchange_isolated :
    Indistinguishable Silent
      (aroundCluster { objectMeta := { name := "rabbit", ns := "infra" } })
      (aroundCluster { objectMeta := { name := "rabbit", ns := "infra" }
                       replicas := some 0, binding := some ⟨"other"⟩ })
      (TopologyReconciler.reconcile ⟨.verbatim, "", false⟩ ⟨"shop", "orders"⟩) 0 := by
  have isolation := (namespace_isolation ⟨.verbatim, "", false⟩).1 .exchange ⟨"shop", "orders"⟩
    crossingExchange (aroundCluster { objectMeta := { name := "rabbit", ns := "infra" } })
    (aroundCluster { objectMeta := { name := "rabbit", ns := "infra" }
                     replicas := some 0, binding := some ⟨"other"⟩ })
  refine (isolation rfl (by decide) ?_ ?_).1
  · rintro position cluster ⟨⟩ ⟨entries, found, -⟩
    cases found
  · intro position request
    cases request <;> simp [Agree, aroundCluster, Except.map]

end Example

end TopologyOperator
