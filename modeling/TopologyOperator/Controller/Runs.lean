import TopologyOperator.Client.Resolution
import TopologyOperator.Controller.Footprint

/-!
# Runs of a reconcile

The shape of a complete run of the topology reconciler: it ends early without a
write, it fails to resolve the cluster reference, or it gets a broker client and
goes on to delete or declare.
-/

namespace TopologyOperator

open Dialogue Program

variable {Resource : Type} {kind : Kind}

/-- Events of requests that only observe. -/
def Quiet (trace : Trace Resource) : Prop := ∀ event ∈ trace, event.request.observes = true

/-- A program that only observes leaves a quiet trace. -/
theorem Observes.quiet {α : Type} {program : Prog Resource α} (observes : Observes program)
    {trace : Trace Resource} {outcome : Outcome α} (exec : program.Exec trace outcome) :
    Quiet trace :=
  Calls.of_exec observes exec

theorem Quiet.cons {event : Event (@Request.Answer Resource)} {trace : Trace Resource}
    (first : event.request.observes = true) (rest : Quiet trace) : Quiet (event :: trace) :=
  List.forall_mem_cons.mpr ⟨first, rest⟩

theorem Quiet.append {first second : Trace Resource} (left : Quiet first) (right : Quiet second) :
    Quiet (first ++ second) :=
  List.forall_mem_append.mpr ⟨left, right⟩

/-- A quiet trace has no write of the object. -/
theorem Quiet.not_update {trace : Trace Resource} (quiet : Quiet trace) {written : Resource}
    {answer : Except ApiError Version} : ⟨.update written, answer⟩ ∉ trace :=
  fun member => Bool.false_ne_true (quiet _ member)

namespace TopologyReconciler

/-- The beginning of a run that read the object and loaded the certificates. -/
def opening (key : NamespacedName) (object : Object kind) (rest : Trace (Object kind)) :
    Trace (Object kind) :=
  ⟨.get key, .ok object⟩ :: ⟨.systemCertPool, .ok ()⟩ :: rest

/-- The runs of a reconcile. -/
inductive Run (r : TopologyReconciler) (key : NamespacedName) :
    Trace (Object kind) → Outcome (Result × Option GoError) → Prop where
  | early {trace : Trace (Object kind)} {outcome : Outcome (Result × Option GoError)}
      (quiet : Quiet trace) : Run r key trace outcome
  | unresolved {object : Object kind} {err : GoError} {resolving handling : Trace (Object kind)}
      {outcome : Outcome (Result × Option GoError)}
      (failed : (r.resolve object).Exec resolving (.done (.error err)))
      (handled : (handleRMQReferenceParseError object err).Exec handling outcome) :
      Run r key (opening key object (resolving ++ handling)) outcome
  | connected {object : Object kind} {resolving rest : Trace (Object kind)}
      {uri username password : String} {tls : Bool} {outcome : Outcome (Result × Option GoError)}
      (quiet : Quiet resolving) (reconciled : (r.reconcileObject object).Exec rest outcome) :
      Run r key (opening key object
        (resolving ++ ⟨.newClient uri username password tls, .ok ()⟩ :: rest)) outcome

/-- If the certificates are loaded, that is all that happens. -/
theorem extractSystemCertPool_ok {trace : Trace Resource}
    (exec : extractSystemCertPool.Exec trace (.done (.ok ()))) :
    trace = [⟨.systemCertPool, .ok ()⟩] := by
  obtain ⟨loaded, rest, rfl, afterLoading⟩ := exec_ask_bind.mp exec
  rcases loaded with failure | ⟨⟩
  · obtain ⟨_, _, _, stops⟩ := exec_ask_bind.mp afterLoading
    cases stops.2
  · obtain ⟨rfl, -⟩ := afterLoading
    rfl

/-- Every complete run of a reconcile is of one of the three shapes. -/
theorem reconcile_run {r : TopologyReconciler} {key : NamespacedName} {trace : Trace (Object kind)}
    {outcome : Outcome (Result × Option GoError)} (exec : (r.reconcile key).Exec trace outcome) :
    Run r key trace outcome := by
  obtain ⟨found, rest, rfl, afterGet⟩ := exec_ask_bind.mp exec
  rcases found with failure | object
  · obtain ⟨rfl, -⟩ := afterGet
    exact .early (.cons rfl (by simp [Quiet]))
  have certifies : Observes (TopologyReconciler.extractSystemCertPool : Prog (Object kind) _) :=
    extractSystemCertPool_calls rfl fun _ => rfl
  rcases exec_bind.mp afterGet with ⟨loaded, loading, rest, rfl, loads, afterLoading⟩ | ⟨loads, rfl⟩
  swap
  · exact .early (.cons rfl (certifies.quiet loads))
  have quietLoading := certifies.quiet loads
  rcases loaded with failure | ⟨⟩
  · obtain ⟨rfl, -⟩ := afterLoading
    exact .early (.cons rfl (quietLoading.append (by simp [Quiet])))
  obtain rfl := extractSystemCertPool_ok loads
  have observes : Observes (r.resolve object) := parseReference_observes r.libraries ..
  rcases exec_bind.mp afterLoading with
    ⟨resolved, resolving, rest, rfl, resolves, afterResolving⟩ | ⟨resolves, rfl⟩
  swap
  · exact .early (.cons rfl (quietLoading.append (observes.quiet resolves)))
  have quietResolving := observes.quiet resolves
  rcases resolved with err | ⟨creds, tls⟩
  · change Run r key (opening key object (resolving ++ rest)) outcome
    exact .unresolved resolves afterResolving
  have creates : Observes (generateRabbitholeClient creds tls : Prog (Object kind) _) :=
    generateRabbitholeClient_calls (fun _ _ _ _ => rfl) creds tls
  rcases exec_bind.mp afterResolving with
    ⟨connected, connecting, rest, rfl, connects, afterConnecting⟩ | ⟨connects, rfl⟩
  swap
  · exact .early (.cons rfl (quietLoading.append (quietResolving.append (creates.quiet connects))))
  rcases connected with err | ⟨⟩
  · obtain ⟨rfl, -⟩ := afterConnecting
    exact .early (.cons rfl (quietLoading.append (quietResolving.append
      ((creates.quiet connects).append (by simp [Quiet])))))
  · obtain ⟨uri, username, password, rfl⟩ := generateRabbitholeClient_ok connects
    change Run r key (opening key object
      (resolving ++ ⟨.newClient uri username password tls, .ok ()⟩ :: rest)) outcome
    exact .connected quietResolving afterConnecting

end TopologyReconciler

end TopologyOperator
