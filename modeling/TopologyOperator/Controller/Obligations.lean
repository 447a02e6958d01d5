import TopologyOperator.Controller.Footprint
import TopologyOperator.Dialogue.Safety

/-!
# Obligations of a reconcile

How the obligation on a reconcile splits into the obligations on its parts, in any
environment: an object that is marked for deletion is only released, any other
object is only observed until the finalizer is put into place.
-/

namespace TopologyOperator

open Dialogue Program Environment

variable {kind : Kind} {σ α : Type} {env : Environment (@Request.Answer (Object kind)) σ}
  {invariant assertion : σ → Prop} {guard : σ → Trace (Object kind) → Request (Object kind) → Prop}

section

variable (kept : env.Stable invariant invariant) (stable : env.Stable invariant assertion)
include kept stable

/-- A program that is bounded by requests that keep an assertion returns under the
assertion, and its part of the trace consists of such requests. -/
theorem safe_of_calls {program : Prog (Object kind) α} {allowed : Request (Object kind) → Prop}
    {world : σ} {trace : Trace (Object kind)} (calls : program.Calls allowed)
    (guarded : ∀ now suffix request, (∀ event ∈ suffix, allowed event.request) →
      allowed request → invariant now → assertion now → guard now (trace ++ suffix) request)
    (preserved : ∀ now request reply after, allowed request → invariant now → assertion now →
      env.answers now request reply after → invariant after ∧ assertion after)
    (valid : invariant world) (holds : assertion world) :
    env.Safe invariant guard
      (fun _ now later => assertion now ∧
        ∃ suffix, later = trace ++ suffix ∧ ∀ event ∈ suffix, allowed event.request)
      program world trace :=
  Safe.of_calls kept stable calls guarded preserved valid holds
    fun _ _ suffix exec _ holdsNow => ⟨holdsNow, suffix, rfl, calls.of_exec exec⟩

/-- Until the finalizer is put into place, a reconcile of an object that is not
marked for deletion observes and writes the status. -/
theorem reconcileRead_safe (r : TopologyReconciler) {object : Object kind} {world : σ}
    {trace : Trace (Object kind)} (unmarked : object.objectMeta.deletionTimestamp = none)
    (guarded : ∀ now suffix request, (∀ event ∈ suffix, StatusOnly object event.request) →
      StatusOnly object request → invariant now → assertion now →
      guard now (trace ++ suffix) request)
    (preserved : ∀ now request reply after, StatusOnly object request → invariant now →
      assertion now → env.answers now request reply after → invariant after ∧ assertion after)
    (proceed : ∀ now suffix, (∀ event ∈ suffix, StatusOnly object event.request) → invariant now →
      assertion now →
      env.Safe invariant guard (fun _ _ _ => True) (r.reconcileObject object) now (trace ++ suffix))
    (valid : invariant world) (holds : assertion world) :
    env.Safe invariant guard (fun _ _ _ => True) (r.reconcileRead object) world trace := by
  have phase : ∀ {β : Type} {program : Prog (Object kind) β} {now : σ}
      {later : Trace (Object kind)}, program.Calls (StatusOnly object) → invariant now →
      (assertion now ∧ ∃ suffix, later = trace ++ suffix ∧
        ∀ event ∈ suffix, StatusOnly object event.request) →
      env.Safe invariant guard (fun _ now later => assertion now ∧
        ∃ suffix, later = trace ++ suffix ∧ ∀ event ∈ suffix, StatusOnly object event.request)
        program now later := by
    rintro β program now _ calls validNow ⟨holdsNow, suffix, rfl, before⟩
    have extended := safe_of_calls kept stable calls
      (fun now more request further allowed validNow holdsNow =>
        List.append_assoc .. ▸ guarded now (suffix ++ more) request
          (List.forall_mem_append.mpr ⟨before, further⟩) allowed validNow holdsNow)
      preserved validNow holdsNow
    refine extended.weaken fun value final longer _ reached => ?_
    obtain ⟨holdsFinal, more, rfl, further⟩ := reached
    exact ⟨holdsFinal, suffix ++ more, List.append_assoc ..,
      List.forall_mem_append.mpr ⟨before, further⟩⟩
  have ends : ∀ {β : Type} {value : β} {now : σ} {later : Trace (Object kind)},
      env.Safe invariant guard (fun _ _ _ => True) (Program.done value) now later :=
    fun _ _ _ => trivial
  have start : assertion world ∧ ∃ suffix, trace = trace ++ suffix ∧
      ∀ event ∈ suffix, StatusOnly object event.request :=
    ⟨holds, [], (List.append_nil _).symm, fun _ none => absurd none List.not_mem_nil⟩
  refine Safe.bind (phase (extractSystemCertPool_calls (.inl rfl) fun _ => .inl rfl) valid start)
    valid fun loaded now later validNow reached => ?_
  split
  · exact ends
  refine Safe.bind (phase ((parseReference_observes r.libraries ..).calls fun _ => .inl) validNow
    reached) validNow fun resolved now later validNow reached => ?_
  split
  · have only : ∀ err : GoError, (TopologyReconciler.handleRMQReferenceParseError object err).Calls
        (StatusOnly object) :=
      fun err => handleRMQReferenceParseError_statusOnly (by simp [unmarked])
    exact (phase (only _) validNow reached).weaken fun _ _ _ _ _ => trivial
  refine Safe.bind (phase (generateRabbitholeClient_calls (fun _ _ _ _ => .inl rfl) ..) validNow
    reached) validNow fun connected now later validNow reached => ?_
  split
  · exact ends
  · obtain ⟨holdsNow, suffix, rfl, before⟩ := reached
    exact proceed now suffix before validNow holdsNow

end

section Parts

/-- The object that is declared: the one that was read, with the finalizer. -/
structure Carrying (read object : Object kind) : Prop where
  uid : object.objectMeta.uid = read.objectMeta.uid
  key : object.objectMeta.key = read.objectMeta.key
  spec : object.spec = read.spec
  status : object.status = read.status
  finalizer : kind.finalizer ∈ object.objectMeta.finalizers

theorem carrying_withFinalizer (read : Object kind) (version : Version) :
    Carrying read (read.withFinalizer.withVersion version) where
  uid := ObjectMeta.addFinalizer_uid ..
  key := ObjectMeta.addFinalizer_key ..
  spec := rfl
  status := rfl
  finalizer := ObjectMeta.mem_addFinalizer ..

theorem addFinalizerIfNeeded_carrying {read object : Object kind} {trace : Trace (Object kind)}
    (unmarked : read.objectMeta.deletionTimestamp = none)
    (exec : (addFinalizerIfNeeded read).Exec trace (.done (.ok object))) :
    Carrying read object := by
  unfold addFinalizerIfNeeded at exec
  split at exec
  · obtain ⟨answer, rest, -, afterWrite⟩ := exec_ask_bind.mp exec
    rcases answer with failure | version
    · cases afterWrite.2
    · cases afterWrite.2
      exact carrying_withFinalizer read version
  · next present =>
      cases exec.2
      have finalizer : kind.finalizer ∈ read.objectMeta.finalizers := by
        simpa [unmarked] using present
      exact ⟨rfl, rfl, rfl, rfl, finalizer⟩

/-- Retries keep what every attempt keeps. -/
theorem retryOnConflict_safe {State : Type}
    {attempt : State → Prog (Object kind) (State × Except GoError Unit)} {good : State → Prop}
    (attempts : ∀ state now later, good state → invariant now →
      env.Safe invariant guard (fun result _ _ => good result.1) (attempt state) now later)
    (retries : Nat) {state : State} {world : σ} {trace : Trace (Object kind)} (holds : good state)
    (valid : invariant world) :
    env.Safe invariant guard (fun result _ _ => good result.1)
      (retryOnConflict attempt retries state) world trace := by
  induction retries generalizing state world trace with
  | zero => exact attempts state world trace holds valid
  | succ retries ih =>
      refine Safe.bind (attempts state world trace holds valid) valid ?_
      intro result now later validNow holdsNow
      split
      · split
        · exact ih holdsNow validNow
        · exact fun _ _ _ => holdsNow
      · exact fun _ _ _ => holdsNow

end Parts

end TopologyOperator
