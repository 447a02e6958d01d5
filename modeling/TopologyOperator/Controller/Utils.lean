import TopologyOperator.Client.ParseReference
import TopologyOperator.Settings

/-!
# Shared parts of the controllers

Classification of broker responses, finalizers, conditions, and the helpers of
client-go and controller-runtime that the controllers are written with:
`RetryOnConflict` and `CreateOrUpdate`.
-/

namespace TopologyOperator

open Dialogue

variable {Resource : Type} {kind : Kind}

def validateResponse (reply : BrokerReply) : Except GoError Unit :=
  match reply.error with
  | some err => .error (.broker err)
  | none =>
      match reply.response with
      | none => .error (.text "failed to validate empty HTTP response")
      | some res =>
          if 300 ≤ res.statusCode then .error (.rabbitmqAPIError res.statusCode res.body)
          else .ok ()

def validateResponseForDeletion (reply : BrokerReply) : Except GoError Unit :=
  match reply.response with
  | some res => if res.statusCode = 404 then .error .errNotFound else validateResponse reply
  | none => validateResponse reply

/-- A deletion that the broker answered with 404 counts as done. -/
def ignoreMissing : Except GoError Unit → Except GoError Unit
  | .error err => if err.is .errNotFound then .ok () else .error err
  | .ok () => .ok ()

def shouldSkipDeletion (deletionPolicy : String) : Bool := deletionPolicy = "retain"

/-- `addFinalizerIfNeeded`: the object as it is afterwards. -/
def addFinalizerIfNeeded (object : Object kind) :
    Prog (Object kind) (Except GoError (Object kind)) :=
  if object.objectMeta.deletionTimestamp = none ∧
      object.objectMeta.containsFinalizer kind.finalizer = false then do
    match ← ask (.update object.withFinalizer) with
    | .error err => return .error (.wrapped "failed to add deletionFinalizer: " (.api err) "")
    | .ok version => return .ok (object.withFinalizer.withVersion version)
  else return .ok object

/-- `removeFinalizer`: the write is sent even if the finalizer is not there. -/
def removeFinalizer (object : Object kind) : Prog (Object kind) (Except GoError (Object kind)) := do
  match ← ask (.update object.withoutFinalizer) with
  | .error err => return .error (.wrapped "failed to delete finalizer: " (.api err) "")
  | .ok version => return .ok (object.withoutFinalizer.withVersion version)

/-- The retries that `DefaultRetry` allows after the first attempt. -/
def defaultRetry : Nat := 4

/-- `RetryOnConflict` around an attempt that works on variables of its caller. -/
def retryOnConflict {σ : Type} (attempt : σ → Prog Resource (σ × Except GoError Unit)) :
    Nat → σ → Prog Resource (σ × Except GoError Unit)
  | 0, state => attempt state
  | retries + 1, state => do
      let result ← attempt state
      match result.2 with
      | .error err =>
          if err.isConflict then retryOnConflict attempt retries result.1
          else return (result.1, .error err)
      | .ok () => return (result.1, .ok ())

/-- A run of `RetryOnConflict` is its first attempt, or that meets a conflict and the
retries go on from the state it leaves. -/
theorem retryOnConflict_succ {σ : Type} {attempt : σ → Prog Resource (σ × Except GoError Unit)}
    {retries : Nat} {state : σ} {trace : Trace Resource}
    {outcome : Outcome (σ × Except GoError Unit)}
    (exec : (retryOnConflict attempt (retries + 1) state).Exec trace outcome) :
    (attempt state).Exec trace outcome ∨
      ∃ kept err first rest, trace = first ++ rest ∧
        (attempt state).Exec first (.done (kept, .error err)) ∧ err.isConflict = true ∧
        (retryOnConflict attempt retries kept).Exec rest outcome := by
  rcases Program.exec_bind.mp exec with ⟨⟨kept, result⟩, first, rest, rfl, attempted, goes⟩ |
    ⟨aborted, rfl⟩
  · cases result with
    | ok =>
        obtain ⟨rfl, rfl⟩ := goes
        rw [List.append_nil]
        exact .inl attempted
    | error err =>
        dsimp only at goes
        split at goes
        · next conflict => exact .inr ⟨kept, err, first, rest, rfl, attempted, conflict, goes⟩
        · obtain ⟨rfl, rfl⟩ := goes
          rw [List.append_nil]
          exact .inl attempted
  · exact .inl aborted

/-- What `RetryOnConflict` returns, its last attempt returned. -/
theorem retryOnConflict_exec {σ : Type} {attempt : σ → Prog Resource (σ × Except GoError Unit)}
    {retries : Nat} {state : σ} {trace : Trace Resource} {result : σ × Except GoError Unit}
    (exec : (retryOnConflict attempt retries state).Exec trace (.done result)) :
    ∃ last attempted, (attempt last).Exec attempted (.done result) := by
  induction retries generalizing state trace with
  | zero => exact ⟨state, trace, exec⟩
  | succ retries ih =>
      rcases retryOnConflict_succ exec with last | ⟨kept, err, first, rest, -, -, -, retry⟩
      · exact ⟨state, trace, last⟩
      · exact ih retry

/-- An attempt that succeeds is the last one. -/
theorem exec_retryOnConflict {σ : Type} {attempt : σ → Prog Resource (σ × Except GoError Unit)}
    {retries : Nat} {state kept : σ} {trace : Trace Resource}
    (attempted : (attempt state).Exec trace (.done (kept, .ok ()))) :
    (retryOnConflict attempt retries state).Exec trace (.done (kept, .ok ())) := by
  cases retries with
  | zero => exact attempted
  | succ retries =>
      exact Program.exec_bind_done.mpr ⟨_, trace, [], (List.append_nil _).symm, attempted, rfl, rfl⟩

theorem returns_retryOnConflict {σ : Type} {attempt : σ → Prog Resource (σ × Except GoError Unit)}
    (attempts : ∀ state, (attempt state).Returns) (retries : Nat) (state : σ) :
    (retryOnConflict attempt retries state).Returns := by
  induction retries generalizing state with
  | zero => exact attempts state
  | succ retries ih =>
      refine (attempts state).bind fun result => ?_
      split
      · split
        · exact ih _
        · trivial
      · trivial

/-- How objects of one type are read and written. -/
structure ObjectClient (Resource α : Type) where
  get : α → Prog Resource (Except ApiError α)
  create : α → Prog Resource (Except ApiError Version)
  update : α → Prog Resource (Except ApiError Version)
  withVersion : α → Version → α

/-- `CreateOrUpdate`: get, then create the mutated object if there is none, or
update the fetched and mutated object if the mutation changed it. -/
def createOrUpdate {α : Type} [DecidableEq α] (client : ObjectClient Resource α)
    (mutate : α → Except GoError α) (object : α) : Prog Resource (α × Except GoError Unit) := do
  match ← client.get object with
  | .error err =>
      if (GoError.api err).isNotFound then
        match mutate object with
        | .error err => return (object, .error err)
        | .ok mutated =>
            match ← client.create mutated with
            | .error err => return (mutated, .error (.api err))
            | .ok version => return (client.withVersion mutated version, .ok ())
      else return (object, .error (.api err))
  | .ok existing =>
      match mutate existing with
      | .error err => return (existing, .error err)
      | .ok mutated =>
          if existing = mutated then return (existing, .ok ())
          else
            match ← client.update mutated with
            | .error err => return (mutated, .error (.api err))
            | .ok version => return (client.withVersion mutated version, .ok ())

theorem returns_createOrUpdate {α : Type} [DecidableEq α] {client : ObjectClient Resource α}
    (gets : ∀ object, (client.get object).Returns)
    (creates : ∀ object, (client.create object).Returns)
    (updates : ∀ object, (client.update object).Returns) (mutate : α → Except GoError α)
    (object : α) : (createOrUpdate client mutate object).Returns := by
  refine (gets object).bind fun found => ?_
  split
  · split
    · split
      · trivial
      · refine (creates _).bind fun created => ?_
        split <;> trivial
    · trivial
  · split
    · trivial
    · split
      · trivial
      · refine (updates _).bind fun written => ?_
        split <;> trivial

/-- The transition time of a condition: that of an earlier condition of the same
type and status, otherwise the current time. -/
def transitionTime (type : String) (status : ConditionStatus) (lastConditions : List Condition) :
    Prog Resource Time :=
  match lastTransitionTime type status lastConditions with
  | some time => return time
  | none => ask .now

theorem returns_transitionTime (type : String) (status : ConditionStatus)
    (conditions : List Condition) :
    (transitionTime type status conditions : Prog Resource _).Returns := by
  unfold transitionTime
  split
  · trivial
  · exact returns_ask _

def ready (lastConditions : List Condition) : Prog Resource Condition := do
  let time ← transitionTime "Ready" .conditionTrue lastConditions
  return ⟨"Ready", .conditionTrue, time, "SuccessfulCreateOrUpdate", ""⟩

def notReady (msg : String) (lastConditions : List Condition) : Prog Resource Condition := do
  let time ← transitionTime "Ready" .conditionFalse lastConditions
  return ⟨"Ready", .conditionFalse, time, "FailedCreateOrUpdate", msg⟩

def passwordSynced (lastConditions : List Condition) : Prog Resource Condition := do
  let time ← transitionTime "PasswordSynced" .conditionTrue lastConditions
  return ⟨"PasswordSynced", .conditionTrue, time, "SuccessfulPasswordSync", ""⟩

/-- `Recorder.Eventf`, with the values of the call already in the note. -/
def eventf (type : EventType) (reason action note : String) : Prog Resource Unit :=
  ask (.eventf ⟨type, reason, action, note⟩)

/-- One attempt to store the status of the object. -/
def updateStatus (object : Object kind) :
    Prog (Object kind) (Object kind × Except GoError Unit) := do
  match ← ask (.updateStatus object) with
  | .error err => return (object, .error (.api err))
  | .ok version => return (object.withVersion version, .ok ())

/-- The result of a reconcile: when to reconcile again, in seconds. -/
structure Result where
  requeueAfter : Nat := 0
  deriving DecidableEq

end TopologyOperator
