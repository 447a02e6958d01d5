import TopologyOperator.Controller.Partitions

/-!
# What makes a builder loop fail

The builder loop of a super stream reconcile fails on an answer that hinders it, or
because the writes of one child meet as many conflicts as there are attempts. The
answers that hinder it are a child controlled by another owner, an error on a read
other than that there is no such child, and an error on a write other than a conflict.
-/

namespace TopologyOperator.SuperStreamServer

open Dialogue Program SuperStreamReconciler

variable {builder : Builder} {resource : ResourceBuilder} {trace : Trace SuperStream}
  {object result : Object resource.kind} {err : GoError}

/-- The reference that makes the super stream the controller of a child. -/
def ownerReference (owner : ObjectMeta) : OwnerReference :=
  controllerReference "rabbitmq.com/v1alpha1" "SuperStream" owner

/-- No other owner controls the object. -/
def Free (owner : ObjectMeta) (objectMeta : ObjectMeta) : Prop :=
  ∀ existing, getControllerOf objectMeta.ownerReferences = some existing →
    referSameObject existing (ownerReference owner) = true

/-- The answers that end the builder loop of the owner. -/
def Hinders (owner : ObjectMeta) : (request : Request SuperStream) → request.Answer → Prop
  | .getObject _ _, .ok child => ¬ Free owner child.objectMeta
  | .getObject _ _, .error err => err.reason ≠ .notFound
  | .createObject _, .error err => err.reason ≠ .conflict
  | .updateObject _, .error err => err.reason ≠ .conflict
  | _, _ => False

/-- The writes of a child that meet a conflict. -/
def conflicts (place : Kind × NamespacedName) : (request : Request SuperStream) →
    request.Answer → Bool
  | .createObject child, .error err => slot child = place ∧ err.reason = .conflict
  | .updateObject child, .error err => slot child = place ∧ err.reason = .conflict
  | _, _ => false

/-- The conflicts that the writes of a child meet in a trace. -/
def conflictCount (place : Kind × NamespacedName) (trace : Trace SuperStream) : Nat :=
  trace.countP fun event => conflicts place event.request event.answer

/-- A child that is found has the name it was asked for by. -/
def CalledFor : (request : Request SuperStream) → request.Answer → Prop
  | .getObject _ key, .ok child => child.objectMeta.key = key
  | _, _ => True

/-- No answer in the trace hinders the owner, and children have the names they were
asked for by. -/
def Smooth (owner : ObjectMeta) (trace : Trace SuperStream) : Prop :=
  ∀ event ∈ trace, ¬ Hinders owner event.request event.answer ∧ CalledFor event.request event.answer

theorem Smooth.append_iff {owner : ObjectMeta} {first second : Trace SuperStream} :
    Smooth owner (first ++ second) ↔ Smooth owner first ∧ Smooth owner second := by
  simp only [Smooth, List.mem_append, or_imp, forall_and]
  tauto

theorem conflictCount_append (place : Kind × NamespacedName) (first second : Trace SuperStream) :
    conflictCount place (first ++ second) =
      conflictCount place first + conflictCount place second :=
  List.countP_append

/-- After an `Update` no other owner controls the child. -/
theorem free_of_update (updated : builder.update resource object = .ok result) :
    Free builder.objectOwner result.objectMeta := by
  unfold Builder.update at updated
  split at updated
  · cases updated
  next objectMeta set =>
  cases updated
  intro existing found
  rw [setControllerReference_controller set] at found
  cases found
  have group : apiGroup "rabbitmq.com/v1alpha1" = some "rabbitmq.com" := by decide
  simp [referSameObject, ownerReference, controllerReference, group]

/-- The check of the namespaces fails. -/
def Outside (owner objectMeta : ObjectMeta) : Prop := owner.ns ≠ "" ∧ owner.ns ≠ objectMeta.ns

/-- `Update` succeeds on a child that passes the check of the namespaces and that no other
owner controls. -/
theorem update_of_inside (inside : ¬ Outside builder.objectOwner object.objectMeta)
    (free : Free builder.objectOwner object.objectMeta) :
    ∃ mutated, builder.update resource object = .ok mutated := by
  have set : ∃ objectMeta, setControllerReference "rabbitmq.com/v1alpha1" "SuperStream"
      builder.objectOwner object.objectMeta = .ok objectMeta := by
    unfold Outside at inside
    rw [setControllerReference, if_neg inside]
    cases found : getControllerOf object.objectMeta.ownerReferences with
    | none => exact ⟨_, rfl⟩
    | some existing => exact ⟨_, if_pos (free existing found)⟩
  obtain ⟨objectMeta, set⟩ := set
  exact ⟨_, by rw [Builder.update, set]⟩

theorem update_of_free (sameNamespace : object.objectMeta.ns = builder.objectOwner.ns)
    (free : Free builder.objectOwner object.objectMeta) :
    ∃ mutated, builder.update resource object = .ok mutated :=
  update_of_inside (fun outside => outside.2 sameNamespace.symm) free

theorem inside_of_update (updated : builder.update resource object = .ok result) :
    ¬ Outside builder.objectOwner result.objectMeta := by
  intro outside
  have sameNamespace : result.objectMeta.ns = object.objectMeta.ns :=
    congrArg NamespacedName.ns (update_eq_ok updated).1
  rw [Outside, sameNamespace] at outside
  rw [Builder.update, setControllerReference, if_pos outside] at updated
  cases updated

/-- An attempt that nothing hinders fails on a conflict of its write. -/
theorem createOrUpdate_failed (sameNamespace : object.objectMeta.ns = builder.objectOwner.ns)
    (free : Free builder.objectOwner object.objectMeta) (smooth : Smooth builder.objectOwner trace)
    (exec : (createOrUpdate (objectClient resource.kind) (builder.update resource) object).Exec
      trace (.done (result, .error err))) :
    err.isConflict = true ∧ result.objectMeta.key = object.objectMeta.key ∧
      Free builder.objectOwner result.objectMeta ∧
      0 < conflictCount (resource.kind, object.objectMeta.key) trace := by
  have run := childRun_of_exec exec
  generalize same : (result, Except.error err) = returned at run
  cases run with
  | unread failure failed =>
      have unhindered := (smooth _ List.mem_cons_self).1
      have found : (GoError.api failure).isNotFound = true := by
        simpa [Hinders, GoError.isNotFound, GoError.reason] using unhindered
      rw [failed] at found
      cases found
  | unmade missing failure refused =>
      obtain ⟨mutated, updated⟩ := update_of_free sameNamespace free
      rw [updated] at refused
      cases refused
  | created missing made mutated answer =>
      cases answer with
      | ok version => cases same
      | error failure =>
          cases same
          have sameKey := (update_eq_ok mutated).1
          have reason : failure.reason = .conflict :=
            not_not.mp (smooth _ (.tail _ List.mem_cons_self)).1
          refine ⟨by simp [GoError.isConflict, GoError.reason, reason], sameKey,
            free_of_update mutated, ?_⟩
          simp [conflictCount, conflicts, slot, sameKey, reason]
  | unmutated existing failure refused =>
      obtain ⟨unhindered, named⟩ := smooth _ List.mem_cons_self
      have inNamespace : existing.objectMeta.ns = builder.objectOwner.ns :=
        (congrArg NamespacedName.ns named).trans sameNamespace
      obtain ⟨mutated, updated⟩ := update_of_free inNamespace (not_not.mp unhindered)
      rw [updated] at refused
      cases refused
  | unchanged => cases same
  | updated existing made mutated answer =>
      cases answer with
      | ok version => cases same
      | error failure =>
          cases same
          have here : existing.objectMeta.key = object.objectMeta.key :=
            (smooth _ List.mem_cons_self).2
          have sameKey := (update_eq_ok mutated).1.trans here
          have reason : failure.reason = .conflict :=
            not_not.mp (smooth _ (.tail _ List.mem_cons_self)).1
          refine ⟨by simp [GoError.isConflict, GoError.reason, reason], sameKey,
            free_of_update mutated, ?_⟩
          simp [conflictCount, conflicts, slot, sameKey, reason]

/-- A child that nothing hinders fails on a conflict of each of its attempts. -/
theorem retryOnConflict_failed {retries : Nat}
    (sameNamespace : object.objectMeta.ns = builder.objectOwner.ns)
    (free : Free builder.objectOwner object.objectMeta) (smooth : Smooth builder.objectOwner trace)
    (exec : (retryOnConflict (createOrUpdate (objectClient resource.kind) (builder.update resource))
      retries object).Exec trace (.done (result, .error err))) :
    retries < conflictCount (resource.kind, object.objectMeta.key) trace := by
  induction retries generalizing object trace with
  | zero => exact (createOrUpdate_failed sameNamespace free smooth exec).2.2.2
  | succ retries ih =>
      obtain ⟨⟨kept, outcome⟩, first, rest, rfl, attempt, retry⟩ := exec_bind_done.mp exec
      obtain ⟨smoothFirst, smoothRest⟩ := Smooth.append_iff.mp smooth
      cases outcome with
      | ok => cases retry.2
      | error failure =>
          obtain ⟨conflict, sameKey, freeKept, counted⟩ :=
            createOrUpdate_failed sameNamespace free smoothFirst attempt
          have inNamespace : kept.objectMeta.ns = builder.objectOwner.ns :=
            (congrArg NamespacedName.ns sameKey).trans sameNamespace
          simp only [conflict, ↓reduceIte] at retry
          have later := ih inNamespace freeKept smoothRest retry
          rw [sameKey] at later
          rw [conflictCount_append]
          omega

/-- A builder loop that nothing hinders fails on a child all of whose attempts meet a
conflict. -/
theorem createChildren_failed {resources : List ResourceBuilder} {collected : List String}
    {failure : ResourceBuilder × GoError} (smooth : Smooth builder.objectOwner trace)
    (exec : (createChildren builder resources collected).Exec trace (.done (.error failure))) :
    ∃ place, defaultRetry < conflictCount place trace := by
  induction resources generalizing collected trace with
  | nil => cases exec.2
  | cons resource rest ih =>
      obtain ⟨⟨child, outcome⟩, first, later, rfl, created, goes⟩ := exec_bind_done.mp exec
      obtain ⟨smoothFirst, smoothLater⟩ := Smooth.append_iff.mp smooth
      cases outcome with
      | error err =>
          have inNamespace : (builder.build resource).objectMeta.ns = builder.objectOwner.ns := by
            cases resource <;> rfl
          have free : Free builder.objectOwner (builder.build resource).objectMeta := by
            intro existing found
            cases resource <;> cases found
          have exhausted := retryOnConflict_failed inNamespace free smoothFirst created
          refine ⟨(resource.kind, (builder.build resource).objectMeta.key), exhausted.trans_le ?_⟩
          rw [conflictCount_append]
          exact Nat.le_add_right _ _
      | ok =>
          obtain ⟨place, exhausted⟩ := ih smoothLater goes
          refine ⟨place, exhausted.trans_le ?_⟩
          rw [conflictCount_append]
          exact Nat.le_add_left _ _

end TopologyOperator.SuperStreamServer
