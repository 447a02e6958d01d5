import TopologyOperator.Controller.Copies

/-!
# The object in memory

A topology reconcile works on one copy of the object, which is rewritten in place by
every write. Throughout the reconcile the trace tells the stored state that the copy
stems from: `InMemory`. The copy may differ from that state in the status, but it
does not claim that the object is ready, and does not change the observed generation,
before the entity was declared.
-/

namespace TopologyOperator

open Dialogue Program

variable {kind : Kind} (libraries : Libraries)

section Readiness

/-- The condition that the object is ready. -/
def ReadyTrue (condition : Condition) : Prop :=
  condition.type = "Ready" ∧ condition.status = .conditionTrue

/-- The status has the observed generation of another one, and says that the object
is ready only if that one does. -/
structure KeepsReadiness (stored status : Status) : Prop where
  observed : status.observedGeneration = stored.observedGeneration
  ready : ∀ condition ∈ status.conditions, ReadyTrue condition → condition ∈ stored.conditions

theorem KeepsReadiness.refl (status : Status) : KeepsReadiness status status :=
  ⟨rfl, fun _ member _ => member⟩

/-- Setting a condition brings in no other. -/
theorem mem_upsertCondition {condition other : Condition} {conditions : List Condition}
    (member : other ∈ upsertCondition condition conditions) :
    other = condition ∨ other ∈ conditions := by
  induction conditions with
  | nil => exact .inl (List.mem_singleton.mp member)
  | cons held rest ih =>
      unfold upsertCondition at member
      split at member
      · rcases List.mem_cons.mp member with same | later
        · exact .inl same
        · exact .inr (.tail _ later)
      · rcases List.mem_cons.mp member with rfl | later
        · exact .inr (.head _)
        · exact (ih later).imp_right (.tail _)

variable {object : Object kind} {condition other : Condition}

/-- So it is for the status of every kind. -/
theorem mem_setStatusConditions
    (member : other ∈ (object.setStatusConditions [condition]).status.conditions) :
    other = condition ∨ other ∈ object.status.conditions := by
  cases kind with
  | user => exact mem_upsertCondition member
  | _ => exact .inl (List.mem_singleton.mp member)

/-- Conditions belong to no revision. -/
theorem setStatusConditions_revision (object : Object kind) (conditions : List Condition) :
    Object.view.revision (object.setStatusConditions conditions) =
      Object.view.revision object := by
  cases kind <;> rfl

/-- Setting conditions leaves the observed generation. -/
theorem setStatusConditions_observed (object : Object kind) (conditions : List Condition) :
    (object.setStatusConditions conditions).status.observedGeneration =
      object.status.observedGeneration := by
  cases kind <;> rfl

/-- Any condition may be set but that the object is ready. -/
theorem KeepsReadiness.setStatusConditions {stored : Status}
    (keeps : KeepsReadiness stored object.status) (unready : ¬ ReadyTrue condition) :
    KeepsReadiness stored (object.setStatusConditions [condition]).status := by
  refine ⟨(setStatusConditions_observed object [condition]).trans keeps.observed, ?_⟩
  intro other member ready
  rcases mem_setStatusConditions member with rfl | earlier
  · exact absurd ready unready
  · exact keeps.ready other earlier ready

variable {Resource : Type} {trace : Trace Resource} {conditions : List Condition}

/-- The condition that `notReady` builds does not say that the object is ready. -/
theorem notReady_exec {msg : String}
    (exec : (notReady msg conditions).Exec trace (.done condition)) : ¬ ReadyTrue condition := by
  obtain ⟨time, _, _, -, -, stops⟩ := exec_bind_done.mp exec
  cases stops.2
  rintro ⟨-, affirmed⟩
  cases affirmed

/-- Nor does the one about the password. -/
theorem passwordSynced_exec
    (exec : (passwordSynced conditions).Exec trace (.done condition)) : ¬ ReadyTrue condition := by
  obtain ⟨time, _, _, -, -, stops⟩ := exec_bind_done.mp exec
  cases stops.2
  rintro ⟨named, -⟩
  have different : "PasswordSynced" ≠ "Ready" := by decide
  exact different named

end Readiness

/-- In the trace, `DeclareFunc` has returned nil for an object with the identity and
the spec of the given one. -/
def Declared (trace : Trace (Object kind)) (written : Object kind) : Prop :=
  ∃ before declaring after object result, trace = before ++ (declaring ++ after) ∧
    (declareFunc libraries object).Exec declaring (.done (result, .ok ())) ∧
    object.objectMeta.uid = written.objectMeta.uid ∧ object.spec = written.spec

/-- A status that may replace the stored one. -/
def AllowsStatus (trace : Trace (Object kind)) (written : Object kind) (stored : Status) : Prop :=
  KeepsReadiness stored written.status ∨
    Declared libraries trace written ∧
      written.status.observedGeneration = written.objectMeta.generation

/-- What every write of a reconcile keeps to. -/
abbrev Disciplined : Trace (Object kind) → Request (Object kind) → Prop :=
  Object.view.Faithful (AllowsStatus libraries)

/-- The copy in memory stems from a stored state, and claims no more than it. -/
def InMemory (trace : Trace (Object kind)) (object : Object kind) : Prop :=
  ∃ stored, Object.view.Knows trace (Object.view.revision object) stored ∧
    KeepsReadiness stored object.status

/-- The status of the copy in memory may be stored. -/
def Storable (trace : Trace (Object kind)) (object : Object kind) : Prop :=
  ∃ stored, Object.view.Knows trace (Object.view.revision object) stored ∧
    AllowsStatus libraries trace object stored

/-- The copy in memory is another one of the same spec. -/
structure Continues (object : Object kind) (trace : Trace (Object kind))
    (result : Object kind) : Prop where
  memory : InMemory trace result
  uid : result.objectMeta.uid = object.objectMeta.uid
  spec : result.spec = object.spec

section Copies

variable {libraries} {object written : Object kind} {trace : Trace (Object kind)}

/-- What was known of the copy stays known. -/
theorem InMemory.append (memory : InMemory trace object) (suffix : Trace (Object kind)) :
    InMemory (trace ++ suffix) object := by
  obtain ⟨stored, knows, keeps⟩ := memory
  exact ⟨stored, knows.append suffix, keeps⟩

theorem InMemory.continues (memory : InMemory trace object) : Continues object trace object :=
  ⟨memory, rfl, rfl⟩

theorem Continues.trans {first : Object kind} {earlier : Trace (Object kind)}
    (continues : Continues first earlier object) (next : Continues object trace written) :
    Continues first trace written :=
  ⟨next.memory, next.uid.trans continues.uid, next.spec.trans continues.spec⟩

/-- A copy that claims no more than the stored state may be stored. -/
theorem InMemory.storable (memory : InMemory trace object) : Storable libraries trace object := by
  obtain ⟨stored, knows, keeps⟩ := memory
  exact ⟨stored, knows, .inl keeps⟩

/-- The status in memory is changed without claiming that the object is ready. -/
theorem InMemory.setStatusConditions (memory : InMemory trace object) {condition : Condition}
    (unready : ¬ ReadyTrue condition) :
    InMemory trace (object.setStatusConditions [condition]) := by
  obtain ⟨stored, knows, keeps⟩ := memory
  refine ⟨stored, ?_, keeps.setStatusConditions unready⟩
  rwa [setStatusConditions_revision]

/-- What was declared stays declared. -/
theorem Declared.append (declared : Declared libraries trace object)
    (suffix : Trace (Object kind)) : Declared libraries (trace ++ suffix) object := by
  obtain ⟨before, declaring, after, declarant, result, rfl, exec, uid, spec⟩ := declared
  refine ⟨before, declaring, after ++ suffix, declarant, result, ?_, exec, uid, spec⟩
  simp only [List.append_assoc]

/-- After the declaration of its spec, the object may be recorded as ready. -/
theorem InMemory.storable_ready (memory : InMemory trace object)
    (declared : Declared libraries trace object) (condition : Condition) :
    Storable libraries trace
      (TopologyReconciler.setObservedGeneration (object.setStatusConditions [condition])) := by
  obtain ⟨stored, knows, -⟩ := memory
  obtain ⟨before, declaring, after, declarant, result, split, exec, uid, spec⟩ := declared
  have revision := setStatusConditions_revision object [condition]
  refine ⟨stored, revision ▸ knows, .inr ⟨?_, rfl⟩⟩
  exact ⟨before, declaring, after, declarant, result, split, exec,
    uid.trans (congrArg Revision.uid revision).symm,
    spec.trans (congrArg Revision.spec revision).symm⟩

theorem Storable.append (storable : Storable libraries trace object)
    (suffix : Trace (Object kind)) : Storable libraries (trace ++ suffix) object := by
  obtain ⟨stored, knows, permits⟩ := storable
  exact ⟨stored, knows.append suffix, permits.imp_right fun success =>
    ⟨success.1.append suffix, success.2⟩⟩

/-- Other metadata may be changed in memory. -/
theorem InMemory.amend (memory : InMemory trace object)
    (revision : Object.view.revision written = Object.view.revision object)
    (status : written.status = object.status) : Continues object trace written := by
  obtain ⟨stored, knows, keeps⟩ := memory
  rw [← revision] at knows
  rw [← status] at keeps
  exact ⟨⟨stored, knows, keeps⟩, congrArg Revision.uid revision, congrArg Revision.spec revision⟩

/-- A condition other than that the object is ready is set in memory. -/
theorem InMemory.continues_setStatusConditions (memory : InMemory trace object)
    {condition : Condition} (unready : ¬ ReadyTrue condition) :
    Continues object trace (object.setStatusConditions [condition]) := by
  have revision := setStatusConditions_revision object [condition]
  exact ⟨memory.setStatusConditions unready, congrArg Revision.uid revision,
    congrArg Revision.spec revision⟩

end Copies

/-- The steps of a reconcile keep the copy in memory faithful. -/
theorem inMemory_invariant : CopyInvariant libraries (Disciplined libraries)
    (InMemory : Trace (Object kind) → Object kind → Prop) (Storable libraries) Continues where
  spared := faithful_of_spares
  opened key object :=
    show InMemory ([] ++ [⟨.get key, .ok object⟩]) object from ⟨object.status, .read, .refl _⟩
  append memory suffix := memory.append suffix
  refl memory := memory.continues
  trans continues next := continues.trans next
  current continues := continues.memory
  amend memory revision status := memory.amend revision status
  update := by
    rintro trace object ⟨stored, knows, keeps⟩
    exact ⟨⟨stored, knows⟩, fun version => ⟨⟨stored, .updated knows, keeps⟩, rfl, rfl⟩⟩
  ripe memory := memory.storable
  pending storable suffix := storable.append suffix
  store := by
    rintro trace object ⟨stored, knows, permits⟩
    refine ⟨⟨stored, knows, permits⟩, fun version => ⟨?_, rfl, rfl⟩⟩
    exact ⟨object.status, .statusUpdated knows, .refl _⟩
  names := by
    rintro trace object ⟨stored, knows, keeps⟩ credentials username
    exact ⟨⟨stored, knows, keeps.observed, keeps.ready⟩, rfl, rfl⟩
  notReady memory exec := memory.setStatusConditions (notReady_exec exec)
  passwordSynced memory _ exec := memory.continues_setStatusConditions (passwordSynced_exec exec)
  ready := by
    intro trace declaring computing object result condition exec continues _
    refine continues.memory.storable_ready ⟨trace, declaring, [], object, result, ?_, exec,
      continues.uid.symm, continues.spec.symm⟩ condition
    rw [List.append_nil]

/-- Every write of a reconcile keeps to what the reconcile was told. -/
theorem reconcile_guarded (r : TopologyReconciler) (key : NamespacedName) :
    (r.reconcile key : Prog (Object kind) _).Guarded (Disciplined r.libraries)
      (fun _ _ => True) [] :=
  (inMemory_invariant r.libraries).guarded key

end TopologyOperator
