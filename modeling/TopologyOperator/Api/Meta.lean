import Mathlib.Data.List.Basic

/-!
# Object metadata

The part of Kubernetes object metadata that the operator reads and writes, with
the helpers of `controllerutil` that it applies to it: finalizers, owner
references and string maps. Names follow the source; `ns` stands for a namespace.
-/

namespace TopologyOperator

/-- A point in time, in an unspecified unit. -/
abbrev Time := Nat

/-- The identity of one incarnation of an object. -/
abbrev UID := Nat

/-- The version that the API server gives to one stored state of an object. -/
abbrev ResourceVersion := Nat

/-- `strings.Split` by a comma. -/
def splitByComma (text : String) : List String :=
  (text.toList.splitOn ',').map String.ofList

structure NamespacedName where
  ns : String
  name : String
  deriving DecidableEq

structure LocalObjectReference where
  name : String
  deriving DecidableEq

structure OwnerReference where
  apiVersion : String
  kind : String
  name : String
  uid : UID
  controller : Option Bool
  blockOwnerDeletion : Option Bool
  deriving DecidableEq

structure ObjectMeta where
  name : String
  ns : String
  uid : UID := 0
  resourceVersion : ResourceVersion := 0
  generation : Int := 0
  deletionTimestamp : Option Time := none
  labels : List (String × String) := []
  annotations : List (String × String) := []
  ownerReferences : List OwnerReference := []
  finalizers : List String := []
  deriving DecidableEq

namespace ObjectMeta

def key (objectMeta : ObjectMeta) : NamespacedName := ⟨objectMeta.ns, objectMeta.name⟩

/-- `controllerutil.ContainsFinalizer` -/
def containsFinalizer (objectMeta : ObjectMeta) (finalizer : String) : Bool :=
  objectMeta.finalizers.contains finalizer

/-- `controllerutil.AddFinalizer`: append, unless it is there. -/
def addFinalizer (objectMeta : ObjectMeta) (finalizer : String) : ObjectMeta :=
  if objectMeta.containsFinalizer finalizer then objectMeta
  else { objectMeta with finalizers := objectMeta.finalizers ++ [finalizer] }

/-- `controllerutil.RemoveFinalizer` -/
def removeFinalizer (objectMeta : ObjectMeta) (finalizer : String) : ObjectMeta :=
  { objectMeta with finalizers := objectMeta.finalizers.filter (· ≠ finalizer) }

@[simp] theorem containsFinalizer_iff {objectMeta : ObjectMeta} {finalizer : String} :
    objectMeta.containsFinalizer finalizer = true ↔ finalizer ∈ objectMeta.finalizers := by
  simp [containsFinalizer]

/-- Afterwards the finalizer is there. -/
theorem mem_addFinalizer (objectMeta : ObjectMeta) (finalizer : String) :
    finalizer ∈ (objectMeta.addFinalizer finalizer).finalizers := by
  unfold addFinalizer
  split
  · next present => exact containsFinalizer_iff.mp present
  · simp

/-- Afterwards the finalizer is gone. -/
theorem not_mem_removeFinalizer (objectMeta : ObjectMeta) (finalizer : String) :
    finalizer ∉ (objectMeta.removeFinalizer finalizer).finalizers := by
  simp [removeFinalizer]

@[simp] theorem addFinalizer_uid (objectMeta : ObjectMeta) (finalizer : String) :
    (objectMeta.addFinalizer finalizer).uid = objectMeta.uid := by
  unfold addFinalizer
  split <;> rfl

@[simp] theorem addFinalizer_key (objectMeta : ObjectMeta) (finalizer : String) :
    (objectMeta.addFinalizer finalizer).key = objectMeta.key := by
  unfold addFinalizer
  split <;> rfl

end ObjectMeta

/-- `deletion.finalizers.<kind-plural-form>.rabbitmq.com` -/
def deletionFinalizer (kind : String) : String :=
  let plural :=
    if kind = "Policy" then "policies"
    else if kind = "OperatorPolicy" then "operatorpolicies"
    else String.ofList (kind.toList.map Char.toLower) ++ "s"
  "deletion.finalizers." ++ plural ++ "." ++ "rabbitmq.com"

/-- Assign a key of a Go `map[string]string`. -/
def assign (key value : String) : List (String × String) → List (String × String)
  | [] => [(key, value)]
  | (other, held) :: rest =>
      if other = key then (key, value) :: rest else (other, held) :: assign key value rest

/-- `metav1.GetControllerOf`: the first owner reference that is a controller. -/
def getControllerOf (references : List OwnerReference) : Option OwnerReference :=
  references.find? fun reference => reference.controller = some true

/-- The group of an `apiVersion`; malformed versions have none. -/
def apiGroup (apiVersion : String) : Option String :=
  match apiVersion.toList.splitOn '/' with
  | [_] => some ""
  | [group, _] => some (String.ofList group)
  | _ => none

/-- The owner reference of an object of the given kind, as a controller. -/
def controllerReference (apiVersion kind : String) (owner : ObjectMeta) : OwnerReference :=
  ⟨apiVersion, kind, owner.name, owner.uid, some true, some true⟩

/-- Owner references are compared by group, kind and name, not by UID. -/
def referSameObject (first second : OwnerReference) : Bool :=
  match apiGroup first.apiVersion, apiGroup second.apiVersion with
  | some group, some other =>
      group == other && first.kind == second.kind && first.name == second.name
  | _, _ => false

/-- Replace the reference to the same owner, or append the reference. -/
def upsertOwnerReference (reference : OwnerReference) : List OwnerReference → List OwnerReference
  | [] => [reference]
  | held :: rest =>
      if referSameObject held reference then reference :: rest
      else held :: upsertOwnerReference reference rest

/-- `controllerutil.SetControllerReference`: fails across namespaces and when
another controller owns the object. -/
def setControllerReference (apiVersion kind : String) (owner controlled : ObjectMeta) :
    Except String ObjectMeta :=
  if owner.ns ≠ "" ∧ owner.ns ≠ controlled.ns then
    .error "cross-namespace owner references are disallowed"
  else
    match getControllerOf controlled.ownerReferences with
    | some existing =>
        if referSameObject existing (controllerReference apiVersion kind owner) then
          .ok { controlled with
            ownerReferences := upsertOwnerReference (controllerReference apiVersion kind owner)
              controlled.ownerReferences }
        else
          .error ("Object " ++ controlled.ns ++ "/" ++ controlled.name ++
            " is already owned by another " ++ existing.kind ++ " controller " ++ existing.name)
    | none =>
        .ok { controlled with
          ownerReferences := upsertOwnerReference (controllerReference apiVersion kind owner)
            controlled.ownerReferences }

/-- Setting a controller reference changes owner references only. -/
theorem setControllerReference_eq {apiVersion kind : String} {owner controlled result : ObjectMeta}
    (set : setControllerReference apiVersion kind owner controlled = .ok result) :
    ∃ references, result = { controlled with ownerReferences := references } := by
  unfold setControllerReference at set
  split at set
  · cases set
  · split at set
    · split at set
      · cases set
        exact ⟨_, rfl⟩
      · cases set
    · cases set
      exact ⟨_, rfl⟩

/-- A reference that takes the place of the controller is the controller. -/
theorem getControllerOf_upsert {reference : OwnerReference} {references : List OwnerReference}
    (controls : reference.controller = some true)
    (same : ∀ existing, getControllerOf references = some existing →
      referSameObject existing reference = true) :
    getControllerOf (upsertOwnerReference reference references) = some reference := by
  induction references with
  | nil => simp [upsertOwnerReference, getControllerOf, controls]
  | cons held rest ih =>
      unfold upsertOwnerReference
      by_cases replaced : referSameObject held reference = true
      · rw [if_pos replaced]
        simp [getControllerOf, controls]
      · have other : held.controller ≠ some true := by
          intro isController
          exact replaced (same held (by simp [getControllerOf, isController]))
        rw [if_neg replaced]
        simp only [getControllerOf, List.find?_cons, decide_eq_false other] at same ih ⊢
        exact ih same

/-- The owner controls the object afterwards. -/
theorem setControllerReference_controller {apiVersion kind : String}
    {owner controlled result : ObjectMeta}
    (set : setControllerReference apiVersion kind owner controlled = .ok result) :
    getControllerOf result.ownerReferences = some (controllerReference apiVersion kind owner) := by
  unfold setControllerReference at set
  split at set
  · cases set
  · split at set
    · next existing found =>
        split at set
        · next same =>
            cases set
            refine getControllerOf_upsert rfl fun other found' => ?_
            rwa [← Option.some.inj (found.symm.trans found')]
        · cases set
    · next uncontrolled =>
        cases set
        refine getControllerOf_upsert rfl fun other found => ?_
        rw [uncontrolled] at found
        cases found

end TopologyOperator
