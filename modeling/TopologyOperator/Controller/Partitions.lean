import TopologyOperator.Controller.SuperStreamObligations
import TopologyOperator.Webhook.Validation

/-!
# Partitions of a super stream

The routing key of an index is fixed once the index is in use, because an accepted
update of the spec extends the assignment of keys to indices. The children of a
super stream are derived from the key of their index, and a builder loop that ends
collects the names of the partitions in the order of the indices.
-/

namespace TopologyOperator.SuperStreamServer

open Dialogue SuperStreamReconciler SuperStreamCustomValidator

section Keys

/-- The routing key of a partition, by its index. -/
def keyAt (spec : SuperStreamSpec) (index : Nat) : Option String :=
  if spec.routingKeys = [] then
    if (index : Int) < spec.partitions then some (toString index) else none
  else spec.routingKeys[index]?

/-- Indices keep their routing keys, and there are no fewer partitions. -/
structure Extends (old new : SuperStreamSpec) : Prop where
  keys : ∀ index routingKey, keyAt old index = some routingKey → keyAt new index = some routingKey
  partitions : old.partitions ≤ new.partitions

theorem Extends.refl (spec : SuperStreamSpec) : Extends spec spec :=
  ⟨fun _ _ found => found, le_refl _⟩

theorem Extends.trans {first second third : SuperStreamSpec} (earlier : Extends first second)
    (later : Extends second third) : Extends first third :=
  ⟨fun index routingKey found => later.keys index routingKey (earlier.keys index routingKey found),
    earlier.partitions.trans later.partitions⟩

/-- The webhook lets routing keys be appended, and nothing else. -/
theorem routingKeysKept_eq_some_true {old new : List String} :
    routingKeysKept old new = some true ↔ old <+: new := by
  induction old generalizing new with
  | nil => simp [routingKeysKept]
  | cons held old ih =>
      cases new with
      | nil => simp [routingKeysKept]
      | cons updated new =>
          by_cases same : held = updated
          · simp [routingKeysKept, same, ih]
          · simp [routingKeysKept, same, List.cons_prefix_cons]

/-- Keys are only appended, and not at all if they were generated so far. -/
theorem routingKeyUpdatePermitted_eq_some_true {old new : List String} :
    routingKeyUpdatePermitted old new = some true ↔ old <+: new ∧ (old = [] → new = []) := by
  unfold routingKeyUpdatePermitted
  cases old with
  | nil => cases new <;> simp [routingKeysKept]
  | cons held old => simp [routingKeysKept_eq_some_true]

/-- The webhook returns, and without an error. -/
def Accepts (old new : SuperStream) : Prop :=
  SuperStreamCustomValidator.validateUpdate old new = some (.ok ())

/-- What the webhook accepts keeps the routing keys and scales up. -/
theorem validateUpdate_eq_ok {old new : SuperStream} (accepts : Accepts old new) :
    old.spec.routingKeys <+: new.spec.routingKeys ∧
      (old.spec.routingKeys = [] → new.spec.routingKeys = []) ∧
      old.spec.partitions ≤ new.spec.partitions := by
  unfold Accepts SuperStreamCustomValidator.validateUpdate at accepts
  split at accepts
  · cases accepts
  · obtain ⟨allowed, permits, checks⟩ := Option.map_eq_some_iff.mp accepts
    cases allowed with
    | false => cases checks
    | true =>
        obtain ⟨appended, generated⟩ := routingKeyUpdatePermitted_eq_some_true.mp permits
        have grows : decide (old.spec.partitions ≤ new.spec.partitions) = true :=
          require_eq_ok.mp checks
        exact ⟨appended, generated, of_decide_eq_true grows⟩

/-- An accepted update keeps the key of every index in use. -/
theorem Accepts.extends {old new : SuperStream} (accepts : Accepts old new) :
    Extends old.spec new.spec := by
  obtain ⟨appended, generated, grows⟩ := validateUpdate_eq_ok accepts
  refine ⟨fun index routingKey found => ?_, grows⟩
  by_cases empty : old.spec.routingKeys = []
  · rw [keyAt, if_pos empty] at found
    split at found
    · next within =>
        rw [keyAt, if_pos (generated empty), if_pos (within.trans_le grows)]
        exact found
    · cases found
  · have nonempty : new.spec.routingKeys ≠ [] := fun none =>
      empty (List.prefix_nil.mp (none ▸ appended))
    rw [keyAt, if_neg empty] at found
    rw [keyAt, if_neg nonempty]
    obtain ⟨more, joined⟩ := appended
    rw [← joined, List.getElem?_append_left (List.getElem?_eq_some_iff.mp found).1]
    exact found

/-- The keys of a reconcile are those of the spec, one for each partition, and
there are at least as many as recorded partitions. -/
theorem keysFor_spec {read : SuperStream} {routingKeys : List String}
    (keyed : keysFor read = some routingKeys) :
    (∀ index, routingKeys[index]? = keyAt read.spec index) ∧
      (∀ index, index < routingKeys.length ↔ (index : Int) < read.spec.partitions) ∧
      read.status.partitions.length ≤ routingKeys.length := by
  obtain ⟨grows, ⟨generated, rfl⟩ | ⟨given, length, rfl⟩⟩ := keysFor_cases keyed
  · have length : (generateRoutingKeys read).length = read.spec.partitions.toNat := by
      simp [generateRoutingKeys]
    refine ⟨fun index => ?_, fun index => by omega, by omega⟩
    by_cases within : (index : Int) < read.spec.partitions
    · have inRange : index < read.spec.partitions.toNat := by omega
      simp [keyAt, generated, within, generateRoutingKeys, inRange]
    · simp [keyAt, generated, within, generateRoutingKeys]
  · exact ⟨fun index => by rw [keyAt, if_neg given], fun index => by omega, by omega⟩

end Keys

section Children

/-- The key of the `Queue` of a partition. -/
def partitionKey (key : NamespacedName) (index : Nat) : NamespacedName :=
  ⟨key.ns, key.name ++ ("-partition-" ++ toString index)⟩

/-- The key of the `Binding` of a partition. -/
def bindingKey (key : NamespacedName) (index : Nat) : NamespacedName :=
  ⟨key.ns, key.name ++ ("-binding-" ++ toString index)⟩

/-- Different indices have different numerals. -/
theorem toString_injective : Function.Injective (toString : Nat → String) := by
  intro first second same
  have digits : Nat.toDigits 10 first = Nat.toDigits 10 second := by
    simpa [Nat.toString_eq_repr, Nat.toList_repr] using congrArg String.toList same
  have value := congrArg (Nat.ofDigitChars 10 · 0) digits
  simpa using value

/-- Different partitions have different queues. -/
theorem partitionKey_injective (key : NamespacedName) :
    Function.Injective (partitionKey key) := by
  intro first second same
  have names := congrArg NamespacedName.name same
  simp only [partitionKey, String.append_right_inj] at names
  exact toString_injective names

/-- Different partitions have different bindings. -/
theorem bindingKey_injective (key : NamespacedName) : Function.Injective (bindingKey key) := by
  intro first second same
  have names := congrArg NamespacedName.name same
  simp only [bindingKey, String.append_right_inj] at names
  exact toString_injective names

/-- What the children of a super stream are: the queue and the binding of an index
are derived from the routing key of the index. -/
def Rightful (key : NamespacedName) (spec : SuperStreamSpec) : {kind : Kind} → Object kind → Prop
  | .queue, queue => ∀ index, queue.objectMeta.key = partitionKey key index →
      (index : Int) < spec.partitions ∧ ∃ routingKey, keyAt spec index = some routingKey ∧
        queue.spec.name = routingKeyToPartitionName key.name routingKey
  | .binding, binding => ∀ index, binding.objectMeta.key = bindingKey key index →
      ∃ routingKey, keyAt spec index = some routingKey ∧ binding.spec.routingKey = routingKey ∧
        binding.spec.destination = routingKeyToPartitionName key.name routingKey ∧
        binding.spec.arguments = some (partitionOrderArguments index)
  | _, _ => True

variable {key : NamespacedName} {kind : Kind} {old new : SuperStreamSpec}

/-- What was rightful stays so when the spec is extended. -/
theorem Rightful.extends {child : Object kind} (rightful : Rightful key old child)
    (extended : Extends old new) : Rightful key new child := by
  cases kind with
  | queue =>
      intro index named
      obtain ⟨within, routingKey, found, name⟩ := rightful index named
      exact ⟨within.trans_le extended.partitions, routingKey,
        extended.keys index routingKey found, name⟩
  | binding =>
      intro index named
      obtain ⟨routingKey, found, derived⟩ := rightful index named
      exact ⟨routingKey, extended.keys index routingKey found, derived⟩
  | _ => trivial

/-- Being rightful is a matter of the name and the spec. -/
theorem Rightful.congr {child other : Object kind} (rightful : Rightful key old child)
    (named : other.objectMeta.key = child.objectMeta.key) (spec : other.spec = child.spec) :
    Rightful key old other := by
  cases kind with
  | queue =>
      intro index found
      rw [spec]
      exact rightful index (named ▸ found)
  | binding =>
      intro index found
      rw [spec]
      exact rightful index (named ▸ found)
  | _ => trivial

/-- The index and the routing key of a builder belong together. -/
def Fits (spec : SuperStreamSpec) : ResourceBuilder → Prop
  | .superStreamExchange => True
  | .superStreamPartition index routingKey | .superStreamBinding index routingKey =>
      (index : Int) < spec.partitions ∧ keyAt spec index = some routingKey

theorem Fits.extends {resource : ResourceBuilder} (fits : Fits old resource)
    (extended : Extends old new) : Fits new resource := by
  cases resource with
  | superStreamExchange => trivial
  | superStreamPartition | superStreamBinding =>
      exact ⟨fits.1.trans_le extended.partitions, extended.keys _ _ fits.2⟩

/-- The builders of a reconcile fit the spec it read. -/
theorem builders_fit {read : SuperStream} {routingKeys : List String}
    (keyed : keysFor read = some routingKeys) {resource : ResourceBuilder}
    (member : resource ∈ builders routingKeys) : Fits read.spec resource := by
  obtain ⟨keys, within, -⟩ := keysFor_spec keyed
  rcases List.mem_cons.mp member with rfl | later
  · trivial
  · obtain ⟨⟨routingKey, index⟩, entry, built⟩ := List.mem_flatMap.mp later
    have found : routingKeys[index]? = some routingKey := List.mem_zipIdx_iff_getElem?.mp entry
    have fits : (index : Int) < read.spec.partitions ∧ keyAt read.spec index = some routingKey :=
      ⟨(within index).mp (List.getElem?_eq_some_iff.mp found).1, keys index ▸ found⟩
    rcases List.mem_cons.mp built with rfl | last
    · exact fits
    · cases List.mem_singleton.mp last
      exact fits

/-- `Update` keeps the name and derives the spec. -/
theorem update_eq_ok {builder : Builder} {resource : ResourceBuilder}
    {object mutated : Object resource.kind}
    (updated : builder.update resource object = .ok mutated) :
    mutated.objectMeta.key = object.objectMeta.key ∧
      mutated.spec = builder.updateSpec resource object.spec := by
  unfold Builder.update at updated
  split at updated
  · cases updated
  · next objectMeta set =>
      obtain ⟨references, changed⟩ := setControllerReference_eq set
      cases updated
      exact ⟨by rw [changed]; rfl, rfl⟩

/-- What `Update` leaves is rightful. -/
theorem rightful_of_update {builder : Builder} {resource : ResourceBuilder}
    {object mutated : Object resource.kind} (fits : Fits old resource)
    (named : object.objectMeta.key = (builder.build resource).objectMeta.key)
    (updated : builder.update resource object = .ok mutated) :
    Rightful builder.objectOwner.key old mutated := by
  obtain ⟨sameName, spec⟩ := update_eq_ok updated
  rw [named] at sameName
  cases resource with
  | superStreamExchange => trivial
  | superStreamPartition position routingKey =>
      intro index found
      cases partitionKey_injective builder.objectOwner.key (sameName.symm.trans found)
      rw [spec]
      exact ⟨fits.1, routingKey, fits.2, rfl⟩
  | superStreamBinding position routingKey =>
      intro index found
      cases bindingKey_injective builder.objectOwner.key (sameName.symm.trans found)
      rw [spec]
      exact ⟨routingKey, fits.2, rfl, rfl, rfl⟩

/-- What `CreateOrUpdate` returns after a write of the child. -/
def wrote (child : Object kind) : Except ApiError Version → Object kind × Except GoError Unit
  | .error err => (child, .error (.api err))
  | .ok version => (child.withVersion version, .ok ())

/-- The complete runs of `CreateOrUpdate` for a child: it is read, mutated, and written if
there was none or if the mutation has changed it. -/
inductive ChildRun (mutate : Object kind → Except GoError (Object kind)) (object : Object kind) :
    Trace SuperStream → Object kind × Except GoError Unit → Prop where
  | unread (err : ApiError) (failed : (GoError.api err).isNotFound = false) :
      ChildRun mutate object [⟨.getObject kind object.objectMeta.key, .error err⟩]
        (object, .error (.api err))
  | unmade (missing : ApiError) (err : GoError) (refused : mutate object = .error err) :
      ChildRun mutate object [⟨.getObject kind object.objectMeta.key, .error missing⟩]
        (object, .error err)
  | created (missing : ApiError) (made : Object kind) (mutated : mutate object = .ok made)
      (answer : Except ApiError Version) :
      ChildRun mutate object
        [⟨.getObject kind object.objectMeta.key, .error missing⟩, ⟨.createObject made, answer⟩]
        (wrote made answer)
  | unmutated (existing : Object kind) (err : GoError) (refused : mutate existing = .error err) :
      ChildRun mutate object [⟨.getObject kind object.objectMeta.key, .ok existing⟩]
        (existing, .error err)
  | unchanged (existing : Object kind) (mutated : mutate existing = .ok existing) :
      ChildRun mutate object [⟨.getObject kind object.objectMeta.key, .ok existing⟩]
        (existing, .ok ())
  | updated (existing made : Object kind) (mutated : mutate existing = .ok made)
      (answer : Except ApiError Version) :
      ChildRun mutate object
        [⟨.getObject kind object.objectMeta.key, .ok existing⟩, ⟨.updateObject made, answer⟩]
        (wrote made answer)

/-- Every run of `CreateOrUpdate` is one of these. -/
theorem childRun_of_exec {mutate : Object kind → Except GoError (Object kind)}
    {object : Object kind} {trace : Trace SuperStream}
    {result : Object kind × Except GoError Unit}
    (exec : (createOrUpdate (objectClient kind) mutate object).Exec trace (.done result)) :
    ChildRun mutate object trace result := by
  obtain ⟨reply, rest, rfl, remaining⟩ := exec
  cases reply with
  | error missing =>
      simp only [Program.done_bind] at remaining
      by_cases notFound : (GoError.api missing).isNotFound = true
      · rw [if_pos notFound] at remaining
        cases mutated : mutate object with
        | error err =>
            simp only [mutated] at remaining
            obtain ⟨rfl, ends⟩ := remaining
            cases ends
            exact .unmade missing err mutated
        | ok made =>
            simp only [mutated] at remaining
            obtain ⟨answer, last, rfl, ends⟩ := remaining
            cases answer with
            | error err =>
                obtain ⟨rfl, ends⟩ := ends
                cases ends
                exact .created missing made mutated (.error err)
            | ok version =>
                obtain ⟨rfl, ends⟩ := ends
                cases ends
                exact .created missing made mutated (.ok version)
      · rw [if_neg notFound] at remaining
        obtain ⟨rfl, ends⟩ := remaining
        cases ends
        exact .unread missing (Bool.eq_false_iff.mpr notFound)
  | ok existing =>
      simp only [Program.done_bind] at remaining
      cases mutated : mutate existing with
      | error err =>
          simp only [mutated] at remaining
          obtain ⟨rfl, ends⟩ := remaining
          cases ends
          exact .unmutated existing err mutated
      | ok made =>
          simp only [mutated] at remaining
          by_cases same : existing = made
          · rw [if_pos same] at remaining
            obtain ⟨rfl, ends⟩ := remaining
            cases ends
            exact .unchanged existing (same ▸ mutated)
          · rw [if_neg same] at remaining
            obtain ⟨answer, last, rfl, ends⟩ := remaining
            cases answer with
            | error err =>
                obtain ⟨rfl, ends⟩ := ends
                cases ends
                exact .updated existing made mutated (.error err)
            | ok version =>
                obtain ⟨rfl, ends⟩ := ends
                cases ends
                exact .updated existing made mutated (.ok version)

/-- What a successful run returns was mutated. -/
theorem ChildRun.mutated {builder : Builder} {resource : ResourceBuilder}
    {object : Object resource.kind} {trace : Trace SuperStream}
    {result : Object resource.kind × Except GoError Unit}
    (run : ChildRun (builder.update resource) object trace result) (succeeded : result.2 = .ok ()) :
    ∃ origin : Object resource.kind, result.1.spec = builder.updateSpec resource origin.spec := by
  cases run with
  | unread | unmade | unmutated => cases succeeded
  | unchanged existing mutated => exact ⟨existing, (update_eq_ok mutated).2⟩
  | created _ made mutated answer | updated _ made mutated answer =>
      cases answer with
      | error => cases succeeded
      | ok version => exact ⟨_, (update_eq_ok mutated).2⟩

/-- The names that a list of builders contributes to the partitions. -/
def namesOf (builder : Builder) (resources : List ResourceBuilder) : List String :=
  resources.flatMap fun
    | .superStreamPartition _ routingKey =>
        [routingKeyToPartitionName builder.objectOwner.name routingKey]
    | _ => []

/-- A child that was created contributes the name that its builder gives it. -/
theorem createChild_exec {builder : Builder} {resource : ResourceBuilder}
    {child : Object resource.kind} {trace : Trace SuperStream}
    (exec : (createChild builder resource).Exec trace (.done (child, .ok ()))) :
    partitionNames resource child = namesOf builder [resource] := by
  obtain ⟨last, attempted, attempt⟩ := retryOnConflict_exec exec
  obtain ⟨origin, mutated⟩ := (childRun_of_exec attempt).mutated rfl
  have spec : child.spec = builder.updateSpec resource origin.spec := mutated
  cases resource with
  | superStreamPartition index routingKey =>
      simp [partitionNames, namesOf, spec, Builder.updateSpec]
  | superStreamExchange | superStreamBinding => rfl

/-- A loop that ends collects the names of all its builders. -/
theorem createChildren_exec {builder : Builder} {resources : List ResourceBuilder}
    {collected names : List String} {trace : Trace SuperStream}
    (exec : (createChildren builder resources collected).Exec trace (.done (.ok names))) :
    names = collected ++ namesOf builder resources := by
  induction resources generalizing collected trace with
  | nil =>
      cases exec.2
      simp [namesOf]
  | cons resource rest ih =>
      obtain ⟨⟨child, outcome⟩, first, second, rfl, created, remaining⟩ :=
        Program.exec_bind_done.mp exec
      cases outcome with
      | error err => cases remaining.2
      | ok =>
          rw [ih remaining, createChild_exec created, List.append_assoc]
          simp [namesOf]

/-- The builders of a reconcile contribute the partitions in the order of the routing keys. -/
theorem namesOf_builders (builder : Builder) (routingKeys : List String) :
    namesOf builder (builders routingKeys) =
      routingKeys.map (routingKeyToPartitionName builder.objectOwner.name) := by
  have each : ∀ position, namesOf builder
      ((routingKeys.zipIdx position).flatMap fun entry =>
        [.superStreamPartition entry.2 entry.1, .superStreamBinding entry.2 entry.1]) =
      routingKeys.map (routingKeyToPartitionName builder.objectOwner.name) := by
    induction routingKeys with
    | nil => simp [namesOf]
    | cons routingKey rest ih =>
        intro position
        have later := ih (position + 1)
        simp only [namesOf, List.zipIdx_cons, List.flatMap_cons, List.flatMap_append] at later ⊢
        rw [later]
        rfl
  exact each 0

/-- The names that a reconcile collects, in the order of the indices. -/
theorem builderLoop_exec {read : SuperStream} {rmqClusterRef : RabbitmqClusterReference}
    {routingKeys names : List String} {trace : Trace SuperStream}
    (exec : (builderLoop read rmqClusterRef routingKeys).Exec trace (.done (.ok names))) :
    names = routingKeys.map (routingKeyToPartitionName read.objectMeta.name) :=
  (createChildren_exec exec).trans (namesOf_builders _ routingKeys)

end Children

end TopologyOperator.SuperStreamServer
