import TopologyOperator.Controller.Children

/-!
# The names of the children of super streams

A child is named after its super stream, with a suffix that ends in the index of the
partition. The name of the super stream may itself end like the name of a child, but the
index is what follows the last hyphen, so a name is generated for one super stream and
one index only. A reconcile reads and writes children of its own super stream.
-/

namespace TopologyOperator.SuperStreamServer

open Dialogue Program SuperStreamReconciler Encoding

variable {builder owner : Builder} {resource other : ResourceBuilder} {trace : Trace SuperStream}
  {object : Object resource.kind} {key : NamespacedName}

section Names

/-- What follows the last hyphen is the index. -/
theorem append_numeral_inj {infixed first second : String} {i j : Nat} (before : List Char)
    (hyphen : infixed.toList = before ++ ['-']) :
    first ++ (infixed ++ toString i) = second ++ (infixed ++ toString j) ↔
      first = second ∧ i = j := by
  have printed : ∀ (text : String) (number : Nat),
      (text ++ (infixed ++ toString number)).toList =
        (text.toList ++ before) ++ '-' :: Nat.toDigits 10 number := by
    intro text number
    simp only [String.toList_append, hyphen, Nat.toString_eq_repr, Nat.toList_repr,
      List.append_assoc, List.cons_append, List.nil_append]
  rw [← String.toList_inj, printed, printed, Json.append_toDigits_inj (by decide),
    List.append_left_inj, String.toList_inj]

/-- A partition is named after one super stream and one index. -/
theorem generateChildResourceName_partition {i j : Nat} {routingKey held : String} :
    builder.generateChildResourceName (Builder.suffix (.superStreamPartition i routingKey)) =
        owner.generateChildResourceName (Builder.suffix (.superStreamPartition j held)) ↔
      builder.objectOwner.name = owner.objectOwner.name ∧ i = j :=
  append_numeral_inj "-partition".toList (by decide)

/-- So is a binding. -/
theorem generateChildResourceName_binding {i j : Nat} {routingKey held : String} :
    builder.generateChildResourceName (Builder.suffix (.superStreamBinding i routingKey)) =
        owner.generateChildResourceName (Builder.suffix (.superStreamBinding j held)) ↔
      builder.objectOwner.name = owner.objectOwner.name ∧ i = j :=
  append_numeral_inj "-binding".toList (by decide)

/-- An exchange is named after one super stream. -/
theorem generateChildResourceName_exchange :
    builder.generateChildResourceName (Builder.suffix .superStreamExchange) =
        owner.generateChildResourceName (Builder.suffix .superStreamExchange) ↔
      builder.objectOwner.name = owner.objectOwner.name :=
  String.append_left_inj _

/-- Children of one kind and name have one super stream. -/
theorem owner_of_slot (same : slot (builder.build resource) = slot (owner.build other)) :
    builder.objectOwner.key = owner.objectOwner.key := by
  obtain ⟨kinds, keys⟩ := Prod.mk.inj same
  have namespaces : builder.objectOwner.ns = owner.objectOwner.ns := by
    cases resource <;> cases other <;> exact congrArg NamespacedName.ns keys
  have names : builder.generateChildResourceName (Builder.suffix resource) =
      owner.generateChildResourceName (Builder.suffix other) := by
    cases resource <;> cases other <;> exact congrArg NamespacedName.name keys
  have owners : builder.objectOwner.name = owner.objectOwner.name := by
    cases resource <;> cases other
    case superStreamExchange.superStreamExchange =>
      exact generateChildResourceName_exchange.mp names
    case superStreamPartition.superStreamPartition =>
      exact (generateChildResourceName_partition.mp names).1
    case superStreamBinding.superStreamBinding =>
      exact (generateChildResourceName_binding.mp names).1
    all_goals cases kinds
  rw [ObjectMeta.key, ObjectMeta.key, namespaces, owners]

end Names

section Targets

/-- The slot that a request of `CreateOrUpdate` reads or writes. -/
def targetOf : Request SuperStream → Option (Kind × NamespacedName)
  | .getObject kind key => some (kind, key)
  | request => slotOf request

/-- What is found has the name it was asked for by. -/
def FoundByName (key : NamespacedName) (trace : Trace SuperStream) : Prop :=
  Called trace ∧
    ∀ read : SuperStream, (⟨.get key, .ok read⟩ : Event _) ∈ trace → read.objectMeta.key = key

/-- Each request of the trace is about a child of the builder. -/
def Targets (builder : Builder) (trace : Trace SuperStream) : Prop :=
  Called trace → ∀ event ∈ trace,
    ∃ resource, targetOf event.request = some (slot (builder.build resource))

theorem Targets.append {before after : Trace SuperStream} (first : Targets builder before)
    (second : Targets builder after) : Targets builder (before ++ after) := by
  intro called event member
  obtain ⟨calledBefore, calledAfter⟩ := called_append.mp called
  rcases List.mem_append.mp member with earlier | later
  · exact first calledBefore event earlier
  · exact second calledAfter event later

theorem targets_nil : Targets builder [] := fun _ _ none => by cases none

/-- A run reads the child, and may write it afterwards. -/
theorem ChildRun.targets {result : Object resource.kind × Except GoError Unit}
    (run : ChildRun (builder.update resource) object trace result) (called : Called trace)
    (named : object.objectMeta.key = (builder.build resource).objectMeta.key) :
    ∀ event ∈ trace, targetOf event.request = some (slot (builder.build resource)) := by
  have reads : targetOf (.getObject resource.kind object.objectMeta.key) =
      some (slot (builder.build resource)) := by
    rw [targetOf, named, slot]
  have writes : ∀ {made : Object resource.kind},
      made.objectMeta.key = object.objectMeta.key →
      some (slot made) = some (slot (builder.build resource)) := by
    intro made same
    rw [slot, same, named, slot]
  cases run with
  | unread | unmade | unmutated | unchanged => simpa using reads
  | created missing made mutated answer =>
      have wrote := writes (update_eq_ok mutated).1
      simpa using ⟨reads, wrote⟩
  | updated existing made mutated answer =>
      have here : existing.objectMeta.key = object.objectMeta.key := called _ List.mem_cons_self
      have wrote := writes ((update_eq_ok mutated).1.trans here)
      simpa using ⟨reads, wrote⟩

/-- One attempt reads and writes its own child. -/
theorem targets_createOrUpdate
    (named : object.objectMeta.key = (builder.build resource).objectMeta.key) :
    ∀ trace outcome, (createOrUpdate (objectClient resource.kind) (builder.update resource)
      object).Exec trace outcome → Targets builder trace := by
  intro trace outcome exec called event member
  obtain ⟨result, rfl⟩ := returns_iff.mp (createOrUpdate_returns object) _ _ exec
  exact ⟨resource, (childRun_of_exec exec).targets called named event member⟩

/-- So do the attempts after a conflict. -/
theorem targets_retryOnConflict {retries : Nat}
    (named : object.objectMeta.key = (builder.build resource).objectMeta.key) :
    ∀ trace outcome, (retryOnConflict (createOrUpdate (objectClient resource.kind)
      (builder.update resource)) retries object).Exec trace outcome → Targets builder trace := by
  induction retries generalizing object with
  | zero => exact targets_createOrUpdate named
  | succ retries ih =>
      intro trace outcome exec called
      rcases retryOnConflict_succ exec with last | ⟨kept, err, first, rest, rfl, attempt, -, retry⟩
      · exact targets_createOrUpdate named _ _ last called
      · have attempted := createOrUpdate_attempts named (called_append.mp called).1 attempt
        have targets := targets_createOrUpdate named _ _ attempt
        exact targets.append (ih attempted.named _ _ retry) called

/-- The builder loop reads and writes children of its builder. -/
theorem targets_createChildren {resources : List ResourceBuilder} {collected : List String} :
    ∀ trace outcome, (createChildren builder resources collected).Exec trace outcome →
      Targets builder trace := by
  induction resources generalizing collected with
  | nil =>
      rintro trace outcome ⟨rfl, -⟩
      exact targets_nil
  | cons resource rest ih =>
      apply exec_bind_along Targets.append (targets_retryOnConflict rfl)
      intro result before created
      split
      · rintro trace outcome ⟨rfl, -⟩
        exact targets_nil
      · exact ih

/-- The rest of a reconcile is not about children. -/
theorem targetOf_aside {request : Request SuperStream} (aside : Aside request) :
    targetOf request = none := by
  cases request with
  | getObject | createObject | updateObject => exact absurd trivial aside
  | _ => rfl

/-- A reconcile reads and writes no child but those of its super stream. -/
theorem target_of_reconcile {outcome : Outcome (Result × Option GoError)}
    (exec : (reconcile key).Exec trace outcome) (found : FoundByName key trace)
    {event : Event (@Request.Answer SuperStream)} (member : event ∈ trace)
    {place : Kind × NamespacedName} (targets : targetOf event.request = some place) :
    ∃ (builder : Builder) (resource : ResourceBuilder), builder.objectOwner.key = key ∧
      place = slot (builder.build resource) := by
  have near : ¬ Aside event.request := by
    intro aside
    rw [targetOf_aside aside] at targets
    cases targets
  rcases skips_or_loops exec with skips | ⟨read, before, loop, rest, rmqClusterRef, routingKeys,
    ended, looped⟩
  · exact absurd (skips.aside event member) near
  have inLoop := looped.mem_loop member near
  have owned : read.objectMeta.key = key := by
    obtain ⟨resolved, opened, -⟩ := looped.opened
    apply found.2
    rw [looped.split, opened]
    exact List.mem_cons_self
  have called : Called loop := by
    have all := found.1
    rw [looped.split, called_append, called_append] at all
    exact all.2.1
  obtain ⟨resource, target⟩ := targets_createChildren _ _ looped.exec called event inLoop
  exact ⟨_, resource, owned, Option.some.inj (targets.symm.trans target)⟩

end Targets

/-- The names of children determine the super stream and the index, and a reconcile of one
super stream has no request about a child of another one in its namespace. -/
theorem child_names_never_clash :
    (∀ (first second : Builder) (i j : Nat) (routingKey held : String),
      first.generateChildResourceName (Builder.suffix (.superStreamPartition i routingKey)) =
          second.generateChildResourceName (Builder.suffix (.superStreamPartition j held)) ↔
        first.objectOwner.name = second.objectOwner.name ∧ i = j) ∧
    (∀ (first second : Builder) (i j : Nat) (routingKey held : String),
      first.generateChildResourceName (Builder.suffix (.superStreamBinding i routingKey)) =
          second.generateChildResourceName (Builder.suffix (.superStreamBinding j held)) ↔
        first.objectOwner.name = second.objectOwner.name ∧ i = j) ∧
    (∀ first second : Builder,
      first.generateChildResourceName (Builder.suffix .superStreamExchange) =
          second.generateChildResourceName (Builder.suffix .superStreamExchange) ↔
        first.objectOwner.name = second.objectOwner.name) ∧
    ∀ (ns p q : String) (trace : Trace SuperStream) (outcome : Outcome (Result × Option GoError))
      (owner : Builder) (resource : ResourceBuilder),
      (reconcile ⟨ns, p⟩).Exec trace outcome → FoundByName ⟨ns, p⟩ trace →
      owner.objectOwner.key = ⟨ns, q⟩ →
      (∃ event ∈ trace, targetOf event.request = some (slot (owner.build resource))) → p = q := by
  refine ⟨fun _ _ _ _ _ _ => generateChildResourceName_partition,
    fun _ _ _ _ _ _ => generateChildResourceName_binding,
    fun _ _ => generateChildResourceName_exchange, ?_⟩
  rintro ns p q trace outcome owner resource exec found owned ⟨event, member, targets⟩
  obtain ⟨builder, child, here, same⟩ := target_of_reconcile exec found member targets
  have keys := owner_of_slot same
  rw [owned, here] at keys
  exact (congrArg NamespacedName.name keys).symm

end TopologyOperator.SuperStreamServer
