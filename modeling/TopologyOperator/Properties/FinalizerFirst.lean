import TopologyOperator.ApiServer.Opening
import TopologyOperator.ApiServer.Reconcile

/-!
# The finalizer is in place before anything is declared

Whatever users do, whichever calls fail and wherever the operator crashes: when
the broker is asked to declare something for an object, the stored object carries
the operator's finalizer, so it stays until the operator removes the finalizer.
-/

namespace TopologyOperator.ApiServer

open Dialogue Program Environment
open TopologyReconciler (plainReconciler)

variable {kind : Kind} {key : NamespacedName} {world next after : World kind} {uid : UID}

section Reconcile

variable {object : Object kind} {request : Request (Object kind)}

/-- A declaration is issued only for an object that was not marked for deletion
when it was read, and whose stored state carries the finalizer. -/
def DeclaresHeld (key : NamespacedName) (world : World kind) (trace : Trace (Object kind)) :
    Request (Object kind) → Prop
  | .broker issued => issued.declares = true → ∃ object rest,
      trace = ⟨.get key, .ok object⟩ :: rest ∧ object.objectMeta.deletionTimestamp = none ∧
        Held object.objectMeta.uid world
  | _ => True

theorem declaresHeld_of_releasing {trace : Trace (Object kind)}
    (only : Releasing object request) : DeclaresHeld key world trace request := by
  cases request with
  | broker issued =>
      intro declares
      rw [show issued.declares = false from only] at declares
      cases declares
  | _ => trivial

/-- Under the finalizer, the rest of a reconcile keeps it. -/
theorem reconcileDeclare_safe (r : TopologyReconciler) {read : Object kind}
    {trace : Trace (Object kind)} (begins : ∃ rest, trace = ⟨.get key, .ok read⟩ :: rest)
    (unmarked : read.objectMeta.deletionTimestamp = none)
    (finalizer : kind.finalizer ∈ object.objectMeta.finalizers) (valid : Valid world)
    (held : Held read.objectMeta.uid world) :
    (environment key).Safe Valid (DeclaresHeld key) (fun _ _ _ => True)
      (r.reconcileDeclare object) world trace := by
  obtain ⟨rest, rfl⟩ := begins
  have keeps : ∀ (request : Request (Object kind)),
      KeepsFinalizers object.objectMeta.finalizers request →
      ∀ written, request = .update written → kind.finalizer ∈ written.objectMeta.finalizers := by
    rintro request only written rfl
    rwa [show written.objectMeta.finalizers = object.objectMeta.finalizers from only]
  refine (safe_of_calls valid_stable (fun _ _ _ held move => Held.foreign held move)
    (reconcileDeclare_keepsFinalizers r object)
    (fun now suffix request _ only validNow heldNow => ?_)
    (fun now request reply later only validNow heldNow answered => ?_) valid held).weaken
      fun _ _ _ _ _ => trivial
  · cases request with
    | broker issued => exact fun _ => ⟨read, rest ++ suffix, rfl, unmarked, heldNow⟩
    | _ => trivial
  · refine ⟨validNow.answers ?_ answered, heldNow.answers (keeps request only) answered⟩
    cases request with
    | update written => exact .inl (keeps _ only written rfl)
    | _ => trivial

/-- Nothing but the finalizer has to be tracked. -/
theorem declaresHeld_upkeep :
    Upkeep key (DeclaresHeld key) (fun (_ : Object kind) _ => True) where
  opened _ _ _ _ := trivial
  stable _ _ _ _ _ _ := trivial
  guarded _ _ _ _ _ only _ _ := declaresHeld_of_releasing only
  answered _ _ _ _ _ _ _ _ _ := trivial

theorem reconcile_declaresHeld (r : TopologyReconciler) (key : NamespacedName)
    (world : World kind) :
    (environment key).Safe Valid (DeclaresHeld key) (fun _ _ _ => True)
      (r.reconcile key : Prog (Object kind) _) world [] :=
  declaresHeld_upkeep.reconcile_safe r
    (fun _ _ _ suffix unmarked _ carrying valid held _ =>
      reconcileDeclare_safe r ⟨suffix, rfl⟩ unmarked carrying.finalizer valid held)
    (fun _ _ => trivial) world

/-- Along a run the finalizer stays until the operator removes it. -/
theorem carries_until_released {r : TopologyReconciler}
    {config later : Config (@Request.Answer (Object kind)) (World kind) (Result × Option GoError)}
    (steps : Relation.ReflTransGen ((environment key).Step (r.reconcile key)) config later)
    (carries : Carries uid config.world) (fresh : uid ∉ later.world.released) :
    Carries uid later.world := by
  have respected := (environment key).steps_respect
    (fun before after : World kind => (uid ∈ before.released → uid ∈ after.released) ∧
      (Carries uid before → Carries uid after ∨ uid ∈ after.released))
    (fun _ => True) (fun _ => ⟨id, .inl⟩)
    (fun first second => ⟨fun member => second.1 (first.1 member), fun carries =>
      (first.2 carries).elim second.2 fun member => .inr (second.1 member)⟩)
    (fun _ _ _ _ move => ⟨fun member => (Foreign.released move).symm ▸ member, fun carries =>
      .inl (carries.foreign move)⟩)
    (fun _ _ _ _ _ _ _ answered => ⟨released_answers answered, fun carries =>
      carries.answers answered⟩)
    steps (fun _ _ => trivial)
  exact (respected.2 carries).resolve_right fresh

/-- In every run: when a declaration is about to be issued, the object was read
without a deletion timestamp and its stored state carries the finalizer; from then
on it is stored with the finalizer until the operator removes the finalizer. -/
theorem finalizer_before_declare (r : TopologyReconciler) (key : NamespacedName)
    {config : Config (@Request.Answer (Object kind)) (World kind) (Result × Option GoError)}
    (reachable : (environment key).Reachable (r.reconcile key) .empty config)
    {trace : Trace (Object kind)} {issued : BrokerCall}
    {next : issued.Answer → Prog (Object kind) (Result × Option GoError)}
    (running : config.activity = some (trace, .call (.broker issued) next))
    (declares : issued.declares = true) :
    ∃ object rest, trace = ⟨.get key, .ok object⟩ :: rest ∧
      object.objectMeta.deletionTimestamp = none ∧
      Carries object.objectMeta.uid config.world ∧
      object.objectMeta.uid ∉ config.world.released ∧
      ∀ later, Relation.ReflTransGen ((environment key).Step (r.reconcile key)) config later →
        object.objectMeta.uid ∉ later.world.released →
        Carries object.objectMeta.uid later.world := by
  obtain ⟨-, guarded⟩ := reachable_safe valid_empty valid_stable
    (fun world _ => reconcile_declaresHeld r key world) reachable
  have declaresHeld := guarded trace (.broker issued) next running
  obtain ⟨object, rest, same, unmarked, held⟩ := declaresHeld declares
  exact ⟨object, rest, same, unmarked, held.1, held.2, fun later steps fresh =>
    carries_until_released steps held.1 fresh⟩

end Reconcile

section Example

/-- A virtual host that is reached through a connection Secret. -/
def ordersVhost : Object .vhost where
  objectMeta := { name := "orders", ns := "shop", uid := 1 }
  spec := { name := "orders", rabbitmqClusterReference := { connectionSecret := some ⟨"rabbit"⟩ } }

/-- A user creates the virtual host, and the operator is about to declare it. -/
theorem ordersVhost_declared : ∃ config : Config (@Request.Answer (Object .vhost))
    (World .vhost) (Result × Option GoError), ∃ trace settings next,
    (environment ⟨"shop", "orders"⟩).Reachable
      (TopologyReconciler.reconcile ⟨.verbatim, "", false⟩ ⟨"shop", "orders"⟩) .empty config ∧
    config.activity = some (trace, .call (.broker (.putVhost "orders" settings)) next) := by
  have created : Foreign ⟨"shop", "orders"⟩ World.empty _ :=
    .create ordersVhost ⟨1, 1⟩ rfl rfl rfl rfl rfl rfl
  have idle : (environment ⟨"shop", "orders"⟩).Reachable
      (plainReconciler.reconcile ⟨"shop", "orders"⟩) .empty _ := .tail .refl (.foreign created)
  obtain ⟨resolving, connected⟩ := exists_opened rfl idle
  have carrying := connected.answer (.ok ⟨2, 1⟩) ⟨_, ⟨rfl, rfl, rfl⟩, .changed ⟨2, 1⟩ rfl⟩
  exact ⟨_, _, _, _, carrying, rfl⟩

/-- In that run the stored virtual host carries the finalizer. -/
theorem ordersVhost_carries : ∃ config : Config (@Request.Answer (Object .vhost))
    (World .vhost) (Result × Option GoError), ∃ trace settings next object rest,
    config.activity = some (trace, .call (.broker (.putVhost "orders" settings)) next) ∧
    trace = ⟨.get ⟨"shop", "orders"⟩, .ok object⟩ :: rest ∧
    Carries object.objectMeta.uid config.world := by
  obtain ⟨config, trace, settings, next, reachable, running⟩ := ordersVhost_declared
  obtain ⟨object, rest, same, -, carries, -⟩ :=
    finalizer_before_declare ⟨.verbatim, "", false⟩ ⟨"shop", "orders"⟩ reachable running rfl
  exact ⟨config, trace, settings, next, object, rest, running, same, carries⟩

end Example

end TopologyOperator.ApiServer
