import TopologyOperator.ApiServer.StoredObject
import TopologyOperator.Controller.Copies

/-!
# The conditions that are stored

The conditions of a stored object are empty when it is created; after that they are
what a reconcile wrote, which computed them from conditions that it read. So whatever
the computation of a condition keeps holds of all stored conditions, in every run.
-/

namespace TopologyOperator.ApiServer

open Dialogue Environment Program

variable {kind : Kind} {σ : Type}

/-- What holds of the stored conditions in a world, and what the events of a reconcile
tell about that world. The world may record more than the API server stores. -/
structure Vouching (key : NamespacedName)
    (env : Environment (@Request.Answer (Object kind)) σ) (server : σ → World kind)
    (vouched : σ → List Condition → Prop)
    (told : σ → Event (@Request.Answer (Object kind)) → Prop) : Prop where
  foreign : ∀ {world next}, env.foreign world next → Foreign key (server world) (server next)
  answers : ∀ {world request reply after}, env.answers world request reply after →
    Answers (server world) request reply (server after)
  fresh : ∀ world, vouched world []
  /-- Nothing that holds gets lost. -/
  drifts : ∀ {world next}, env.foreign world next →
    (∀ conditions, vouched world conditions → vouched next conditions) ∧
      ∀ event, told world event → told next event
  grows : ∀ {world request reply after}, env.answers world request reply after →
    (∀ conditions, vouched world conditions → vouched after conditions) ∧
      ∀ event, told world event → told after event
  tells : ∀ {world request reply after}, env.answers world request reply after →
    (∀ object, (server world).stored = some object → vouched world object.status.conditions) →
    told after ⟨request, reply⟩
  reads : ∀ {world key object}, told world ⟨.get key, .ok object⟩ →
    vouched world object.status.conditions
  ready : ∀ {world} {object : Object kind} {trace : Trace (Object kind)} {condition},
    vouched world object.status.conditions →
    (ready object.status.conditions).Exec trace (.done condition) →
    vouched world (object.setStatusConditions [condition]).status.conditions
  notReady : ∀ {world} {object : Object kind} {trace : Trace (Object kind)} {msg condition},
    vouched world object.status.conditions →
    (notReady msg object.status.conditions).Exec trace (.done condition) →
    vouched world (object.setStatusConditions [condition]).status.conditions
  passwordSynced : ∀ {world} {object : Object kind} {trace : Trace (Object kind)}
    {name settings reply condition}, vouched world object.status.conditions →
    told world ⟨.broker (.putUser name settings), reply⟩ → validateResponse reply = .ok () →
    (passwordSynced object.status.conditions).Exec trace (.done condition) →
    vouched world (object.setStatusConditions [condition]).status.conditions

/-- The conditions hold wherever the events do. -/
def Follows (vouched : σ → List Condition → Prop)
    (told : σ → Event (@Request.Answer (Object kind)) → Prop) (trace : Trace (Object kind))
    (object : Object kind) : Prop :=
  ∀ world, (∀ event ∈ trace, told world event) → vouched world object.status.conditions

theorem Follows.append {vouched : σ → List Condition → Prop}
    {told : σ → Event (@Request.Answer (Object kind)) → Prop} {trace : Trace (Object kind)}
    {object : Object kind} (follows : Follows vouched told trace object)
    (suffix : Trace (Object kind)) : Follows vouched told (trace ++ suffix) object :=
  fun world holds => follows world fun event member => holds event (List.mem_append_left _ member)

namespace Vouching

variable {key : NamespacedName} {env : Environment (@Request.Answer (Object kind)) σ}
  {server : σ → World kind} {vouched : σ → List Condition → Prop}
  {told : σ → Event (@Request.Answer (Object kind)) → Prop}
  (vouching : Vouching key env server vouched told)

include vouching

/-- The conditions of the copy in memory follow from the events. -/
theorem copyInvariant (libraries : Libraries) : CopyInvariant libraries
    (fun trace request => ∀ written, request = .updateStatus written →
      Follows vouched told trace written)
    (Follows vouched told) (Follows vouched told)
    (fun _ trace result => Follows vouched told trace result) where
  spared := by
    rintro trace request spares written rfl
    cases spares
  opened key object world holds := vouching.reads (holds _ (List.mem_singleton_self _))
  append follows suffix := follows.append suffix
  refl follows := follows
  trans _ follows := follows
  current follows := follows
  amend follows _ status world holds := by
    rw [status]
    exact follows world holds
  update follows := ⟨fun _ same => (by cases same), fun _ => follows.append _⟩
  ripe follows := follows
  pending follows suffix := follows.append suffix
  store follows := ⟨fun _ same => (by cases same; exact follows), fun _ => follows.append _⟩
  names follows _ _ := follows
  notReady follows exec world holds := vouching.notReady (follows world holds) exec
  passwordSynced := by
    rintro trace computing object condition follows ⟨name, settings, reply, member, succeeded⟩ exec
    intro world holds
    exact vouching.passwordSynced (follows world holds) (holds _ member) succeeded exec
  ready _ follows exec world holds := vouching.ready (follows world holds) exec

/-- What the computation of conditions keeps holds of the stored conditions, in every run. -/
theorem stored {r : TopologyReconciler} {initial : σ}
    {config : Config (@Request.Answer (Object kind)) σ (Result × Option GoError)}
    (reachable : env.Reachable (r.reconcile key) initial config)
    (start : (server initial).stored = none) :
    (∀ object, (server config.world).stored = some object →
      vouched config.world object.status.conditions) ∧
    ∀ activity, config.activity = some activity → ∀ event ∈ activity.1,
      told config.world event := by
  induction reachable with
  | refl =>
      refine ⟨fun object found => ?_, fun _ absent => by cases absent⟩
      rw [start] at found
      cases found
  | tail earlier step ih =>
      obtain ⟨holds, events⟩ := ih
      cases step with
      | foreign move =>
          obtain ⟨keeps, remains⟩ := vouching.drifts move
          refine ⟨fun object found => ?_, fun activity running event member =>
            remains event (events activity running event member)⟩
          rcases (vouching.foreign move).origin found with ⟨before, stored, preserved, -⟩ |
              ⟨-, created, -⟩
          · rw [preserved.status]
            exact keeps _ (holds before stored)
          · rw [created]
            exact vouching.fresh _
      | start => exact ⟨holds, fun activity running => by cases running; simp⟩
      | @answer world after trace request next reply answered =>
          obtain ⟨keeps, remains⟩ := vouching.grows answered
          have known := events _ rfl
          refine ⟨fun object found => ?_, fun activity running => ?_⟩
          · have guarded := (Reachable.guarded ((vouching.copyInvariant r.libraries).guarded key)
              earlier _ rfl).1
            rcases (vouching.answers answered).cases with same |
                ⟨written, current, -, matching, became, -⟩ |
                ⟨written, current, rfl, -, became, -⟩
            · rw [same] at found
              exact keeps _ (holds object found)
            · obtain ⟨version, rfl⟩ := became.stored object found
              exact keeps _ (holds current matching.1)
            · obtain ⟨version, rfl⟩ := became.stored object found
              exact keeps _ (guarded written rfl world known)
          · cases running
            refine List.forall_mem_append.mpr ⟨fun event member => remains event
              (known event member), List.forall_mem_singleton.mpr (vouching.tells answered holds)⟩
      | stop => exact ⟨holds, fun _ absent => by cases absent⟩

end Vouching

end TopologyOperator.ApiServer
