import TopologyOperator.ApiServer.Lineage
import TopologyOperator.Dialogue.Parallel

/-!
# The operator between the API server and a broker

The environment of the reconciles of one object with both sides of it: the object as
the API server stores it, with generations, and the entities of the broker. Users write
the object, within what they are admitted to write. Others change entities of the
broker, but not the one entity that the object is about. What the operator is answered
by other parties may be restricted.
-/

namespace TopologyOperator.Deployment

open Dialogue Environment BrokerStore

open ApiServer (SameRequest)

variable {kind : Kind}

structure World (kind : Kind) where
  server : ApiServer.World kind
  store : Store

/-- What users and other clients of the broker do. -/
inductive Foreign (key : NamespacedName) (target : Entity) (admits : Object kind → Prop)
    (world : World kind) : World kind → Prop where
  | user {next : World kind}
      (moved : (ApiServer.generational key).foreign world.server next.server)
      (admitted : ∀ object, next.server.stored = some object → admits object)
      (same : next.store = world.store) : Foreign key target admits world next
  | others {next : World kind} (same : next.server = world.server)
      (apart : next.store target = world.store target) : Foreign key target admits world next

/-- The API server, the broker, and those who use them. -/
def environment (key : NamespacedName) (target : Entity) (admits : Object kind → Prop)
    (answering : (request : Request (Object kind)) → request.Answer → Prop) :
    Environment (@Request.Answer (Object kind)) (World kind) where
  foreign := Foreign key target admits
  answers world request reply after :=
    (ApiServer.generational key).answers world.server request reply after.server ∧
      BrokerStore.Answers world.store request reply after.store ∧ answering request reply

variable {key : NamespacedName} {target : Entity} {admits : Object kind → Prop}
  {answering : (request : Request (Object kind)) → request.Answer → Prop}
  {libraries : Libraries} {r : TopologyReconciler} {store : Store} {world after : World kind}
  {config : Config (@Request.Answer (Object kind)) (World kind) (Result × Option GoError)}

/-- The API server alone has a run of its own. -/
theorem reachable_server
    (reachable : (environment key target admits answering).Reachable (r.reconcile key)
      ⟨.empty, store⟩ config) :
    (ApiServer.generational key).Reachable (r.reconcile key) .empty
      ⟨config.world.server, config.activity⟩ := by
  refine reachable.map World.server ?_ ?_
  · intro world next move
    cases move with
    | user moved => exact .single moved
    | others same => rw [same]
  · exact fun world request reply after answered => answered.1

/-- A run with more assumptions on users and other parties is a run. -/
theorem reachable_weaken {weaker : Object kind → Prop}
    {other : (request : Request (Object kind)) → request.Answer → Prop}
    (admitted : ∀ object, admits object → weaker object)
    (answers : ∀ request reply, answering request reply → other request reply)
    (reachable : (environment key target admits answering).Reachable (r.reconcile key)
      ⟨.empty, store⟩ config) :
    (environment key target weaker other).Reachable (r.reconcile key) ⟨.empty, store⟩ config := by
  refine Reachable.mono ?_ ?_ reachable
  · intro world next move
    cases move with
    | user moved allowed same =>
        exact .user moved (fun object stored => admitted object (allowed object stored)) same
    | others same apart => exact .others same apart
  · rintro world request reply after ⟨server, store, answered⟩
    exact ⟨server, store, answers request reply answered⟩

/-- A request that does not go to the broker leaves the entities as they are. -/
theorem store_of_not_broker {request : Request (Object kind)} {reply : request.Answer}
    (answered : (environment key target admits answering).answers world request reply after)
    (other : ∀ issued, request ≠ .broker issued) : after.store = world.store := by
  obtain ⟨-, answers, -⟩ := answered
  cases request with
  | broker issued => exact absurd rfl (other issued)
  | _ => exact answers

/-- A request to the broker leaves the object as it is. -/
theorem server_of_broker {issued : BrokerCall} {reply : issued.Answer}
    (answered : (environment key target admits answering).answers world
      (.broker issued : Request (Object kind)) reply after) : after.server = world.server :=
  answered.1.1

/-- What is stored is admitted, if that depends on what is asked for alone. -/
theorem reachable_admitted
    (kept : ∀ object other : Object kind, SameRequest object other → admits object → admits other)
    (reachable : (environment key target admits answering).Reachable (r.reconcile key)
      ⟨.empty, store⟩ config) :
    ∀ object, config.world.server.stored = some object → admits object := by
  induction reachable with
  | refl => exact fun _ absent => by cases absent
  | tail earlier step ih =>
      cases step with
      | foreign move =>
          cases move with
          | user moved admitted => exact admitted
          | others same =>
              rw [same]
              exact ih
      | start => exact ih
      | stop => exact ih
      | answer answered =>
          intro object stored
          cases ApiServer.answer_leaves (reachable_server earlier) answered.1 with
          | unmoved same => exact ih object (same ▸ stored)
          | wrote current found known left =>
              exact kept current object (left object stored).1 (ih current found)

/-- What a reconcile has read is admitted. -/
theorem read_admitted
    (kept : ∀ object other : Object kind, SameRequest object other → admits object → admits other)
    (other : kind ≠ .user)
    (reachable : (environment key target admits answering).Reachable (r.reconcile key)
      ⟨.empty, store⟩ config) :
    ∀ activity, config.activity = some activity → ∀ read rest,
      activity.1 = ⟨.get key, .ok read⟩ :: rest → admits read := by
  induction reachable with
  | refl => exact fun _ absent => by cases absent
  | tail earlier step ih =>
      cases step with
      | foreign => exact ih
      | start =>
          intro activity running read rest split
          cases running
          cases split
      | stop => exact fun _ absent => by cases absent
      | answer answered =>
          intro activity running read rest split
          cases running
          cases reachable_stage other earlier _ rfl with
          | fresh main =>
              obtain ⟨rfl, -⟩ := Program.call.inj main
              obtain ⟨first, -⟩ := List.cons.inj split
              cases first
              exact reachable_admitted kept earlier read (answered.1.1.2 read rfl)
          | reading began =>
              obtain ⟨first, -⟩ := List.cons.inj split
              cases first
              exact ih _ rfl read _ rfl

/-- A guard on what is done after an admitted object was read. -/
theorem reachable_guarded {guard : Trace (Object kind) → Request (Object kind) → Prop}
    (kept : ∀ object other : Object kind, SameRequest object other → admits object → admits other)
    (other : kind ≠ .user)
    (guarded : ∀ read, admits read →
      (r.reconcileRead read).Guarded guard (fun _ _ => True) [⟨.get key, .ok read⟩])
    (reachable : (environment key target admits answering).Reachable (r.reconcile key)
      ⟨.empty, store⟩ config) :
    ∀ activity, config.activity = some activity → ∀ read rest,
      activity.1 = ⟨.get key, .ok read⟩ :: rest →
      activity.2.Guarded guard (fun _ _ => True) activity.1 := by
  induction reachable with
  | refl => exact fun _ absent => by cases absent
  | tail earlier step ih =>
      cases step with
      | foreign => exact ih
      | start =>
          intro activity running read rest split
          cases running
          cases split
      | stop => exact fun _ absent => by cases absent
      | answer answered =>
          intro activity running read rest split
          cases running
          cases reachable_stage other earlier _ rfl with
          | fresh main =>
              obtain ⟨rfl, resumes⟩ := Program.call.inj main
              cases eq_of_heq resumes
              obtain ⟨first, -⟩ := List.cons.inj split
              cases first
              exact guarded read (reachable_admitted kept earlier read (answered.1.1.2 read rfl))
          | reading began =>
              obtain ⟨first, -⟩ := List.cons.inj split
              cases first
              exact (ih _ rfl read _ rfl).2 _

section Assumptions

/-- The specs that name the entity. -/
abbrev Designates (libraries : Libraries) (target : Entity) (object : Object kind) : Prop :=
  object.target libraries = some target

theorem designates_congr (object other : Object kind) (same : SameRequest object other)
    (names : Designates libraries target object) : Designates libraries target other :=
  (target_congr same.spec).trans names

/-- The objects whose entity is deleted with them. -/
structure Managed (libraries : Libraries) (target : Entity) (object : Object kind) : Prop where
  names : Designates libraries target object
  kept : object.retained = false

theorem managed_congr (object other : Object kind) (same : SameRequest object other)
    (managed : Managed libraries target object) : Managed libraries target other :=
  ⟨designates_congr object other same managed.names,
    (retained_congr same.spec).trans managed.kept⟩

/-- The cluster is there: it can be read and has replicas, and its default user and its
Service are not reported as missing. -/
def Sighted : (request : Request (Object kind)) → request.Answer → Prop
  | .getRabbitmqCluster _, reply => ∃ cluster, reply = .ok cluster ∧ cluster.replicas ≠ some 0
  | .getSecret .api _, reply => ∀ failure, reply = .error failure → failure.reason ≠ .notFound
  | .getService _, reply => ∀ failure, reply = .error failure → failure.reason ≠ .notFound
  | _, _ => True

/-- The environment of the reconciles of an object whose entity is deleted with it, while
the cluster is there. -/
abbrev attended (libraries : Libraries) (key : NamespacedName) (target : Entity) :
    Environment (@Request.Answer (Object kind)) (World kind) :=
  environment key target (Managed libraries target) Sighted

end Assumptions

end TopologyOperator.Deployment
