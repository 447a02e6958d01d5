import TopologyOperator.ApiServer.StoredObject
import TopologyOperator.Controller.Runs
import TopologyOperator.Dialogue.History

/-!
# The opening of a reconcile

A reconcile reads its object, loads the certificates, resolves the reference to the
cluster and connects to the broker before it deals with the object. In an environment
that may answer these requests, every object has a run that gets that far.
-/

namespace TopologyOperator

open Dialogue Environment

variable {kind : Kind}

namespace TopologyReconciler

/-- A reconciler of the default configuration. -/
def plainReconciler : TopologyReconciler := ⟨.verbatim, "", false⟩

/-- A Secret that can be used from all namespaces. -/
def openSecret (key : NamespacedName) : Secret where
  objectMeta :=
    { ns := key.ns
      name := key.name
      annotations := [(allowedNamespacesAnnotationKey, "*")] }
  data := [("uri", "http://broker")]

/-- A cluster that can be used from all namespaces. -/
def openCluster : RabbitmqCluster where
  objectMeta :=
    { ns := "infra"
      name := "broker"
      annotations := [(allowedNamespacesAnnotationKey, "*"), (uriAnnotationKey, "http://broker")] }
  serviceReference := some ⟨"broker"⟩
  binding := some ⟨"broker"⟩

variable {object : Object kind}

theorem exists_parseCluster (ns : String) : ∃ reading : Trace (Object kind),
    (parseCluster .verbatim openCluster ns "" false).Exec reading
      (.done (.ok (connectionCreds "" "" "http://broker", false))) :=
  ⟨_, exec_ask_bind.mpr ⟨.ok (openSecret ⟨"infra", "broker"⟩), [], rfl, rfl, rfl⟩⟩

/-- A reference to a connection Secret is resolved by reading the Secret. -/
theorem resolve_secret {secret : LocalObjectReference} {key : NamespacedName}
    (given : object.rabbitReference.connectionSecret = some secret)
    (named : key = ⟨object.rabbitReference.connectionSecretNamespace object.objectMeta.ns,
      secret.name⟩) :
    (plainReconciler.resolve object).Exec [⟨.getSecret .cache key, .ok (openSecret key)⟩]
      (.done (.ok (connectionCreds "" "" "http://broker", false))) := by
  rw [resolve, parseReference, given]
  refine exec_ask_bind.mpr ⟨.ok (openSecret key), [], by rw [named], ?_⟩
  dsimp only
  rw [if_pos (show allowedNamespaceSecret _ _ (openSecret key) = true from
    allowedByAnnotations_star ..)]
  exact ⟨rfl, rfl⟩

/-- Every reference can be resolved. -/
theorem exists_resolving (object : Object kind) : ∃ resolving,
    (plainReconciler.resolve object).Exec resolving
      (.done (.ok (connectionCreds "" "" "http://broker", false))) := by
  cases given : object.rabbitReference.connectionSecret with
  | some secret => exact ⟨_, resolve_secret given rfl⟩
  | none =>
      rw [resolve, parseReference, given]
      obtain ⟨reading, reads⟩ := exists_parseCluster
        (object.rabbitReference.connectionSecretNamespace object.objectMeta.ns)
      refine ⟨_, exec_ask_bind.mpr ⟨.ok openCluster, reading, rfl, ?_⟩⟩
      dsimp only
      rw [if_pos (show allowedNamespace _ _ openCluster = true from allowedByAnnotations_star ..)]
      exact reads

section Environment

variable {σ : Type} {env : Environment (@Request.Answer (Object kind)) σ} {key : NamespacedName}
  {world initial : σ}

/-- The environment may answer the requests of the opening, where the reference to the
cluster is resolved with the given answers. -/
structure Opens (env : Environment (@Request.Answer (Object kind)) σ) (key : NamespacedName)
    (object : Object kind) (world : σ) (resolving : Trace (Object kind)) : Prop where
  reads : env.answers world (.get key) (.ok object) world
  loads : env.answers world .systemCertPool (.ok ()) world
  looks : ∀ event ∈ resolving, env.answers world event.request event.answer world
  connects : ∀ uri username password tls,
    env.answers world (.newClient uri username password tls) (.ok ()) world

/-- The opening of a run in which the reference was resolved with the given answers. -/
def opened (key : NamespacedName) (object : Object kind) (resolving : Trace (Object kind)) :
    Trace (Object kind) :=
  opening key object (resolving ++ [⟨.newClient "http://broker" "" "" false, .ok ()⟩])

theorem opened_append (resolving rest : Trace (Object kind)) :
    opened key object resolving ++ rest = opening key object
      (resolving ++ ⟨.newClient "http://broker" "" "" false, .ok ()⟩ :: rest) := by
  rw [opened, opening, opening, List.cons_append, List.cons_append, List.append_assoc]
  rfl

/-- The opening gets to the object. -/
theorem Opens.answered {resolving : Trace (Object kind)}
    (opens : Opens env key object world resolving)
    (resolves : (plainReconciler.resolve object).Exec resolving
      (.done (.ok (connectionCreds "" "" "http://broker", false)))) :
    env.Answered (plainReconciler.reconcile key) world (opened key object resolving)
      (plainReconciler.reconcileObject object) world := by
  have resolved : env.Answered (plainReconciler.resolve object) world resolving _ world :=
    .of_exec resolves opens.looks
  exact .call opens.reads (.call opens.loads
    (resolved.bind (.call (opens.connects ..) (.refl ..))))

/-- A reconcile that starts when the environment is idle gets to the object. -/
theorem Opens.reachable {resolving : Trace (Object kind)}
    (opens : Opens env key object world resolving)
    (resolves : (plainReconciler.resolve object).Exec resolving
      (.done (.ok (connectionCreds "" "" "http://broker", false))))
    (idle : env.Reachable (plainReconciler.reconcile key) initial ⟨world, none⟩) :
    env.Reachable (plainReconciler.reconcile key) initial
      ⟨world, some (opened key object resolving, plainReconciler.reconcileObject object)⟩ :=
  (opens.answered resolves).reachable (idle.tail .start)

/-- An environment that answers all look-ups lets every object be opened. -/
theorem exists_opens (reads : env.answers world (.get key) (.ok object) world)
    (loads : env.answers world .systemCertPool (.ok ()) world)
    (looks : ∀ request, LooksUp request → ∀ reply, env.answers world request reply world)
    (connects : ∀ uri username password tls,
      env.answers world (.newClient uri username password tls) (.ok ()) world) :
    ∃ resolving, (plainReconciler.resolve object).Exec resolving
        (.done (.ok (connectionCreds "" "" "http://broker", false))) ∧
      Opens env key object world resolving := by
  obtain ⟨resolving, resolves⟩ := exists_resolving object
  have looksUp := (parseReference_looksUp plainReconciler.libraries ..).of_exec resolves
  exact ⟨resolving, resolves, reads, loads,
    fun event member => looks _ (looksUp event member) _, connects⟩

end Environment

end TopologyReconciler

namespace ApiServer

open TopologyReconciler

variable {key : NamespacedName} {world initial : World kind} {object : Object kind}

/-- The API server answers the requests of the opening. -/
theorem exists_opened (stored : world.stored = some object)
    (idle : (environment key).Reachable (plainReconciler.reconcile key) initial ⟨world, none⟩) :
    ∃ resolving, (environment key).Reachable (plainReconciler.reconcile key) initial
      ⟨world, some (opened key object resolving, plainReconciler.reconcileObject object)⟩ := by
  have looks : ∀ request : Request (Object kind), LooksUp request → ∀ reply,
      (environment key).answers world request reply world := by
    intro request looksUp reply
    cases request <;> first | exact looksUp.elim | rfl
  have reads : (environment key).answers world (.get key) (.ok object) world :=
    ⟨rfl, fun _ same => by cases same; exact stored⟩
  obtain ⟨resolving, resolves, opens⟩ := exists_opens reads rfl looks fun _ _ _ _ => rfl
  exact ⟨resolving, opens.reachable resolves idle⟩

end ApiServer

end TopologyOperator
