import TopologyOperator.Client.Resolution
import TopologyOperator.Properties.BuiltTopology

/-!
# Super streams under deletion

A super stream that is marked for deletion may outlive its children, which the garbage
collector removes one by one. The reconciler does not look at the mark: a reconcile
creates a child exactly if it finds one missing, so the children that were collected
come back for as long as the super stream is stored.
-/

namespace TopologyOperator.SuperStreamServer

open Dialogue Environment Program SuperStreamReconciler

variable {key : NamespacedName} {builder : Builder} {resource : ResourceBuilder}
  {trace : Trace SuperStream}

section Collector

/-- The garbage collector removes a child of a super stream that is marked. -/
inductive Collects (world : World) : World → Prop where
  | remove (place : Kind × NamespacedName)
      (marked : world.stream.objectMeta.deletionTimestamp.isSome = true) :
      Collects world { world with children := Function.update world.children place [] }

/-- The API server, the users, the other controllers and the garbage collector. -/
def cascading (permitted : SuperStream → SuperStream → Prop) :
    Environment (@Request.Answer SuperStream) World where
  foreign world next := Foreign permitted world next ∨ Collects world next
  answers := Answers

end Collector

/-- The request creates a child. -/
def CreatesChild : Request SuperStream → Prop
  | .createObject _ => True
  | _ => False

/-- The answer says that there is no such child. -/
def MissesChild : (request : Request SuperStream) → request.Answer → Prop
  | .getObject _ _, .error err => err.reason = .notFound
  | _, _ => False

/-- Children are created in the trace exactly if one was found to be missing. -/
def Replaces (trace : Trace SuperStream) : Prop :=
  (∃ event ∈ trace, CreatesChild event.request) ↔
    ∃ event ∈ trace, MissesChild event.request event.answer

theorem Replaces.append {before after : Trace SuperStream} (first : Replaces before)
    (second : Replaces after) : Replaces (before ++ after) := by
  unfold Replaces at *
  simp only [List.mem_append, or_and_right, exists_or, first, second]

/-- Parts that are not about children create none and miss none. -/
theorem replaces_of_aside (apart : ∀ event ∈ trace, Aside event.request) : Replaces trace := by
  apply iff_of_false
  · rintro ⟨⟨request, answer⟩, member, creates⟩
    cases request with
    | createObject child => exact apart _ member trivial
    | _ => exact creates
  · rintro ⟨⟨request, answer⟩, member, misses⟩
    cases request with
    | getObject kind name => exact apart _ member trivial
    | _ => exact misses

theorem replaces_nil : Replaces [] := replaces_of_aside fun _ none => by cases none

section Loop

variable {object : Object resource.kind}

/-- `Update` succeeds on the child. -/
def Updatable (builder : Builder) (resource : ResourceBuilder) (object : Object resource.kind) :
    Prop :=
  ∃ mutated, builder.update resource object = .ok mutated

/-- What `Build` makes may be updated. -/
theorem updatable_build : Updatable builder resource (builder.build resource) := by
  have inNamespace : (builder.build resource).objectMeta.ns = builder.objectOwner.ns := by
    cases resource <;> rfl
  apply update_of_free inNamespace
  intro existing found
  cases resource <;> cases found

/-- What `Update` leaves can be updated again. -/
theorem updatable_of_update {mutated : Object resource.kind}
    (updated : builder.update resource object = .ok mutated) :
    Updatable builder resource mutated :=
  update_of_inside (inside_of_update updated) (free_of_update updated)

/-- A missing child is created in the same attempt. -/
theorem replaces_createOrUpdate (updatable : Updatable builder resource object) :
    ∀ trace outcome,
      (createOrUpdate (objectClient resource.kind) (builder.update resource) object).Exec
        trace outcome → Replaces trace := by
  intro trace outcome exec
  obtain ⟨mutated, updated⟩ := updatable
  obtain ⟨reply, rest, rfl, remaining⟩ := exec
  cases reply with
  | error missing =>
      simp only [Program.done_bind] at remaining
      by_cases notFound : (GoError.api missing).isNotFound = true
      · simp only [notFound, ↓reduceIte, updated] at remaining
        obtain ⟨answer, last, rfl, ends⟩ := remaining
        apply iff_of_true
        · exact ⟨_, .tail _ List.mem_cons_self, trivial⟩
        · exact ⟨_, List.mem_cons_self, isNotFound_api.mp notFound⟩
      · simp only [notFound] at remaining
        obtain ⟨rfl, -⟩ := remaining
        apply iff_of_false
        · simp [CreatesChild]
        · simpa [MissesChild] using fun reason => notFound (isNotFound_api.mpr reason)
  | ok existing =>
      simp only [Program.done_bind] at remaining
      cases updated : builder.update resource existing with
      | error err =>
          simp only [updated] at remaining
          obtain ⟨rfl, -⟩ := remaining
          simp [Replaces, CreatesChild, MissesChild]
      | ok made =>
          simp only [updated] at remaining
          by_cases same : existing = made
          · rw [if_pos same] at remaining
            obtain ⟨rfl, -⟩ := remaining
            simp [Replaces, CreatesChild, MissesChild]
          · rw [if_neg same] at remaining
            obtain ⟨answer, last, rfl, ends⟩ := remaining
            cases answer <;>
              · obtain ⟨rfl, -⟩ := ends
                simp [Replaces, CreatesChild, MissesChild]

/-- A child that is tried again can be updated. -/
theorem updatable_of_conflict {kept : Object resource.kind} {err : GoError}
    (updatable : Updatable builder resource object) (conflict : err.isConflict = true)
    (exec : (createOrUpdate (objectClient resource.kind) (builder.update resource) object).Exec
      trace (.done (kept, .error err))) : Updatable builder resource kept := by
  have run := childRun_of_exec exec
  generalize same : (kept, Except.error err) = returned at run
  cases run with
  | unread | unmade =>
      cases same
      exact updatable
  | unmutated existing failure refused =>
      cases same
      unfold Builder.update at refused
      split at refused
      · cases refused
        cases conflict
      · cases refused
  | unchanged => cases same
  | created _ made mutated answer | updated _ made mutated answer =>
      cases answer with
      | ok version => cases same
      | error failure =>
          cases same
          exact updatable_of_update mutated

/-- Over all attempts, a child is created exactly if it was found to be missing. -/
theorem replaces_retryOnConflict {retries : Nat} (updatable : Updatable builder resource object) :
    ∀ trace outcome,
      (retryOnConflict (createOrUpdate (objectClient resource.kind) (builder.update resource))
        retries object).Exec trace outcome → Replaces trace := by
  induction retries generalizing object with
  | zero => exact replaces_createOrUpdate updatable
  | succ retries ih =>
      intro trace outcome exec
      rcases retryOnConflict_succ exec with last | ⟨kept, err, first, rest, rfl, attempt, conflict,
        retry⟩
      · exact replaces_createOrUpdate updatable _ _ last
      · have again := updatable_of_conflict updatable conflict attempt
        exact (replaces_createOrUpdate updatable _ _ attempt).append (ih again _ _ retry)

/-- So it is over the builder loop. -/
theorem replaces_createChildren {resources : List ResourceBuilder} {collected : List String} :
    ∀ trace outcome, (createChildren builder resources collected).Exec trace outcome →
      Replaces trace := by
  induction resources generalizing collected with
  | nil =>
      rintro trace outcome ⟨rfl, -⟩
      exact replaces_nil
  | cons resource rest ih =>
      apply exec_bind_along Replaces.append (replaces_retryOnConflict updatable_build)
      intro result before created
      split
      · rintro trace outcome ⟨rfl, -⟩
        exact replaces_nil
      · exact ih

/-- A reconcile creates a child exactly if it finds one missing. -/
theorem replaces_reconcile :
    ∀ trace outcome, (reconcile key).Exec trace outcome → Replaces trace := by
  intro trace outcome exec
  rcases skips_or_loops exec with skips | ⟨read, before, loop, rest, rmqClusterRef, routingKeys,
    ended, looped⟩
  · exact replaces_of_aside skips.aside
  · rw [looped.split]
    have rest := replaces_of_aside fun event member => (looped.rest event member).1
    exact (replaces_of_aside looped.opening_aside).append
      ((replaces_createChildren _ _ looped.exec).append rest)

end Loop

/-- The reconcile has read a super stream that is marked for deletion. -/
def ReadMarked (key : NamespacedName) (trace : Trace SuperStream) : Prop :=
  ∃ stream : SuperStream, (⟨.get key, .ok stream⟩ : Event _) ∈ trace ∧
    stream.objectMeta.deletionTimestamp.isSome = true

/-- Whatever the garbage collector has removed, a reconcile that has read a super stream
under deletion creates no child exactly if it finds none missing. -/
theorem marked_stream_grows_iff (permitted : SuperStream → SuperStream → Prop)
    (key : NamespacedName) (initial : World)
    (config : Config (@Request.Answer SuperStream) World (Result × Option GoError))
    (trace : Trace SuperStream) (result : Result × Option GoError)
    (reachable : (cascading permitted).Reachable (reconcile key) initial config)
    (returned : config.activity = some (trace, .done result)) :
    (ReadMarked key trace → ∀ event ∈ trace, ¬ CreatesChild event.request) ↔
      (ReadMarked key trace → ∀ event ∈ trace, ¬ MissesChild event.request event.answer) := by
  have exec := reachable.exec _ returned [] (.done result) ⟨rfl, rfl⟩
  rw [List.append_nil] at exec
  have replaces := replaces_reconcile _ _ exec
  unfold Replaces at replaces
  apply imp_congr_right
  intro _
  simpa only [not_exists, not_and] using not_congr replaces

section Example

/-- The super stream after its deletion was requested. -/
def markedStream : SuperStream :=
  { regionsStream with objectMeta := { regionsStream.objectMeta with
    deletionTimestamp := some 9
    finalizers := ["foregroundDeletion"]
    resourceVersion := 3 } }

/-- A reconcile creates the exchange and is stopped. The super stream is marked for
deletion, and the exchange is collected; the next reconcile creates it again. -/
theorem regionsStream_regrows :
    ∃ config : Config (@Request.Answer SuperStream) World (Result × Option GoError),
      ∃ trace program,
      (cascading Accepts).Reachable (reconcile ⟨"shop", "regions"⟩) (World.fresh regionsStream)
        config ∧
      config.activity = some (trace, program) ∧ ReadMarked ⟨"shop", "regions"⟩ trace ∧
      config.world.stream.objectMeta.deletionTimestamp.isSome = true ∧
      ∃ event ∈ trace, CreatesChild event.request := by
  have started : (cascading Accepts).Reachable (reconcile ⟨"shop", "regions"⟩)
      (World.fresh regionsStream) _ := .tail .refl .start
  have read := started.answer (.ok regionsStream) ⟨rfl, fun stream same => by cases same; rfl⟩
  have resolved := read.answer (.ok { objectMeta := { name := "rabbit", ns := "shop" } }) rfl
  have missing := resolved.answer (.error ⟨.notFound, ""⟩) ⟨rfl, fun _ found => by cases found⟩
  have created := missing.answer (.ok ⟨2, 1⟩) ⟨rfl, rfl⟩
  have stopped := created.tail .stop
  have marked := stopped.tail (.foreign (.inl (.update markedStream rfl rfl rfl rfl)))
  have collected := marked.tail (.foreign (.inr (.remove
    (.exchange, ⟨"shop", "regions-exchange"⟩) rfl)))
  have restarted := collected.tail .start
  have reread := Reachable.answer restarted (.ok markedStream)
    ⟨rfl, fun stream same => by cases same; rfl⟩
  have again := reread.answer (.ok { objectMeta := { name := "rabbit", ns := "shop" } }) rfl
  have gone := again.answer (.error ⟨.notFound, ""⟩) ⟨rfl, fun _ found => by cases found⟩
  have recreated := gone.answer (.ok ⟨4, 1⟩) ⟨rfl, rfl⟩
  refine ⟨_, _, _, recreated, rfl, ⟨markedStream, List.mem_cons_self, rfl⟩, rfl, ?_⟩
  exact ⟨_, .tail _ (.tail _ (.tail _ List.mem_cons_self)), trivial⟩

/-- A reconcile of the marked super stream that could not read the exchange has created
nothing. -/
theorem markedStream_kept :
    ∃ config : Config (@Request.Answer SuperStream) World (Result × Option GoError),
      ∃ trace result,
      (cascading Accepts).Reachable (reconcile ⟨"shop", "regions"⟩) (World.fresh markedStream)
        config ∧
      config.activity = some (trace, .done result) ∧ ReadMarked ⟨"shop", "regions"⟩ trace ∧
      ∀ event ∈ trace, ¬ CreatesChild event.request := by
  have started : (cascading Accepts).Reachable (reconcile ⟨"shop", "regions"⟩)
      (World.fresh markedStream) _ := .tail .refl .start
  have read := started.answer (.ok markedStream) ⟨rfl, fun stream same => by cases same; rfl⟩
  have resolved := read.answer (.ok { objectMeta := { name := "rabbit", ns := "shop" } }) rfl
  have unread := resolved.answer (.error ⟨.other, "timeout"⟩) ⟨rfl, fun _ found => by cases found⟩
  have timed := unread.answer 10 rfl
  have stored := timed.answer (.ok ⟨4, 1⟩) ⟨rfl, .inl ⟨rfl, rfl⟩⟩
  have marked : ∀ later, ReadMarked ⟨"shop", "regions"⟩
      (⟨.get ⟨"shop", "regions"⟩, .ok markedStream⟩ :: later) :=
    fun later => ⟨markedStream, List.mem_cons_self, rfl⟩
  refine ⟨_, _, _, stored, rfl, marked _, ?_⟩
  apply (marked_stream_grows_iff Accepts _ _ _ _ _ stored rfl).mpr _ (marked _)
  intro _
  -- five events; the third is the failed read
  refine List.forall_mem_cons.mpr ⟨id, List.forall_mem_cons.mpr ⟨id, List.forall_mem_cons.mpr ⟨?_,
    List.forall_mem_cons.mpr ⟨id, List.forall_mem_singleton.mpr id⟩⟩⟩⟩
  rintro ⟨⟩

end Example

end TopologyOperator.SuperStreamServer
