import TopologyOperator.Broker.Limits

/-!
# Converging limits

When the limits part of a declare function has returned without an error, the broker has
the managed limits of the spec and no others, and every limit that is not managed is as it
was. From then on no limit is deleted, and the limits stay as they are.
-/

namespace TopologyOperator.LimitsServer

open Dialogue Environment

variable {Resource α β : Type}

section Obeys

/-- The program keeps an invariant of the limits, deletes limits only if it may, and its
value satisfies a condition. -/
def Obeys (invariant : World → Prop) (mayDelete : Prop) (post : α → World → Prop)
    (program : Prog Resource α) (world : World) : Prop :=
  ∀ trace, environment.Safe invariant (fun _ _ request => DeletesLimits request → mayDelete)
    (fun value now _ => post value now) program world trace

variable {invariant : World → Prop} {mayDelete : Prop} {post : α → World → Prop} {world : World}

theorem obeys_done {value : α} (holds : post value world) :
    Obeys invariant mayDelete post (.done value : Prog Resource α) world := by
  intro trace now drift _
  rw [drift_eq drift]
  exact holds

/-- A program obeys if its parts do, one after the other. -/
theorem Obeys.bind {program : Prog Resource α} {next : α → Prog Resource β}
    {last : β → World → Prop} (first : Obeys invariant mayDelete post program world)
    (valid : invariant world)
    (second : ∀ value now, invariant now → post value now →
      Obeys invariant mayDelete last (next value) now) :
    Obeys invariant mayDelete last (program.bind next) world := by
  intro trace
  apply Safe.bind (first trace) valid
  exact fun value now later validNow holds => second value now validNow holds later

/-- A request obeys if each of its answers keeps the invariant. -/
theorem obeys_ask {request : Request Resource} {post : request.Answer → World → Prop}
    (guarded : DeletesLimits request → mayDelete)
    (holds : ∀ reply after, Answers world request reply after →
      invariant after ∧ post reply after) :
    Obeys invariant mayDelete post (ask request) world := by
  intro trace now drift _
  rw [drift_eq drift]
  refine ⟨guarded, fun reply after answered => ?_⟩
  obtain ⟨valid, told⟩ := holds reply after answered
  exact ⟨valid, obeys_done told _⟩

end Obeys

section Calls

variable {invariant : World → Prop} {mayDelete : Prop} {world : World} {owner : Owner}

/-- Reading the limits changes none. -/
theorem obeys_getLimits (valid : invariant world) :
    Obeys invariant mayDelete (fun reply now => now = world ∧ Reports (world owner) reply)
      (getLimits owner : Prog Resource _) world := by
  cases owner <;> exact obeys_ask (fun deletes => deletes.elim)
    fun reply after told => ⟨told.1 ▸ valid, told⟩

/-- Deleting limits obeys if it is allowed and keeps the invariant. -/
theorem obeys_deleteLimits {keys : List String} (allowed : mayDelete) (valid : invariant world)
    (removed : invariant (world.remove owner keys)) :
    Obeys invariant mayDelete (fun reply now => Deletes world owner keys reply now)
      (deleteLimits owner keys : Prog Resource _) world := by
  have either : ∀ reply after, Deletes world owner keys reply after → invariant after := by
    rintro reply after (rfl | ⟨-, rfl⟩)
    · exact removed
    · exact valid
  cases owner <;> exact obeys_ask (fun _ => allowed)
    fun reply after told => ⟨either reply after told, told⟩

/-- Putting limits obeys if it keeps the invariant. -/
theorem obeys_putLimits {limits : LimitsValues} (valid : invariant world)
    (stored : invariant (world.put owner limits)) :
    Obeys invariant mayDelete (fun reply now => Puts world owner limits reply now)
      (putLimits owner limits : Prog Resource _) world := by
  have either : ∀ reply after, Puts world owner limits reply after → invariant after := by
    rintro reply after (rfl | ⟨-, rfl⟩)
    · exact stored
    · exact valid
  cases owner <;> exact obeys_ask (fun deletes => deletes.elim)
    fun reply after told => ⟨either reply after told, told⟩

end Calls

section Reconcile

variable {managed : List String} {new : LimitsValues} {owner : Owner}
  {invariant : World → Prop} {mayDelete : Prop} {world : World}

/-- The managed limits that are set and not wanted. -/
def outdated (managed : List String) (new : LimitsValues) (current : String → Option Int) :
    List String :=
  managed.filter fun key => (current key).isSome && (new.lookup key).isNone

/-- The limits to delete are the outdated ones, if the broker answered truthfully. -/
theorem limitsToDelete_eq {existing : LimitsValues} {current : String → Option Int}
    (same : ∀ key, existing.lookup key = current key) :
    limitsToDelete managed existing new = outdated managed new current := by
  simp only [limitsToDelete, outdated, same]

/-- The two changes that a reconcile makes keep the invariant, and if it may not delete
limits, none is outdated. -/
structure Absorbs (managed : List String) (new : LimitsValues) (owner : Owner)
    (invariant : World → Prop) (mayDelete : Prop) : Prop where
  removes : ∀ world, invariant world → outdated managed new (world owner) ≠ [] →
    mayDelete ∧ invariant (world.remove owner (outdated managed new (world owner)))
  stores : ∀ world, invariant world → invariant (world.put owner new)

/-- The managed limits after both changes. -/
theorem put_remove_managed {key : String} (member : key ∈ managed) :
    (world.remove owner (outdated managed new (world owner))).put owner new owner key =
      new.lookup key := by
  rw [put_self, remove_self]
  cases wanted : new.lookup key with
  | some value => rfl
  | none =>
      cases current : world owner key <;> simp [outdated, member, wanted, current]

/-- Outdated limits are deleted, if there are any. -/
theorem obeys_deleteOutdated (absorbs : Absorbs managed new owner invariant mayDelete)
    (valid : invariant world) :
    Obeys invariant mayDelete
      (fun result now => result = .ok () →
        now = world.remove owner (outdated managed new (world owner)))
      (deleteOutdated (outdated managed new (world owner)) (deleteLimits owner) :
        Prog Resource _) world := by
  unfold deleteOutdated
  split
  · next none =>
      rw [none]
      exact obeys_done fun _ => remove_nil.symm
  · next some =>
      obtain ⟨allowed, removed⟩ := absorbs.removes world valid some
      apply (obeys_deleteLimits allowed valid removed).bind valid
      intro reply now _ told
      exact obeys_done fun done => told.resolve_right fun failed => failed.1 done

/-- After a run without an error, the managed limits have the wanted values. -/
theorem obeys_reconcileLimits (absorbs : Absorbs managed new owner invariant mayDelete)
    (valid : invariant world) :
    Obeys invariant mayDelete
      (fun result now => result = .ok () → ∀ key ∈ managed, now owner key = new.lookup key)
      (reconcileLimits managed new (getLimits owner) (deleteLimits owner) (putLimits owner) :
        Prog Resource _) world := by
  apply (obeys_getLimits valid).bind valid
  intro reply now _ ⟨same, reports⟩
  rw [same]
  split
  · exact obeys_done fun absurd => by cases absurd
  next existing read =>
  rw [limitsToDelete_eq (currentLimits_of_reports reports read)]
  apply (obeys_deleteOutdated absorbs valid).bind valid
  intro result now validNow removed
  split
  · exact obeys_done fun absurd => by cases absurd
  cases removed rfl
  split
  · next none =>
      apply obeys_done
      intro _ key member
      have managedNow := @put_remove_managed managed new owner world key member
      rw [none, put_nil] at managedNow
      rwa [none]
  · apply (obeys_putLimits validNow (absorbs.stores _ validNow)).bind validNow
    intro reply after _ told
    apply obeys_done
    intro done key member
    rw [told.resolve_right fun failed => failed.1 done, put_remove_managed member]

end Reconcile

section Converges

/-- The managed limits are the wanted ones, and everything else is as it was. -/
structure Converged (owner : Owner) (wanted : List (String × Option Int))
    (before after : World) : Prop where
  managed : ∀ limit ∈ wanted, after owner limit.1 = limit.2
  unmanaged : ∀ key, key ∉ wanted.map Prod.fst → after owner key = before owner key
  others : ∀ other, other ≠ owner → after other = before other

/-- However often the program is run, and wherever its runs fail or stop, it deletes no
limits and the limits stay as they are. -/
def Idle (program : Prog Resource (Except GoError Unit)) (world : World) : Prop :=
  ∀ config, environment.Reachable program world config →
    config.world = world ∧ ∀ trace request next,
      config.activity = some (trace, .call request next) → ¬ DeletesLimits request

/-- Once a run of the program has returned without an error, the limits have converged, and
further runs do nothing. Any number of runs may have failed or stopped before. -/
def Converges (program : Prog Resource (Except GoError Unit)) (owner : Owner)
    (wanted : List (String × Option Int)) : Prop :=
  ∀ before config trace, environment.Reachable program before config →
    config.activity = some (trace, .done (.ok ())) →
    Converged owner wanted before config.world ∧ Idle program config.world

variable {program : Prog Resource (Except GoError Unit)} {managed : List String}
  {new : LimitsValues} {owner : Owner} {world : World}

/-- Nobody else changes the limits. -/
theorem stable (invariant assertion : World → Prop) :
    (environment : Environment (@Request.Answer Resource) World).Stable invariant assertion :=
  fun _ _ _ _ move => move.elim

/-- Limits that are not managed, and those of others, are as they were. -/
def Kept (managed : List String) (owner : Owner) (before world : World) : Prop :=
  (∀ key, key ∉ managed → world owner key = before owner key) ∧
    ∀ other, other ≠ owner → world other = before other

/-- Limits that are not managed are kept, whatever was there before. -/
theorem absorbs_kept (within : ∀ key, key ∉ managed → new.lookup key = none) (before : World) :
    Absorbs managed new owner (Kept managed owner before) True where
  removes world kept _ := by
    refine ⟨trivial, fun key unmanaged => ?_, fun other different => ?_⟩
    · have current : key ∉ outdated managed new (world owner) := by
        intro member
        exact unmanaged (List.mem_filter.mp member).1
      rw [remove_self, if_neg current, kept.1 key unmanaged]
    · rw [remove_of_ne different, kept.2 other different]
  stores world kept := by
    refine ⟨fun key unmanaged => ?_, fun other different => ?_⟩
    · rw [put_self, within key unmanaged, Option.none_or, kept.1 key unmanaged]
    · rw [put_of_ne different, kept.2 other different]

def Unchanged (before world : World) : Prop := world = before

/-- Limits that have converged are not touched again. -/
theorem absorbs_settled (within : ∀ key, key ∉ managed → new.lookup key = none)
    (settled : ∀ key ∈ managed, world owner key = new.lookup key) :
    Absorbs managed new owner (Unchanged world) False where
  removes now same some := by
    cases same
    refine absurd (List.filter_eq_nil_iff.mpr fun key member => ?_) some
    rw [settled key member]
    cases new.lookup key <;> simp
  stores now same := by
    cases same
    apply put_eq_self
    intro key value given
    by_cases member : key ∈ managed
    · rw [settled key member, given]
    · rw [within key member] at given
      cases given

/-- What has to be shown of a program whose limits part is a reconcile of the limits. -/
theorem converges_of_obeys (managed : List String) (new : LimitsValues)
    {wanted : List (String × Option Int)} (keys : wanted.map Prod.fst = managed)
    (values : ∀ limit ∈ wanted, new.lookup limit.1 = limit.2)
    (within : ∀ key, key ∉ managed → new.lookup key = none)
    (obeys : ∀ {invariant mayDelete}, Absorbs managed new owner invariant mayDelete →
      ∀ {world}, invariant world → Obeys invariant mayDelete
        (fun result now => result = .ok () → ∀ key ∈ managed, now owner key = new.lookup key)
        program world) :
    Converges program owner wanted := by
  intro before config trace reachable returned
  have start : Kept managed owner before before := ⟨fun _ _ => rfl, fun _ _ => rfl⟩
  obtain ⟨kept, obligation⟩ := reachable_obligation start (stable _ _)
    (fun world valid => obeys (absorbs_kept within before) valid []) reachable
  have settled := obligation _ returned _ .refl kept rfl
  constructor
  · refine ⟨fun limit member => ?_, fun key unmanaged => ?_, kept.2⟩
    · have managedKey : limit.1 ∈ managed := by
        rw [← keys]
        exact List.mem_map_of_mem member
      rw [settled _ managedKey, values limit member]
    · rw [keys] at unmanaged
      exact kept.1 key unmanaged
  · intro later reached
    have start : Unchanged config.world config.world := rfl
    obtain ⟨same, pending⟩ := reachable_obligation start (stable _ _)
      (fun world valid => obeys (absorbs_settled within settled) valid []) reached
    exact ⟨same, fun trace request next running => (pending _ running _ .refl same).1⟩

end Converges

section Limits

/-- The managed limits of a user, with the values of the spec. -/
def userLimits (user : Object .user) : List (String × Option Int) :=
  [("max-connections", user.spec.userLimits.bind (·.connections)),
    ("max-channels", user.spec.userLimits.bind (·.channels))]

/-- The managed limits of a virtual host, with the values of the spec. -/
def vhostLimits (vhost : Object .vhost) : List (String × Option Int) :=
  [("max-connections", vhost.spec.vhostLimits.bind (·.connections)),
    ("max-queues", vhost.spec.vhostLimits.bind (·.queues))]

/-- A limit that is not given leaves no entry. -/
theorem lookup_limitEntry (key name : String) (limit : Option Int) :
    (limitEntry name limit).lookup key = if key = name then limit else none := by
  cases limit with
  | none => simp [limitEntry]
  | some value =>
      rw [limitEntry, List.lookup_cons]
      by_cases same : key = name
      · rw [if_pos same, beq_iff_eq.mpr same]
      · rw [if_neg same, beq_false_of_ne same]
        rfl

/-- Two optional limits as the generators write them. -/
theorem lookup_two_limits (key first second : String) (one two : Option Int) :
    (limitEntry first one ++ limitEntry second two).lookup key =
      (if key = first then one else none).or (if key = second then two else none) := by
  rw [List.lookup_append, lookup_limitEntry, lookup_limitEntry]

/-- The limits of a user are its connections and its channels. -/
theorem lookup_generateUserLimits (limits : Option UserLimits) (key : String) :
    (generateUserLimits limits).lookup key =
      (if key = "max-connections" then limits.bind (·.connections) else none).or
        (if key = "max-channels" then limits.bind (·.channels) else none) := by
  cases limits with
  | none => simp [generateUserLimits]
  | some limits => exact lookup_two_limits ..

/-- The limits of a virtual host are its connections and its queues. -/
theorem lookup_generateVhostLimits (limits : Option VhostLimits) (key : String) :
    (generateVhostLimits limits).lookup key =
      (if key = "max-connections" then limits.bind (·.connections) else none).or
        (if key = "max-queues" then limits.bind (·.queues) else none) := by
  cases limits with
  | none => simp [generateVhostLimits]
  | some limits => exact lookup_two_limits ..

/-- A program that manages two limits. -/
theorem converges_of_two_limits {program : Prog Resource (Except GoError Unit)} {owner : Owner}
    {first second : String} {one two : Option Int} {new : LimitsValues} (distinct : first ≠ second)
    (lookup : ∀ key, new.lookup key =
      (if key = first then one else none).or (if key = second then two else none))
    (obeys : ∀ {invariant mayDelete}, Absorbs [first, second] new owner invariant mayDelete →
      ∀ {world}, invariant world → Obeys invariant mayDelete
        (fun result now => result = .ok () →
          ∀ key ∈ [first, second], now owner key = new.lookup key)
        program world) :
    Converges program owner [(first, one), (second, two)] := by
  refine converges_of_obeys [first, second] new rfl (fun limit member => ?_)
    (fun key unmanaged => ?_) obeys
  · rw [lookup]
    simp only [List.mem_cons, List.not_mem_nil, or_false] at member
    rcases member with rfl | rfl
    · simp [distinct]
    · simp [distinct.symm]
  · simp only [List.mem_cons, List.not_mem_nil, or_false, not_or] at unmanaged
    rw [lookup, if_neg unmanaged.1, if_neg unmanaged.2]
    rfl

/-- The limits of a user converge. -/
theorem converges_user (user : Object .user) (username : String) :
    Converges (UserReconciler.reconcileUserLimits user username : Prog Resource _)
      (.user username) (userLimits user) := by
  apply converges_of_two_limits (by decide) (lookup_generateUserLimits user.spec.userLimits)
  exact fun absorbs _ valid => obeys_reconcileLimits absorbs valid

/-- The limits of a virtual host converge. -/
theorem converges_vhost (vhost : Object .vhost) :
    Converges (VhostReconciler.declareFunc vhost : Prog Resource _)
      (.vhost vhost.spec.name) (vhostLimits vhost) := by
  apply converges_of_two_limits (by decide) (lookup_generateVhostLimits vhost.spec.vhostLimits)
  intro invariant mayDelete absorbs world valid
  -- the virtual host itself is put first
  have declares : Obeys invariant mayDelete (fun _ now => now = world)
      (ask (.broker (.putVhost vhost.spec.name (generateVhostSettings vhost))) :
        Prog Resource _) world :=
    obeys_ask (fun deletes => deletes.elim) fun _ _ same => ⟨same ▸ valid, same⟩
  apply declares.bind valid
  intro reply now validNow _
  split
  · exact obeys_done fun absurd => by cases absurd
  · exact obeys_reconcileLimits absorbs validNow

end Limits

/-- The limits of users and of virtual hosts converge to the spec, and nothing else
changes. -/
theorem limits_converge (Resource : Type) :
    (∀ (user : Object .user) (username : String),
      Converges (UserReconciler.reconcileUserLimits user username : Prog Resource _)
        (.user username) (userLimits user)) ∧
    ∀ vhost : Object .vhost,
      Converges (VhostReconciler.declareFunc vhost : Prog Resource _)
        (.vhost vhost.spec.name) (vhostLimits vhost) :=
  ⟨converges_user, converges_vhost⟩

section Example

/-- A user that may have three connections. -/
def limitedUser : Object .user where
  objectMeta := { name := "ops", ns := "shop" }
  spec := { userLimits := some { connections := some 3 } }

/-- The broker has a limit of channels for the user, and one that is not managed. -/
def channelsWorld : World := fun owner key =>
  if owner = .user "ops" then [("max-channels", 5), ("max-queues", 7)].lookup key else none

/-- The limit of channels is deleted, that of connections is set, and the limits have
converged. -/
theorem limitedUser_converged :
    ∃ config : Config (@Request.Answer (Object .user)) World (Except GoError Unit), ∃ trace,
      environment.Reachable (UserReconciler.reconcileUserLimits limitedUser "ops") channelsWorld
        config ∧
      config.activity = some (trace, .done (.ok ())) ∧
      Converged (.user "ops") [("max-connections", some 3), ("max-channels", none)] channelsWorld
        config.world := by
  have started : environment.Reachable (UserReconciler.reconcileUserLimits limitedUser "ops" :
      Prog (Object .user) _) channelsWorld _ := .tail .refl .start
  have read := started.answer (.ok [[("max-channels", 5), ("max-queues", 7)]])
    ⟨rfl, fun key => rfl⟩
  have deleted := read.answer (⟨some ⟨204, ""⟩, none⟩ : BrokerReply) (.inl rfl)
  have put := deleted.answer (⟨some ⟨204, ""⟩, none⟩ : BrokerReply) (.inl rfl)
  exact ⟨_, _, put, rfl, ((limits_converge (Object .user)).1 limitedUser "ops" _ _ _ put rfl).1⟩

end Example

end TopologyOperator.LimitsServer
