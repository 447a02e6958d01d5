import Mathlib.Data.List.Nodup
import TopologyOperator.Controller.Hindrances
import TopologyOperator.Encoding.Numerals

/-!
# The children in the trace of a reconcile

Every write of a builder loop writes a child as its builder makes it, and the last
event of a child shows it so: it was created, updated, or found to need no update. Before
and after the loop a reconcile makes no request about children.
-/

namespace TopologyOperator.SuperStreamServer

open Dialogue Program SuperStreamReconciler Encoding

variable {builder : Builder} {resource other : ResourceBuilder} {trace : Trace SuperStream}
  {object child mutated : Object resource.kind}

/-- The child is as its builder makes it: the fields that the builder sets are set, and
the super stream controls it. -/
structure Made (builder : Builder) (resource : ResourceBuilder) (child : Object resource.kind) :
    Prop where
  named : child.objectMeta.key = (builder.build resource).objectMeta.key
  spec : builder.updateSpec resource child.spec = child.spec
  controlled : getControllerOf child.objectMeta.ownerReferences =
    some (ownerReference builder.objectOwner)

/-- Whether a child is made is decided by its name, spec and owners. -/
theorem Made.congr (made : Made builder resource child)
    (named : object.objectMeta.key = child.objectMeta.key) (spec : object.spec = child.spec)
    (owners : object.objectMeta.ownerReferences = child.objectMeta.ownerReferences) :
    Made builder resource object where
  named := named.trans made.named
  spec := by rw [spec, made.spec]
  controlled := by rw [owners, made.controlled]

theorem Made.withVersion (made : Made builder resource child) (version : Version) :
    Made builder resource (child.withVersion version) :=
  made.congr rfl rfl rfl

/-- What `Update` sets, another `Update` leaves. -/
theorem updateSpec_updateSpec (spec : Spec resource.kind) :
    builder.updateSpec resource (builder.updateSpec resource spec) =
      builder.updateSpec resource spec := by
  cases resource <;> rfl

/-- `Update` makes the child, whatever it was before. -/
theorem made_of_update
    (named : object.objectMeta.key = (builder.build resource).objectMeta.key)
    (updated : builder.update resource object = .ok mutated) : Made builder resource mutated := by
  obtain ⟨sameKey, spec⟩ := update_eq_ok updated
  refine ⟨sameKey.trans named, by rw [spec, updateSpec_updateSpec], ?_⟩
  unfold Builder.update at updated
  split at updated
  · cases updated
  · next set =>
      cases updated
      exact setControllerReference_controller set

/-- What `Build` makes has no owner yet. -/
theorem exists_update_build (builder : Builder) (resource : ResourceBuilder) :
    ∃ child, builder.update resource (builder.build resource) = .ok child := by
  have set : ∃ owned, setControllerReference "rabbitmq.com/v1alpha1" "SuperStream"
      builder.objectOwner (builder.build resource).objectMeta = .ok owned := by
    cases resource <;> exact ⟨_, if_neg fun apart => apart.2 rfl⟩
  obtain ⟨owned, set⟩ := set
  unfold Builder.update
  rw [set]
  exact ⟨_, rfl⟩

/-- The request writes this child. -/
def Written (child : Object resource.kind) (request : Request SuperStream) : Prop :=
  request = .createObject child ∨ request = .updateObject child

/-- The slot that a request writes. -/
def slotOf : Request SuperStream → Option (Kind × NamespacedName)
  | .createObject child | .updateObject child => some (slot child)
  | _ => none

/-- Writing a child writes its slot. -/
theorem Written.slotOf {request : Request SuperStream} (written : Written child request) :
    slotOf request = some (slot child) := by
  rcases written with rfl | rfl <;> rfl

/-- The request reads a child, or writes it as it is made. -/
def Makes (builder : Builder) (resource : ResourceBuilder) (request : Request SuperStream) :
    Prop :=
  slotOf request = none ∨ ∃ child, Made builder resource child ∧ Written child request

/-- The event shows the child as it is made. -/
inductive Vouches (builder : Builder) (resource : ResourceBuilder) :
    Event (@Request.Answer SuperStream) → Prop where
  | found (child : Object resource.kind) (made : Made builder resource child)
      (key : NamespacedName) : Vouches builder resource ⟨.getObject resource.kind key, .ok child⟩
  | created (child : Object resource.kind) (made : Made builder resource child)
      (version : Version) : Vouches builder resource ⟨.createObject child, .ok version⟩
  | updated (child : Object resource.kind) (made : Made builder resource child)
      (version : Version) : Vouches builder resource ⟨.updateObject child, .ok version⟩

/-- Children that are found have the names they were asked for by. -/
def Called (trace : Trace SuperStream) : Prop :=
  ∀ event ∈ trace, CalledFor event.request event.answer

theorem called_append {first second : Trace SuperStream} :
    Called (first ++ second) ↔ Called first ∧ Called second := by
  simp only [Called, List.mem_append, or_imp, forall_and]

/-- What the trace of an attempt says about the child. -/
structure Attempts (builder : Builder) (resource : ResourceBuilder) (trace : Trace SuperStream)
    (result : Object resource.kind × Except GoError Unit) : Prop where
  named : result.1.objectMeta.key = (builder.build resource).objectMeta.key
  makes : ∀ event ∈ trace, Makes builder resource event.request
  vouched : result.2 = .ok () →
    ∃ before event, trace = before ++ [event] ∧ Vouches builder resource event

/-- An attempt that ends after its reading has written nothing. -/
theorem Attempts.of_read {reply : Except ApiError (Object resource.kind)} {key : NamespacedName}
    {result : Object resource.kind × Except GoError Unit}
    (named : result.1.objectMeta.key = (builder.build resource).objectMeta.key)
    (vouched : result.2 = .ok () →
      Vouches builder resource ⟨.getObject resource.kind key, reply⟩) :
    Attempts builder resource [⟨.getObject resource.kind key, reply⟩] result where
  named := named
  makes event member := by
    cases List.mem_singleton.mp member
    exact .inl rfl
  vouched succeeded := ⟨[], _, rfl, vouched succeeded⟩

/-- An attempt that writes has written the child as it is made. -/
theorem Attempts.of_write {reply : Except ApiError (Object resource.kind)} {key : NamespacedName}
    {event : Event (@Request.Answer SuperStream)}
    {result : Object resource.kind × Except GoError Unit} (made : Made builder resource mutated)
    (written : Written mutated event.request)
    (named : result.1.objectMeta.key = mutated.objectMeta.key)
    (vouched : result.2 = .ok () → Vouches builder resource event) :
    Attempts builder resource [⟨.getObject resource.kind key, reply⟩, event] result where
  named := named.trans made.named
  makes other member := by
    rcases List.mem_cons.mp member with rfl | last
    · exact .inl rfl
    · cases List.mem_singleton.mp last
      exact .inr ⟨mutated, made, written⟩
  vouched succeeded := ⟨[_], event, rfl, vouched succeeded⟩

/-- One attempt reads the child and then writes it as it is made, if at all. -/
theorem createOrUpdate_attempts {result : Object resource.kind × Except GoError Unit}
    (named : object.objectMeta.key = (builder.build resource).objectMeta.key)
    (called : Called trace)
    (exec : (createOrUpdate (objectClient resource.kind) (builder.update resource) object).Exec
      trace (.done result)) : Attempts builder resource trace result := by
  cases childRun_of_exec exec with
  | unread err => exact .of_read named fun succeeded => by cases succeeded
  | unmade missing err => exact .of_read named fun succeeded => by cases succeeded
  | created missing child updated answer =>
      have made := made_of_update named updated
      cases answer with
      | error err => exact .of_write made (.inl rfl) rfl fun succeeded => by cases succeeded
      | ok version => exact .of_write made (.inl rfl) rfl fun _ => .created child made version
  | unmutated existing err =>
      have here : existing.objectMeta.key = object.objectMeta.key := called _ List.mem_cons_self
      exact .of_read (here.trans named) fun succeeded => by cases succeeded
  | unchanged existing updated =>
      have here : existing.objectMeta.key = object.objectMeta.key := called _ List.mem_cons_self
      have made := made_of_update (here.trans named) updated
      exact .of_read made.named fun _ => .found existing made _
  | updated existing child updated answer =>
      have here : existing.objectMeta.key = object.objectMeta.key := called _ List.mem_cons_self
      have made := made_of_update (here.trans named) updated
      cases answer with
      | error err => exact .of_write made (.inr rfl) rfl fun succeeded => by cases succeeded
      | ok version => exact .of_write made (.inr rfl) rfl fun _ => .updated child made version

/-- So do the attempts after a conflict, all on the same name. -/
theorem retryOnConflict_attempts {retries : Nat}
    {result : Object resource.kind × Except GoError Unit}
    (named : object.objectMeta.key = (builder.build resource).objectMeta.key)
    (called : Called trace)
    (exec : (retryOnConflict (createOrUpdate (objectClient resource.kind) (builder.update resource))
      retries object).Exec trace (.done result)) : Attempts builder resource trace result := by
  induction retries generalizing object trace with
  | zero => exact createOrUpdate_attempts named called exec
  | succ retries ih =>
      rcases retryOnConflict_succ exec with last | ⟨kept, err, first, rest, rfl, attempt, -, retry⟩
      · exact createOrUpdate_attempts named called last
      · obtain ⟨calledFirst, calledRest⟩ := called_append.mp called
        have attempted := createOrUpdate_attempts named calledFirst attempt
        have later := ih attempted.named calledRest retry
        refine ⟨later.named, fun event member => ?_, fun succeeded => ?_⟩
        · rcases List.mem_append.mp member with earlier | last
          · exact attempted.makes event earlier
          · exact later.makes event last
        · obtain ⟨before, event, rfl, vouches⟩ := later.vouched succeeded
          exact ⟨first ++ before, event, (List.append_assoc ..).symm, vouches⟩

/-- So does the creation of a child, which starts from what `Build` makes. -/
theorem createChild_attempts {result : Object resource.kind × Except GoError Unit}
    (called : Called trace) (exec : (createChild builder resource).Exec trace (.done result)) :
    Attempts builder resource trace result :=
  retryOnConflict_attempts rfl called exec

/-- At some point of the trace the child is as it is made, and each request after it
reads a child, or writes one of the given builders as it is made. -/
def VouchedIn (builder : Builder) (resources : List ResourceBuilder) (resource : ResourceBuilder)
    (trace : Trace SuperStream) : Prop :=
  ∃ before event after, trace = before ++ event :: after ∧ Vouches builder resource event ∧
    ∀ later ∈ after, ∃ other ∈ resources, Makes builder other later.request

/-- A loop that ends vouches for all its children. -/
theorem createChildren_vouched {resources : List ResourceBuilder} {collected names : List String}
    (called : Called trace)
    (exec : (createChildren builder resources collected).Exec trace (.done (.ok names))) :
    (∀ event ∈ trace, ∃ other ∈ resources, Makes builder other event.request) ∧
      ∀ resource ∈ resources, VouchedIn builder resources resource trace := by
  induction resources generalizing collected trace with
  | nil =>
      obtain ⟨rfl, -⟩ := exec
      exact ⟨fun _ none => (by cases none), fun _ none => (by cases none)⟩
  | cons resource rest ih =>
      obtain ⟨⟨child, outcome⟩, first, later, rfl, created, goes⟩ := exec_bind_done.mp exec
      obtain ⟨calledFirst, calledLater⟩ := called_append.mp called
      cases outcome with
      | error err => cases goes.2
      | ok =>
          have attempted := createChild_attempts calledFirst created
          obtain ⟨makes, vouched⟩ := ih calledLater goes
          have makesLater : ∀ event ∈ later,
              ∃ other ∈ resource :: rest, Makes builder other event.request := by
            intro event member
            obtain ⟨other, within, made⟩ := makes event member
            exact ⟨other, .tail _ within, made⟩
          constructor
          · intro event member
            rcases List.mem_append.mp member with earlier | last
            · exact ⟨resource, .head _, attempted.makes event earlier⟩
            · exact makesLater event last
          · intro other member
            rcases List.mem_cons.mp member with rfl | within
            · obtain ⟨before, event, rfl, vouches⟩ := attempted.vouched rfl
              exact ⟨before, event, later, by rw [List.append_assoc]; rfl, vouches, makesLater⟩
            · obtain ⟨before, event, after, rfl, vouches, respects⟩ := vouched other within
              refine ⟨first ++ before, event, after, (List.append_assoc ..).symm, vouches, ?_⟩
              intro last member
              obtain ⟨maker, found, made⟩ := respects last member
              exact ⟨maker, .tail _ found, made⟩

theorem createOrUpdate_returns (object : Object resource.kind) :
    (createOrUpdate (objectClient resource.kind) (builder.update resource) object).Returns :=
  returns_createOrUpdate (fun _ => returns_ask _) (fun _ => returns_ask _) (fun _ => returns_ask _)
    _ _

/-- The builder loop never panics. -/
theorem createChildren_returns (resources : List ResourceBuilder) (collected : List String) :
    (createChildren builder resources collected).Returns := by
  induction resources generalizing collected with
  | nil => trivial
  | cons resource rest ih =>
      refine (returns_retryOnConflict createOrUpdate_returns ..).bind fun result => ?_
      split
      · trivial
      · exact ih _

/-- The builders are those of the exchange, and of a partition and a binding for each
routing key. -/
theorem mem_builders {routingKeys : List String} :
    resource ∈ builders routingKeys ↔ resource = .superStreamExchange ∨
      ∃ index routingKey, routingKeys[index]? = some routingKey ∧
        (resource = .superStreamPartition index routingKey ∨
          resource = .superStreamBinding index routingKey) := by
  rw [builders, List.mem_cons, List.mem_flatMap]
  apply or_congr Iff.rfl
  constructor
  · rintro ⟨⟨routingKey, index⟩, entry, built⟩
    refine ⟨index, routingKey, List.mem_zipIdx_iff_getElem?.mp entry, ?_⟩
    simpa using built
  · rintro ⟨index, routingKey, found, built⟩
    refine ⟨(routingKey, index), List.mem_zipIdx_iff_getElem?.mpr found, ?_⟩
    simpa using built

/-- A reconcile builds no child twice. -/
theorem nodup_builders (routingKeys : List String) : (builders routingKeys).Nodup := by
  have indices : (routingKeys.zipIdx.map Prod.snd).Nodup := by
    rw [List.zipIdx_map_snd]
    exact List.nodup_range'
  refine List.nodup_cons.mpr ⟨fun member => ?_, List.nodup_flatMap.mpr ⟨fun _ _ => ?_, ?_⟩⟩
  · obtain ⟨pair, -, listed⟩ := List.mem_flatMap.mp member
    simp at listed
  · simp
  · refine (List.pairwise_map.mp indices).imp fun different resource member other => different ?_
    simp only [List.mem_cons, List.not_mem_nil, or_false] at member other
    rcases member with rfl | rfl <;> rcases other with same | same
    · exact (ResourceBuilder.superStreamPartition.inj same).1
    · cases same
    · cases same
    · exact (ResourceBuilder.superStreamBinding.inj same).1

/-- No two builders of a reconcile write the same child. -/
theorem builders_eq_of_slot {routingKeys : List String} (member : resource ∈ builders routingKeys)
    (otherMember : other ∈ builders routingKeys)
    (same : slot (builder.build resource) = slot (builder.build other)) : resource = other := by
  obtain ⟨kinds, keys⟩ := Prod.mk.inj same
  rcases mem_builders.mp member with rfl | ⟨index, routingKey, found, rfl | rfl⟩ <;>
    rcases mem_builders.mp otherMember with rfl | ⟨position, held, there, rfl | rfl⟩
  case inl.inl => rfl
  case inr.inl.inr.inl =>
    cases partitionKey_injective builder.objectOwner.key keys
    cases found.symm.trans there
    rfl
  case inr.inr.inr.inr =>
    cases bindingKey_injective builder.objectOwner.key keys
    cases found.symm.trans there
    rfl
  all_goals cases kinds

section Exit

variable {key : NamespacedName} {superStream read : SuperStream} {names : List String}
  {result : Result × Option GoError}

/-- The request writes no child, and a status only with these partitions. -/
def Records (names : List String) (request : Request SuperStream) : Prop :=
  slotOf request = none ∧
    ∀ written, request = .updateStatus written → written.status.partitions = names

/-- An attempt to store the status leaves the recorded partitions in memory. -/
theorem updateStatus_keeps (state : SuperStream) (trace : Trace SuperStream)
    (result : SuperStream × Except GoError Unit) (recorded : state.status.partitions = names)
    (exec : (SuperStreamReconciler.updateStatus state).Exec trace (.done result)) :
    result.1.status.partitions = names := by
  obtain ⟨reply, rest, -, ends⟩ := exec
  cases reply with
  | error err =>
      cases ends.2
      exact recorded
  | ok version =>
      cases ends.2
      exact recorded

/-- Every attempt to store the status writes the partitions in memory. -/
theorem storeStatus_records (recorded : superStream.status.partitions = names) :
    (storeStatus superStream).Calls (Records names) := by
  refine Calls.bind (retryOnConflict_calls (fun state holds => ?_) updateStatus_keeps _ _ recorded)
    fun _ => trivial
  refine ⟨⟨rfl, fun written same => ?_⟩, fun reply => ?_⟩
  · cases same
    exact holds
  · cases reply <;> trivial

/-- Storing the status leaves the recorded partitions in memory. -/
theorem storeStatus_keeps (recorded : superStream.status.partitions = names)
    {trace : Trace SuperStream} {result : SuperStream}
    (exec : (storeStatus superStream).Exec trace (.done result)) :
    result.status.partitions = names := by
  obtain ⟨attempted, first, rest, rfl, stored, ends⟩ := exec_bind_done.mp exec
  cases ends.2
  exact retryOnConflict_keeps updateStatus_keeps recorded stored

/-- The success exit writes the status with the partitions it has. -/
theorem setReconcileSuccess_records {condition : Condition}
    (recorded : superStream.status.partitions = names) :
    (setReconcileSuccess superStream condition).Calls (Records names) := by
  refine Calls.bind (storeStatus_records ?_) fun _ => trivial
  exact recorded

/-- The requests of a reconcile after its builder loop. -/
structure Concludes (names : List String) (result : Result × Option GoError)
    (rest : Trace SuperStream) : Prop where
  returned : result = ({}, none)
  records : ∀ event ∈ rest, Records names event.request
  recorded : ∃ written reply, (⟨.updateStatus written, reply⟩ : Event _) ∈ rest

variable {rmqClusterRef : RabbitmqClusterReference} {routingKeys : List String}
  {loop resolved suffix : Trace SuperStream}

/-- After a loop that ended, the status is written with the names that were collected. -/
theorem reconcileChildren_concludes
    (looped : (builderLoop read rmqClusterRef routingKeys).Exec loop (.done (.ok names)))
    (exec : (reconcileChildren read rmqClusterRef routingKeys).Exec (loop ++ suffix)
      (.done result)) : Concludes names result suffix := by
  obtain ⟨outcome, first, rest, split, created, concluding⟩ := exec_bind_done.mp exec
  obtain ⟨rfl, same⟩ := Exec.unique looped created split
  cases same
  cases List.append_cancel_left split
  have recorded : ({ read with status := { read.status with partitions := names } } :
      SuperStream).status.partitions = names := rfl
  obtain ⟨stored, storing, rest, rfl, storedExec, later⟩ := exec_bind_done.mp concluding
  have kept := storeStatus_keeps recorded storedExec
  obtain ⟨condition, timing, rest, rfl, timed, last⟩ := exec_bind_done.mp later
  obtain ⟨_, finishing, rest, rfl, finished, returns⟩ := exec_bind_done.mp last
  obtain ⟨rfl, returns⟩ := returns
  cases returns
  refine ⟨rfl, fun event member => ?_, ?_⟩
  · rw [List.append_nil, List.mem_append, List.mem_append] at member
    rcases member with stores | times | finishes
    · exact (storeStatus_records recorded).of_exec storedExec event stores
    · refine (ready_calls ?_ _).of_exec timed event times
      exact ⟨rfl, fun written same => by cases same⟩
    · exact (setReconcileSuccess_records kept).of_exec finished event finishes
  · obtain ⟨reply, others, attempted, -⟩ := storedExec
    refine ⟨_, reply, List.mem_append_left _ ?_⟩
    rw [attempted]
    exact List.mem_cons_self

/-- A reconcile whose builder loop has ended returns from its success exit. -/
theorem concludes_of_loopEnded (exec : (reconcile key).Exec trace (.done result))
    (ended : LoopEnded key trace read names) :
    ∃ resolved loop rest rmqClusterRef routingKeys,
      trace = ⟨.get key, .ok read⟩ :: (resolved ++ (loop ++ rest)) ∧
      (resolution read).Exec resolved (.done (.ok rmqClusterRef)) ∧
      keysFor read = some routingKeys ∧
      (builderLoop read rmqClusterRef routingKeys).Exec loop (.done (.ok names)) ∧
      Concludes names result rest := by
  obtain ⟨resolved, loop, rest, rmqClusterRef, routingKeys, rfl, resolves, keyed, looped⟩ := ended
  refine ⟨resolved, loop, rest, rmqClusterRef, routingKeys, rfl, resolves, keyed, looped, ?_⟩
  obtain ⟨reply, others, same, remaining⟩ := exec
  cases same
  change ((resolution read).bind _).Exec _ _ at remaining
  obtain ⟨outcome, first, later, split, resolving, goes⟩ := exec_bind_done.mp remaining
  obtain ⟨rfl, reference⟩ := Exec.unique resolves resolving split
  cases reference
  cases List.append_cancel_left split
  apply reconcileChildren_concludes looped
  obtain ⟨grows, ⟨generated, rfl⟩ | ⟨given, length, rfl⟩⟩ := keysFor_cases keyed
  · simpa only [if_neg grows, if_pos generated] using goes
  · simpa only [if_neg grows, if_neg given, if_neg (not_not.mpr length)] using goes

end Exit

section Aside

variable {key : NamespacedName} {superStream read : SuperStream}
  {rmqClusterRef : RabbitmqClusterReference} {routingKeys : List String}
  {outcome : Outcome (Result × Option GoError)}

/-- Requests that are not about children. -/
def Aside (request : Request SuperStream) : Prop := ¬ ChildRequest request

/-- The super stream under another version and another status. -/
structure Identified (read written : SuperStream) : Prop where
  name : written.objectMeta.name = read.objectMeta.name
  ns : written.objectMeta.ns = read.objectMeta.ns
  uid : written.objectMeta.uid = read.objectMeta.uid
  spec : written.spec = read.spec

/-- The super stream under another version and with other conditions. -/
structure Restated (read written : SuperStream) : Prop extends Identified read written where
  partitions : written.status.partitions = read.status.partitions

theorem Identified.trans {first second third : SuperStream} (left : Identified first second)
    (right : Identified second third) : Identified first third :=
  ⟨right.name.trans left.name, right.ns.trans left.ns, right.uid.trans left.uid,
    right.spec.trans left.spec⟩

theorem Identified.symm {first second : SuperStream} (same : Identified first second) :
    Identified second first :=
  ⟨same.name.symm, same.ns.symm, same.uid.symm, same.spec.symm⟩

theorem Restated.refl (superStream : SuperStream) : Restated superStream superStream :=
  ⟨⟨rfl, rfl, rfl, rfl⟩, rfl⟩

theorem Restated.trans {first second third : SuperStream} (left : Restated first second)
    (right : Restated second third) : Restated first third :=
  ⟨left.toIdentified.trans right.toIdentified, right.partitions.trans left.partitions⟩

/-- The request is not about children, and a super stream that it writes is as required. -/
def Restates (required : SuperStream → Prop) (request : Request SuperStream) : Prop :=
  Aside request ∧ ∀ written, request = .update written ∨ request = .updateStatus written →
    required written

section Restates

variable {required : SuperStream → Prop}

/-- A request that only observes writes nothing. -/
theorem restates_of_observes {request : Request SuperStream} (aside : Aside request)
    (observes : request.observes = true) : Restates required request := by
  refine ⟨aside, ?_⟩
  rintro written (rfl | rfl) <;> cases observes

variable (blind : ∀ first second, Restated first second → required first → required second)
include blind

/-- An attempt to store the status changes nothing but the version in memory. -/
theorem updateStatus_required (state : SuperStream) (trace : Trace SuperStream)
    (result : SuperStream × Except GoError Unit) (holds : required state)
    (exec : (SuperStreamReconciler.updateStatus state).Exec trace (.done result)) :
    required result.1 := by
  obtain ⟨reply, rest, -, ends⟩ := exec
  cases reply with
  | error err =>
      cases ends.2
      exact holds
  | ok version =>
      cases ends.2
      exact blind state _ ⟨⟨rfl, rfl, rfl, rfl⟩, rfl⟩ holds

/-- Storing a status writes nothing but what is in memory. -/
theorem storeStatus_restates (holds : required superStream) :
    (storeStatus superStream).Calls (Restates required) := by
  have attempts : ∀ state : SuperStream, required state →
      (SuperStreamReconciler.updateStatus state).Calls (Restates required) := by
    intro state holds
    refine calls_ask_bind ⟨id, ?_⟩ fun answer => by split <;> trivial
    rintro written (same | same)
    · cases same
    · cases same
      exact holds
  exact (retryOnConflict_calls attempts (updateStatus_required blind) _ _ holds).bind
    fun _ => trivial

/-- Storing a status changes nothing but the version in memory. -/
theorem storeStatus_required {result : SuperStream} (holds : required superStream)
    (exec : (storeStatus superStream).Exec trace (.done result)) : required result := by
  obtain ⟨attempted, first, rest, rfl, stored, ends⟩ := exec_bind_done.mp exec
  cases ends.2
  exact retryOnConflict_keeps (updateStatus_required blind) holds stored

/-- The success exit changes conditions and the observed generation only. -/
theorem setReconcileSuccess_restates (holds : required superStream) (condition : Condition) :
    (setReconcileSuccess superStream condition).Calls (Restates required) := by
  have stated : required { superStream with status := { superStream.status with
      conditions := [condition]
      observedGeneration := superStream.objectMeta.generation } } :=
    blind superStream _ ⟨⟨rfl, rfl, rfl, rfl⟩, rfl⟩ holds
  exact (storeStatus_restates blind stated).bind fun _ => trivial

/-- So does the exit of a super stream that is not ready. -/
theorem setNotReady_restates (holds : required superStream) (msg : String) :
    (setNotReady superStream msg).Calls (Restates required) :=
  (notReady_calls (restates_of_observes id rfl) ..).bind fun _ =>
    setReconcileSuccess_restates blind holds _

/-- A failed resolution leads to no request about children. -/
theorem handleRMQReferenceParseError_restates (holds : required superStream) {err : GoError} :
    (SuperStreamReconciler.handleRMQReferenceParseError superStream err).Calls
      (Restates required) := by
  unfold SuperStreamReconciler.handleRMQReferenceParseError
  split
  · refine calls_ask_bind (restates_of_observes id rfl) fun _ =>
      Calls.bind (calls_ask_bind ⟨id, ?_⟩ fun answer => by split <;> trivial) fun _ => trivial
    rintro written (same | same)
    · cases same
      exact blind superStream _ ⟨⟨rfl, rfl, rfl, rfl⟩, rfl⟩ holds
    · cases same
  split
  · trivial
  split
  · refine (notReady_calls (restates_of_observes id rfl) ..).bind fun condition =>
      (storeStatus_restates blind ?_).bind fun _ => trivial
    exact blind superStream _ ⟨⟨rfl, rfl, rfl, rfl⟩, rfl⟩ holds
  · trivial

end Restates

/-- The runs of a reconcile without a builder loop: nothing is read, the cluster reference
is not resolved, or there are no routing keys to work with. -/
inductive Skips (key : NamespacedName) :
    Trace SuperStream → Outcome (Result × Option GoError) → Prop where
  | unread (err : ApiError) :
      Skips key [⟨.get key, .error err⟩] (.done ({}, (GoError.api err).ignoreNotFound))
  | unresolved (read : SuperStream) (err : GoError) {resolved rest : Trace SuperStream}
      {outcome : Outcome (Result × Option GoError)}
      (resolves : (resolution read).Exec resolved (.done (.error err)))
      (restates : ∀ event ∈ rest, Restates (Restated read) event.request) :
      Skips key (⟨.get key, .ok read⟩ :: (resolved ++ rest)) outcome
  | unkeyed (read : SuperStream) (rmqClusterRef : RabbitmqClusterReference)
      {resolved rest : Trace SuperStream} {outcome : Outcome (Result × Option GoError)}
      (resolves : (resolution read).Exec resolved (.done (.ok rmqClusterRef)))
      (unkeyed : keysFor read = none)
      (restates : ∀ event ∈ rest, Restates (Restated read) event.request) :
      Skips key (⟨.get key, .ok read⟩ :: (resolved ++ rest)) outcome

/-- The opening of a reconcile is not about children. -/
theorem resolution_aside {resolved : Trace SuperStream}
    {result : Except GoError RabbitmqClusterReference}
    (resolves : (resolution read).Exec resolved (.done result)) :
    ∀ event ∈ ⟨.get key, .ok read⟩ :: resolved, Aside event.request := by
  have aside : (resolution read).Calls Aside := resolution_calls (fun _ => id) read
  exact List.forall_mem_cons.mpr ⟨id, aside.of_exec resolves⟩

/-- A run without a builder loop is not about children. -/
theorem Skips.aside (skips : Skips key trace outcome) : ∀ event ∈ trace, Aside event.request := by
  cases skips with
  | unread err => exact List.forall_mem_cons.mpr ⟨id, fun _ none => by cases none⟩
  | unresolved read err resolves restates | unkeyed read _ resolves _ restates =>
      rw [← List.cons_append]
      exact List.forall_mem_append.mpr
        ⟨resolution_aside resolves, fun event member => (restates event member).1⟩

/-- The run of a reconcile around its builder loop, of which all requests about children
are. -/
structure Loops (key : NamespacedName) (trace : Trace SuperStream)
    (outcome : Outcome (Result × Option GoError)) (read : SuperStream)
    (before loop rest : Trace SuperStream) (rmqClusterRef : RabbitmqClusterReference)
    (routingKeys : List String)
    (ended : Outcome (Except (ResourceBuilder × GoError) (List String))) : Prop where
  split : trace = before ++ (loop ++ rest)
  opened : ∃ resolved, before = ⟨.get key, .ok read⟩ :: resolved ∧
    (resolution read).Exec resolved (.done (.ok rmqClusterRef))
  keyed : keysFor read = some routingKeys
  exec : (builderLoop read rmqClusterRef routingKeys).Exec loop ended
  rest : ∀ event ∈ rest, Restates (Identified read) event.request
  returned : ∀ result, outcome = .done result → result.2 = none →
    ∃ names, ended = .done (.ok names)

section Loops

variable {before loop rest : Trace SuperStream}
  {ended : Outcome (Except (ResourceBuilder × GoError) (List String))}

theorem Loops.opening_aside
    (looped : Loops key trace outcome read before loop rest rmqClusterRef routingKeys ended) :
    ∀ event ∈ before, Aside event.request := by
  obtain ⟨resolved, rfl, resolves⟩ := looped.opened
  exact resolution_aside resolves

/-- A request about children is made in the builder loop. -/
theorem Loops.mem_loop
    (looped : Loops key trace outcome read before loop rest rmqClusterRef routingKeys ended)
    {event : Event (@Request.Answer SuperStream)} (member : event ∈ trace)
    (near : ¬ Aside event.request) : event ∈ loop := by
  rw [looped.split, List.mem_append, List.mem_append] at member
  rcases member with early | within | late
  · exact absurd (looped.opening_aside event early) near
  · exact within
  · exact absurd (looped.rest event late).1 near

end Loops

/-- All requests about children are made in the builder loop, and success means that the
loop has ended. -/
theorem reconcileChildren_loops
    (exec : (reconcileChildren superStream rmqClusterRef routingKeys).Exec trace outcome) :
    ∃ loop rest ended, trace = loop ++ rest ∧
      (builderLoop superStream rmqClusterRef routingKeys).Exec loop ended ∧
      (∀ event ∈ rest, Restates (Identified superStream) event.request) ∧
      ∀ result, outcome = .done result → result.2 = none → ∃ names, ended = .done (.ok names) := by
  have blind : ∀ first second, Restated first second → Identified superStream first →
      Identified superStream second := fun _ _ restated same => same.trans restated.toIdentified
  have same : ∀ status, Identified superStream { superStream with status := status } :=
    fun _ => ⟨rfl, rfl, rfl, rfl⟩
  rcases exec_bind.mp exec with ⟨result, loop, rest, rfl, looped, goes⟩ | ⟨aborted, rfl⟩
  · refine ⟨loop, rest, _, rfl, looped, ?_⟩
    cases result with
    | error failure =>
        constructor
        · refine Calls.of_exec ?_ goes
          exact (setNotReady_restates blind (same superStream.status) _).bind fun _ => trivial
        · rintro result rfl succeeded
          obtain ⟨_, _, _, -, -, -, ends⟩ := exec_bind_done.mp goes
          cases ends
          cases succeeded
    | ok names =>
        refine ⟨?_, fun _ _ _ => ⟨names, rfl⟩⟩
        refine Calls.of_exec ?_ goes
        refine Calls.bind_of_exec (storeStatus_restates blind (same _)) fun stored events exec => ?_
        have held := storeStatus_required blind (same _) exec
        exact (ready_calls (restates_of_observes id rfl) ..).bind fun _ =>
          (setReconcileSuccess_restates blind held _).bind fun _ => trivial
  · exact ⟨trace, [], _, (List.append_nil _).symm, aborted, fun _ none => (by cases none),
      fun _ same => by cases same⟩

/-- A reconcile skips its builder loop, or runs it. -/
theorem skips_or_loops (exec : (reconcile key).Exec trace outcome) :
    Skips key trace outcome ∨ ∃ read before loop rest rmqClusterRef routingKeys ended,
      Loops key trace outcome read before loop rest rmqClusterRef routingKeys ended := by
  obtain ⟨reply, later, rfl, remaining⟩ := exec
  cases reply with
  | error err =>
      obtain ⟨rfl, rfl⟩ := remaining
      exact .inl (.unread err)
  | ok read =>
      have blind : ∀ first second, Restated first second → Restated read first →
          Restated read second := fun _ _ restated same => same.trans restated
      have restates := setNotReady_restates blind (.refl read) (failedToReconcile read)
      change ((resolution read).bind _).Exec _ _ at remaining
      rcases exec_bind.mp remaining with ⟨result, resolved, rest, rfl, resolving, goes⟩ |
        ⟨aborted, -⟩
      · cases result with
        | error err =>
            refine .inl (.unresolved read err resolving ?_)
            exact (handleRMQReferenceParseError_restates blind (.refl read)).of_exec goes
        | ok rmqClusterRef =>
            have loops : ∀ routingKeys, keysFor read = some routingKeys →
                (reconcileChildren read rmqClusterRef routingKeys).Exec rest outcome →
                ∃ read' before loop last rmqClusterRef routingKeys ended,
                  Loops key (⟨.get key, .ok read⟩ :: (resolved ++ rest)) outcome read' before loop
                    last rmqClusterRef routingKeys ended := by
              intro routingKeys keyed exec
              obtain ⟨loop, last, ended, rfl, looped, after, returned⟩ :=
                reconcileChildren_loops exec
              exact ⟨read, _, loop, last, rmqClusterRef, routingKeys, ended, rfl,
                ⟨resolved, rfl, resolving⟩, keyed, looped, after, returned⟩
            have skips : ∀ {program : Prog SuperStream (Result × Option GoError)},
                keysFor read = none → program.Exec rest outcome →
                program.Calls (Restates (Restated read)) →
                Skips key (⟨.get key, .ok read⟩ :: (resolved ++ rest)) outcome :=
              fun unkeyed exec calls =>
                .unkeyed read rmqClusterRef resolving unkeyed (calls.of_exec exec)
            simp only at goes
            split at goes
            · next shrinks =>
                refine .inl (skips (if_pos shrinks) goes ?_)
                exact calls_ask_bind (restates_of_observes id rfl) fun _ =>
                  restates.bind fun _ => trivial
            next grows =>
            split at goes
            · next generated =>
                exact .inr (loops _ (by rw [keysFor, if_neg grows, if_pos generated]) goes)
            next given =>
            split at goes
            · next mismatched =>
                refine .inl (skips ?_ goes (restates.bind fun _ => trivial))
                rw [keysFor, if_neg grows, if_neg given, if_pos mismatched]
            · next matched =>
                exact .inr (loops _
                  (by rw [keysFor, if_neg grows, if_neg given, if_neg matched]) goes)
      · have returns : (resolution read).Returns := by
          refine returns_ask_bind fun answer => ?_
          split
          · trivial
          · split <;> trivial
        obtain ⟨value, ended⟩ := returns_iff.mp returns _ _ aborted
        cases ended

end Aside

end TopologyOperator.SuperStreamServer
