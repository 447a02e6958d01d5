import TopologyOperator.ApiServer.StoredSuperStream
import TopologyOperator.Controller.Footprint
import TopologyOperator.Controller.SuperStream

/-!
# Obligations of a super stream reconcile

How the obligation on a super stream reconcile splits into the obligations on its
parts: the builder loop, the status writes of a reconcile that has not ended its
loop, and those of a reconcile that has. The rules of a status write are the same
for all of them, and are stated once.
-/

namespace TopologyOperator.SuperStreamServer

open Dialogue Program Environment ApiServer SuperStreamReconciler

variable {permitted : SuperStream → SuperStream → Prop} {invariant : World → Prop}
  {guard : World → Trace SuperStream → Request SuperStream → Prop}
  {ready recorded : SuperStream → World → Prop} {world after : World} {trace : Trace SuperStream}

/-- A request that only observes leaves the world as it is. -/
theorem answers_of_observes {request : Request SuperStream} {reply : request.Answer}
    (observes : request.observes = true) (answered : Answers world request reply after) :
    after = world := by
  cases request with
  | update | updateStatus | createObject | updateObject => cases observes
  | get | getObject => exact answered.1
  | _ => exact answered

/-- The routing keys that a reconcile works with; there are none if it refuses to
scale down or if their number is not the number of partitions. -/
def keysFor (superStream : SuperStream) : Option (List String) :=
  if superStream.spec.partitions < superStream.status.partitions.length then none
  else if superStream.spec.routingKeys = [] then some (generateRoutingKeys superStream)
  else if superStream.spec.routingKeys.length ≠ superStream.spec.partitions then none
  else some superStream.spec.routingKeys

/-- A reconcile that works does not scale down, and generates the keys or has one for
each partition. -/
theorem keysFor_cases {superStream : SuperStream} {routingKeys : List String}
    (keyed : keysFor superStream = some routingKeys) :
    ¬ superStream.spec.partitions < superStream.status.partitions.length ∧
      (superStream.spec.routingKeys = [] ∧ routingKeys = generateRoutingKeys superStream ∨
        superStream.spec.routingKeys ≠ [] ∧
          superStream.spec.routingKeys.length = superStream.spec.partitions ∧
          routingKeys = superStream.spec.routingKeys) := by
  unfold keysFor at keyed
  split at keyed
  · cases keyed
  next grows =>
  refine ⟨grows, ?_⟩
  split at keyed
  · next generated => exact .inl ⟨generated, (Option.some.inj keyed).symm⟩
  next given =>
  split at keyed
  · cases keyed
  · next equal => exact .inr ⟨given, not_not.mp equal, (Option.some.inj keyed).symm⟩

/-- The builder loop of a reconcile. -/
def builderLoop (read : SuperStream) (rmqClusterRef : RabbitmqClusterReference)
    (routingKeys : List String) :
    Prog SuperStream (Except (ResourceBuilder × GoError) (List String)) :=
  createChildren ⟨read.objectMeta, read.spec.vhost, rmqClusterRef⟩ (builders routingKeys) []

/-- The resolution of the cluster reference of a super stream. -/
def resolution (read : SuperStream) :
    Prog SuperStream (Except GoError RabbitmqClusterReference) :=
  getRabbitmqClusterReference read.spec.rabbitmqClusterReference read.objectMeta.ns

/-- Resolving the reference reads the cluster and nothing else. -/
theorem resolution_calls {allowed : Request SuperStream → Prop}
    (reads : ∀ key, allowed (.getRabbitmqCluster key)) (read : SuperStream) :
    (resolution read).Calls allowed := by
  refine calls_ask_bind (reads _) fun answer => ?_
  split
  · trivial
  · split <;> trivial

/-- The resolution reads the cluster, and succeeds if the super stream may use it. -/
theorem resolution_exec {read : SuperStream} {cluster : RabbitmqCluster}
    (allowed : allowedNamespace read.spec.rabbitmqClusterReference read.objectMeta.ns cluster =
      true) :
    (resolution read).Exec [⟨.getRabbitmqCluster
        ⟨read.spec.rabbitmqClusterReference.connectionSecretNamespace read.objectMeta.ns,
          read.spec.rabbitmqClusterReference.name⟩, .ok cluster⟩]
      (.done (.ok { name := read.spec.rabbitmqClusterReference.name
                    ns := read.spec.rabbitmqClusterReference.connectionSecretNamespace
                      read.objectMeta.ns })) := by
  refine ⟨.ok cluster, [], rfl, ?_⟩
  simp only [done_bind, if_pos allowed]
  exact ⟨rfl, rfl⟩

/-- After the trace, the reconcile that read the super stream has ended its builder
loop and collected the names. -/
def LoopEnded (key : NamespacedName) (trace : Trace SuperStream) (read : SuperStream)
    (names : List String) : Prop :=
  ∃ resolved loop rest rmqClusterRef routingKeys,
    trace = ⟨.get key, .ok read⟩ :: (resolved ++ (loop ++ rest)) ∧
      (resolution read).Exec resolved (.done (.ok rmqClusterRef)) ∧
      keysFor read = some routingKeys ∧
      (builderLoop read rmqClusterRef routingKeys).Exec loop (.done (.ok names))

/-- However the trace goes on, no builder loop has ended. -/
def NoLoopEnds (key : NamespacedName) (trace : Trace SuperStream) : Prop :=
  ∀ suffix read names, ¬ LoopEnded key (trace ++ suffix) read names

/-- Where no loop can end, none ends later. -/
theorem NoLoopEnds.append {key : NamespacedName} (never : NoLoopEnds key trace)
    (suffix : Trace SuperStream) : NoLoopEnds key (trace ++ suffix) := by
  intro more read names
  rw [List.append_assoc]
  exact never (suffix ++ more) read names

section LoopEnded

variable {key : NamespacedName} {read : SuperStream} {resolved : Trace SuperStream}

/-- A loop that has ended is the one for the super stream that was read. -/
theorem LoopEnded.of_read {suffix : Trace SuperStream} {other : SuperStream} {names : List String}
    (ended : LoopEnded key (⟨.get key, .ok read⟩ :: suffix) other names) :
    ∃ resolved loop rest rmqClusterRef routingKeys, suffix = resolved ++ (loop ++ rest) ∧
      (resolution read).Exec resolved (.done (.ok rmqClusterRef)) ∧
      keysFor read = some routingKeys ∧
      (builderLoop read rmqClusterRef routingKeys).Exec loop (.done (.ok names)) := by
  obtain ⟨resolved, loop, rest, rmqClusterRef, routingKeys, split, resolves, keyed, exec⟩ := ended
  obtain ⟨event, later⟩ := List.cons.inj split
  cases event
  exact ⟨resolved, loop, rest, rmqClusterRef, routingKeys, later, resolves, keyed, exec⟩

/-- Without a reference there is no loop. -/
theorem noLoopEnds_of_error {err : GoError}
    (failed : (resolution read).Exec resolved (.done (.error err))) :
    NoLoopEnds key (⟨.get key, .ok read⟩ :: resolved) := by
  intro suffix other names ended
  obtain ⟨_, _, _, _, _, same, resolves, _⟩ := ended.of_read
  cases (Exec.unique failed resolves same).2

/-- Without routing keys there is no loop. -/
theorem noLoopEnds_of_keysFor (none : keysFor read = none) :
    NoLoopEnds key (⟨.get key, .ok read⟩ :: resolved) := by
  intro suffix other names ended
  obtain ⟨_, _, _, _, _, _, _, keyed, _⟩ := ended.of_read
  rw [none] at keyed
  cases keyed

/-- How the loop ended is determined by the trace. -/
theorem LoopEnded.outcome {rmqClusterRef : RabbitmqClusterReference} {routingKeys : List String}
    {loop suffix : Trace SuperStream} {result : Except (ResourceBuilder × GoError) (List String)}
    (resolves : (resolution read).Exec resolved (.done (.ok rmqClusterRef)))
    (keyed : keysFor read = some routingKeys)
    (exec : (builderLoop read rmqClusterRef routingKeys).Exec loop (.done result))
    {other : SuperStream} {names : List String}
    (ended : LoopEnded key (⟨.get key, .ok read⟩ :: (resolved ++ (loop ++ suffix))) other names) :
    result = .ok names := by
  obtain ⟨_, _, _, _, _, same, resolves', keyed', exec'⟩ := ended.of_read
  obtain ⟨rfl, reference⟩ := Exec.unique resolves resolves' same
  cases reference
  rw [keyed] at keyed'
  cases keyed'
  obtain ⟨-, outcome⟩ := Exec.unique exec exec' (List.append_cancel_left same)
  cases outcome
  rfl

end LoopEnded

/-- The requests of the builder loop. -/
def ChildRequest : Request SuperStream → Prop
  | .getObject .. | .createObject _ | .updateObject _ => True
  | _ => False

/-- The builder loop asks about children only. -/
theorem createChildren_calls (builder : Builder) (resources : List ResourceBuilder)
    (collected : List String) :
    (createChildren builder resources collected).Calls ChildRequest := by
  induction resources generalizing collected with
  | nil => trivial
  | cons resource rest ih =>
      have attempts : ∀ child : Object resource.kind, True →
          (createOrUpdate (objectClient resource.kind) (builder.update resource) child).Calls
            ChildRequest := fun child _ =>
        createOrUpdate_calls (fun _ => calls_ask.mpr trivial) (fun _ => calls_ask.mpr trivial)
          (fun _ => calls_ask.mpr trivial) child
      refine (retryOnConflict_calls attempts (fun _ _ _ _ _ => trivial) _ _ trivial).bind
        fun result => ?_
      split
      · trivial
      · exact ih _

/-- The builder loop stores children, and nothing else. -/
theorem answers_of_childRequest {request : Request SuperStream} {reply : request.Answer}
    (asked : ChildRequest request) (answered : Answers world request reply after) :
    after = world ∨ ∃ kind, ∃ child : Object kind, after = world.push child := by
  cases request with
  | getObject => exact .inl answered.1
  | createObject =>
      rcases Writes.cases answered with same | ⟨version, -, pushed⟩
      · exact .inl same
      · exact .inr ⟨_, _, pushed⟩
  | updateObject =>
      rcases Writes.cases answered with same | ⟨version, _, _, -, -, pushed⟩
      · exact .inl same
      · exact .inr ⟨_, _, pushed⟩
  | _ => exact asked.elim

/-- The rules of writing the status after a trace: `ready superStream` is what has
to hold of the world to write the status of `superStream`. -/
structure StatusRules (permitted : SuperStream → SuperStream → Prop) (invariant : World → Prop)
    (guard : World → Trace SuperStream → Request SuperStream → Prop)
    (ready : SuperStream → World → Prop) (trace : Trace SuperStream) : Prop where
  stable : ∀ superStream, (environment permitted).Stable invariant (ready superStream)
  rest : ∀ superStream status now, status.partitions = superStream.status.partitions →
    ready superStream now → ready { superStream with status := status } now
  guarded : ∀ superStream now suffix, invariant now → ready superStream now →
    guard now (trace ++ suffix) (.updateStatus superStream)
  stored : ∀ superStream now version after, invariant now → ready superStream now →
    UpdatesStatus now superStream version after →
    invariant after ∧ ready (stamp superStream version) after ∧ ready superStream after

theorem StatusRules.append (rules : StatusRules permitted invariant guard ready trace)
    (suffix : Trace SuperStream) :
    StatusRules permitted invariant guard ready (trace ++ suffix) where
  stable := rules.stable
  rest := rules.rest
  guarded superStream now more valid holds :=
    List.append_assoc .. ▸ rules.guarded superStream now (suffix ++ more) valid holds
  stored := rules.stored

section Status

variable (kept : (environment permitted).Stable invariant invariant)
  (quiet : ∀ now trace (request : Request SuperStream), request.observes = true → invariant now →
    guard now trace request)
include kept

/-- One attempt to store a status keeps to its rules, and leaves the status in memory. -/
theorem updateStatus_safe (rules : StatusRules permitted invariant guard ready trace)
    {superStream : SuperStream} (valid : invariant world) (holds : ready superStream world) :
    (environment permitted).Safe invariant guard
      (fun result now later => ready result.1 now ∧ result.1.status = superStream.status ∧
        ∃ suffix, later = trace ++ suffix)
      (SuperStreamReconciler.updateStatus superStream) world trace := by
  refine Safe.call kept (rules.stable superStream) valid holds
    (fun now validNow holdsNow => ?_) fun now reply after validNow holdsNow answered => ?_
  · have guarded := rules.guarded superStream now [] validNow holdsNow
    rwa [List.append_nil] at guarded
  cases reply with
  | error err =>
      have next : invariant after ∧ ready superStream after := by
        have writes : Writes now (UpdatesStatus now superStream) (.error err) after := answered
        rcases writes.cases with rfl | ⟨version, applied⟩
        · exact ⟨validNow, holdsNow⟩
        · obtain ⟨validAfter, -, holdsAfter⟩ :=
            rules.stored superStream now version after validNow holdsNow applied
          exact ⟨validAfter, holdsAfter⟩
      exact ⟨next.1, Safe.done kept (rules.stable superStream) next.1 next.2
        fun _ _ holdsLast => ⟨holdsLast, rfl, _, rfl⟩⟩
  | ok version =>
      obtain ⟨validAfter, holdsAfter, -⟩ :=
        rules.stored superStream now version after validNow holdsNow answered
      exact ⟨validAfter, Safe.done kept (rules.stable (stamp superStream version)) validAfter
        holdsAfter fun _ _ holdsLast => ⟨holdsLast, rfl, _, rfl⟩⟩

/-- So do the attempts after a conflict. -/
theorem storeStatus_safe (rules : StatusRules permitted invariant guard ready trace)
    {superStream : SuperStream} (valid : invariant world) (holds : ready superStream world) :
    (environment permitted).Safe invariant guard
      (fun result now later => ready result now ∧ result.status = superStream.status ∧
        ∃ suffix, later = trace ++ suffix)
      (storeStatus superStream) world trace := by
  have retried : ∀ retries, (environment permitted).Safe invariant guard
      (fun result now later => ready result.1 now ∧ result.1.status = superStream.status ∧
        ∃ suffix, later = trace ++ suffix)
      (retryOnConflict SuperStreamReconciler.updateStatus retries superStream) world trace := by
    intro retries
    induction retries generalizing superStream world trace with
    | zero => exact updateStatus_safe kept rules valid holds
    | succ retries ih =>
        refine Safe.bind (updateStatus_safe kept rules valid holds) valid ?_
        rintro result now _ validNow ⟨holdsNow, same, suffix, rfl⟩
        have finish : ∀ outcome : Except GoError Unit, (environment permitted).Safe invariant guard
            (fun final now later => ready final.1 now ∧ final.1.status = superStream.status ∧
              ∃ suffix, later = trace ++ suffix)
            (.done (result.1, outcome)) now (trace ++ suffix) := by
          intro outcome
          refine Safe.done kept (rules.stable result.1) validNow holdsNow ?_
          exact fun _ _ holdsLast => ⟨holdsLast, same, suffix, rfl⟩
        split
        · split
          · refine (ih (rules.append suffix) validNow holdsNow).weaken ?_
            rintro final last _ - ⟨holdsLast, sameLast, more, rfl⟩
            exact ⟨holdsLast, sameLast.trans same, suffix ++ more, List.append_assoc ..⟩
          · exact finish _
        · exact finish _
  refine Safe.bind (retried defaultRetry) valid fun result now later validNow reached => ?_
  exact Safe.done kept (rules.stable result.1) validNow reached.1
    fun _ _ holdsLast => ⟨holdsLast, reached.2⟩

/-- The success exit keeps to the rules of a status write. -/
theorem setReconcileSuccess_safe (rules : StatusRules permitted invariant guard ready trace)
    {superStream : SuperStream} (condition : Condition) (valid : invariant world)
    (holds : ready superStream world) :
    (environment permitted).Safe invariant guard (fun _ _ _ => True)
      (setReconcileSuccess superStream condition) world trace :=
  Safe.bind (storeStatus_safe kept rules valid (rules.rest superStream _ world rfl holds)) valid
    fun _ _ _ _ _ _ _ _ => trivial

include quiet

/-- An observer leaves everything as it is. -/
theorem safe_of_observes {α : Type} {program : Prog SuperStream α} {assertion : World → Prop}
    (stable : (environment permitted).Stable invariant assertion) (observes : Observes program)
    (valid : invariant world) (holds : assertion world) :
    (environment permitted).Safe invariant guard
      (fun value now later => assertion now ∧
        ∃ suffix, later = trace ++ suffix ∧ program.Exec suffix (.done value))
      program world trace := by
  refine Safe.of_calls kept stable observes
    (fun now suffix request _ allowed validNow _ => quiet now _ request allowed validNow) ?_ valid
    holds fun value now suffix exec _ holdsNow => ⟨holdsNow, suffix, rfl, exec⟩
  intro now request reply after allowed validNow holdsNow answered
  cases answers_of_observes allowed answered
  exact ⟨validNow, holdsNow⟩

/-- The exit of a super stream that is not ready keeps to the rules of a status write. -/
theorem setNotReady_safe (rules : StatusRules permitted invariant guard ready trace)
    {superStream : SuperStream} (msg : String) (valid : invariant world)
    (holds : ready superStream world) :
    (environment permitted).Safe invariant guard (fun _ _ _ => True)
      (setNotReady superStream msg) world trace := by
  refine Safe.bind (safe_of_observes kept quiet (rules.stable superStream)
    (notReady_calls (by rfl) ..) valid holds) valid ?_
  rintro condition now _ validNow ⟨holdsNow, suffix, rfl, -⟩
  exact setReconcileSuccess_safe kept (rules.append suffix) condition validNow holdsNow

end Status

/-- The super stream that a release writes. -/
def released (superStream : SuperStream) : SuperStream :=
  { superStream with
    objectMeta := superStream.objectMeta.removeFinalizer (deletionFinalizer "SuperStream") }

/-- What a reconcile needs: the rules of its status writes, as long as no loop has
ended, and of the release of the super stream. -/
structure Rules (key : NamespacedName) (permitted : SuperStream → SuperStream → Prop)
    (invariant : World → Prop) (guard : World → Trace SuperStream → Request SuperStream → Prop)
    (ready : SuperStream → World → Prop) : Prop where
  kept : (environment permitted).Stable invariant invariant
  quiet : ∀ now trace (request : Request SuperStream), request.observes = true → invariant now →
    guard now trace request
  opened : ∀ now, invariant now → ready now.stream now
  status : ∀ trace, NoLoopEnds key trace → StatusRules permitted invariant guard ready trace
  stable : ∀ superStream, (environment permitted).Stable invariant (ready superStream)
  release : ∀ superStream now trace, invariant now → ready superStream now →
    guard now trace (.update (released superStream)) ∧
      ∀ version after, Updates now (released superStream) version after → invariant after

namespace Rules

variable {key : NamespacedName} (rules : Rules key permitted invariant guard ready)
  {read : SuperStream} {resolved : Trace SuperStream}
include rules

/-- The release of a super stream keeps to its rule. -/
theorem removeFinalizer_safe {superStream : SuperStream} (valid : invariant world)
    (holds : ready superStream world) :
    (environment permitted).Safe invariant guard (fun _ _ _ => True)
      (SuperStreamReconciler.removeFinalizer superStream) world trace := by
  refine Safe.call rules.kept (rules.stable superStream) valid holds
    (fun now validNow holdsNow => (rules.release superStream now _ validNow holdsNow).1)
    fun now reply after validNow holdsNow answered => ?_
  have released := (rules.release superStream now trace validNow holdsNow).2
  have validAfter : invariant after := by
    have writes : Writes now (Updates now (SuperStreamServer.released superStream)) reply after :=
      answered
    rcases writes.cases with rfl | ⟨version, applied⟩
    · exact validNow
    · exact released version after applied
  refine ⟨validAfter, ?_⟩
  cases reply <;> exact fun _ _ _ => trivial

/-- A failed resolution is handled by the rules of a status write and of a release. -/
theorem handleRMQReferenceParseError_safe (err : GoError) (never : NoLoopEnds key trace)
    (valid : invariant world) (holds : ready read world) :
    (environment permitted).Safe invariant guard (fun _ _ _ => True)
      (SuperStreamReconciler.handleRMQReferenceParseError read err) world trace := by
  have ends : ∀ {β : Type} {value : β} {now : World} {later : Trace SuperStream},
      (environment permitted).Safe invariant guard (fun _ _ _ => True)
        (Program.done value) now later := fun _ _ _ => trivial
  have stable := rules.stable read
  unfold SuperStreamReconciler.handleRMQReferenceParseError
  split
  · refine Safe.bind (safe_of_observes rules.kept rules.quiet stable (calls_ask.mpr rfl) valid
      holds) valid fun _ now later validNow reached => ?_
    exact Safe.bind (rules.removeFinalizer_safe validNow reached.1) validNow
      fun _ _ _ _ _ => ends
  split
  · exact ends
  split
  · refine Safe.bind (safe_of_observes rules.kept rules.quiet stable
      (notReady_calls (by rfl) ..) valid
      holds) valid ?_
    rintro condition now _ validNow ⟨holdsNow, suffix, rfl, -⟩
    have status := rules.status _ (never.append suffix)
    exact Safe.bind (storeStatus_safe rules.kept status validNow
      (status.rest read _ now rfl holdsNow))
      validNow fun _ _ _ _ _ => ends
  · exact ends

/-- A reconcile keeps to the rules from its builder loop on, if the loop does. -/
theorem reconcileChildren_safe {rmqClusterRef : RabbitmqClusterReference}
    {routingKeys : List String}
    (resolves : (resolution read).Exec resolved (.done (.ok rmqClusterRef)))
    (keyed : keysFor read = some routingKeys)
    (recording : ∀ loop names,
      (builderLoop read rmqClusterRef routingKeys).Exec loop (.done (.ok names)) →
      StatusRules permitted invariant guard recorded (⟨.get key, .ok read⟩ :: (resolved ++ loop)))
    (looping : (environment permitted).Safe invariant guard
      (fun result now _ => ready read now ∧ ∀ names, result = .ok names →
        recorded { read with status := { read.status with partitions := names } } now)
      (builderLoop read rmqClusterRef routingKeys) world (⟨.get key, .ok read⟩ :: resolved))
    (valid : invariant world) :
    (environment permitted).Safe invariant guard (fun _ _ _ => True)
      (reconcileChildren read rmqClusterRef routingKeys) world
      (⟨.get key, .ok read⟩ :: resolved) := by
  refine Safe.bind looping.exec valid ?_
  rintro result now _ validNow ⟨⟨holdsNow, complete⟩, loop, rfl, exec⟩
  cases result with
  | error failure =>
      have never : NoLoopEnds key (⟨.get key, .ok read⟩ :: resolved ++ loop) := by
        intro suffix other names ended
        simp only [List.cons_append, List.append_assoc] at ended
        cases ended.outcome resolves keyed exec
      exact Safe.bind (setNotReady_safe rules.kept rules.quiet (rules.status _ never) _ validNow
        holdsNow) validNow fun _ _ _ _ _ _ _ _ => trivial
  | ok names =>
      have status := recording loop names exec
      refine Safe.bind (storeStatus_safe rules.kept status validNow (complete names rfl))
        validNow ?_
      rintro written last _ validLast ⟨holdsLast, -, suffix, rfl⟩
      refine Safe.bind (safe_of_observes rules.kept rules.quiet (status.stable written)
        (ready_calls (by rfl) ..) validLast holdsLast) validLast ?_
      rintro condition final _ validFinal ⟨holdsFinal, more, rfl, -⟩
      exact Safe.bind (setReconcileSuccess_safe rules.kept ((status.append suffix).append more)
        condition validFinal holdsFinal) validFinal fun _ _ _ _ _ _ _ _ => trivial

/-- The obligation on a reconcile, from that on its builder loop. -/
theorem reconcile_safe
    (children : ∀ read resolved rmqClusterRef routingKeys now,
      (resolution read).Exec resolved (.done (.ok rmqClusterRef)) →
      keysFor read = some routingKeys → invariant now → ready read now →
      (environment permitted).Safe invariant guard (fun _ _ _ => True)
        (reconcileChildren read rmqClusterRef routingKeys) now
        (⟨.get key, .ok read⟩ :: resolved))
    (valid : invariant world) :
    (environment permitted).Safe invariant guard (fun _ _ _ => True)
      (SuperStreamReconciler.reconcile key) world [] := by
  have ends : ∀ {β : Type} {value : β} {now : World} {later : Trace SuperStream},
      (environment permitted).Safe invariant guard (fun _ _ _ => True)
        (Program.done value) now later := fun _ _ _ => trivial
  refine Safe.call rules.kept rules.kept valid valid
    (fun now validNow _ => rules.quiet now _ _ rfl validNow)
    fun now reply after validNow _ answered => ?_
  obtain ⟨rfl, current⟩ := answered
  refine ⟨validNow, ?_⟩
  cases reply with
  | error err => exact ends
  | ok read =>
      have holds : ready read after := current read rfl ▸ rules.opened after validNow
      change (environment permitted).Safe invariant guard _ ((resolution read).bind _) _ _
      refine Safe.bind (safe_of_observes rules.kept rules.quiet (rules.stable read)
        (resolution_calls (fun _ => rfl) read) validNow holds) validNow ?_
      rintro result now _ validNow ⟨holdsNow, resolved, rfl, exec⟩
      cases result with
      | error err =>
          exact rules.handleRMQReferenceParseError_safe err (noLoopEnds_of_error exec) validNow
            holdsNow
      | ok rmqClusterRef =>
          have refuses : keysFor read = none → ∀ msg later suffix, invariant later →
              ready read later → (environment permitted).Safe invariant guard (fun _ _ _ => True)
                (setNotReady read msg) later ([] ++ [⟨.get key, .ok read⟩] ++ resolved ++ suffix) :=
            fun none msg later suffix validLater holdsLater =>
              setNotReady_safe rules.kept rules.quiet
                (rules.status _ ((noLoopEnds_of_keysFor none).append suffix)) msg validLater
                holdsLater
          dsimp only
          split
          · next scalesDown =>
              refine Safe.bind (safe_of_observes rules.kept rules.quiet (rules.stable read)
                (calls_ask.mpr rfl) validNow holdsNow) validNow ?_
              rintro - later _ validLater ⟨holdsLater, suffix, rfl, -⟩
              exact Safe.bind (refuses (by simp [keysFor, scalesDown]) _ later suffix validLater
                holdsLater) validLater fun _ _ _ _ _ => ends
          split
          · next grows generated =>
              exact children read resolved rmqClusterRef _ now exec
                (by simp [keysFor, grows, generated]) validNow holdsNow
          split
          · next grows given mismatch =>
              have refused := refuses (by simp [keysFor, grows, given, mismatch])
                (failedToReconcile read) now [] validNow holdsNow
              rw [List.append_nil] at refused
              exact Safe.bind refused validNow fun _ _ _ _ _ => ends
          · next grows given equal =>
              exact children read resolved rmqClusterRef _ now exec
                (by simp [keysFor, grows, given, equal]) validNow holdsNow

end Rules

end TopologyOperator.SuperStreamServer
