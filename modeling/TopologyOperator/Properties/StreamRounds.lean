import TopologyOperator.Properties.Convergence
import TopologyOperator.Properties.StreamTopology

/-!
# Undisturbed reconciles of a super stream and its children

If nobody disturbs it, the reconcile of a super stream creates the children that are not
there. Then the children are reconciled one after the other, in any order. `Rounds` is
total correctness of that.
-/

namespace TopologyOperator.StreamTopology.Layout

open Dialogue Program SuperStreamReconciler SharedBroker

open SuperStreamServer (builderOf exists_update_build nodup_builders referenceOf routingKeysOf)

section Rounds

variable {layout : Layout} {r : TopologyReconciler} {around : Surroundings}
  {initial world : layout.fleet.World}
  {activities : ∀ i, Option (List (Event (layout.Answer i)) ×
    Program (layout.Call i) (layout.Answer i) (Result × Option GoError))}

variable (layout around r) in
/-- The reconcile of a child, as long as nobody disturbs it. -/
abbrev calmly (i : layout.Child) :
    Environment (@Request.Answer (Object i.1.kind)) (Deployment.World i.1.kind) :=
  Deployment.calm around (layout.fleet.key i) (layout.target i.1)
    (layout.fleet.Admits (layout.Admits r.libraries) i)

/-- The child can be declared at a broker that can be reached. -/
structure Able (around : Surroundings) (r : TopologyReconciler) {kind : Kind}
    (object : Object kind) : Prop where
  unmarked : object.objectMeta.deletionTimestamp = none
  numbered : object.objectMeta.generation ≠ 0
  connects : around.Connects r object.rabbitReference object.objectMeta.ns
  declarable : Deployment.Declarable around r.libraries object

/-- The child is stored and can be declared. -/
def Prepared (around : Surroundings) (r : TopologyReconciler) {kind : Kind}
    (server : ApiServer.World kind) : Prop :=
  ∃ object, server.stored = some object ∧ Able around r object

/-- What is stored of a child has its generation observed. -/
def Observed {kind : Kind} (server : ApiServer.World kind) : Prop :=
  ∃ object, server.stored = some object ∧ ApiServer.UpToDate object

/-- One child at rest is reconciled. -/
theorem child_settles (reachable : (layout.system r).Reachable initial ⟨world, activities⟩)
    (i : layout.Child) (idle : activities (some i) = none) {object : Object i.1.kind}
    (stored : (world.servers i).stored = some object) (able : Able around r object) :
    (layout.calmly r around i).Settles
      (fun result now => result = ({}, none) ∧ Observed now.server ∧
        (layout.system r).Reachable initial ⟨layout.fleet.put i world now, activities⟩)
      (r.reconcile (layout.fleet.key i)) (layout.fleet.view i world) := by
  have launched := Relation.ReflTransGen.tail reachable
    (.launch (some i) idle ⟨rfl, rfl⟩ : (layout.system r).Step _ _)
  have settles : (layout.calmly r around i).Settles _ _ (layout.fleet.view i world) :=
    Deployment.reconcile_settles (layout.fleet.other i) stored able.unmarked able.connects
      able.declarable
  have reached := System.Reachable.settles (i := some i) (layout.fleet.focus i)
    (fun world request reply seen answered => ?_) launched settles
  · refine reached.weaken ?_
    rintro _ now ⟨⟨rfl, final, left, attained⟩, trace, running⟩
    refine ⟨rfl, ⟨final, left, ?_, attained.observed⟩, ?_⟩
    · rw [attained.observed, attained.generation]
      exact able.numbered
    · have retired := running.tail
        (.retire (some i) (Function.update_self ..) rfl : (layout.system r).Step _ _)
      rwa [Function.update_idem, ← idle, Function.update_eq_self] at retired
  · have own : (layout.children r).answers i world request reply (layout.fleet.put i world seen) :=
      Fleet.answers_put ⟨answered.1, answered.2.1, trivial⟩
    exact own

variable (layout around r) in
/-- The children of a list are reconciled one after the other, each without being disturbed
and whatever it is answered, and then the condition holds. -/
def Rounds : List layout.Child → (layout.fleet.World → Prop) → layout.fleet.World → Prop
  | [], post, world => post world
  | i :: rest, post, world => (layout.calmly r around i).Settles
      (fun result now => result = ({}, none) ∧ Rounds rest post (layout.fleet.put i world now))
      (r.reconcile (layout.fleet.key i)) (layout.fleet.view i world)

theorem Rounds.weaken {order : List layout.Child} {post weaker : layout.fleet.World → Prop}
    (rounds : layout.Rounds r around order post world)
    (implies : ∀ now, post now → weaker now) : layout.Rounds r around order weaker world := by
  induction order generalizing world with
  | nil => exact implies world rounds
  | cons i rest ih => exact Environment.Settles.weaken rounds fun _ _ => .imp_right ih

/-- The rounds come to an end. -/
theorem Rounds.exists_returned {order : List layout.Child} {post : layout.fleet.World → Prop}
    (rounds : layout.Rounds r around order post world) : ∃ now, post now := by
  induction order generalizing world with
  | nil => exact ⟨world, rounds⟩
  | cons i rest ih =>
      obtain ⟨_, now, -, remaining⟩ := Environment.Settles.exists_returned rounds
      exact ih remaining

/-- Each reconcile leaves the children that come later as they are. -/
theorem rounds_settle {order : List layout.Child}
    (reachable : (layout.system r).Reachable initial ⟨world, activities⟩)
    (idle : ∀ i, activities (some i) = none) (once : order.Nodup)
    (prepared : ∀ i ∈ order, Prepared around r (world.servers i)) :
    layout.Rounds r around order (fun now =>
      (layout.system r).Reachable initial ⟨now, activities⟩ ∧
      (∀ i ∈ order, Observed (now.servers i)) ∧
      ∀ i, i ∉ order → now.servers i = world.servers i) world := by
  induction order generalizing world with
  | nil => exact ⟨reachable, fun _ absent => (by cases absent), fun _ _ => rfl⟩
  | cons i rest ih =>
      obtain ⟨apart, distinct⟩ := List.nodup_cons.mp once
      obtain ⟨object, stored, able⟩ := prepared i (.head _)
      refine (child_settles reachable i (idle i) stored able).weaken ?_
      rintro _ now ⟨rfl, observed, reached⟩
      have others : ∀ j, j ≠ i → (layout.fleet.put i world now).servers j = world.servers j :=
        fun j different => Function.update_of_ne different ..
      refine ⟨rfl, (ih reached distinct fun j member => ?_).weaken ?_⟩
      · rw [others j fun same => apart (same ▸ member)]
        exact prepared j (.tail _ member)
      rintro later ⟨final, settled, kept⟩
      refine ⟨final, fun j member => ?_, fun j absent => ?_⟩
      · rcases List.mem_cons.mp member with rfl | later
        · have here : (layout.fleet.put j world now).servers j = now.server :=
            Function.update_self ..
          rw [kept j apart, here]
          exact observed
        · exact settled j later
      · rw [kept j fun member => absent (.tail _ member),
          others j fun same => absent (same ▸ .head _)]

end Rounds


section Creation

open Environment

variable (layout : Layout) (around : Surroundings) (read : SuperStream)

/-- The answers to the super stream reconciler if nothing fails: the super stream is what
was read, the cache knows what is stored of the children, and what is created is
numbered. -/
def Fine (world : layout.fleet.World) : (request : Request SuperStream) → request.Answer → Prop
  | .get _, reply => reply = .ok read
  | .getRabbitmqCluster key, reply =>
      ∃ cluster, around.cluster key = some cluster ∧ reply = .ok cluster
  | .getObject kind key, reply => ∀ (i : layout.Child) (same : kind = layout.fleet.kind i),
      key = layout.fleet.key i →
        ((world.servers i).stored = none →
          ∃ err, reply = .error err ∧ (GoError.api err).isNotFound = true) ∧
        ∀ current, (world.servers i).stored = some (same ▸ current) → reply = .ok current
  | .createObject _, reply => ∃ version, reply = .ok version ∧ version.generation ≠ 0
  | _, _ => True

/-- The reconcile of the super stream, as long as nobody disturbs it. -/
def undisturbed : Environment (@Request.Answer SuperStream) layout.fleet.World where
  foreign _ _ := False
  answers world request reply after :=
    layout.Answers world request reply after ∧ layout.Fine around read world request reply

variable {layout around read} {r : TopologyReconciler} {world : layout.fleet.World}

/-- An attempt that succeeds is not repeated. -/
theorem retryOnConflict_settles {σ ρ : Type} {env : Environment (@Request.Answer SuperStream) ρ}
    {attempt : σ → Prog SuperStream (σ × Except GoError Unit)} {post : ρ → Prop} {state : σ}
    {world : ρ}
    (settles : env.Settles (fun result now => result.2 = .ok () ∧ post now) (attempt state) world)
    (retries : Nat) :
    env.Settles (fun result now => result.2 = .ok () ∧ post now)
      (retryOnConflict attempt retries state) world := by
  cases retries with
  | zero => exact settles
  | succ retries =>
      refine settles_bind.mpr (settles.weaken ?_)
      rintro ⟨kept, _⟩ now ⟨rfl, holds⟩
      exact ⟨rfl, holds⟩

/-- The children refer to the cluster by its name. -/
theorem rabbitReference_eq (same : SameStream layout.stream read) (i : layout.Child)
    {object before : Object i.1.kind}
    (spec : object.spec = (builderOf read (referenceOf read)).updateSpec i.1 before.spec) :
    object.rabbitReference = referenceOf layout.stream := by
  rw [← referenceOf_congr same]
  obtain ⟨resource, member⟩ := i
  cases resource with
  | superStreamExchange => exact congrArg ExchangeSpec.rabbitmqClusterReference spec
  | superStreamPartition => exact congrArg QueueSpec.rabbitmqClusterReference spec
  | superStreamBinding => exact congrArg BindingSpec.rabbitmqClusterReference spec

/-- A binding whose arguments decode prescribes its declaration. -/
theorem exists_prescribes_binding {libraries : Libraries} {binding : Object .binding}
    {arguments : Arguments}
    (decoded : unmarshalArguments libraries "binding arguments" binding.spec.arguments =
      .ok arguments) : ∃ issued, Prescribes libraries binding issued := by
  have generated : ∃ info, generateBindingInfo libraries binding = .ok info := by
    unfold generateBindingInfo
    rw [decoded]
    exact ⟨_, rfl⟩
  obtain ⟨info, generated⟩ := generated
  exact ⟨_, info, generated, rfl⟩

/-- The arguments of a new child are none, or the order of the partition. -/
theorem declarable_of_spec (i : layout.Child) {object : Object i.1.kind}
    (spec : object.spec = (builderOf read (referenceOf read)).updateSpec i.1
      ((builderOf read (referenceOf read)).build i.1).spec) :
    Deployment.Declarable around r.libraries object := by
  obtain ⟨resource, member⟩ := i
  obtain ⟨objectMeta, held, status⟩ := object
  cases spec
  rcases SuperStreamServer.mem_builders.mp member with
      rfl | ⟨index, routingKey, found, rfl | rfl⟩
  · exact ⟨_, _, rfl, rfl⟩
  · exact ⟨_, _, rfl, rfl⟩
  · obtain ⟨within, -⟩ := List.getElem?_eq_some_iff.mp found
    exact exists_prescribes_binding
      (unmarshal_partitionOrder (Nat.lt_of_lt_of_le within layout.bounded) ..)

/-- A child as its builder makes it can be declared. -/
theorem able_of_update (same : SameStream layout.stream read) (i : layout.Child)
    {child : Object i.1.kind} {server : ApiServer.World i.1.kind} {version : Version}
    (updated : (builderOf read (referenceOf read)).update i.1
      ((builderOf read (referenceOf read)).build i.1) = .ok child)
    (connects : around.Connects r (referenceOf layout.stream) layout.stream.objectMeta.ns)
    (numbered : version.generation ≠ 0) :
    Able around r ((created server child).withVersion version) := by
  obtain ⟨key, spec⟩ := SuperStreamServer.update_eq_ok updated
  have ns : child.objectMeta.ns = layout.stream.objectMeta.ns := by
    rw [ns_of_key (key.trans (build_key same i.1))]
    cases i.1 <;> rfl
  have reference : ((created server child).withVersion version).rabbitReference =
      referenceOf layout.stream := rabbitReference_eq same i spec
  refine ⟨rfl, numbered, ?_, declarable_of_spec i spec⟩
  rw [reference]
  exact ns.symm ▸ connects

/-- The child in place of one that is not there. -/
def createdServer {kind : Kind} (server : ApiServer.World kind) (child : Object kind) :
    ApiServer.World kind :=
  { server.replace (created server child) ⟨server.nextVersion, 1⟩ with
    nextUid := server.nextUid + 1 }

/-- A child that is not there can be created. -/
theorem exists_created (i : layout.Child) {child : Object i.1.kind}
    (absent : (world.servers i).stored = none)
    (named : child.objectMeta.key = layout.fleet.key i) :
    ∃ reply after, (layout.undisturbed around read).answers world (.createObject child) reply
      after := by
  refine ⟨.ok ⟨(world.servers i).nextVersion, 1⟩,
    layout.fleet.put i world ⟨createdServer (world.servers i) child, world.store⟩,
    ⟨i, rfl, named, ?_, ?_, ?_, rfl⟩, _, rfl, Int.one_ne_zero⟩
  · exact ⟨absent, rfl, Function.update_self ..⟩
  · intro before after found
    rw [absent] at found
    cases found
  · exact fun j different => Function.update_of_ne different ..

/-- One child is there and can be declared, and the others are as before. -/
structure Tended (around : Surroundings) (r : TopologyReconciler) (i : layout.Child)
    (world now : layout.fleet.World) : Prop where
  prepared : Prepared around r (now.servers i)
  others : ∀ j, j ≠ i → now.servers j = world.servers j

/-- One child that is not there is created. -/
theorem createChild_settles_absent (same : SameStream layout.stream read) (i : layout.Child)
    (connects : around.Connects r (referenceOf layout.stream) layout.stream.objectMeta.ns)
    (absent : (world.servers i).stored = none) :
    (layout.undisturbed around read).Settles
      (fun result now => result.2 = .ok () ∧ Tended around r i world now)
      (createChild (builderOf read (referenceOf read)) i.1) world := by
  obtain ⟨child, updated⟩ := exists_update_build (builderOf read (referenceOf read)) i.1
  have key : ((builderOf read (referenceOf read)).build i.1).objectMeta.key =
      layout.fleet.key i := build_key same i.1
  have shaped := shaped_of_update same key updated
  refine retryOnConflict_settles ?_ _
  refine ⟨?_, fun reply after answered => ?_⟩
  · refine ⟨.error ⟨.notFound, ""⟩, world, ⟨rfl, fun _ absurd => by cases absurd⟩, ?_⟩
    refine fun j kinds keys => ⟨fun _ => ⟨_, rfl, rfl⟩, fun current stored => ?_⟩
    obtain rfl : i = j := eq_of_key kinds (key.symm.trans keys)
    rw [absent] at stored
    cases stored
  obtain ⟨⟨rfl, -⟩, fine⟩ := answered
  obtain ⟨err, rfl, missing⟩ := (fine i rfl key).1 absent
  simp only [done_bind, pure_eq]
  rw [if_pos missing, updated]
  refine ⟨exists_created i absent shaped.named, fun reply after answered => ?_⟩
  obtain ⟨answered, version, rfl, numbered⟩ := answered
  obtain ⟨j, kinds, applied⟩ := answered
  obtain rfl := eq_of_named i.2 shaped kinds applied.named
  refine ⟨rfl, ⟨_, stored_of_creates applied.written, ?_⟩, applied.rest⟩
  exact able_of_update same i updated connects numbered

/-- The child is stored as the super stream specifies and owns it, and can be declared. -/
structure Kept (around : Surroundings) (r : TopologyReconciler) (read : SuperStream)
    (i : layout.Child) (server : ApiServer.World i.1.kind) (current : Object i.1.kind) : Prop where
  stored : server.stored = some current
  named : current.objectMeta.key = layout.fleet.key i
  dated : current.objectMeta.resourceVersion < server.nextVersion
  unchanged : (builderOf read (referenceOf read)).update i.1 current = .ok current
  able : Able around r current

/-- A child that is as it should be is left alone. -/
theorem createChild_settles_kept (same : SameStream layout.stream read) (i : layout.Child)
    {current : Object i.1.kind} (kept : Kept around r read i (world.servers i) current) :
    (layout.undisturbed around read).Settles
      (fun result now => result.2 = .ok () ∧ Tended around r i world now)
      (createChild (builderOf read (referenceOf read)) i.1) world := by
  have key : ((builderOf read (referenceOf read)).build i.1).objectMeta.key =
      layout.fleet.key i := build_key same i.1
  have only : ∀ other, (world.servers i).stored = some other → other = current :=
    fun _ stored => Option.some.inj (stored.symm.trans kept.stored)
  refine retryOnConflict_settles ?_ _
  refine ⟨?_, fun reply after answered => ?_⟩
  · refine ⟨.ok current, world, ⟨rfl, ?_⟩, fun j kinds keys => ?_⟩
    · rintro _ ⟨⟩
      refine ⟨kept.named.trans key.symm, fun j kinds keys => ?_⟩
      obtain rfl : i = j := eq_of_key kinds (key.symm.trans keys)
      exact ⟨kept.dated, fun other stored _ => only other stored⟩
    · obtain rfl : i = j := eq_of_key kinds (key.symm.trans keys)
      refine ⟨fun absent => ?_, fun other stored => ?_⟩
      · cases absent.symm.trans kept.stored
      · cases only other stored
        rfl
  obtain ⟨⟨rfl, -⟩, fine⟩ := answered
  cases (fine i rfl key).2 current kept.stored
  simp only [done_bind, pure_eq, kept.unchanged, ↓reduceIte]
  exact ⟨rfl, ⟨current, kept.stored, kept.able⟩, fun _ _ => rfl⟩

/-- There is nothing to update at the child: it is not there, or as it should be. -/
def Fits (around : Surroundings) (r : TopologyReconciler) (read : SuperStream)
    (i : layout.Child) (server : ApiServer.World i.1.kind) : Prop :=
  server.stored = none ∨ ∃ current, Kept around r read i server current

/-- An undisturbed builder creates its child, or finds nothing to update. -/
theorem createChild_settles (same : SameStream layout.stream read) (i : layout.Child)
    (connects : around.Connects r (referenceOf layout.stream) layout.stream.objectMeta.ns)
    (fits : Fits around r read i (world.servers i)) :
    (layout.undisturbed around read).Settles
      (fun result now => result.2 = .ok () ∧ Tended around r i world now)
      (createChild (builderOf read (referenceOf read)) i.1) world := by
  rcases fits with absent | ⟨current, kept⟩
  · exact createChild_settles_absent same i connects absent
  · exact createChild_settles_kept same i kept

/-- The children are visited one after the other. -/
theorem createChildren_settles (same : SameStream layout.stream read)
    (connects : around.Connects r (referenceOf layout.stream) layout.stream.objectMeta.ns)
    {resources : List ResourceBuilder} (distinct : resources.Nodup)
    (members : ∀ resource ∈ resources, resource ∈ builders (routingKeysOf layout.stream))
    (fits : ∀ i : layout.Child, i.1 ∈ resources → Fits around r read i (world.servers i))
    (collected : List String) :
    (layout.undisturbed around read).Settles
      (fun result now => (∃ names, result = .ok names) ∧
        (∀ i : layout.Child, i.1 ∈ resources → Prepared around r (now.servers i)) ∧
        ∀ i : layout.Child, i.1 ∉ resources → now.servers i = world.servers i)
      (createChildren (builderOf read (referenceOf read)) resources collected) world := by
  induction resources generalizing collected world with
  | nil => exact ⟨⟨_, rfl⟩, fun _ listed => (by cases listed), fun _ _ => rfl⟩
  | cons resource rest ih =>
      obtain ⟨apart, distinct⟩ := List.nodup_cons.mp distinct
      let i : layout.Child := ⟨resource, members resource (.head _)⟩
      refine settles_bind.mpr ((createChild_settles same i connects (fits i (.head _))).weaken ?_)
      rintro ⟨child, _⟩ now ⟨rfl, tended⟩
      have kept : ∀ j : layout.Child, j.1 ≠ resource → now.servers j = world.servers j :=
        fun j different => tended.others j fun equal => different (congrArg Subtype.val equal)
      refine (ih distinct (fun other listed => members other (.tail _ listed))
        (fun j listed => ?_) _).weaken ?_
      · rw [kept j fun equal => apart (equal ▸ listed)]
        exact fits j (.tail _ listed)
      rintro _ final ⟨names, settled, spared⟩
      refine ⟨names, fun j listed => ?_, fun j unlisted => ?_⟩
      · rcases List.mem_cons.mp listed with equal | later
        · obtain rfl : j = i := Subtype.ext equal
          rw [spared i apart]
          exact tended.prepared
        · exact settled j later
      · rw [spared j fun later => unlisted (.tail _ later),
          kept j fun equal => unlisted (equal ▸ .head _)]

/-- Requests that are about the status of the super stream. -/
def Bookkeeping : Request SuperStream → Prop
  | .updateStatus _ | .now => True
  | _ => False

/-- Whatever the API server says to a status, the children stay as they are. -/
theorem settles_bookkeeping {α : Type} {program : Prog SuperStream α} (returns : program.Returns)
    (calls : program.Calls Bookkeeping) :
    (layout.undisturbed around read).Settles (fun _ now => now = world) program world := by
  refine settles_of_calls returns calls (fun request quiet => ?_)
    fun request reply after quiet answered => ?_
  · cases request with
    | updateStatus => exact ⟨.error ⟨.notFound, ""⟩, world, rfl, trivial⟩
    | now => exact ⟨0, world, rfl, trivial⟩
    | _ => cases quiet
  · cases request with
    | updateStatus | now => exact answered.1
    | _ => cases quiet

/-- The status of the super stream is stored without an effect on the children. -/
theorem storeStatus_settles (stream : SuperStream) :
    (layout.undisturbed around read).Settles (fun _ now => now = world) (storeStatus stream)
      world := by
  refine settles_bookkeeping ?_ ?_
  · refine (returns_retryOnConflict (fun state => ?_) _ _).bind fun _ => trivial
    exact (returns_ask _).bind fun reply => by cases reply <;> trivial
  · refine (retryOnConflict_calls (fun state (_ : True) => ?_) (fun _ _ _ _ _ => trivial) _ _
      trivial).bind fun _ => trivial
    exact calls_ask_bind trivial fun reply => by cases reply <;> trivial

/-- The super stream has as many routing keys as partitions, if it has any, is not scaled
down, and refers to a cluster that it may use. -/
structure Valid (around : Surroundings) (read : SuperStream) : Prop where
  unscaled : (read.status.partitions.length : Int) ≤ read.spec.partitions
  sized : read.spec.routingKeys = [] ∨ (read.spec.routingKeys.length : Int) = read.spec.partitions
  allowed : ∃ cluster, around.cluster
    ⟨read.spec.rabbitmqClusterReference.connectionSecretNamespace read.objectMeta.ns,
      read.spec.rabbitmqClusterReference.name⟩ = some cluster ∧
    allowedNamespace read.spec.rabbitmqClusterReference read.objectMeta.ns cluster = true

/-- After an undisturbed builder loop, all children are prepared. -/
theorem reconcileChildren_settles (same : SameStream layout.stream read)
    (connects : around.Connects r (referenceOf layout.stream) layout.stream.objectMeta.ns)
    (fits : ∀ i, Fits around r read i (world.servers i)) {routingKeys : List String}
    (keyed : routingKeys = routingKeysOf layout.stream) :
    (layout.undisturbed around read).Settles
      (fun result now => result = ({}, none) ∧ ∀ i, Prepared around r (now.servers i))
      (reconcileChildren read (referenceOf read) routingKeys) world := by
  subst keyed
  refine settles_bind.mpr ((createChildren_settles same connects (nodup_builders _)
    (fun _ listed => listed) (fun i _ => fits i) _).weaken ?_)
  rintro _ now ⟨⟨names, rfl⟩, created, -⟩
  refine settles_bind.mpr ((storeStatus_settles _).weaken ?_)
  rintro stream _ rfl
  refine settles_bind.mpr ((settles_bookkeeping ?_ (ready_calls trivial _)).weaken ?_)
  · exact (returns_transitionTime ..).bind fun _ => trivial
  rintro condition _ rfl
  refine settles_bind.mpr (settles_bind.mpr ((storeStatus_settles _).weaken ?_))
  rintro _ _ rfl
  exact ⟨rfl, fun i => created i i.2⟩

/-- A super stream is given the children that it lacks. -/
theorem superStream_settles (same : SameStream layout.stream read) (valid : Valid around read)
    (connects : around.Connects r (referenceOf layout.stream) layout.stream.objectMeta.ns)
    (fits : ∀ i, Fits around r read i (world.servers i)) (key : NamespacedName) :
    (layout.undisturbed around read).Settles
      (fun result now => result = ({}, none) ∧ ∀ i, Prepared around r (now.servers i))
      (reconcile key) world := by
  obtain ⟨cluster, found, allowed⟩ := valid.allowed
  refine ⟨⟨.ok read, world, ⟨rfl, ?_⟩, rfl⟩, fun reply after answered => ?_⟩
  · rintro _ ⟨⟩
    exact same
  obtain ⟨⟨rfl, -⟩, rfl⟩ := answered
  refine ⟨⟨.ok cluster, after, rfl, cluster, found, rfl⟩, fun reply later answered => ?_⟩
  obtain ⟨rfl, other, there, rfl⟩ := answered
  cases found.symm.trans there
  simp only [done_bind]
  rw [if_pos allowed]
  simp only [done_bind, pure_eq]
  rw [if_neg (Int.not_lt.mpr valid.unscaled)]
  split
  · next generated =>
      refine reconcileChildren_settles same connects fits ?_
      rw [← routingKeysOf_congr same, routingKeysOf, if_pos generated, generateRoutingKeys]
  · next given =>
      rw [if_neg fun differ => differ (valid.sized.resolve_left given)]
      refine reconcileChildren_settles same connects fits ?_
      rw [← routingKeysOf_congr same, routingKeysOf, if_neg given]

variable {initial : layout.fleet.World}
  {activities : ∀ i, Option (List (Event (layout.Answer i)) ×
    Program (layout.Call i) (layout.Answer i) (Result × Option GoError))}

/-- The reconcile of a super stream, from a state in which it rests. -/
theorem superStream_prepares
    (reachable : (layout.system r).Reachable initial ⟨world, activities⟩)
    (idle : activities none = none) (same : SameStream layout.stream read)
    (valid : Valid around read)
    (connects : around.Connects r (referenceOf layout.stream) layout.stream.objectMeta.ns)
    (fits : ∀ i, Fits around r read i (world.servers i)) :
    (layout.undisturbed around read).Settles
      (fun result now => result = ({}, none) ∧ (∀ i, Prepared around r (now.servers i)) ∧
        (layout.system r).Reachable initial ⟨now, activities⟩)
      (reconcile layout.stream.objectMeta.key) world := by
  have launched := Relation.ReflTransGen.tail reachable
    (.launch none idle ⟨rfl, rfl⟩ : (layout.system r).Step _ _)
  have whole : System.Focus (fun world : layout.fleet.World => world) fun _ seen => seen :=
    ⟨fun _ => rfl, fun _ _ => rfl, fun _ _ _ => rfl⟩
  refine (System.Reachable.settles (i := none) whole
    (fun _ _ _ _ (answered : (layout.undisturbed around read).answers _ _ _ _) => answered.1)
    launched (superStream_settles same valid connects fits _)).weaken ?_
  rintro _ now ⟨⟨rfl, prepared⟩, trace, running⟩
  have retired := running.tail
    (.retire none (Function.update_self ..) rfl : (layout.system r).Step _ _)
  rw [Function.update_idem, ← idle, Function.update_eq_self] at retired
  exact ⟨rfl, prepared, retired⟩

end Creation

end TopologyOperator.StreamTopology.Layout
