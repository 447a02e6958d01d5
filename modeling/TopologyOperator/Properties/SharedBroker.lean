import TopologyOperator.Properties.DenotedEntity
import TopologyOperator.Properties.OrphanedEntities

/-!
# Many objects on one broker

Objects of any kinds but users, each about an entity of its own that its spec names, are
reconciled at the same time against one broker. Their reconciles are interleaved in any
order with one another, with what users do to the objects and with what others do to the
rest of the broker. As long as no object is deleted whose entity takes that of another with
it, the reconcile of one object changes nothing of another, so that what holds of one object
alone holds of all of them.
-/

namespace TopologyOperator.SharedBroker

open Dialogue Environment Program BrokerStore

open ApiServer (SameRequest)

open Deployment (Designates Managed Sighted environment)

open TopologyReconciler (Opens openSecret plainReconciler resolve_secret)

section Footprint

variable {kind : Kind} {key : NamespacedName} {target : Entity} {r : TopologyReconciler}
  {store after : Store} {trace : Trace (Object kind)} {α : Type}

/-- The broker lists the bindings that it was asked for. -/
def Lists : (request : Request (Object kind)) → request.Answer → Prop
  | .broker issued, reply => issued.Lists reply
  | _, _ => True

theorem truthful_of_lists (lists : ∀ event ∈ trace, Lists event.request event.answer) :
    Truthful trace :=
  ⟨fun _ _ _ listed asked => lists _ asked listed rfl,
    fun _ _ _ listed asked => lists _ asked listed rfl⟩

/-- A call that deletes reaches nothing that the entity does not touch. A binding may be
deleted under another key, but only one between the same ends. -/
def Aimed (target : Entity) (trace : Trace (Object kind)) : Request (Object kind) → Prop
  | .broker issued => issued.removes = true →
      (∀ event ∈ trace, Lists event.request event.answer) →
      ∃ entity, issued.entity = some entity ∧ ∀ other, entity.Touches other → target.Touches other
  | _ => True

/-- Parts that delete nothing. -/
theorem aimed_of_apart {program : Prog (Object kind) α}
    (apart : program.Calls (Apart fun issued => issued.removes = false)) :
    program.Guarded (Aimed target)
      (fun value later => ∃ suffix, later = trace ++ suffix ∧ program.Exec suffix (.done value))
      trace := by
  refine Guarded.of_calls apart fun suffix request asks => ?_
  cases request with
  | broker issued =>
      intro removes
      have spares : issued.removes = false :=
        asks.elim (fun reads => (BrokerCall.neither_of_entity reads).2) id
      rw [spares] at removes
      cases removes
  | _ => trivial

end Footprint

section Bindings

variable {target : Entity} {r : TopologyReconciler} {binding : Object .binding}
  {trace : Trace (Object .binding)}

/-- The binding that is deleted is looked up first. -/
theorem deleteBinding_aimed (named : Designates r.libraries target binding)
    (schema : SchemaValid binding) :
    (BindingReconciler.deleteFunc r.libraries binding).Guarded (Aimed target) (fun _ _ => True)
      trace := by
  refine (aimed_of_apart (deletionInfo_calls r.libraries
    (fun _ _ _ => ⟨.inl rfl, .inl rfl⟩) binding)).bind ?_
  rintro found _ ⟨suffix, rfl, ran⟩
  rcases found with err | _ | info
  · trivial
  · trivial
  refine ⟨fun _ lists => ?_, fun _ => trivial⟩
  have truthful := truthful_of_lists fun event member =>
    lists event (List.mem_append_right _ member)
  obtain ⟨source, destination, destinationType, arguments, decoded, -⟩ :=
    deletionInfo_exec ran truthful schema
  simp only [Designates, Object.target, decoded, Option.some.injEq] at named
  refine ⟨info.addressed binding.spec.vhost, rfl, fun other touched => .inr ?_⟩
  subst named
  simp only [BindingInfo.addressed, source, destination, destinationType] at touched
  rcases touched with rfl | between
  · exact ⟨_, _, rfl⟩
  · exact between

theorem reconcileBinding_aimed (named : Designates r.libraries target binding)
    (schema : SchemaValid binding) (marked : binding.objectMeta.deletionTimestamp.isSome = true) :
    (r.reconcileRead binding).Guarded (Aimed target) (fun _ _ => True) trace := by
  refine (aimed_of_apart (extractSystemCertPool_calls trivial fun _ => trivial)).bind
    fun loaded later _ => ?_
  split
  · trivial
  refine (aimed_of_apart (resolve_consults r binding).apart).bind fun resolved later _ => ?_
  split
  · exact (aimed_of_apart (handleRMQReferenceParseError_calls trivial (fun _ => trivial)
      (fun _ _ => trivial) fun _ => trivial)).weaken fun _ _ _ => trivial
  refine (aimed_of_apart (generateRabbitholeClient_calls (fun _ _ _ _ => trivial) ..)).bind
    fun connected final _ => ?_
  split
  · trivial
  unfold TopologyReconciler.reconcileObject
  rw [if_pos marked]
  have deleting : (deleteFunc r.libraries binding).Guarded (Aimed target) (fun _ _ => True) final :=
    (deleteBinding_aimed named schema).bind fun result _ _ => by
      rcases result with err | ⟨⟩ <;> trivial
  refine deleting.bind fun result _ _ => ?_
  split
  · exact ⟨trivial, fun _ => trivial⟩
  · exact ⟨trivial, fun _ =>
      (aimed_of_apart (removeFinalizer_calls trivial)).bind fun _ _ _ => trivial⟩

end Bindings

section Footprint

variable {kind : Kind} {key : NamespacedName} {target : Entity} {r : TopologyReconciler}
  {store after : Store} {trace : Trace (Object kind)} {read : Object kind}

/-- Every deletion of a reconcile reaches only what the entity of the object touches. -/
theorem reconcileRead_aimed (other : kind ≠ .user) (named : Designates r.libraries target read)
    (schema : SchemaValid read) :
    (r.reconcileRead read).Guarded (Aimed target) (fun _ _ => True) trace := by
  have wields : (r.reconcileRead read).Calls (Apart (Wields r.libraries read)) :=
    reconcileRead_wields r other
  by_cases marked : read.objectMeta.deletionTimestamp.isSome = true
  · by_cases unbound : kind = .binding
    · subst unbound
      exact reconcileBinding_aimed named schema marked
    · refine (Guarded.of_calls wields fun suffix request asks => ?_).weaken fun _ _ _ => trivial
      cases request with
      | broker issued =>
          exact fun removes _ =>
            ⟨target, (marked_of_removes asks removes).2 unbound target named, fun _ => id⟩
      | _ => trivial
  · have unmarked : read.objectMeta.deletionTimestamp = none := by simpa using marked
    refine (aimed_of_apart (wields.mono fun _ => Apart.mono fun _ wields => ?_)).weaken
      fun _ _ _ => trivial
    exact removes_of_unmarked (.inr wields) unmarked

/-- In every run, the broker keeps what the entity does not touch. -/
theorem answer_frame {admits : Object kind → Prop}
    {answering : (request : Request (Object kind)) → request.Answer → Prop}
    {world later : Deployment.World kind} {request : Request (Object kind)} {reply : request.Answer}
    {resume : request.Answer → Prog (Object kind) (Result × Option GoError)} {entity : Entity}
    (kept : ∀ object other : Object kind, SameRequest object other → admits object → admits other)
    (names : ∀ object, admits object → Designates r.libraries target object ∧ SchemaValid object)
    (other : kind ≠ .user) (different : entity ≠ target)
    (apart : target.Touches entity → ∀ object, admits object →
      object.objectMeta.deletionTimestamp = none)
    (reachable : (environment key target admits answering).Reachable (r.reconcile key)
      ⟨.empty, store⟩ ⟨world, some (trace, .call request resume)⟩)
    (answered : (environment key target admits answering).answers world request reply later) :
    later.store entity = world.store entity := by
  by_cases call : ∃ issued, request = .broker issued
  swap
  · exact congrFun (Deployment.store_of_not_broker answered fun issued same =>
      call ⟨issued, same⟩) entity
  obtain ⟨issued, rfl⟩ := call
  obtain ⟨-, effects, -⟩ := answered
  rcases effects.effect with same | effect
  · exact congrFun same entity
  cases reachable_stage other reachable _ rfl with
  | fresh main => cases main
  | reading read asked asks =>
      have admitted := Deployment.read_admitted kept other reachable _ rfl read _ rfl
      by_cases defines : issued.defines = true
      · obtain ⟨-, prescribes⟩ := prescribes_of_defines asks.1 defines
        exact effect.frame_defines defines (prescribes.about (names read admitted).1) different
      by_cases removes : issued.removes = true
      · have untouched : ¬ target.Touches entity := fun touches => by
          rw [removes_of_unmarked asks.1 (apart touches read admitted)] at removes
          cases removes
        obtain ⟨aimed, -⟩ := Deployment.reachable_guarded kept other
          (fun read admitted => reconcileRead_aimed other (names read admitted).1
            (names read admitted).2) reachable _ rfl read _ rfl
        have lists := Reachable.events (fun event => Lists event.request event.answer)
          (fun world request reply after answered => ?_) reachable _ rfl
        · obtain ⟨reached, about, within⟩ := aimed removes lists
          exact effect.frame about fun touched => untouched (within entity touched)
        · obtain ⟨-, stores, -⟩ := answered
          cases request with
          | broker issued => exact stores.1
          | _ => trivial
      · exact congrFun (effects.unchanged (Bool.eq_false_of_not_eq_true defines)
          (Bool.eq_false_of_not_eq_true removes)) entity

end Footprint

/-- Objects on one broker, each about an entity of its own. An object whose entity takes
those of others with it is one that nobody deletes. -/
structure Fleet (ι : Type) where
  kind : ι → Kind
  key : ι → NamespacedName
  target : ι → Entity
  lasting : ι → Prop
  other : ∀ i, kind i ≠ .user
  distinct : ∀ i j, i ≠ j → target j ≠ target i
  apart : ∀ i j, i ≠ j → (target i).Touches (target j) → lasting i

namespace Fleet

variable {ι : Type} (fleet : Fleet ι)

/-- The objects as the API server stores them, and the broker. -/
structure World where
  servers : ∀ i, ApiServer.World (fleet.kind i)
  store : Store

/-- How one object sees the world. -/
def view (i : ι) (world : fleet.World) : Deployment.World (fleet.kind i) :=
  ⟨world.servers i, world.store⟩

/-- What users may write. -/
def Admits (admits : ∀ i, Object (fleet.kind i) → Prop) (i : ι) (object : Object (fleet.kind i)) :
    Prop :=
  admits i object ∧ (fleet.lasting i → object.objectMeta.deletionTimestamp = none)

/-- What users and other clients of the broker do. -/
inductive Foreign (admits : ∀ i, Object (fleet.kind i) → Prop) (world : fleet.World) :
    fleet.World → Prop where
  | user (i : ι) {next : fleet.World}
      (moved : (ApiServer.generational (fleet.key i)).foreign (world.servers i) (next.servers i))
      (admitted : ∀ object, (next.servers i).stored = some object → fleet.Admits admits i object)
      (rest : ∀ j, j ≠ i → next.servers j = world.servers j)
      (same : next.store = world.store) : Foreign admits world next
  | others {next : fleet.World} (same : next.servers = world.servers)
      (apart : ∀ i, next.store (fleet.target i) = world.store (fleet.target i)) :
      Foreign admits world next

/-- The reconciles of all objects, side by side. -/
def system (r : TopologyReconciler) (admits : ∀ i, Object (fleet.kind i) → Prop)
    (answering : ∀ i, (request : Request (Object (fleet.kind i))) → request.Answer → Prop) :
    System (fun i => @Request.Answer (Object (fleet.kind i))) (fun _ => Result × Option GoError)
      fleet.World where
  foreign := fleet.Foreign admits
  answers i world request reply after :=
    (environment (fleet.key i) (fleet.target i) (fleet.Admits admits i) (answering i)).answers
        (fleet.view i world) request reply (fleet.view i after) ∧
      ∀ j, j ≠ i → after.servers j = world.servers j
  launches i world program after := program = r.reconcile (fleet.key i) ∧ after = world
  retires _ world _ _ after := after = world

variable {fleet} {r : TopologyReconciler} {store : Store}
  {admits : ∀ i, Object (fleet.kind i) → Prop}
  {answering : ∀ i, (request : Request (Object (fleet.kind i))) → request.Answer → Prop}

theorem admits_congr {i : ι} {object other : Object (fleet.kind i)}
    (kept : admits i object → admits i other) (same : SameRequest object other)
    (admitted : fleet.Admits admits i object) : fleet.Admits admits i other := by
  refine ⟨kept admitted.1, fun lasting => ?_⟩
  have marked := same.marked
  rw [admitted.2 lasting] at marked
  exact Option.not_isSome_iff_eq_none.mp (Bool.eq_false_iff.mp marked)

section Put

variable [DecidableEq ι]

variable (fleet) in
/-- The world in which one object and the broker have changed. -/
def put (i : ι) (world : fleet.World) (seen : Deployment.World (fleet.kind i)) : fleet.World :=
  ⟨Function.update world.servers i seen.server, seen.store⟩

variable (fleet) in
theorem focus (i : ι) : System.Focus (fleet.view i) (fleet.put i) where
  put_view world := by
    refine congrArg (World.mk · world.store) ?_
    exact Function.update_eq_self ..
  view_put world seen := by
    refine congrArg (Deployment.World.mk · seen.store) ?_
    exact Function.update_self ..
  put_put world seen later := by
    refine congrArg (World.mk · later.store) ?_
    exact Function.update_idem ..

/-- An answer to one object leaves the other objects alone. -/
theorem answers_put {i : ι} {world : fleet.World} {request : Request (Object (fleet.kind i))}
    {reply : request.Answer} {seen : Deployment.World (fleet.kind i)}
    (answered : (environment (fleet.key i) (fleet.target i) (fleet.Admits admits i)
      (answering i)).answers (fleet.view i world) request reply seen) :
    (fleet.system r admits answering).answers i world request reply (fleet.put i world seen) := by
  refine ⟨?_, fun j different => Function.update_of_ne different ..⟩
  rw [(fleet.focus i).view_put]
  exact answered

end Put

variable [DecidableEq ι]

/-- To one object, the others are users of the broker that leave its entity alone. -/
theorem projects
    (kept : ∀ i, ∀ object other : Object (fleet.kind i), SameRequest object other →
      admits i object → admits i other)
    (names : ∀ i object, admits i object →
      Designates r.libraries (fleet.target i) object ∧ SchemaValid object) :
    (fleet.system r admits answering).Projects (fun i => r.reconcile (fleet.key i))
      (fun i => environment (fleet.key i) (fleet.target i) (fleet.Admits admits i) (answering i))
      fleet.view ⟨fun _ => .empty, store⟩ where
  foreign world next move j := by
    cases move with
    | user i moved admitted rest same =>
        by_cases here : j = i
        · subst here
          exact .single (.user moved admitted same)
        · exact .single (.others (rest j here) (congrFun same _))
    | others same apart => exact .single (.others (congrFun same j) (apart j))
  launches i world program after launched := launched
  retires i world trace program after retired := retired
  own i world request reply after answered := answered.1
  others i j different world trace request next reply after reachable answered := by
    have framed := answer_frame
      (fun object other same => admits_congr (kept i object other same) same)
      (fun object admitted => names i object admitted.1) (fleet.other i)
      (fleet.distinct i j fun same => different same.symm)
      (fun touches object admitted =>
        admitted.2 (fleet.apart i j (fun same => different same.symm) touches)) reachable answered.1
    exact .single (.others (answered.2 j different) framed)

/-- The objects that name the entity, within the schema of their kind. -/
structure Placed (libraries : Libraries) (target : Entity) {kind : Kind} (object : Object kind) :
    Prop where
  names : Designates libraries target object
  schema : SchemaValid object

theorem schemaValid_congr {kind : Kind} {object other : Object kind}
    (same : SameRequest object other) (schema : SchemaValid object) : SchemaValid other := by
  cases kind with
  | binding =>
      change other.spec.destinationType = "queue" ∨ other.spec.destinationType = "exchange"
      rw [same.spec]
      exact schema
  | _ => trivial

/-- In every interleaving of the reconciles of any number of objects with one another,
with users and with other clients of the broker, who do not delete what others depend on:
if the observed generation of a stored object is set and is its generation, the object is
not marked for deletion, and the broker holds its entity as its spec prescribes it. -/
theorem upToDate_held (fleet : Fleet ι) (r : TopologyReconciler) (store : Store)
    {config : System.Config (fun i => @Request.Answer (Object (fleet.kind i)))
      (fun _ => Result × Option GoError) fleet.World}
    (reachable : (fleet.system r (fun i => Placed r.libraries (fleet.target i))
      fun _ _ _ => True).Reachable ⟨fun _ => .empty, store⟩ config)
    (i : ι) {object : Object (fleet.kind i)}
    (stored : (config.world.servers i).stored = some object)
    (observed : object.status.observedGeneration ≠ 0)
    (latest : object.status.observedGeneration = object.objectMeta.generation) :
    object.objectMeta.deletionTimestamp = none ∧
      ∃ issued, config.world.store (fleet.target i) = some issued ∧
        Prescribes r.libraries object issued := by
  have kept : ∀ i, ∀ object other : Object (fleet.kind i), SameRequest object other →
      Placed r.libraries (fleet.target i) object → Placed r.libraries (fleet.target i) other :=
    fun i object other same placed =>
      ⟨Deployment.designates_congr object other same placed.names,
        schemaValid_congr same placed.schema⟩
  have own := (projects kept fun i object placed => ⟨placed.names, placed.schema⟩).reachable
    reachable i
  obtain ⟨unmarked, held⟩ := (Deployment.reachable_mirrored
    (fun object other same => admits_congr (kept i object other same) same)
    (fun _ admitted => admitted.1.names) (fleet.other i) own).mirrors object stored
    ⟨observed, latest⟩
  exact ⟨unmarked, held⟩

/-- In every such interleaving, while the cluster is there and no object retains its entity:
the broker has an entity that it did not have at first, other than a binding, only while
the object exists and carries the finalizer. -/
theorem held_owned (fleet : Fleet ι) (r : TopologyReconciler) (store : Store)
    {config : System.Config (fun i => @Request.Answer (Object (fleet.kind i)))
      (fun _ => Result × Option GoError) fleet.World}
    (reachable : (fleet.system r (fun i object => Managed r.libraries (fleet.target i) object ∧
      SchemaValid object) fun _ => Sighted).Reachable ⟨fun _ => .empty, store⟩ config)
    (i : ι) (unbound : fleet.kind i ≠ .binding) (vacant : store (fleet.target i) = none)
    {issued : BrokerCall} (held : config.world.store (fleet.target i) = some issued) :
    ∃ object, (config.world.servers i).stored = some object ∧
      (fleet.kind i).finalizer ∈ object.objectMeta.finalizers := by
  have kept : ∀ i, ∀ object other : Object (fleet.kind i), SameRequest object other →
      Managed r.libraries (fleet.target i) object ∧ SchemaValid object →
      Managed r.libraries (fleet.target i) other ∧ SchemaValid other :=
    fun i object other same managed =>
      ⟨Deployment.managed_congr object other same managed.1, schemaValid_congr same managed.2⟩
  have own := (projects kept fun i object managed => ⟨managed.1.names, managed.2⟩).reachable
    reachable i
  have attended := Deployment.reachable_weaken (fun _ admitted => admitted.1.1)
    (fun _ _ sighted => sighted) own
  refine (Deployment.reachable_owned (fleet.other i) unbound vacant attended).owner ?_
  intro none
  cases held.symm.trans none

section Example

open ApiServer (invoiceExchange readyExchange generations_refl)

/-- An exchange that is not deleted, and a binding that would fall with it. -/
def shop : Fleet Bool where
  kind := fun | true => .exchange | false => .binding
  key := fun | true => ⟨"shop", "invoices"⟩ | false => ⟨"shop", "invoices-to-orders"⟩
  target := fun
    | true => .exchange "/" "invoices"
    | false => .binding "/" "invoices" "orders" "queue" "" []
  lasting i := i = true
  other := by decide
  distinct := by
    rintro (_ | _) (_ | _) different <;>
      first | exact absurd rfl different | (intro absurd; cases absurd)
  apart := by
    rintro (_ | _) (_ | _) different touches
    · exact absurd rfl different
    · rcases touches with absurd | ⟨_, _, absurd⟩ <;> cases absurd
    · rfl
    · rfl

/-- The settings of the exchange. -/
def invoiceSettings : ExchangeSettings := ⟨"", false, false, []⟩

/-- A broker that has the exchange and nothing else. -/
def invoiceStore : Store
  | .exchange "/" "invoices" => some (.declareExchange "/" "invoices" invoiceSettings)
  | _ => none

/-- The reconciles of the exchange and the binding. -/
abbrev reconciling : System (fun i => @Request.Answer (Object (shop.kind i)))
    (fun _ => Result × Option GoError) shop.World :=
  shop.system ⟨.verbatim, "", false⟩
    (fun i object => Managed .verbatim (shop.target i) object ∧ SchemaValid object)
    fun _ => Sighted

/-- The requests of the exchange, and how they are answered. -/
abbrev answeringShop : Environment (@Request.Answer (Object .exchange))
    (Deployment.World .exchange) :=
  environment ⟨"shop", "invoices"⟩ (.exchange "/" "invoices")
    (shop.Admits (fun i object => Managed .verbatim (shop.target i) object ∧ SchemaValid object)
      true) Sighted

theorem answeringShop_snoc {server next : ApiServer.World .exchange} {store after : Store}
    {program : Prog (Object .exchange) (Result × Option GoError)} {world : Deployment.World _}
    {trace : Trace (Object .exchange)} {request : Request (Object .exchange)}
    {resume : request.Answer → Prog (Object .exchange) (Result × Option GoError)}
    (answered : answeringShop.Answered program world trace (.call request resume) ⟨server, store⟩)
    (reply : request.Answer)
    (serves : (ApiServer.generational ⟨"shop", "invoices"⟩).answers server request reply next)
    (stores : BrokerStore.Answers store request reply after) (sighted : Sighted request reply) :
    answeringShop.Answered program world (trace ++ [⟨request, reply⟩]) (resume reply)
      ⟨next, after⟩ :=
  answered.snoc reply ⟨serves, stores, sighted⟩

/-- The exchange as it was created. -/
def createdServer : ApiServer.World .exchange :=
  ⟨some (invoiceExchange.withVersion ⟨1, 1⟩), 2, 2, []⟩

/-- The opening of the first reconcile of the exchange. -/
theorem shop_opens : Opens answeringShop ⟨"shop", "invoices"⟩
    (invoiceExchange.withVersion ⟨1, 1⟩) ⟨createdServer, fun _ => none⟩
    [⟨.getSecret .cache ⟨"shop", "rabbit"⟩, .ok (openSecret ⟨"shop", "rabbit"⟩)⟩] where
  reads := ⟨⟨⟨rfl, fun _ same => by cases same; rfl⟩, generations_refl _⟩, rfl, trivial⟩
  loads := ⟨⟨rfl, generations_refl _⟩, rfl, trivial⟩
  looks := List.forall_mem_singleton.mpr ⟨⟨rfl, generations_refl _⟩, rfl, trivial⟩
  connects _ _ _ _ := ⟨⟨rfl, generations_refl _⟩, rfl, trivial⟩

/-- The first reconcile of the exchange declares it and stores its status. -/
theorem shop_declares : ∃ trace final server, answeringShop.Answered
    (plainReconciler.reconcile ⟨"shop", "invoices"⟩) ⟨createdServer, fun _ => none⟩ trace final
      ⟨server, invoiceStore⟩ ∧ server.stored = some readyExchange := by
  have connected := shop_opens.answered (resolve_secret rfl rfl)
  have carrying := answeringShop_snoc connected (.ok ⟨2, 1⟩)
    ⟨⟨_, ⟨rfl, rfl, rfl⟩, .changed ⟨2, 1⟩ rfl⟩, fun before after found present _ => by
      cases found
      cases present
      exact ⟨Int.le_refl _, iff_of_true rfl ⟨rfl, rfl⟩⟩⟩ rfl trivial
  have defined : Effect (fun _ => none) (.declareExchange "/" "invoices" invoiceSettings)
      invoiceStore := by
    refine .define rfl rfl rfl fun other different => ?_
    unfold invoiceStore
    split
    · exact absurd rfl different
    · rfl
  have declared := answeringShop_snoc carrying ⟨some ⟨201, ""⟩, none⟩ ⟨rfl, generations_refl _⟩
    ⟨trivial, .inl defined⟩ trivial
  have published := answeringShop_snoc declared () ⟨rfl, generations_refl _⟩ rfl trivial
  have timed := answeringShop_snoc published 7 ⟨rfl, generations_refl _⟩ rfl trivial
  have stored := answeringShop_snoc timed (.ok ⟨3, 1⟩)
    ⟨⟨_, ⟨rfl, rfl, rfl⟩, .changed ⟨3, 1⟩ rfl⟩, fun before after found present _ => by
      cases found
      cases present
      exact ⟨Int.le_refl _, iff_of_true rfl ⟨rfl, rfl⟩⟩⟩ rfl trivial
  exact ⟨_, _, _, stored, rfl⟩

/-- A user creates the exchange, and the operator declares it. -/
theorem shop_reach : ∃ config : System.Config
    (fun i => @Request.Answer (Object (shop.kind i))) (fun _ => Result × Option GoError) shop.World,
    reconciling.Reachable ⟨fun _ => .empty, fun _ => none⟩ config ∧
    (config.world.servers true).stored = some readyExchange ∧
    config.world.store = invoiceStore := by
  have created : ApiServer.Foreign ⟨"shop", "invoices"⟩ ApiServer.World.empty createdServer :=
    .create invoiceExchange ⟨1, 1⟩ rfl rfl rfl rfl rfl rfl
  have moved : reconciling.foreign ⟨fun _ => .empty, fun _ => none⟩
      (shop.put true ⟨fun _ => .empty, fun _ => none⟩ ⟨createdServer, fun _ => none⟩) := by
    refine .user true ⟨created, fun _ _ absent => by cases absent⟩ (fun object found => ?_)
      (fun j different => Function.update_of_ne different ..) rfl
    cases found
    exact ⟨⟨⟨rfl, rfl⟩, trivial⟩, fun _ => rfl⟩
  have launched : reconciling.Reachable ⟨fun _ => .empty, fun _ => none⟩ _ :=
    .tail (.tail .refl (.foreign moved)) (.launch true rfl ⟨rfl, rfl⟩)
  obtain ⟨trace, final, server, answered, stored⟩ := shop_declares
  exact ⟨_, launched.answered (shop.focus true) (fun _ _ _ _ => answers_put) answered, stored, rfl⟩

/-- In that run the broker holds the exchange. -/
theorem shop_held : ∃ config : System.Config
    (fun i => @Request.Answer (Object (shop.kind i))) (fun _ => Result × Option GoError) shop.World,
    (config.world.servers true).stored = some readyExchange ∧
    ∃ issued, config.world.store (.exchange "/" "invoices") = some issued ∧
      Prescribes .verbatim readyExchange issued := by
  obtain ⟨config, reachable, stored, -⟩ := shop_reach
  have weakened : (shop.system ⟨.verbatim, "", false⟩ (fun i => Placed .verbatim (shop.target i))
      fun _ _ _ => True).Reachable ⟨fun _ => .empty, fun _ => none⟩ config := by
    refine reachable.mono ?_ ?_ (fun _ _ _ _ launched => launched)
      (fun _ _ _ _ _ retired => retired)
    · intro world next move
      cases move with
      | user i moved admitted rest same =>
          exact .user i moved (fun object found =>
            ⟨⟨(admitted object found).1.1.names, (admitted object found).1.2⟩,
              (admitted object found).2⟩) rest same
      | others same apart => exact .others same apart
    · rintro i world request reply after ⟨⟨server, store, -⟩, rest⟩
      exact ⟨⟨server, store, trivial⟩, rest⟩
  obtain ⟨-, held⟩ := upToDate_held shop ⟨.verbatim, "", false⟩ (fun _ => none) weakened true stored
    (by decide) rfl
  exact ⟨config, stored, held⟩

/-- In that run the exchange has an owner. -/
theorem shop_owned : ∃ config : System.Config
    (fun i => @Request.Answer (Object (shop.kind i))) (fun _ => Result × Option GoError) shop.World,
    config.world.store (.exchange "/" "invoices") =
      some (.declareExchange "/" "invoices" invoiceSettings) ∧
    ∃ object, (config.world.servers true).stored = some object ∧
      Kind.exchange.finalizer ∈ object.objectMeta.finalizers := by
  obtain ⟨config, reachable, -, store⟩ := shop_reach
  have held : config.world.store (shop.target true) =
      some (.declareExchange "/" "invoices" invoiceSettings) := by
    rw [store]
    rfl
  exact ⟨config, held, held_owned shop ⟨.verbatim, "", false⟩ (fun _ => none) reachable true
    (by decide) rfl held⟩

end Example

end Fleet

end TopologyOperator.SharedBroker
