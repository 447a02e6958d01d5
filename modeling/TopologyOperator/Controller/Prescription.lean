import TopologyOperator.Broker.Store
import TopologyOperator.Controller.Obligations

/-!
# What a spec prescribes

The broker entity that the spec of an object names, and the call that the spec
prescribes for it. A reconcile of an object that is not marked for deletion defines
nothing but what the spec prescribes and deletes nothing; a reconcile of an object that
is marked deletes the entity and defines nothing. The object is read once, at the
beginning.

The entity of a `User`, and of a permission that refers to one, is named by the status
of the user and not covered here.
-/

namespace TopologyOperator

open Dialogue Program

variable {Resource α : Type} {kind : Kind} (libraries : Libraries)

/-- The user that a permission is for, if its spec says so. -/
def namedUser (specUser : String) (userReference : Option LocalObjectReference) :
    Option String :=
  if userReference = none ∧ specUser ≠ "" then some specUser else none

/-- The broker entity that the spec names. -/
def Object.target : {kind : Kind} → Object kind → Option Entity
  | .binding, object =>
      match unmarshalArguments libraries "binding arguments" object.spec.arguments with
      | .error _ => none
      | .ok arguments => some (bindingEntity object arguments)
  | .exchange, object => some (.exchange object.spec.vhost object.spec.name)
  | .federation, object => some (.federationUpstream object.spec.vhost object.spec.name)
  | .operatorPolicy, object => some (.operatorPolicy object.spec.vhost object.spec.name)
  | .permission, object => (namedUser object.spec.user object.spec.userReference).map
      (.permission object.spec.vhost)
  | .policy, object => some (.policy object.spec.vhost object.spec.name)
  | .queue, object => some (.queue object.spec.vhost object.spec.name)
  | .schemaReplication, _ =>
      some (.globalParameter SchemaReplicationReconciler.schemaReplicationParameterName)
  | .shovel, object => some (.shovel object.spec.vhost object.spec.name)
  | .topicPermission, object => (namedUser object.spec.user object.spec.userReference).map
      fun user => .topicPermission object.spec.vhost user object.spec.permissions.exchange
  | .user, _ => none
  | .vhost, object => some (.vhost object.spec.name)

/-- The calls by which the entity of a spec is defined. What a Secret contributes to
the settings is left open. -/
def Prescribes : {kind : Kind} → Object kind → BrokerCall → Prop
  | .binding, object, issued => ∃ info, generateBindingInfo libraries object = .ok info ∧
      issued = .declareBinding object.spec.vhost info
  | .exchange, object, issued => ∃ settings,
      generateExchangeSettings libraries object = .ok settings ∧
        issued = .declareExchange object.spec.vhost object.spec.name settings
  | .federation, object, issued => ∃ uri, issued = .putFederationUpstream object.spec.vhost
      object.spec.name (generateFederationDefinition object uri)
  | .operatorPolicy, object, issued => ∃ policy,
      generateOperatorPolicy libraries object = some (.ok policy) ∧
        issued = .putOperatorPolicy object.spec.vhost object.spec.name policy
  | .permission, object, issued => ∃ user, (object.spec.userReference = none →
      user = object.spec.user) ∧
        issued = .updatePermissionsIn object.spec.vhost user (generatePermissions object)
  | .policy, object, issued => ∃ policy, generatePolicy libraries object = some (.ok policy) ∧
      issued = .putPolicy object.spec.vhost object.spec.name policy
  | .queue, object, issued => ∃ settings, generateQueueSettings libraries object = .ok settings ∧
      issued = .declareQueue object.spec.vhost object.spec.name settings
  | .schemaReplication, object, issued => ∃ secret parameters,
      generateSchemaReplicationParameters secret object.spec.endpoints = .ok parameters ∧
        issued = .putGlobalParameter SchemaReplicationReconciler.schemaReplicationParameterName
          parameters
  | .shovel, object, issued => ∃ srcUri destUri definition,
      generateShovelDefinition libraries object srcUri destUri = .ok definition ∧
        issued = .declareShovel object.spec.vhost object.spec.name definition
  | .topicPermission, object, issued => ∃ user, (object.spec.userReference = none →
      user = object.spec.user) ∧
        issued = .updateTopicPermissionsIn object.spec.vhost user (generateTopicPermissions object)
  | .user, _, _ => False
  | .vhost, object, issued => issued = .putVhost object.spec.name (generateVhostSettings object)

/-- The entity is kept when the object is deleted. -/
def Object.retained : {kind : Kind} → Object kind → Bool
  | .federation, object => shouldSkipDeletion object.spec.deletionPolicy
  | .queue, object => shouldSkipDeletion object.spec.deletionPolicy
  | .shovel, object => shouldSkipDeletion object.spec.deletionPolicy
  | .vhost, object => shouldSkipDeletion object.spec.deletionPolicy
  | _, _ => false

section Spec

variable {libraries} {object other : Object kind} {call : BrokerCall} {entity : Entity}

/-- Nothing but the spec names the entity. -/
theorem target_congr (same : other.spec = object.spec) :
    other.target libraries = object.target libraries := by
  obtain ⟨objectMeta, spec, status⟩ := object
  obtain ⟨objectMeta', spec', status'⟩ := other
  cases same
  cases kind <;> rfl

/-- Nothing but the spec says whether the entity is kept. -/
theorem retained_congr (same : other.spec = object.spec) : other.retained = object.retained := by
  obtain ⟨objectMeta, spec, status⟩ := object
  obtain ⟨objectMeta', spec', status'⟩ := other
  cases same
  cases kind <;> rfl

/-- Nothing but the spec prescribes. -/
theorem Prescribes.congr (same : other.spec = object.spec)
    (prescribes : Prescribes libraries object call) : Prescribes libraries other call := by
  obtain ⟨objectMeta, spec, status⟩ := object
  obtain ⟨objectMeta', spec', status'⟩ := other
  cases same
  cases kind <;> exact prescribes

/-- The spec of a user names no entity. -/
theorem ne_user_of_target (named : object.target libraries = some entity) : kind ≠ .user := by
  rintro rfl
  cases named

/-- The user of a permission whose entity is named by the spec. -/
theorem namedUser_eq_some {specUser user : String} {reference : Option LocalObjectReference}
    (named : namedUser specUser reference = some user) :
    reference = none ∧ specUser ≠ "" ∧ user = specUser := by
  unfold namedUser at named
  split at named
  · next given => exact ⟨given.1, given.2, (Option.some.inj named).symm⟩
  · cases named

/-- What the spec prescribes defines an entity. -/
theorem Prescribes.defines (prescribes : Prescribes libraries object call) :
    call.defines = true := by
  cases kind with
  | binding | exchange | operatorPolicy | policy | queue =>
      obtain ⟨_, -, rfl⟩ := prescribes
      rfl
  | federation =>
      obtain ⟨_, rfl⟩ := prescribes
      rfl
  | permission | topicPermission =>
      obtain ⟨_, -, rfl⟩ := prescribes
      rfl
  | schemaReplication =>
      obtain ⟨_, _, -, rfl⟩ := prescribes
      rfl
  | shovel =>
      obtain ⟨_, _, _, -, rfl⟩ := prescribes
      rfl
  | user => exact prescribes.elim
  | vhost =>
      cases prescribes
      rfl

/-- What the spec prescribes is about the entity that it names. -/
theorem Prescribes.about (prescribes : Prescribes libraries object call)
    (named : object.target libraries = some entity) : call.entity = some entity := by
  cases kind with
  | binding =>
      obtain ⟨info, generated, rfl⟩ := prescribes
      obtain ⟨arguments, decoded, rfl⟩ := generateBindingInfo_eq_ok libraries generated
      simp only [Object.target, decoded] at named
      exact named
  | exchange | operatorPolicy | policy | queue =>
      obtain ⟨_, -, rfl⟩ := prescribes
      exact named
  | federation =>
      obtain ⟨_, rfl⟩ := prescribes
      exact named
  | permission | topicPermission =>
      obtain ⟨user, given, rfl⟩ := prescribes
      obtain ⟨specUser, namedSo, rfl⟩ := Option.map_eq_some_iff.mp named
      obtain ⟨unreferenced, -, rfl⟩ := namedUser_eq_some namedSo
      rw [given unreferenced]
      rfl
  | schemaReplication =>
      obtain ⟨_, _, -, rfl⟩ := prescribes
      exact named
  | shovel =>
      obtain ⟨_, _, _, -, rfl⟩ := prescribes
      exact named
  | user => cases named
  | vhost =>
      cases prescribes
      exact named

end Spec

section Consults

/-- The requests that change nothing and do not read the object that is reconciled. -/
def Request.consults : Request Resource → Bool
  | get _ => false
  | request => request.observes

/-- A program of such requests. -/
abbrev Consults (program : Prog Resource α) : Prop :=
  program.Calls fun request => request.consults = true

/-- Resolving the reference does not read the object again. -/
theorem resolve_consults (r : TopologyReconciler) (object : Object kind) :
    Consults (r.resolve object) := by
  apply (parseReference_looksUp r.libraries ..).mono
  intro request looksUp
  cases request <;> first | rfl | exact looksUp.elim

end Consults

section Apart

/-- The object is not read again, and the calls that write to the broker are of a
certain sort. -/
def Apart (calls : BrokerCall → Prop) : Request (Object kind) → Prop
  | .get _ => False
  | .broker issued => issued.entity = none ∨ calls issued
  | _ => True

variable {libraries} {calls : BrokerCall → Prop} {object : Object kind}

/-- Consulting neither reads the object again nor writes to the broker. -/
theorem Consults.apart {program : Prog (Object kind) α} (consults : Consults program) :
    program.Calls (Apart calls) := by
  apply Calls.mono consults
  intro request asks
  cases request with
  | get => cases asks
  | broker issued => exact .inl (Option.isNone_iff_eq_none.mp asks)
  | _ => trivial

theorem Apart.mono {weaker : BrokerCall → Prop} (implies : ∀ issued, calls issued → weaker issued)
    {request : Request (Object kind)} (apart : Apart calls request) : Apart weaker request := by
  cases request with
  | get => exact apart
  | broker issued => exact apart.imp_right (implies issued)
  | _ => trivial

end Apart

section Declare

/-- A call that deletes nothing and defines only what the spec prescribes. -/
def Declares (object : Object kind) (issued : BrokerCall) : Prop :=
  issued.removes = false ∧ (issued.defines = true → Prescribes libraries object issued)

variable {libraries} {object : Object kind}

/-- What the spec prescribes is a declaration. -/
theorem Prescribes.declares {issued : BrokerCall}
    (prescribes : Prescribes libraries object issued) : Declares libraries object issued :=
  ⟨BrokerCall.removes_of_defines prescribes.defines, fun _ => prescribes⟩

/-- A declare function defines nothing but what the spec prescribes. -/
theorem declareFunc_apart (other : kind ≠ .user) :
    (declareFunc libraries object).Calls (Apart (Declares libraries object)) := by
  have prescribed : ∀ {issued : BrokerCall}, Prescribes libraries object issued →
      Apart (Declares libraries object) (.broker issued : Request (Object kind)) :=
    fun prescribes => .inr prescribes.declares
  have plain : ∀ {program : Prog (Object kind) (Except GoError Unit)},
      program.Calls (Apart (Declares libraries object)) →
      (declaring object program).Calls (Apart (Declares libraries object)) :=
    fun calls => calls.bind fun _ => trivial
  cases kind with
  | user => exact absurd rfl other
  | binding =>
      exact plain (declareBinding_calls libraries fun info generated =>
        prescribed ⟨info, generated, rfl⟩)
  | exchange =>
      exact plain (declareExchange_calls libraries fun settings generated =>
        prescribed ⟨settings, generated, rfl⟩)
  | queue =>
      exact plain (declareQueue_calls libraries fun settings generated =>
        prescribed ⟨settings, generated, rfl⟩)
  | policy =>
      exact plain (declarePolicy_calls libraries fun policy generated =>
        prescribed ⟨policy, generated, rfl⟩)
  | operatorPolicy =>
      exact plain (declareOperatorPolicy_calls libraries fun policy generated =>
        prescribed ⟨policy, generated, rfl⟩)
  | federation =>
      exact plain (declareFederation_calls (fun _ => trivial) fun uri => prescribed ⟨uri, rfl⟩)
  | shovel =>
      exact plain (declareShovel_calls libraries (fun _ => trivial)
        fun srcUri destUri definition generated =>
          prescribed ⟨srcUri, destUri, definition, generated, rfl⟩)
  | schemaReplication =>
      exact plain (declareSchemaReplication_calls trivial (fun _ => trivial) (fun _ => trivial)
        fun secret parameters generated => prescribed ⟨secret, parameters, generated, rfl⟩)
  | permission =>
      exact declarePermission_calls (fun _ => trivial) (fun _ => trivial)
        fun username given => prescribed ⟨username, given, rfl⟩
  | topicPermission =>
      exact declareTopicPermission_calls (fun _ => trivial) (fun _ => trivial)
        fun username given => prescribed ⟨username, given, rfl⟩
  | vhost =>
      exact plain (declareVhost_calls (prescribed rfl) (.inl rfl)
        (fun _ => .inr ⟨rfl, fun absurd => by cases absurd⟩)
        fun _ => .inr ⟨rfl, fun absurd => by cases absurd⟩)

/-- In the trace, a call that defines an entity has succeeded. -/
def Defined (trace : Trace Resource) : Prop :=
  ∃ issued reply, (⟨.broker issued, reply⟩ : Event (@Request.Answer Resource)) ∈ trace ∧
    issued.defines = true ∧ issued.Succeeds reply

theorem Defined.append_left {trace : Trace Resource} (defined : Defined trace)
    (suffix : Trace Resource) : Defined (trace ++ suffix) := by
  obtain ⟨issued, reply, member, holds⟩ := defined
  exact ⟨issued, reply, List.mem_append_left _ member, holds⟩

theorem Defined.append_right {trace : Trace Resource} (defined : Defined trace)
    (before : Trace Resource) : Defined (before ++ trace) := by
  obtain ⟨issued, reply, member, holds⟩ := defined
  exact ⟨issued, reply, List.mem_append_right _ member, holds⟩

/-- A call that succeeds has defined its entity. -/
theorem defined_of_succeeds {issued : BrokerCall} {reply : issued.Answer}
    (rest : Trace Resource) (defines : issued.defines = true) (succeeds : issued.Succeeds reply) :
    Defined (⟨.broker issued, reply⟩ :: rest) :=
  ⟨issued, reply, .head _, defines, succeeds⟩

/-- The end of most declare functions. -/
theorem defined_of_validated {issued : BrokerCall} {validate : issued.Answer → Except GoError Unit}
    {trace : Trace Resource}
    (exec : ((ask (.broker issued)).bind fun reply => .done (validate reply)).Exec trace
      (.done (.ok ())))
    (defines : issued.defines = true)
    (valid : ∀ reply, validate reply = .ok () → issued.Succeeds reply) : Defined trace := by
  obtain ⟨reply, rest, rfl, ends⟩ := exec_ask_bind.mp exec
  exact defined_of_succeeds rest defines (valid reply (Outcome.done.inj ends.2).symm)

/-- A permission that was granted is defined, in whichever way its user was found. -/
theorem declareForUser_defined {specUser : String} {reference : Option LocalObjectReference}
    {grant : String → Prog (Object kind) BrokerReply}
    {trace : Trace (Object kind)} {result : Object kind}
    (grants : ∀ username trace response, (grant username).Exec trace (.done response) →
      validateResponse response = .ok () → Defined trace)
    (exec : (declareForUser specUser reference object grant).Exec trace
      (.done (result, .ok ()))) : Defined trace := by
  have granted : ∀ {username : String} {owned : Object kind} {trace : Trace (Object kind)},
      ((grant username).bind fun reply => .done (owned, validateResponse reply)).Exec trace
        (.done (result, .ok ())) → Defined trace := by
    intro username owned trace exec
    obtain ⟨response, before, after, rfl, asks, ends⟩ := exec_bind_done.mp exec
    have valid := (Prod.mk.inj (Outcome.done.inj ends.2)).2
    exact (grants username before response asks valid.symm).append_left after
  unfold declareForUser at exec
  split at exec
  · split at exec
    · cases exec.2
    · exact granted exec
  · obtain ⟨found, looking, rest, rfl, -, remaining⟩ := exec_bind_done.mp exec
    refine Defined.append_right ?_ looking
    rcases found with err | _ | user
    · cases remaining.2
    · dsimp only at remaining
      split at remaining <;> cases remaining.2
    · dsimp only at remaining
      split at remaining
      · cases remaining.2
      · obtain ⟨owned, owning, last, rfl, -, ends⟩ := exec_bind_done.mp remaining
        refine Defined.append_right ?_ owning
        split at ends
        · cases ends.2
        · exact granted ends

/-- A declare function that succeeds has defined an entity. -/
theorem declareFunc_defined (other : kind ≠ .user) {trace : Trace (Object kind)}
    {result : Object kind}
    (exec : (declareFunc libraries object).Exec trace (.done (result, .ok ()))) :
    Defined trace := by
  have plain : ∀ {program : Prog (Object kind) (Except GoError Unit)},
      (∀ trace, program.Exec trace (.done (.ok ())) → Defined trace) →
      (declaring object program).Exec trace (.done (result, .ok ())) → Defined trace := by
    intro program defined exec
    obtain ⟨outcome, before, after, rfl, ran, ends⟩ := exec_bind_done.mp exec
    cases ends.2
    exact (defined before ran).append_left after
  cases kind with
  | user => exact absurd rfl other
  | binding =>
      refine plain (fun trace ran => ?_) exec
      unfold BindingReconciler.declareFunc at ran
      split at ran
      · cases ran.2
      · exact defined_of_validated ran rfl fun _ valid => .defined rfl rfl valid
  | exchange =>
      refine plain (fun trace ran => ?_) exec
      unfold ExchangeReconciler.declareFunc at ran
      split at ran
      · cases ran.2
      · exact defined_of_validated ran rfl fun _ valid => .defined rfl rfl valid
  | queue =>
      refine plain (fun trace ran => ?_) exec
      unfold QueueReconciler.declareFunc at ran
      split at ran
      · cases ran.2
      · exact defined_of_validated ran rfl fun _ valid => .defined rfl rfl valid
  | policy =>
      refine plain (fun trace ran => ?_) exec
      unfold PolicyReconciler.declareFunc at ran
      split at ran
      · cases ran.2
      · cases ran.2
      · exact defined_of_validated ran rfl fun _ valid => .defined rfl rfl valid
  | operatorPolicy =>
      refine plain (fun trace ran => ?_) exec
      unfold OperatorPolicyReconciler.declareFunc at ran
      split at ran
      · cases ran.2
      · cases ran.2
      · exact defined_of_validated ran rfl fun _ valid => .defined rfl rfl valid
  | federation =>
      refine plain (fun trace ran => ?_) exec
      unfold FederationReconciler.declareFunc at ran
      split at ran
      · cases ran.2
      · obtain ⟨found, looking, rest, rfl, -, remaining⟩ := exec_bind_done.mp ran
        refine Defined.append_right ?_ looking
        split at remaining
        · cases remaining.2
        · exact defined_of_validated remaining rfl fun _ valid => .defined rfl rfl valid
  | shovel =>
      refine plain (fun trace ran => ?_) exec
      unfold ShovelReconciler.declareFunc at ran
      split at ran
      · cases ran.2
      · obtain ⟨found, looking, rest, rfl, -, remaining⟩ := exec_bind_done.mp ran
        refine Defined.append_right ?_ looking
        split at remaining
        · cases remaining.2
        · split at remaining
          · cases remaining.2
          · exact defined_of_validated remaining rfl fun _ valid => .defined rfl rfl valid
  | schemaReplication =>
      refine plain (fun trace ran => ?_) exec
      obtain ⟨found, looking, rest, rfl, -, remaining⟩ := exec_bind_done.mp ran
      refine Defined.append_right ?_ looking
      split at remaining
      · cases remaining.2
      · exact defined_of_validated remaining rfl fun _ valid => .defined rfl rfl valid
  | permission =>
      have ran : (PermissionReconciler.declareFunc object).Exec trace
        (.done (result, .ok ())) := exec
      refine declareForUser_defined (fun username trace response asks valid => ?_) ran
      obtain ⟨reply, rest, rfl, ends⟩ := asks
      cases ends.2
      exact defined_of_succeeds rest rfl (.defined rfl rfl valid)
  | topicPermission =>
      have ran : (TopicPermissionReconciler.declareFunc object).Exec trace
        (.done (result, .ok ())) := exec
      refine declareForUser_defined (fun username trace response asks valid => ?_) ran
      obtain ⟨reply, rest, rfl, ends⟩ := asks
      cases ends.2
      exact defined_of_succeeds rest rfl (.defined rfl rfl valid)
  | vhost =>
      refine plain (fun trace ran => ?_) exec
      obtain ⟨reply, rest, rfl, remaining⟩ := exec_ask_bind.mp ran
      split at remaining
      · cases remaining.2
      · next valid => exact defined_of_succeeds rest rfl (.defined rfl rfl valid)

end Declare

section Delete

/-- A call that defines nothing and, unless the object is a binding, is about its
entity. -/
def Deletes (object : Object kind) (issued : BrokerCall) : Prop :=
  issued.defines = false ∧ (kind ≠ .binding → ∀ entity,
    object.target libraries = some entity → issued.entity = some entity)

variable {libraries} {object : Object kind}

/-- A delete function defines nothing. -/
theorem deleteFunc_apart (other : kind ≠ .user) :
    (deleteFunc libraries object).Calls (Apart (Deletes libraries object)) := by
  have plain : ∀ {program : Prog (Object kind) (Except GoError Unit)},
      program.Calls (Apart (Deletes libraries object)) →
      (deleting object program).Calls (Apart (Deletes libraries object)) := by
    intro program calls
    refine calls.bind fun outcome => ?_
    split <;> trivial
  cases kind with
  | user => exact absurd rfl other
  | binding =>
      exact plain (deleteBinding_calls libraries (fun _ _ _ => ⟨.inl rfl, .inl rfl⟩)
        fun _ => .inr ⟨rfl, fun unbound => absurd rfl unbound⟩)
  | queue => exact plain (deleteQueue_calls (.inl rfl) (.inr ⟨rfl, fun _ _ same => same⟩))
  | exchange => exact plain (deleteExchange_calls (.inr ⟨rfl, fun _ _ same => same⟩))
  | policy => exact plain (deletePolicy_calls (.inr ⟨rfl, fun _ _ same => same⟩))
  | operatorPolicy => exact plain (deleteOperatorPolicy_calls (.inr ⟨rfl, fun _ _ same => same⟩))
  | schemaReplication =>
      exact plain (deleteSchemaReplication_calls (.inr ⟨rfl, fun _ _ same => same⟩))
  | federation => exact plain (deleteFederation_calls (.inr ⟨rfl, fun _ _ same => same⟩))
  | shovel => exact plain (deleteShovel_calls (.inr ⟨rfl, fun _ _ same => same⟩))
  | vhost => exact plain (deleteVhost_calls (.inr ⟨rfl, fun _ _ same => same⟩))
  | permission | topicPermission =>
      refine deleteForUser_calls (fun _ => trivial) trivial
        fun username given => calls_ask.mpr (Or.inr ⟨rfl, ?_⟩)
      rintro - entity same
      obtain ⟨user, namedSo, rfl⟩ := Option.map_eq_some_iff.mp same
      obtain ⟨unreferenced, -, rfl⟩ := namedUser_eq_some namedSo
      rw [given unreferenced]
      rfl

/-- In the trace, a call that deletes an entity by name has succeeded. -/
def Removed (trace : Trace Resource) (entity : Entity) : Prop :=
  ∃ issued reply, (⟨.broker issued, reply⟩ : Event (@Request.Answer Resource)) ∈ trace ∧
    issued.removes = true ∧ issued.exact = true ∧ issued.entity = some entity ∧
    issued.Succeeds reply

theorem Removed.append_left {trace : Trace Resource} {entity : Entity}
    (removed : Removed trace entity) (suffix : Trace Resource) :
    Removed (trace ++ suffix) entity := by
  obtain ⟨issued, reply, member, holds⟩ := removed
  exact ⟨issued, reply, List.mem_append_left _ member, holds⟩

theorem Removed.append_right {trace : Trace Resource} {entity : Entity}
    (removed : Removed trace entity) (before : Trace Resource) :
    Removed (before ++ trace) entity := by
  obtain ⟨issued, reply, member, holds⟩ := removed
  exact ⟨issued, reply, List.mem_append_right _ member, holds⟩

end Delete

section Reconcile

/-- What a reconcile does to the broker, by the object that it has read: an object that
is not marked for deletion is declared, one that is marked is deleted. -/
structure Wields (read : Object kind) (issued : BrokerCall) : Prop where
  defines : issued.defines = true →
    read.objectMeta.deletionTimestamp = none ∧ Prescribes libraries read issued
  removes : issued.removes = true → read.objectMeta.deletionTimestamp.isSome = true ∧
    (kind ≠ .binding → ∀ entity, read.target libraries = some entity →
      issued.entity = some entity)

variable {libraries} {read object : Object kind}

/-- An object that is not marked for deletion is declared. -/
theorem Declares.wields {issued : BrokerCall} (declares : Declares libraries object issued)
    (unmarked : read.objectMeta.deletionTimestamp = none) (same : object.spec = read.spec) :
    Wields libraries read issued where
  defines defines := ⟨unmarked, (declares.2 defines).congr same.symm⟩
  removes removes := by
    rw [declares.1] at removes
    cases removes

/-- An object that is marked for deletion is deleted. -/
theorem Deletes.wields {issued : BrokerCall} (deletes : Deletes libraries read issued)
    (marked : read.objectMeta.deletionTimestamp.isSome = true) :
    Wields libraries read issued where
  defines defines := by
    rw [deletes.1] at defines
    cases defines
  removes _ := ⟨marked, deletes.2⟩

section Asks

variable {issued : BrokerCall} (asks : issued.entity = none ∨ Wields libraries read issued)
include asks

/-- Only for an object that is not marked for deletion anything is defined, as its spec has
it. -/
theorem prescribes_of_defines (defines : issued.defines = true) :
    read.objectMeta.deletionTimestamp = none ∧ Prescribes libraries read issued := by
  rcases asks with reads | wields
  · rw [(BrokerCall.neither_of_entity reads).1] at defines
    cases defines
  · exact wields.defines defines

/-- What is deleted is the entity of a marked object, or a binding. -/
theorem marked_of_removes (removes : issued.removes = true) :
    read.objectMeta.deletionTimestamp.isSome = true ∧
      (kind ≠ .binding → ∀ entity, read.target libraries = some entity →
        issued.entity = some entity) := by
  rcases asks with reads | wields
  · rw [(BrokerCall.neither_of_entity reads).2] at removes
    cases removes
  · exact wields.removes removes

/-- Only for an object that is marked for deletion anything is deleted. -/
theorem removes_of_unmarked (unmarked : read.objectMeta.deletionTimestamp = none) :
    issued.removes = false := by
  by_contra removing
  obtain ⟨marked, -⟩ := marked_of_removes asks (Bool.eq_true_of_not_eq_false removing)
  rw [unmarked] at marked
  cases marked

end Asks

/-- After the object was read, it is not read again, and the broker is changed only as
the object has it. -/
theorem reconcileRead_wields (r : TopologyReconciler) (other : kind ≠ .user) :
    (r.reconcileRead read).Calls (Apart (Wields r.libraries read)) := by
  refine (extractSystemCertPool_calls trivial fun _ => trivial).bind fun loaded => ?_
  split
  · trivial
  refine (resolve_consults r read).apart.bind fun resolved => ?_
  split
  · exact handleRMQReferenceParseError_calls trivial (fun _ => trivial) (fun _ _ => trivial)
      fun _ => trivial
  refine (generateRabbitholeClient_calls (fun _ _ _ _ => trivial) ..).bind fun connected => ?_
  split
  · trivial
  unfold TopologyReconciler.reconcileObject
  split
  · next marked =>
      refine ((deleteFunc_apart other).mono fun _ =>
        Apart.mono fun _ deletes => deletes.wields marked).bind fun outcome => ?_
      split
      · exact calls_ask_bind trivial fun _ => trivial
      · exact calls_ask_bind trivial fun _ => (removeFinalizer_calls trivial).bind fun _ => trivial
  · next marked =>
      have unmarked : read.objectMeta.deletionTimestamp = none := by simpa using marked
      refine (addFinalizerIfNeeded_calls trivial).bind_of_exec fun added trace exec => ?_
      split
      · trivial
      · have carrying := addFinalizerIfNeeded_carrying unmarked exec
        refine ((declareFunc_apart other).mono fun _ => Apart.mono fun _ declares =>
          declares.wields unmarked carrying.spec).bind fun declared => ?_
        exact recordDeclared_calls trivial (fun _ => trivial) (fun _ _ => trivial) _

/-- How far a reconcile is: it has not begun, it could not read the object, or it has
read the object and goes on by it. -/
inductive Stage (r : TopologyReconciler) (key : NamespacedName) :
    Trace (Object kind) → Prog (Object kind) (Result × Option GoError) → Prop where
  | fresh {program : Prog (Object kind) (Result × Option GoError)}
      (main : program = r.reconcile key) : Stage r key [] program
  | unread (err : ApiError) (value : Result × Option GoError) :
      Stage r key [⟨.get key, .error err⟩] (.done value)
  | reading (read : Object kind) {rest : Trace (Object kind)}
      {program : Prog (Object kind) (Result × Option GoError)}
      (asked : ∀ event ∈ rest, Apart (Wields r.libraries read) event.request)
      (asks : program.Calls (Apart (Wields r.libraries read))) :
      Stage r key (⟨.get key, .ok read⟩ :: rest) program

/-- One more answer. -/
theorem Stage.answer {r : TopologyReconciler} {key : NamespacedName} {trace : Trace (Object kind)}
    {request : Request (Object kind)}
    {next : request.Answer → Prog (Object kind) (Result × Option GoError)} (other : kind ≠ .user)
    (stage : Stage r key trace (.call request next)) (reply : request.Answer) :
    Stage r key (trace ++ [⟨request, reply⟩]) (next reply) := by
  cases stage with
  | fresh main =>
      obtain ⟨rfl, same⟩ := Program.call.inj main
      cases eq_of_heq same
      rcases reply with err | read
      · exact .unread err _
      · exact .reading read (fun _ none => absurd none List.not_mem_nil)
          (reconcileRead_wields r other)
  | reading read asked asks =>
      refine .reading read ?_ (asks.2 reply)
      refine List.forall_mem_append.mpr ⟨asked, fun event member => ?_⟩
      cases List.mem_singleton.mp member
      exact asks.1

/-- In every run, a reconcile is at one of the stages. -/
theorem reachable_stage {σ : Type} {env : Environment (@Request.Answer (Object kind)) σ}
    {initial : σ} {r : TopologyReconciler} {key : NamespacedName} (other : kind ≠ .user)
    {config : Environment.Config (@Request.Answer (Object kind)) σ (Result × Option GoError)}
    (reachable : env.Reachable (r.reconcile key) initial config) :
    ∀ activity, config.activity = some activity → Stage r key activity.1 activity.2 := by
  induction reachable with
  | refl => exact fun _ absent => by cases absent
  | tail _ step ih =>
      cases step with
      | foreign => exact ih
      | start => exact fun activity running => by cases running; exact .fresh rfl
      | answer => exact fun activity running => by cases running; exact (ih _ rfl).answer other _
      | stop => exact fun _ absent => by cases absent

end Reconcile

end TopologyOperator
