import TopologyOperator.Controller.Footprint
import TopologyOperator.Properties.BindingKeys
import TopologyOperator.Webhook.Acceptance

/-!
# The broker entity of an object

The fields of its spec by which an object names its broker entity, and the entity
that it denotes in a run of its declare or delete function. The two functions write
at the broker to the entity that the object denotes, and to no other. A permission
may leave the name of its user to the status of a `User`, and a binding with
arguments is looked up at the broker before it is deleted. A binding without arguments
is deleted by the properties key that its routing key gives, which stands for another
binding if the routing key contains `%7E`.
-/

namespace TopologyOperator

open Dialogue

variable {kind : Kind}

/-- The kinds whose broker entity is named by the spec. The entity of a `User` is
named by its status, and there is one schema replication parameter per cluster. -/
def Kind.namedBySpec : Kind → Bool
  | .user | .schemaReplication => false
  | _ => true

/-- The fields by which an object names its broker entity. -/
inductive Identity where
  | named (vhost name : String)
  | vhost (name : String)
  | binding (vhost source destination destinationType routingKey : String)
      (arguments : Option RawExtension)
  | permission (vhost user : String) (userReference : Option LocalObjectReference)
  | topicPermission (vhost user : String) (userReference : Option LocalObjectReference)
      (exchange : String)
  | unnamed

def Object.identity : {kind : Kind} → Object kind → Identity
  | .binding, object => .binding object.spec.vhost object.spec.source object.spec.destination
      object.spec.destinationType object.spec.routingKey object.spec.arguments
  | .exchange, object => .named object.spec.vhost object.spec.name
  | .federation, object => .named object.spec.vhost object.spec.name
  | .operatorPolicy, object => .named object.spec.vhost object.spec.name
  | .permission, object =>
      .permission object.spec.vhost object.spec.user object.spec.userReference
  | .policy, object => .named object.spec.vhost object.spec.name
  | .queue, object => .named object.spec.vhost object.spec.name
  | .shovel, object => .named object.spec.vhost object.spec.name
  | .topicPermission, object => .topicPermission object.spec.vhost object.spec.user
      object.spec.userReference object.spec.permissions.exchange
  | .vhost, object => .vhost object.spec.name
  | .user, _ | .schemaReplication, _ => .unnamed

section Entities

variable {Resource α : Type} {libraries : Libraries}

/-- A broker call of a run, with its answer. -/
abbrev Sent (trace : Trace Resource) (call : BrokerCall) : Prop :=
  ∃ reply, (⟨.broker call, reply⟩ : Event (@Request.Answer Resource)) ∈ trace

/-- The run was answered with this `User`. -/
abbrev ReadUser (trace : Trace Resource) (user : Object .user) : Prop :=
  ∃ key, (⟨.getObject .user key, .ok user⟩ : Event (@Request.Answer Resource)) ∈ trace

/-- The user that a permission is for: the one in the spec, or the one that the run
found in the status of the `User` that is referred to. -/
def NamesUser (trace : Trace Resource) (user : String) (reference : Option LocalObjectReference)
    (username : String) : Prop :=
  match reference with
  | none => username = user
  | some _ => ∃ found, ReadUser trace found ∧ username = found.status.username

/-- The broker entity that an object denotes in a run. -/
def Denotes (libraries : Libraries) :
    {kind : Kind} → Trace (Object kind) → Object kind → Entity → Prop
  | .binding, _, object, entity => ∃ arguments,
      unmarshalArguments libraries "binding arguments" object.spec.arguments = .ok arguments ∧
        entity = bindingEntity object arguments
  | .exchange, _, object, entity => entity = .exchange object.spec.vhost object.spec.name
  | .federation, _, object, entity =>
      entity = .federationUpstream object.spec.vhost object.spec.name
  | .operatorPolicy, _, object, entity =>
      entity = .operatorPolicy object.spec.vhost object.spec.name
  | .permission, trace, object, entity => ∃ username,
      NamesUser trace object.spec.user object.spec.userReference username ∧
        entity = .permission object.spec.vhost username
  | .policy, _, object, entity => entity = .policy object.spec.vhost object.spec.name
  | .queue, _, object, entity => entity = .queue object.spec.vhost object.spec.name
  | .shovel, _, object, entity => entity = .shovel object.spec.vhost object.spec.name
  | .topicPermission, trace, object, entity => ∃ username,
      NamesUser trace object.spec.user object.spec.userReference username ∧
        entity = .topicPermission object.spec.vhost username object.spec.permissions.exchange
  | .vhost, _, object, entity => entity = .vhost object.spec.name
  | .user, _, _, _ | .schemaReplication, _, _, _ => True

/-- Two runs that were answered with the same user name. -/
def SameUser (first second : Trace Resource) : Prop :=
  ∀ user other, ReadUser first user → ReadUser second other →
    other.status.username = user.status.username

/-- Runs that are answered with one user name the same user. -/
theorem NamesUser.unique {first second : Trace Resource} {user username other : String}
    {reference : Option LocalObjectReference} (names : NamesUser first user reference username)
    (names' : NamesUser second user reference other) (same : SameUser first second) :
    other = username := by
  cases reference with
  | none => exact names'.trans names.symm
  | some =>
      obtain ⟨found, read, rfl⟩ := names
      obtain ⟨found', read', rfl⟩ := names'
      exact same found found' read read'

/-- Two versions with the same identity denote the same entity. -/
theorem Denotes.unique {first second : Trace (Object kind)} {old new : Object kind}
    {entity other : Entity} (covered : kind.namedBySpec = true)
    (identity : new.identity = old.identity) (denotes : Denotes libraries first old entity)
    (denotes' : Denotes libraries second new other) (same : SameUser first second) :
    other = entity := by
  cases kind with
  | user | schemaReplication => cases covered
  | binding =>
      obtain ⟨arguments, decoded, rfl⟩ := denotes
      obtain ⟨arguments', decoded', rfl⟩ := denotes'
      injection identity with vhost source destination destinationType routingKey raw
      rw [raw, decoded] at decoded'
      cases decoded'
      simp only [bindingEntity, vhost, source, destination, destinationType, routingKey]
  | permission =>
      obtain ⟨username, names, rfl⟩ := denotes
      obtain ⟨username', names', rfl⟩ := denotes'
      injection identity with vhost user reference
      rw [user, reference] at names'
      rw [names.unique names' same, vhost]
  | topicPermission =>
      obtain ⟨username, names, rfl⟩ := denotes
      obtain ⟨username', names', rfl⟩ := denotes'
      injection identity with vhost user reference exchange
      rw [user, reference] at names'
      rw [names.unique names' same, vhost, exchange]
  | vhost =>
      injection identity with name
      rw [show other = _ from denotes', show entity = _ from denotes, name]
  | _ =>
      injection identity with vhost name
      rw [show other = _ from denotes', show entity = _ from denotes, vhost, name]

/-- A call that writes to the broker is of the sort that bounds the program. -/
theorem calls_of_sent {program : Prog Resource α} {calls : BrokerCall → Prop}
    (only : program.Calls (BrokerOnly calls)) {trace : Trace Resource} {outcome : Outcome α}
    (exec : program.Exec trace outcome) {call : BrokerCall} (sent : Sent trace call)
    {entity : Entity} (writes : call.entity = some entity) : calls call := by
  obtain ⟨reply, member⟩ := sent
  rcases only.of_exec exec _ member with observes | ⟨other, same, allowed⟩
  · have none : call.entity.isNone = true := observes
    rw [writes] at none
    cases none
  · cases same
    exact allowed

/-- The broker calls of a part of a run are among those of the run. -/
theorem Sent.append {first second : Trace Resource} {call : BrokerCall} :
    Sent (first ++ second) call ↔ Sent first call ∨ Sent second call := by
  simp only [Sent, List.mem_append, exists_or]

theorem ReadUser.append_left {first second : Trace Resource} {user : Object .user}
    (read : ReadUser first user) : ReadUser (first ++ second) user := by
  obtain ⟨key, member⟩ := read
  exact ⟨key, List.mem_append_left _ member⟩

/-- What a run has found, its continuation has found. -/
theorem NamesUser.append_left {first second : Trace Resource} {user username : String}
    {reference : Option LocalObjectReference} (names : NamesUser first user reference username) :
    NamesUser (first ++ second) user reference username := by
  cases reference with
  | none => exact names
  | some =>
      obtain ⟨found, read, same⟩ := names
      exact ⟨found, read.append_left, same⟩

/-- A program that does not write to the broker does not send such a call. -/
theorem not_sent_of_calls {program : Prog Resource α} {allowed : Request Resource → Prop}
    (only : program.Calls allowed)
    (silent : ∀ call, allowed (.broker call) → call.entity = none)
    {trace : Trace Resource} {outcome : Outcome α} (exec : program.Exec trace outcome)
    {call : BrokerCall} {entity : Entity} (writes : call.entity = some entity) :
    ¬ Sent trace call := by
  rintro ⟨reply, member⟩
  have none := silent call (only.of_exec exec _ member)
  rw [writes] at none
  cases none

theorem not_sent_nil {call : BrokerCall} : ¬ Sent ([] : Trace Resource) call := by
  rintro ⟨reply, member⟩
  cases member

/-- A program that has ended sends no call. -/
theorem not_sent_of_done {value : α} {trace : Trace Resource} {outcome : Outcome α}
    (exec : (Program.done value : Prog Resource α).Exec trace outcome) {call : BrokerCall} :
    ¬ Sent trace call :=
  exec.1 ▸ not_sent_nil

/-- A program that only observes sends no call that writes. -/
theorem not_sent_of_observes {program : Prog Resource α} (observes : Observes program)
    {trace : Trace Resource} {outcome : Outcome α} (exec : program.Exec trace outcome)
    {call : BrokerCall} {entity : Entity} (writes : call.entity = some entity) :
    ¬ Sent trace call :=
  not_sent_of_calls observes (fun _ none => Option.isNone_iff_eq_none.mp none) exec writes

section Permissions

variable {specUser : String} {reference : Option LocalObjectReference} {permission : Object kind}
  {trace : Trace (Object kind)} {call : BrokerCall} {entity : Entity}

/-- The user that is returned was answered. -/
theorem getUsernameFromUser_exec {ns name : String} {user : Object .user} {trace : Trace Resource}
    (exec : (getUsernameFromUser ns name).Exec trace (.done (.ok (some user)))) :
    ReadUser trace user := by
  obtain ⟨answer, rest, rfl, stops⟩ := exec_ask_bind.mp exec
  cases answer with
  | error err =>
      dsimp only at stops
      split at stops <;> cases stops.2
  | ok found =>
      cases stops.2
      exact ⟨_, .head _⟩

/-- Making the user the owner does not reach the broker. -/
theorem setOwner_not_sent {user : Object .user}
    {outcome : Outcome (Object kind × Except GoError Unit)}
    (exec : (setOwner user permission).Exec trace outcome) (writes : call.entity = some entity) :
    ¬ Sent trace call := by
  have only : (setOwner user permission).Calls fun request =>
      ∃ written, request = .update written := by
    unfold setOwner
    split
    · trivial
    · split
      · trivial
      · refine calls_ask_bind ⟨_, rfl⟩ fun answer => ?_
        split <;> trivial
  refine not_sent_of_calls only ?_ exec writes
  rintro other ⟨written, absurd⟩
  cases absurd

/-- Removing the finalizer does not call the broker. -/
theorem removeFinalizer_not_sent {outcome : Outcome (Except GoError (Object kind))}
    (exec : (removeFinalizer permission).Exec trace outcome) (writes : call.entity = some entity) :
    ¬ Sent trace call := by
  have only : (removeFinalizer permission).Calls fun request =>
      ∃ written, request = .update written := by
    refine calls_ask_bind ⟨_, rfl⟩ fun answer => ?_
    split <;> trivial
  refine not_sent_of_calls only ?_ exec writes
  rintro other ⟨written, absurd⟩
  cases absurd

/-- A grant is for the user that the permission names. -/
theorem declareForUser_names {grant : String → Prog (Object kind) BrokerReply}
    {granting : String → BrokerCall}
    (grants : ∀ username, (grant username).Calls fun request =>
      request = .broker (granting username))
    {outcome : Outcome (Object kind × Except GoError Unit)}
    (exec : (declareForUser specUser reference permission grant).Exec trace outcome)
    (sent : Sent trace call) (writes : call.entity = some entity) :
    ∃ username, NamesUser trace specUser reference username ∧ call = granting username := by
  have granted : ∀ {username : String} {events : Trace (Object kind)}
      {reply : Outcome (Object kind × Except GoError Unit)}
      {finish : BrokerReply → Object kind × Except GoError Unit},
      ((grant username).bind fun answer => .done (finish answer)).Exec events reply →
      Sent events call → call = granting username := by
    intro username events reply finish exec ⟨answer, member⟩
    have only := (grants username).bind fun answer => Program.calls_done (finish answer)
    exact Request.broker.inj (only.of_exec exec _ member)
  unfold declareForUser at exec
  cases reference with
  | none =>
      dsimp only at exec
      split at exec
      · exact absurd sent (not_sent_of_done exec)
      · exact ⟨specUser, rfl, granted exec sent⟩
  | some reference =>
      rcases Program.exec_bind.mp exec with ⟨found, looked, rest, rfl, looking, remaining⟩ |
        ⟨stops, -⟩
      swap
      · exact absurd sent (not_sent_of_observes (getUsernameFromUser_calls rfl) stops writes)
      have later := (Sent.append.mp sent).resolve_left
        (not_sent_of_observes (getUsernameFromUser_calls rfl) looking writes)
      rcases found with err | _ | user
      · exact absurd later (not_sent_of_done remaining)
      · dsimp only at remaining
        split at remaining
        · exact absurd later (not_sent_of_done remaining)
        · rw [remaining.1] at later
          exact absurd later not_sent_nil
      · dsimp only at remaining
        split at remaining
        · exact absurd later (not_sent_of_done remaining)
        rcases Program.exec_bind.mp remaining with
          ⟨owned, owning, last, rfl, sets, grants⟩ | ⟨stops, -⟩
        swap
        · exact absurd later (setOwner_not_sent stops writes)
        have final := (Sent.append.mp later).resolve_left (setOwner_not_sent sets writes)
        split at grants
        · exact absurd final (not_sent_of_done grants)
        · have read : ReadUser looked user := getUsernameFromUser_exec looking
          exact ⟨user.status.username, ⟨user, read.append_left, rfl⟩, granted grants final⟩

/-- The user to revoke from is the one that the permission names, if there is one. -/
theorem userToRevoke_names {ns username : String} {trace : Trace Resource}
    (exec : (userToRevoke specUser reference ns).Exec trace (.done (.ok username)))
    (exclusive : specUser = "" ↔ reference.isSome = true) (given : username ≠ "") :
    NamesUser trace specUser reference username := by
  cases reference with
  | none =>
      cases exec.2
      rfl
  | some reference =>
      obtain ⟨found, looked, rest, rfl, looking, remaining⟩ := Program.exec_bind_done.mp exec
      rcases found with err | _ | user
      · cases remaining.2
      · cases remaining.2
        exact absurd (exclusive.mpr rfl) given
      · cases remaining.2
        have read : ReadUser looked user := getUsernameFromUser_exec looking
        exact ⟨user, read.append_left, rfl⟩

/-- A revocation is from the user that the permission names. -/
theorem deleteForUser_names {revoke : String → Prog (Object kind) BrokerReply}
    {revoking : String → BrokerCall}
    (revokes : ∀ username, (revoke username).Calls fun request =>
      request = .broker (revoking username))
    {outcome : Outcome (Except GoError (Object kind))}
    (exclusive : specUser = "" ↔ reference.isSome = true)
    (exec : (deleteForUser specUser reference permission revoke).Exec trace outcome)
    (sent : Sent trace call) (writes : call.entity = some entity) :
    ∃ username, NamesUser trace specUser reference username ∧ call = revoking username := by
  rcases Program.exec_bind.mp exec with ⟨found, looked, rest, rfl, looking, remaining⟩ | ⟨stops, -⟩
  swap
  · exact absurd sent (not_sent_of_observes (userToRevoke_calls (fun _ => rfl) ..) stops writes)
  have later := (Sent.append.mp sent).resolve_left
    (not_sent_of_observes (userToRevoke_calls (fun _ => rfl) ..) looking writes)
  rcases found with err | username
  · exact absurd later (not_sent_of_done remaining)
  dsimp only at remaining
  split at remaining
  · exact absurd later (removeFinalizer_not_sent remaining writes)
  next given =>
  have names : NamesUser (looked ++ rest) specUser reference username :=
    (userToRevoke_names looking exclusive given).append_left
  have revoked : ∀ {events : Trace (Object kind)} {reply : Outcome BrokerReply},
      (revoke username).Exec events reply → Sent events call → call = revoking username := by
    intro events reply revokes' ⟨answer, member⟩
    exact Request.broker.inj ((revokes username).of_exec revokes' _ member)
  rcases Program.exec_bind.mp remaining with ⟨reply, first, last, rfl, asks, finish⟩ | ⟨stops, -⟩
  swap
  · exact ⟨username, names, revoked stops later⟩
  rcases Sent.append.mp later with early | late
  · exact ⟨username, names, revoked asks early⟩
  · split at finish
    · exact absurd late (not_sent_of_done finish)
    · exact absurd late (removeFinalizer_not_sent finish writes)

/-- A permission is granted to the user that it names. -/
theorem declarePermission_names {permission : Object .permission}
    {trace : Trace (Object .permission)}
    {outcome : Outcome (Object .permission × Except GoError Unit)}
    (exec : (PermissionReconciler.declareFunc permission).Exec trace outcome)
    (sent : Sent trace call) (writes : call.entity = some entity) :
    ∃ username, NamesUser trace permission.spec.user permission.spec.userReference username ∧
      call = .updatePermissionsIn permission.spec.vhost username (generatePermissions permission) :=
  declareForUser_names (fun _ => calls_ask.mpr rfl) exec sent writes

/-- So is a topic permission. -/
theorem declareTopicPermission_names {permission : Object .topicPermission}
    {trace : Trace (Object .topicPermission)}
    {outcome : Outcome (Object .topicPermission × Except GoError Unit)}
    (exec : (TopicPermissionReconciler.declareFunc permission).Exec trace outcome)
    (sent : Sent trace call) (writes : call.entity = some entity) :
    ∃ username, NamesUser trace permission.spec.user permission.spec.userReference username ∧
      call = .updateTopicPermissionsIn permission.spec.vhost username
        (generateTopicPermissions permission) :=
  declareForUser_names (fun _ => calls_ask.mpr rfl) exec sent writes

/-- A permission is revoked from the user that it names. -/
theorem deletePermission_names {permission : Object .permission}
    {trace : Trace (Object .permission)}
    (exclusive : permission.spec.user = "" ↔ permission.spec.userReference.isSome = true)
    {outcome : Outcome (Except GoError (Object .permission))}
    (exec : (PermissionReconciler.deleteFunc permission).Exec trace outcome)
    (sent : Sent trace call) (writes : call.entity = some entity) :
    ∃ username, NamesUser trace permission.spec.user permission.spec.userReference username ∧
      call = .clearPermissionsIn permission.spec.vhost username :=
  deleteForUser_names (fun _ => calls_ask.mpr rfl) exclusive exec sent writes

/-- So is a topic permission, in its exchange. -/
theorem deleteTopicPermission_names {permission : Object .topicPermission}
    {trace : Trace (Object .topicPermission)}
    (exclusive : permission.spec.user = "" ↔ permission.spec.userReference.isSome = true)
    {outcome : Outcome (Except GoError (Object .topicPermission))}
    (exec : (TopicPermissionReconciler.deleteFunc permission).Exec trace outcome)
    (sent : Sent trace call) (writes : call.entity = some entity) :
    ∃ username, NamesUser trace permission.spec.user permission.spec.userReference username ∧
      call = .deleteTopicPermissionsIn permission.spec.vhost username
        permission.spec.permissions.exchange :=
  deleteForUser_names (fun _ => calls_ask.mpr rfl) exclusive exec sent writes

end Permissions

section Bindings

/-- The broker lists the bindings that it was asked for. -/
def Truthful (trace : Trace Resource) : Prop :=
  (∀ vhost source destination listed,
    (⟨.broker (.listQueueBindingsBetween vhost source destination), .ok listed⟩ :
      Event (@Request.Answer Resource)) ∈ trace →
    ∀ info ∈ listed, info.source = source ∧ info.destination = destination ∧
      info.destinationType = "queue") ∧
  ∀ vhost source destination listed,
    (⟨.broker (.listExchangeBindingsBetween vhost source destination), .ok listed⟩ :
      Event (@Request.Answer Resource)) ∈ trace →
    ∀ info ∈ listed, info.source = source ∧ info.destination = destination ∧
      info.destinationType = "exchange"

/-- The properties key of a binding without arguments stands for its routing key. -/
def BindingInfo.Keyed (info : BindingInfo) : Prop :=
  info.arguments = [] → routingKeyOf info.propertiesKey = info.routingKey

/-- The broker lists bindings with their properties keys. -/
def Keyed (trace : Trace Resource) : Prop :=
  (∀ vhost source destination listed,
    (⟨.broker (.listQueueBindingsBetween vhost source destination), .ok listed⟩ :
      Event (@Request.Answer Resource)) ∈ trace → ∀ info ∈ listed, info.Keyed) ∧
  ∀ vhost source destination listed,
    (⟨.broker (.listExchangeBindingsBetween vhost source destination), .ok listed⟩ :
      Event (@Request.Answer Resource)) ∈ trace → ∀ info ∈ listed, info.Keyed

theorem Truthful.append_left {first second : Trace Resource}
    (truthful : Truthful (first ++ second)) :
    Truthful first :=
  ⟨fun vhost source destination listed asked =>
      truthful.1 vhost source destination listed (List.mem_append_left _ asked),
    fun vhost source destination listed asked =>
      truthful.2 vhost source destination listed (List.mem_append_left _ asked)⟩

theorem Keyed.append_left {first second : Trace Resource} (keyed : Keyed (first ++ second)) :
    Keyed first :=
  ⟨fun vhost source destination listed asked =>
      keyed.1 vhost source destination listed (List.mem_append_left _ asked),
    fun vhost source destination listed asked =>
      keyed.2 vhost source destination listed (List.mem_append_left _ asked)⟩

/-- The enumerations in the schema of the kind. -/
def SchemaValid : {kind : Kind} → Object kind → Prop
  | .binding, object =>
      object.spec.destinationType = "queue" ∨ object.spec.destinationType = "exchange"
  | _, _ => True

variable {binding : Object .binding} {trace : Trace Resource}

/-- What is listed between the ends of a binding is between them, with its keys. -/
theorem listBindingsBetween_exec {listed : List BindingInfo}
    (exec : (BindingReconciler.listBindingsBetween binding).Exec trace (.done (.ok listed)))
    (truthful : Truthful trace) (schema : SchemaValid binding) :
    ∀ info ∈ listed, info.source = binding.spec.source ∧
      info.destination = binding.spec.destination ∧
      info.destinationType = binding.spec.destinationType ∧ (Keyed trace → info.Keyed) := by
  unfold BindingReconciler.listBindingsBetween at exec
  split at exec
  · next queue =>
      obtain ⟨answer, rest, rfl, stops⟩ := exec
      cases stops.2
      rw [queue]
      intro info member
      obtain ⟨source, destination, destinationType⟩ := truthful.1 _ _ _ _ (.head _) info member
      exact ⟨source, destination, destinationType, fun keyed =>
        keyed.1 _ _ _ _ (.head _) info member⟩
  · next other =>
      obtain ⟨answer, rest, rfl, stops⟩ := exec
      cases stops.2
      rw [schema.resolve_left other]
      intro info member
      obtain ⟨source, destination, destinationType⟩ := truthful.2 _ _ _ _ (.head _) info member
      exact ⟨source, destination, destinationType, fun keyed =>
        keyed.2 _ _ _ _ (.head _) info member⟩

/-- A binding under its own key is addressed as it is listed. -/
theorem BindingInfo.Keyed.addressed {info : BindingInfo} (keyed : info.Keyed) (vhost : String) :
    info.addressed vhost = .binding vhost info.source info.destination info.destinationType
      info.routingKey info.arguments := by
  unfold BindingInfo.addressed
  split
  · next empty => rw [keyed (List.isEmpty_iff.mp empty)]
  · rfl

/-- The delete request is for a binding between the ends of the object. It addresses the
binding that the object's key stands for, or that was looked up. -/
theorem deletionInfo_exec {info : BindingInfo}
    (exec : (BindingReconciler.deletionInfo libraries binding).Exec trace (.done (.ok (some info))))
    (truthful : Truthful trace) (schema : SchemaValid binding) :
    info.source = binding.spec.source ∧ info.destination = binding.spec.destination ∧
      info.destinationType = binding.spec.destinationType ∧ ∃ arguments,
      unmarshalArguments libraries "binding arguments" binding.spec.arguments = .ok arguments ∧
        (Keyed trace → info.addressed binding.spec.vhost = addressedBinding binding arguments) := by
  unfold BindingReconciler.deletionInfo at exec
  split at exec
  · next extension given =>
      unfold BindingReconciler.findBindingInfo at exec
      split at exec
      · cases exec.2
      next arguments decoded =>
      obtain ⟨listed, asked, rest, rfl, lists, last⟩ := Program.exec_bind_done.mp exec
      cases listed with
      | error err => cases last.2
      | ok listed =>
          have found := Except.ok.inj (Outcome.done.inj last.2)
          have chosen := List.mem_filter.mp (List.mem_of_getLast? found.symm)
          simp only [Bool.and_eq_true, decide_eq_true_eq] at chosen
          obtain ⟨member, routingKey, equal⟩ := chosen
          obtain ⟨source, destination, destinationType, own⟩ :=
            listBindingsBetween_exec lists truthful.append_left schema info member
          refine ⟨source, destination, destinationType, arguments,
            by simp [given, unmarshalArguments, decoded], fun keyed => ?_⟩
          rw [(own keyed.append_left).addressed]
          simp only [addressedBinding, given, bindingEntity, source, destination, destinationType,
            ← routingKey, Encoding.Json.eq_of_membersDeepEqual equal]
  · next plain =>
    split at exec
    · cases exec.2
    · next generated eq =>
        obtain ⟨arguments, decoded, rfl⟩ := generateBindingInfo_eq_ok libraries eq
        cases exec.2
        rw [plain] at decoded
        cases decoded
        refine ⟨rfl, rfl, rfl, [], by rw [plain]; rfl, fun _ => ?_⟩
        simp only [addressedBinding, plain]
        rfl

/-- The delete function removes the binding that it addresses, and no other. -/
theorem deleteBinding_addresses {call : BrokerCall} {entity : Entity}
    {outcome : Outcome (Except GoError Unit)}
    (exec : (BindingReconciler.deleteFunc libraries binding).Exec trace outcome)
    (truthful : Truthful trace) (keyed : Keyed trace) (schema : SchemaValid binding)
    (sent : Sent trace call) (writes : call.entity = some entity) :
    ∃ arguments,
      unmarshalArguments libraries "binding arguments" binding.spec.arguments = .ok arguments ∧
        entity = addressedBinding binding arguments := by
  have observes : Observes (BindingReconciler.deletionInfo libraries binding : Prog Resource _) :=
    deletionInfo_calls libraries (fun _ _ _ => ⟨rfl, rfl⟩) binding
  rcases Program.exec_bind.mp exec with ⟨found, looked, rest, rfl, looking, remaining⟩ | ⟨stops, -⟩
  swap
  · exact absurd sent (not_sent_of_observes observes stops writes)
  have later := (Sent.append.mp sent).resolve_left (not_sent_of_observes observes looking writes)
  rcases found with err | _ | info
  · exact absurd later (not_sent_of_done remaining)
  · exact absurd later (not_sent_of_done remaining)
  · obtain ⟨-, -, -, arguments, decoded, addresses⟩ :=
      deletionInfo_exec looking truthful.append_left schema
    obtain ⟨reply, last, rfl, stops⟩ := exec_ask_bind.mp remaining
    rw [stops.1] at later
    obtain ⟨answer, member⟩ := later
    cases List.mem_singleton.mp member
    exact ⟨arguments, decoded,
      (Option.some.inj writes).symm.trans (addresses keyed.append_left)⟩

end Bindings

/-- The properties key of the object stands for another binding: it has no arguments, and
its routing key contains the code of `~`. -/
def Miskeyed : {kind : Kind} → Object kind → Prop
  | .binding, object =>
      object.spec.arguments = none ∧ tildeCode <:+: object.spec.routingKey.toList
  | _, _ => False

/-- The delete function of a binding addresses what the declare function declares exactly
if the properties key stands for it. -/
theorem addressedBinding_eq_iff {binding : Object .binding} {arguments : Arguments} :
    addressedBinding binding arguments = bindingEntity binding arguments ↔
      ¬ Miskeyed binding := by
  unfold addressedBinding
  split
  · next plain =>
      have readBack := BindingReconciler.routingKeyOf_generatePropertiesKey plain
      simp only [bindingEntity, Entity.binding.injEq, true_and, and_true, Miskeyed, plain,
        readBack]
  · next given => simp [Miskeyed, given]

/-- What a declare function writes at the broker, the object denotes. -/
theorem declareFunc_denotes {object : Object kind} {trace : Trace (Object kind)}
    {outcome : Outcome (Object kind × Except GoError Unit)} {call : BrokerCall} {entity : Entity}
    (exec : (declareFunc libraries object).Exec trace outcome) (sent : Sent trace call)
    (writes : call.entity = some entity) : Denotes libraries trace object entity := by
  have plain : ∀ {calls : BrokerCall → Prop} {program : Prog (Object kind) (Except GoError Unit)},
      program.Calls (BrokerOnly calls) → (declaring object program).Exec trace outcome →
      calls call := by
    intro calls program only exec
    have bounded : (declaring object program).Calls (BrokerOnly calls) := only.bind fun _ => trivial
    exact calls_of_sent bounded exec sent writes
  have about : ∀ {other : Entity} {program : Prog (Object kind) (Except GoError Unit)},
      program.Calls (BrokerOnly (About other)) → (declaring object program).Exec trace outcome →
      entity = other := fun only exec =>
    Option.some.inj (writes.symm.trans (plain only exec))
  cases kind with
  | binding =>
      have declares : (BindingReconciler.declareFunc libraries object :
          Prog (Object .binding) _).Calls (BrokerOnly fun call => ∃ info,
            generateBindingInfo libraries object = .ok info ∧
              call = .declareBinding object.spec.vhost info) :=
        declareBinding_calls libraries fun info generated => .inr ⟨_, rfl, info, generated, rfl⟩
      obtain ⟨info, generated, rfl⟩ := plain declares exec
      obtain ⟨arguments, decoded, rfl⟩ := generateBindingInfo_eq_ok libraries generated
      exact ⟨arguments, decoded, (Option.some.inj writes).symm⟩
  | exchange => exact about (declareExchange_calls libraries fun _ _ => .inr ⟨_, rfl, rfl⟩) exec
  | federation =>
      exact about (declareFederation_calls (fun _ => .inl rfl) fun _ => .inr ⟨_, rfl, rfl⟩) exec
  | operatorPolicy =>
      exact about (declareOperatorPolicy_calls libraries fun _ _ => .inr ⟨_, rfl, rfl⟩) exec
  | permission =>
      obtain ⟨username, names, rfl⟩ := declarePermission_names exec sent writes
      exact ⟨username, names, (Option.some.inj writes).symm⟩
  | policy => exact about (declarePolicy_calls libraries fun _ _ => .inr ⟨_, rfl, rfl⟩) exec
  | queue => exact about (declareQueue_calls libraries fun _ _ => .inr ⟨_, rfl, rfl⟩) exec
  | shovel =>
      exact about (declareShovel_calls libraries (fun _ => .inl rfl)
        fun _ _ _ _ => .inr ⟨_, rfl, rfl⟩) exec
  | topicPermission =>
      obtain ⟨username, names, rfl⟩ := declareTopicPermission_names exec sent writes
      exact ⟨username, names, (Option.some.inj writes).symm⟩
  | vhost =>
      exact about (declareVhost_calls (.inr ⟨_, rfl, rfl⟩) (.inl rfl)
        (fun _ => .inr ⟨_, rfl, rfl⟩) fun _ => .inr ⟨_, rfl, rfl⟩) exec
  | user | schemaReplication => trivial

/-- What a delete function removes from the broker, the object denotes, unless its
properties key stands for something else. -/
theorem deleteFunc_denotes {object : Object kind} {trace : Trace (Object kind)}
    {outcome : Outcome (Except GoError (Object kind))} {call : BrokerCall} {entity : Entity}
    (fields : FieldsValid object) (schema : SchemaValid object) (named : ¬ Miskeyed object)
    (truthful : Truthful trace) (keyed : Keyed trace)
    (exec : (deleteFunc libraries object).Exec trace outcome) (sent : Sent trace call)
    (writes : call.entity = some entity) : Denotes libraries trace object entity := by
  have removed : ∀ {other : Entity} {program : Prog (Object kind) (Except GoError Unit)},
      program.Calls (BrokerOnly (Removes other)) → (deleting object program).Exec trace outcome →
      entity = other := by
    intro other program only exec
    have bounded : (deleting object program).Calls (BrokerOnly (Removes other)) :=
      only.bind fun result => by split <;> trivial
    exact Option.some.inj (writes.symm.trans (calls_of_sent bounded exec sent writes).2)
  cases kind with
  | binding =>
      have addressed : ∃ arguments, unmarshalArguments libraries "binding arguments"
          object.spec.arguments = .ok arguments ∧ entity = addressedBinding object arguments := by
        rcases Program.exec_bind.mp exec with ⟨result, first, last, rfl, removes, ends⟩ |
          ⟨stops, -⟩
        · have ended : last = [] := by rcases result with err | ⟨⟩ <;> exact ends.1
          rw [ended, List.append_nil] at truthful keyed sent
          exact deleteBinding_addresses removes truthful keyed schema sent writes
        · exact deleteBinding_addresses stops truthful keyed schema sent writes
      obtain ⟨arguments, decoded, rfl⟩ := addressed
      exact ⟨arguments, decoded, addressedBinding_eq_iff.mpr named⟩
  | exchange => exact removed (deleteExchange_calls (.inr ⟨_, rfl, rfl, rfl⟩)) exec
  | federation => exact removed (deleteFederation_calls (.inr ⟨_, rfl, rfl, rfl⟩)) exec
  | operatorPolicy => exact removed (deleteOperatorPolicy_calls (.inr ⟨_, rfl, rfl, rfl⟩)) exec
  | permission =>
      obtain ⟨username, names, rfl⟩ := deletePermission_names fields exec sent writes
      exact ⟨username, names, (Option.some.inj writes).symm⟩
  | policy => exact removed (deletePolicy_calls (.inr ⟨_, rfl, rfl, rfl⟩)) exec
  | queue => exact removed (deleteQueue_calls (.inl rfl) (.inr ⟨_, rfl, rfl, rfl⟩)) exec
  | shovel => exact removed (deleteShovel_calls (.inr ⟨_, rfl, rfl, rfl⟩)) exec
  | topicPermission =>
      obtain ⟨username, names, rfl⟩ := deleteTopicPermission_names fields exec sent writes
      exact ⟨username, names, (Option.some.inj writes).symm⟩
  | vhost => exact removed (deleteVhost_calls (.inr ⟨_, rfl, rfl, rfl⟩)) exec
  | user | schemaReplication => trivial

end Entities

end TopologyOperator
