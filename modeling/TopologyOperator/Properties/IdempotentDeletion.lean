import TopologyOperator.Broker.Server
import TopologyOperator.Controller.Topology
import TopologyOperator.Dialogue.History
import TopologyOperator.Properties.DenotedEntity

/-!
# Deleting what is not there

A delete function of an object whose entity is missing in the broker returns without
an error and leaves the broker as it is, with two exceptions: before it deletes a
quorum queue under a condition, it looks the queue up, and a queue that is not found is
an error; and the arguments of a binding have to be decoded to find the binding.
-/

namespace TopologyOperator.BrokerServer

open Dialogue Program Environment

variable {kind : Kind} {world : World} (libraries : Libraries)

/-- The user that a permission is for. -/
def usernameOf (world : World) (specUser : String) (userReference : Option LocalObjectReference)
    (ns : String) : String :=
  match userReference with
  | none => specUser
  | some reference =>
      match world.users ⟨ns, reference.name⟩ with
      | none => specUser
      | some user => user.status.username

/-- The entity of a user. There is none without a name. -/
def ofUser (username : String) (entity : Entity) : Option Entity :=
  if username = "" then none else some entity

theorem ofUser_of_ne {username : String} (named : username ≠ "") (entity : Entity) :
    ofUser username entity = some entity :=
  if_neg named

/-- The entity that an object names, if it names one. A binding without arguments is named
by its properties key. -/
def entityOf (world : World) : {kind : Kind} → Object kind → Option Entity
  | .binding, object =>
      match unmarshalArguments libraries "binding arguments" object.spec.arguments with
      | .ok arguments => some (addressedBinding object arguments)
      | .error _ => none
  | .exchange, object => some (.exchange object.spec.vhost object.spec.name)
  | .federation, object => some (.federationUpstream object.spec.vhost object.spec.name)
  | .operatorPolicy, object => some (.operatorPolicy object.spec.vhost object.spec.name)
  | .permission, object =>
      let username :=
        usernameOf world object.spec.user object.spec.userReference object.objectMeta.ns
      ofUser username (.permission object.spec.vhost username)
  | .policy, object => some (.policy object.spec.vhost object.spec.name)
  | .queue, object => some (.queue object.spec.vhost object.spec.name)
  | .schemaReplication, _ =>
      some (.globalParameter SchemaReplicationReconciler.schemaReplicationParameterName)
  | .shovel, object => some (.shovel object.spec.vhost object.spec.name)
  | .topicPermission, object =>
      let username :=
        usernameOf world object.spec.user object.spec.userReference object.objectMeta.ns
      ofUser username (.topicPermission object.spec.vhost username object.spec.permissions.exchange)
  | .user, object => ofUser object.status.username (.user object.status.username)
  | .vhost, object => some (.vhost object.spec.name)

/-- The entity that the object names is not in the broker. -/
def Absent (world : World) (object : Object kind) : Prop :=
  ∀ entity, entityOf libraries world object = some entity → ¬ world.has entity

/-- What a deletion of a missing entity should do. -/
def Unchanged (world : World) (result : Except GoError (Object kind)) (final : World) : Prop :=
  (∃ object, result = .ok object) ∧ final = world

/-- The specs that can be deleted when the entity is missing: not those of quorum queues
that are to be deleted under a condition, and not those of bindings with arguments that
cannot be decoded. -/
def TolerantSpec : {kind : Kind} → Object kind → Prop
  | .queue, queue => queue.spec.deletionPolicy = "retain" ∨
      ¬ (queue.spec.type = "quorum" ∧ (queue.spec.deleteIfEmpty ∨ queue.spec.deleteIfUnused))
  | .binding, binding => ∀ extension, binding.spec.arguments = some extension →
      (Encoding.Json.unmarshalMap extension.raw).isSome = true
  | _, _ => True

/-- What the broker does not have counts as deleted. -/
theorem done_deleted {reply : BrokerReply}
    (notFound : ∃ body, reply.response = some ⟨404, body⟩) :
    (.done (deleted reply) : Prog (Object kind) (Except GoError Unit)) = .done (.ok ()) := by
  rw [deleted_of_notFound notFound]

variable {α : Type} {post : α → World → Prop}

/-- A call that deletes a missing entity is answered with 404 and changes nothing. -/
theorem settles_of_missing {call : BrokerCall} {entity : Entity}
    {next : call.Answer → Prog (Object kind) α} (removes : call.declares = false)
    (about : call.entity = some entity) (absent : ¬ world.has entity)
    (goesOn : ∀ reply, SaysNotFound call reply → environment.Settles post (next reply) world) :
    environment.Settles post (.call (.broker call) next) world := by
  constructor
  · obtain ⟨reply, notFound⟩ := exists_saysNotFound call
    exact ⟨reply, world, (answers_of_missing removes about absent).mpr ⟨rfl, notFound⟩⟩
  · intro reply after answered
    obtain ⟨rfl, notFound⟩ := (answers_of_missing removes about absent).mp answered
    exact goesOn reply notFound

/-- The delete functions that make one call. -/
theorem settles_deleting {object : Object kind} {call : BrokerCall} {entity : Entity}
    {next : call.Answer → Prog (Object kind) (Except GoError Unit)}
    (removes : call.declares = false) (about : call.entity = some entity)
    (absent : ¬ world.has entity)
    (ends : ∀ reply, SaysNotFound call reply → next reply = .done (.ok ())) :
    environment.Settles (Unchanged world) (deleting object (.call (.broker call) next)) world := by
  apply settles_of_missing removes about absent
  intro reply notFound
  rw [ends reply notFound]
  exact ⟨⟨object, rfl⟩, rfl⟩

theorem settles_returning (object : Object kind) :
    environment.Settles (Unchanged world) (deleting object (.done (.ok ()))) world :=
  ⟨⟨object, rfl⟩, rfl⟩

/-- A delete function that does nothing in some cases. -/
theorem settles_deleting_if {object : Object kind} {skips : Prop} [Decidable skips]
    {program : Prog (Object kind) (Except GoError Unit)}
    (settles : ¬ skips →
      environment.Settles (Unchanged world) (deleting object program) world) :
    environment.Settles (Unchanged world)
      (deleting object (if skips then return .ok () else program)) world := by
  split
  · exact settles_returning object
  · next goesOn => exact settles goesOn

/-- Removing the finalizer succeeds, and the broker is not concerned. -/
theorem removeFinalizer_settles (object : Object kind) :
    environment.Settles (Unchanged world) (removeFinalizer object) world := by
  constructor
  · exact ⟨.ok ⟨0, 0⟩, world, rfl, _, rfl⟩
  · rintro reply after ⟨rfl, version, rfl⟩
    exact ⟨⟨_, rfl⟩, rfl⟩

/-- The user of a permission is found, or taken from the spec. -/
theorem userToRevoke_settles (specUser : String) (userReference : Option LocalObjectReference)
    (ns : String) :
    environment.Settles (fun result final =>
        result = .ok (usernameOf world specUser userReference ns) ∧ final = world)
      (userToRevoke specUser userReference ns : Prog (Object kind) _) world := by
  cases userReference with
  | none => exact ⟨rfl, rfl⟩
  | some reference =>
      cases found : world.users ⟨ns, reference.name⟩ with
      | none =>
          constructor
          · refine ⟨.error ⟨.notFound, ""⟩, world, rfl, ?_⟩
            rw [found]
            exact ⟨"", rfl⟩
          · rintro reply after ⟨rfl, told⟩
            rw [found] at told
            obtain ⟨message, rfl⟩ := told
            simp only [usernameOf, found]
            exact ⟨rfl, rfl⟩
      | some user =>
          constructor
          · refine ⟨.ok user, world, rfl, ?_⟩
            rw [found]
          · rintro reply after ⟨rfl, told⟩
            rw [found] at told
            cases told
            simp only [usernameOf, found]
            exact ⟨rfl, rfl⟩

/-- The delete functions of permissions. -/
theorem deleteForUser_settles {permission : Object kind} {specUser : String}
    {userReference : Option LocalObjectReference}
    {revoke : String → Prog (Object kind) BrokerReply}
    (revokes : ∀ username, usernameOf world specUser userReference permission.objectMeta.ns =
        username → username ≠ "" →
      environment.Settles (fun reply final =>
        (∃ body, reply.response = some ⟨404, body⟩) ∧ final = world) (revoke username) world) :
    environment.Settles (Unchanged world)
      (deleteForUser specUser userReference permission revoke) world := by
  apply settles_bind.mpr
  apply (userToRevoke_settles ..).weaken
  rintro result now ⟨rfl, rfl⟩
  dsimp only
  split
  · exact removeFinalizer_settles permission
  · next named =>
    apply settles_bind.mpr
    apply (revokes _ rfl named).weaken
    rintro reply now ⟨notFound, rfl⟩
    rw [deleted_of_notFound notFound]
    exact removeFinalizer_settles permission

/-- A quorum queue that is to be deleted under a condition is looked up first. -/
theorem deleteQueue_settles_iff (queue : Object .queue)
    (absent : ¬ world.has (.queue queue.spec.vhost queue.spec.name)) :
    environment.Settles (Unchanged world) (deleting queue (QueueReconciler.deleteFunc queue))
      world ↔ TolerantSpec queue := by
  unfold QueueReconciler.deleteFunc
  by_cases retained : queue.spec.deletionPolicy = "retain"
  · rw [if_pos (by simp [shouldSkipDeletion, retained])]
    exact iff_of_true (settles_returning queue) (.inl retained)
  rw [if_neg (by simp [shouldSkipDeletion, retained])]
  unfold QueueReconciler.checkDeletable
  by_cases conditional : queue.spec.type = "quorum" ∧
      (queue.spec.deleteIfEmpty ∨ queue.spec.deleteIfUnused)
  · rw [if_pos conditional]
    apply iff_of_false
    · rintro ⟨-, goesOn⟩
      have answered : BrokerAnswers world (.getQueue queue.spec.vhost queue.spec.name)
          (.error (.errorResponse 404 "Object Not Found" "Not Found")) world :=
        ⟨rfl, fun _ => ⟨_, _, rfl⟩, fun info told => by cases told⟩
      obtain ⟨⟨object, failed⟩, -⟩ := goesOn (.error _) world answered
      cases failed
    · rintro (retains | unconditional)
      · exact retained retains
      · exact unconditional conditional
  · rw [if_neg conditional]
    apply iff_of_true
    · exact settles_deleting rfl rfl absent fun _ => done_deleted
    · exact .inr conditional

/-- No binding that is listed is the one that is missing. -/
theorem find_eq_none {binding : Object .binding} {arguments : Arguments}
    (absent : ¬ world.has (bindingEntity binding arguments))
    {destinationType : String} (named : destinationType = binding.spec.destinationType)
    {listed : List BindingInfo}
    (lists : ∀ info ∈ listed, info.source = binding.spec.source ∧
      info.destination = binding.spec.destination ∧ info.destinationType = destinationType ∧
      world.has (.binding binding.spec.vhost info.source info.destination info.destinationType
        info.routingKey info.arguments)) :
    (listed.filter fun info => binding.spec.routingKey = info.routingKey &&
      Encoding.Json.membersDeepEqual info.arguments arguments).getLast? = none := by
  rw [List.getLast?_eq_none_iff, List.filter_eq_nil_iff]
  intro info member matching
  rw [Bool.and_eq_true, decide_eq_true_eq] at matching
  obtain ⟨source, destination, type, present⟩ := lists info member
  rw [source, destination, type, named, ← matching.1,
    Encoding.Json.eq_of_membersDeepEqual matching.2] at present
  exact absent present

/-- The bindings are listed, and the one that is missing is not among them. -/
theorem findBindingInfo_settles {binding : Object .binding} {extension : RawExtension}
    {arguments : Arguments} (decoded : Encoding.Json.unmarshalMap extension.raw = some arguments)
    (schema : SchemaValid binding) (absent : ¬ world.has (bindingEntity binding arguments)) :
    environment.Settles (fun result final => result = .ok none ∧ final = world)
      (BindingReconciler.findBindingInfo libraries binding extension : Prog (Object kind) _)
      world := by
  unfold BindingReconciler.findBindingInfo BindingReconciler.listBindingsBetween
  rw [decoded]
  by_cases toQueue : binding.spec.destinationType = "queue"
  · rw [if_pos toQueue]
    constructor
    · exact ⟨.ok [], world, rfl, [], rfl, by simp⟩
    · rintro reply after ⟨rfl, listed, rfl, lists⟩
      exact ⟨congrArg Except.ok (find_eq_none absent toQueue.symm lists), rfl⟩
  · rw [if_neg toQueue]
    constructor
    · exact ⟨.ok [], world, rfl, [], rfl, by simp⟩
    · rintro reply after ⟨rfl, listed, rfl, lists⟩
      exact ⟨congrArg Except.ok (find_eq_none absent (schema.resolve_left toQueue).symm lists), rfl⟩

/-- The deletion of an absent binding succeeds exactly if its spec is tolerant. -/
theorem deleteBinding_settles_iff (binding : Object .binding) (schema : SchemaValid binding)
    (absent : Absent libraries world binding) :
    environment.Settles (Unchanged world)
      (deleting binding (BindingReconciler.deleteFunc libraries binding)) world ↔
      TolerantSpec binding := by
  unfold BindingReconciler.deleteFunc BindingReconciler.deletionInfo
  cases given : binding.spec.arguments with
  | none =>
      have named : unmarshalArguments libraries "binding arguments" binding.spec.arguments =
          .ok [] := by rw [given]; rfl
      have missing := absent (addressedBinding binding []) (by simp only [entityOf, named])
      rw [addressedBinding, given] at missing
      simp only [generateBindingInfo, named]
      apply iff_of_true
      · exact settles_deleting rfl rfl missing fun _ => done_deleted
      · intro extension present
        rw [given] at present
        cases present
  | some extension =>
      cases decoded : Encoding.Json.unmarshalMap extension.raw with
      | none =>
          simp only [BindingReconciler.findBindingInfo, decoded]
          apply iff_of_false
          · rintro ⟨⟨object, failed⟩, -⟩
            cases failed
          · intro tolerant
            have decodes := tolerant extension given
            rw [decoded] at decodes
            cases decodes
      | some arguments =>
          have named : unmarshalArguments libraries "binding arguments" binding.spec.arguments =
              .ok arguments := by simp only [given, unmarshalArguments, decoded]
          have missing := absent (addressedBinding binding arguments)
            (by simp only [entityOf, named])
          rw [addressedBinding, given] at missing
          apply iff_of_true
          · apply settles_bind.mpr
            apply settles_bind.mpr
            apply (findBindingInfo_settles libraries decoded schema missing).weaken
            rintro result now ⟨rfl, rfl⟩
            exact settles_returning binding
          · intro other present
            rw [given] at present
            cases present
            rw [decoded]
            rfl

/-- If the entity of an object is missing in the broker, its delete function returns
without an error and leaves the broker as it is, exactly for the tolerant specs. -/
theorem missing_entity_deleted_iff (object : Object kind) (schema : SchemaValid object)
    (absent : Absent libraries world object) :
    environment.Settles (Unchanged world) (deleteFunc libraries object) world ↔
      TolerantSpec object := by
  cases kind with
  | binding => exact deleteBinding_settles_iff libraries object schema absent
  | queue => exact deleteQueue_settles_iff object (absent _ rfl)
  | permission | topicPermission =>
      apply iff_of_true _ trivial
      apply deleteForUser_settles
      rintro _ rfl named
      apply settles_of_missing rfl rfl (absent _ (ofUser_of_ne named _))
      exact fun reply notFound => ⟨notFound, rfl⟩
  | user =>
      apply iff_of_true _ trivial
      apply settles_deleting_if
      intro named
      exact settles_deleting rfl rfl (absent _ (ofUser_of_ne named _)) fun _ => done_deleted
  | federation | shovel | vhost =>
      apply iff_of_true _ trivial
      apply settles_deleting_if
      intro _
      exact settles_deleting rfl rfl (absent _ rfl) fun _ => done_deleted
  | exchange | operatorPolicy | policy | schemaReplication =>
      apply iff_of_true _ trivial
      exact settles_deleting rfl rfl (absent _ rfl) fun _ => done_deleted

section Example

/-- A broker without any entity. -/
def emptyBroker : World where
  has _ := False
  load _ _ := ⟨0, 0⟩
  users _ := none

/-- A quorum queue that is to be deleted only if it is empty. -/
def backlogQueue : Object .queue where
  objectMeta := { name := "backlog", ns := "shop" }
  spec := { name := "backlog", vhost := "/", type := "quorum", deleteIfEmpty := true }

/-- The queue is gone, and its delete function returns an error. -/
theorem backlogQueue_undeletable :
    Absent .verbatim emptyBroker backlogQueue ∧
      ∃ trace err, environment.Answered (deleteFunc .verbatim backlogQueue) emptyBroker trace
        (.done (.error err)) emptyBroker := by
  have started : environment.Answered (deleteFunc .verbatim backlogQueue) emptyBroker [] _ _ :=
    .refl ..
  have missing := started.snoc (.error (.errorResponse 404 "Object Not Found" "Not Found"))
    ⟨rfl, fun _ => ⟨_, _, rfl⟩, fun info told => by cases told⟩
  exact ⟨fun _ _ => id, _, _, missing⟩

/-- A classic queue with the same condition. -/
def classicQueue : Object .queue where
  objectMeta := { name := "backlog", ns := "shop" }
  spec := { name := "backlog", vhost := "/", type := "classic", deleteIfEmpty := true }

/-- The deletion of the classic queue is finished. -/
theorem classicQueue_deleted :
    environment.Settles (Unchanged emptyBroker) (deleteFunc .verbatim classicQueue) emptyBroker :=
  (missing_entity_deleted_iff .verbatim classicQueue trivial fun _ _ => id).mpr
    (.inr (by decide))

end Example

end TopologyOperator.BrokerServer
