import TopologyOperator.Properties.DenotedEntity

/-!
# Frozen broker identity

The webhooks freeze the fields by which an object names its broker entity, and the
cluster reference. Every version of an object names the same entity of the same
cluster, and the delete function of the last version addresses what the declare function
of any earlier version declared, with one exception: a binding without arguments is
deleted by a properties key, and that of a routing key with `%7E` stands for the routing
key with `~` in its place.
-/

namespace TopologyOperator

open Dialogue
open Dialogue.Program (Replies)

variable {kind : Kind}

section Updates

/-- An update that the webhook of the kind accepts. -/
def AcceptedUpdate (libraries : Libraries) (old new : Object kind) : Prop :=
  ∃ replies : Replies (@Request.Answer (Object kind)),
    Accepted replies (validateUpdate libraries old new)

/-- The cluster reference and the identity of the object. -/
def SameEntity (old new : Object kind) : Prop :=
  new.rabbitReference = old.rabbitReference ∧ new.identity = old.identity

theorem frozenNameVhostReference_eq_ok {old new : Object kind}
    {oldName newName oldVhost newVhost : String} :
    frozenNameVhostReference old new oldName newName oldVhost newVhost = .ok () ↔
      newName = oldName ∧ newVhost = oldVhost ∧ new.rabbitReference = old.rabbitReference := by
  unfold frozenNameVhostReference
  simp only [except_bind_eq_ok, frozen_eq_ok, frozenReference_eq_ok]

/-- Every accepted update keeps the reference and the identity. -/
theorem AcceptedUpdate.sameEntity {libraries : Libraries} {old new : Object kind}
    (accepted : AcceptedUpdate libraries old new) : SameEntity old new := by
  obtain ⟨replies, accepts⟩ := accepted
  have named : ∀ {oldName newName oldVhost newVhost : String},
      frozenNameVhostReference old new oldName newName oldVhost newVhost = .ok () →
      new.rabbitReference = old.rabbitReference ∧
        Identity.named newVhost newName = .named oldVhost oldName := by
    intro oldName newName oldVhost newVhost checked
    obtain ⟨rfl, rfl, reference⟩ := frozenNameVhostReference_eq_ok.mp checked
    exact ⟨reference, rfl⟩
  cases kind with
  | binding =>
      have checked := pure_accepted.mp accepts
      simp only [BindingCustomValidator.validateUpdate, except_bind_eq_ok, frozen_eq_ok,
        frozenReference_eq_ok, aggregate_eq_ok, List.append_eq_nil_iff, invalidUnless_eq_nil,
        decide_eq_true_eq] at checked
      obtain ⟨vhost, reference, ⟨⟨⟨source, destination⟩, destinationType⟩, routingKey⟩,
        arguments⟩ := checked
      exact ⟨reference, by
        simp only [Object.identity, vhost, source, destination, destinationType, routingKey,
          arguments]⟩
  | exchange =>
      have checked := pure_accepted.mp accepts
      simp only [ExchangeCustomValidator.validateUpdate, except_bind_eq_ok, frozen_eq_ok,
        frozenReference_eq_ok] at checked
      obtain ⟨name, vhost, reference, -⟩ := checked
      exact ⟨reference, by simp only [Object.identity, name, vhost]⟩
  | federation => exact named (andThen_accepted.mp accepts).1
  | operatorPolicy => exact named (pure_accepted.mp accepts)
  | policy => exact named (pure_accepted.mp accepts)
  | shovel => exact named (except_bind_eq_ok.mp (andThen_accepted.mp accepts).1).2
  | permission =>
      have checked := pure_accepted.mp accepts
      simp only [PermissionCustomValidator.validateUpdate, except_bind_eq_ok, frozen_eq_ok,
        frozenReference_eq_ok, require_eq_ok, Bool.not_eq_true', userReferenceUpdated_eq_false]
        at checked
      obtain ⟨-, user, userReference, vhost, reference⟩ := checked
      exact ⟨reference, by simp only [Object.identity, user, userReference, vhost]⟩
  | topicPermission =>
      have checked := pure_accepted.mp accepts
      simp only [TopicPermissionCustomValidator.validateUpdate, except_bind_eq_ok, frozen_eq_ok,
        frozenReference_eq_ok, require_eq_ok, Bool.not_eq_true', userReferenceUpdated_eq_false]
        at checked
      obtain ⟨-, exchange, user, userReference, vhost, reference⟩ := checked
      exact ⟨reference, by simp only [Object.identity, exchange, user, userReference, vhost]⟩
  | queue =>
      have checked := (andThen_accepted.mp accepts).1
      simp only [QueueCustomValidator.frozenFields, except_bind_eq_ok, frozen_eq_ok,
        frozenReference_eq_ok] at checked
      obtain ⟨name, vhost, reference⟩ := checked
      exact ⟨reference, by simp only [Object.identity, name, vhost]⟩
  | vhost =>
      have checked := pure_accepted.mp accepts
      simp only [VhostCustomValidator.validateUpdate, except_bind_eq_ok, frozen_eq_ok,
        frozenReference_eq_ok] at checked
      exact ⟨checked.2, by simp only [Object.identity, checked.1]⟩
  | user =>
      have checked := (andThen_accepted.mp accepts).1
      exact ⟨(frozenReference_eq_ok _ _).mp checked, rfl⟩
  | schemaReplication =>
      have checked := (except_bind_eq_ok.mp (andThen_accepted.mp accepts).1).2
      exact ⟨(frozenReference_eq_ok _ _).mp checked, rfl⟩

theorem sameEntity_of_updates {libraries : Libraries} {first last : Object kind}
    (updates : Relation.ReflTransGen (AcceptedUpdate libraries) first last) :
    SameEntity first last := by
  induction updates with
  | refl => exact ⟨rfl, rfl⟩
  | tail _ update ih =>
      obtain ⟨reference, identity⟩ := update.sameEntity
      exact ⟨reference.trans ih.1, identity.trans ih.2⟩

end Updates

section Versions

variable {libraries : Libraries} {first earlier last : Object kind}

theorem fieldsValid_of_updates
    (created : ∃ replies : Replies (@Request.Answer (Object kind)),
      Accepted replies (validateCreate libraries first))
    (updates : Relation.ReflTransGen (AcceptedUpdate libraries) first last) :
    FieldsValid last := by
  cases updates with
  | refl =>
      obtain ⟨replies, accepted⟩ := created
      exact fieldsValid_of_create accepted
  | tail _ update =>
      obtain ⟨replies, accepted⟩ := update
      exact fieldsValid_of_update accepted

/-- What the delete function of the later version removes from the broker is what the
declare function of the earlier one has written, if both found the same user and the
broker lists the bindings that it was asked for with their properties keys. -/
def Addresses (libraries : Libraries) (earlier last : Object kind) : Prop :=
  ∀ declaring deleting outcome result declared removed,
    (declareFunc libraries earlier).Exec declaring outcome →
    (deleteFunc libraries last).Exec deleting result →
    SameUser declaring deleting → Truthful deleting → Keyed deleting →
    Sent declaring declared → declared.entity.isSome = true →
    Sent deleting removed → removed.entity.isSome = true → removed.entity = declared.entity

theorem addresses_of_named (covered : kind.namedBySpec = true) (fields : FieldsValid last)
    (schema : SchemaValid last) (identity : last.identity = earlier.identity)
    (named : ¬ Miskeyed last) : Addresses libraries earlier last := by
  intro declaring deleting outcome result declared removed declares deletes same truthful keyed
    sent writes sent' writes'
  obtain ⟨entity, about⟩ := Option.isSome_iff_exists.mp writes
  obtain ⟨entity', about'⟩ := Option.isSome_iff_exists.mp writes'
  have denotes := declareFunc_denotes declares sent about
  have denotes' := deleteFunc_denotes fields schema named truthful keyed deletes sent' about'
  rw [about, about', denotes.unique covered identity denotes' same]

section Bindings

variable {binding : Object .binding}

/-- What is generated for a binding without arguments. -/
def plainInfo (binding : Object .binding) : BindingInfo where
  source := binding.spec.source
  vhost := binding.spec.vhost
  destination := binding.spec.destination
  destinationType := binding.spec.destinationType
  routingKey := binding.spec.routingKey
  arguments := []

theorem generateBindingInfo_plain (plain : binding.spec.arguments = none) :
    generateBindingInfo libraries binding = .ok (plainInfo binding) := by
  rw [generateBindingInfo, plain]
  rfl

/-- The answer that no broker could be reached. -/
def unreached : BrokerReply := ⟨none, some (.other "unreachable")⟩

/-- A binding without arguments is declared in one call. -/
theorem declareBinding_plain (libraries : Libraries) (plain : binding.spec.arguments = none) :
    ∃ outcome, (declareFunc libraries binding).Exec
      [⟨.broker (.declareBinding binding.spec.vhost (plainInfo binding)), unreached⟩] outcome := by
  simp only [declareFunc, declaring, BindingReconciler.declareFunc, generateBindingInfo_plain plain]
  exact ⟨_, unreached, [], rfl, rfl, rfl⟩

/-- A binding without arguments is deleted in one call, by its generated key. -/
theorem deleteBinding_plain (libraries : Libraries) (plain : binding.spec.arguments = none) :
    ∃ outcome, (deleteFunc libraries binding).Exec
      [⟨.broker (.deleteBinding binding.spec.vhost
        { plainInfo binding with propertiesKey := generatePropertiesKey binding }), unreached⟩]
      outcome := by
  simp only [deleteFunc, deleting, BindingReconciler.deleteFunc, BindingReconciler.deletionInfo,
    plain, generateBindingInfo_plain plain]
  exact ⟨_, unreached, [], rfl, rfl, rfl⟩

end Bindings

/-- If the properties key stands for another binding, the delete function addresses it. -/
theorem not_addresses_of_miskeyed (identity : last.identity = earlier.identity)
    (miskeyed : Miskeyed last) : ¬ Addresses libraries earlier last := by
  cases kind with
  | binding =>
      intro addresses
      have plain : last.spec.arguments = none := miskeyed.1
      injection identity with vhost source destination destinationType routingKey raw
      have earlierPlain : earlier.spec.arguments = none := raw ▸ plain
      obtain ⟨outcome, declares⟩ := declareBinding_plain libraries earlierPlain
      obtain ⟨result, deletes⟩ := deleteBinding_plain libraries plain
      have same := addresses _ _ _ _ _ _ declares deletes ?_ ?_ ?_ ⟨_, .head _⟩ rfl
        ⟨_, .head _⟩ rfl
      · have addressed : addressedBinding last [] = bindingEntity last [] := calc
          addressedBinding last [] = BindingInfo.addressed
              { plainInfo last with propertiesKey := generatePropertiesKey last }
              last.spec.vhost := by
            simp only [addressedBinding, plain]
            rfl
          _ = bindingEntity earlier [] := Option.some.inj same
          _ = bindingEntity last [] := by
            simp only [bindingEntity, vhost, source, destination, destinationType, routingKey]
        exact addressedBinding_eq_iff.mp addressed miskeyed
      -- Neither run looks up a user or lists bindings.
      · rintro user other ⟨key, member⟩
        cases List.mem_singleton.mp member
      · constructor <;> intro vhost source destination listed member <;>
          cases List.mem_singleton.mp member
      · constructor <;> intro vhost source destination listed member <;>
          cases List.mem_singleton.mp member
  | _ => exact miskeyed.elim

/-- An exchange, as it was created. -/
def ordersExchange : Object .exchange where
  objectMeta := { name := "orders", ns := "shop" }
  spec := { name := "orders", vhost := "/", rabbitmqClusterReference := { name := "rabbit" } }

/-- The exchange after an update of its arguments. -/
def mirroredExchange : Object .exchange :=
  { ordersExchange with spec := { ordersExchange.spec with arguments := some ⟨"\x7b\x7d"⟩ } }

/-- A binding without arguments, with the routing key `%7E`. -/
def codedBinding : Object .binding where
  objectMeta := { name := "coded", ns := "shop" }
  spec := { vhost := "/", source := "orders", destination := "audit", destinationType := "queue"
            routingKey := "%7E", rabbitmqClusterReference := { name := "rabbit" } }

end Versions

end TopologyOperator
