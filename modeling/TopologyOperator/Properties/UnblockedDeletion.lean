import TopologyOperator.Webhook.Acceptance

/-!
# Webhooks and deletion

An object that is marked for deletion stays until the operator has removed its
finalizer, and that update is validated like any other. `removal_accepted_iff`
says when it is accepted: always, except that federations, shovels and schema
replications still need the Secret they refer to, and that the arguments of a
queue must be values that Go can compare.
-/

namespace TopologyOperator

open Dialogue
open Dialogue.Program (Replies)
open Encoding (Json.unmarshalMap Json.mapsEqual_self)

variable {kind : Kind} {Resource : Type}

/-- The Secrets in a cluster. -/
abbrev Secrets := NamespacedName → Option Secret

/-- The cache holds labelled Secrets only; the direct reader finds all of them. -/
def Secrets.get (secrets : Secrets) (reader : Reader) (key : NamespacedName) :
    Except ApiError Secret :=
  match (secrets key).filter fun secret => reader = .api ∨ secret.labelled with
  | some secret => .ok secret
  | none => .error ⟨.notFound, "secret \"" ++ key.name ++ "\" not found"⟩

/-- The answers to a webhook: the Secrets, and an order for each map it iterates. -/
def webhookReplies (secrets : Secrets)
    (order : (entries : Arguments) → { order : Arguments // order.Perm entries }) :
    Replies (@Request.Answer Resource) := fun _ request =>
  match request with
  | .getSecret reader key => secrets.get reader key
  | .iterationOrder entries => order entries
  | other => other.refusal

section Unblocked

/-- A Secret that is referred to exists and has the label. -/
def Usable (secrets : Secrets) (reference : Option LocalObjectReference) (ns : String) : Prop :=
  ∀ named, reference = some named →
    ∃ secret, secrets ⟨ns, named.name⟩ = some secret ∧ secret.labelled = true

/-- Nothing stands in the way of the update that removes the finalizer. -/
def Unblocked (secrets : Secrets) : {kind : Kind} → Object kind → Prop
  | .federation, object => Usable secrets object.spec.uriSecret object.objectMeta.ns
  | .schemaReplication, object => Usable secrets object.spec.upstreamSecret object.objectMeta.ns
  | .shovel, object => Usable secrets object.spec.uriSecret object.objectMeta.ns
  | .queue, object => ∀ arguments, object.spec.arguments = some arguments →
      ∃ members, Json.unmarshalMap arguments.raw = some members ∧
        members.all (·.2.comparable) = true
  | _, _ => True

variable {secrets : Secrets}
  {order : (entries : Arguments) → { order : Arguments // order.Perm entries }}

/-- The cache holds labelled Secrets only. -/
theorem get_eq_ok {reader : Reader} {key : NamespacedName} {secret : Secret} :
    secrets.get reader key = .ok secret ↔
      secrets key = some secret ∧ (reader = .api ∨ secret.labelled = true) := by
  unfold Secrets.get
  split
  · next found =>
      obtain ⟨stored, held⟩ := Option.filter_eq_some_iff.mp found
      constructor
      · rintro ⟨⟩
        exact ⟨stored, by simpa using held⟩
      · rintro ⟨same, -⟩
        rw [Option.some.inj (stored.symm.trans same)]
  · next missing =>
      refine ⟨fun impossible => (nomatch impossible), fun ⟨stored, held⟩ => ?_⟩
      rw [Option.filter_eq_none_iff] at missing
      exact absurd (by simpa using held) (missing secret stored)

/-- A connection secret is accepted if it exists and is labelled. -/
theorem validateSecretLabel_accepted {libraries : Libraries}
    {reference : Option LocalObjectReference} {ns : String} :
    Accepted (webhookReplies secrets order : Replies (@Request.Answer Resource))
      (validateSecretLabel libraries reference ns) ↔ Usable secrets reference ns := by
  unfold validateSecretLabel Accepted
  rcases reference with _ | named
  · simp [Usable]
  · simp only [Usable, Option.some.injEq, forall_eq']
    rcases cached : secrets.get .cache ⟨ns, named.name⟩ with err | secret
    · have unusable : ¬ ∃ secret, secrets ⟨ns, named.name⟩ = some secret ∧
          secret.labelled = true := by
        rintro ⟨secret, stored, labelled⟩
        rw [get_eq_ok.mpr ⟨stored, .inr labelled⟩] at cached
        cases cached
      simp only [unusable, iff_false]
      simp only [ask, Program.request, Program.bind_eq, Program.call_bind, Program.done_bind,
        Program.run_call, webhookReplies, cached]
      split
      · rcases direct : secrets.get .api ⟨ns, named.name⟩ with failure | secret <;>
          simp [webhookReplies, direct]
      · simp
    · obtain ⟨stored, labelled⟩ := get_eq_ok.mp cached
      have usable : secret.labelled = true := by simpa using labelled
      simp [ask, Program.request, webhookReplies, cached, stored, usable]

/-- Arguments that stay the same are accepted, unless they cannot be compared. -/
theorem validateArguments_accepted {libraries : Libraries} {arguments : Option RawExtension}
    {errs : List FieldError} :
    Accepted (webhookReplies secrets order)
        (QueueCustomValidator.validateArguments libraries arguments arguments >>= fun
          | .error err => return .error err
          | .ok found => return aggregate (errs ++ found)) ↔
      errs = [] ∧ ∀ held, arguments = some held →
        ∃ members, Json.unmarshalMap held.raw = some members ∧
          members.all (·.2.comparable) = true := by
  unfold QueueCustomValidator.validateArguments Accepted
  rcases arguments with _ | held
  · simp
  · simp only [Option.some.injEq, forall_eq']
    rcases decoded : Json.unmarshalMap held.raw with _ | members
    · simp
    have compared := Json.mapsEqual_self decoded (order members).property
    by_cases comparable : members.all (·.2.comparable) = true
    · rw [if_pos comparable] at compared
      have usable : ∃ found, some members = some found ∧ found.all (·.2.comparable) = true :=
        ⟨members, rfl, comparable⟩
      simp only [usable, and_true]
      simp [ask, Program.request, webhookReplies, compared]
    · rw [if_neg comparable] at compared
      have unusable : ¬ ∃ found, some members = some found ∧
          found.all (·.2.comparable) = true := by
        rintro ⟨found, ⟨⟩, holds⟩
        exact comparable holds
      simp only [unusable, and_false]
      simp [ask, Program.request, webhookReplies, compared, Program.run]

@[simp] theorem withoutFinalizer_spec (object : Object kind) :
    object.withoutFinalizer.spec = object.spec := rfl

@[simp] theorem withoutFinalizer_rabbitReference (object : Object kind) :
    object.withoutFinalizer.rabbitReference = object.rabbitReference := by
  cases kind <;> rfl

/-- The update by which the operator removes its finalizer from a stored object that
is marked for deletion is accepted exactly if nothing stands in its way. -/
theorem removal_accepted_iff (libraries : Libraries) {object : Object kind}
    (admitted : Admitted libraries object)
    (marked : object.objectMeta.deletionTimestamp.isSome = true) (secrets : Secrets)
    (order : (entries : Arguments) → { order : Arguments // order.Perm entries }) :
    Accepted (webhookReplies secrets order)
      (validateUpdate libraries object object.withoutFinalizer) ↔ Unblocked secrets object := by
  have valid := admitted.fieldsValid
  cases kind with
  | binding =>
      refine iff_of_true (pure_accepted.mpr ?_) trivial
      simp [BindingCustomValidator.validateUpdate, except_bind_eq_ok]
  | exchange =>
      refine iff_of_true (pure_accepted.mpr ?_) trivial
      simp [ExchangeCustomValidator.validateUpdate, except_bind_eq_ok]
  | federation =>
      refine andThen_accepted.trans ?_
      rw [validateSecretLabel_accepted]
      refine and_iff_right ?_
      simp [frozenNameVhostReference, except_bind_eq_ok]
  | operatorPolicy =>
      refine iff_of_true (pure_accepted.mpr ?_) trivial
      simp [OperatorPolicyCustomValidator.validateUpdate, frozenNameVhostReference,
        except_bind_eq_ok]
  | permission =>
      refine iff_of_true (pure_accepted.mpr ?_) trivial
      refine except_bind_eq_ok.mpr ⟨validateUser_eq_ok.mpr valid, ?_⟩
      simp [except_bind_eq_ok, userReferenceUpdated_eq_false]
  | policy =>
      refine iff_of_true (pure_accepted.mpr ?_) trivial
      simp [PolicyCustomValidator.validateUpdate, frozenNameVhostReference, except_bind_eq_ok]
  | queue =>
      refine andThen_accepted.trans ?_
      have frozen : QueueCustomValidator.frozenFields object object.withoutFinalizer = .ok () := by
        simp [QueueCustomValidator.frozenFields, except_bind_eq_ok]
      have unchanged : QueueCustomValidator.changedFields object object.withoutFinalizer = [] := by
        simp [QueueCustomValidator.changedFields]
      refine (and_iff_right frozen).trans (validateArguments_accepted.trans ?_)
      exact and_iff_right unchanged
  | schemaReplication =>
      refine andThen_accepted.trans ?_
      rw [validateSecretLabel_accepted]
      refine and_iff_right ?_
      exact except_bind_eq_ok.mpr ⟨valid, by simp⟩
  | shovel =>
      refine andThen_accepted.trans ?_
      rw [validateSecretLabel_accepted]
      refine and_iff_right (except_bind_eq_ok.mpr ⟨valid, ?_⟩)
      simp [frozenNameVhostReference, except_bind_eq_ok]
  | topicPermission =>
      refine iff_of_true (pure_accepted.mpr ?_) trivial
      refine except_bind_eq_ok.mpr ⟨validateUser_eq_ok.mpr valid, ?_⟩
      simp [except_bind_eq_ok, userReferenceUpdated_eq_false]
  | user =>
      refine iff_of_true (andThen_accepted.mpr ⟨by simp, ?_⟩) trivial
      have present : object.withoutFinalizer.objectMeta.deletionTimestamp ≠ none :=
        Option.isSome_iff_ne_none.mp marked
      rw [if_neg present]
      exact pure_accepted.mpr rfl
  | vhost =>
      refine iff_of_true (pure_accepted.mpr ?_) trivial
      simp [VhostCustomValidator.validateUpdate, except_bind_eq_ok]

end Unblocked

section Example

/-- A shovel that a user has deleted. -/
def drainShovel : Object .shovel where
  objectMeta := { name := "drain", ns := "shop", deletionTimestamp := some 100
                  finalizers := [Kind.shovel.finalizer] }
  spec := { name := "drain", vhost := "/", rabbitmqClusterReference := { name := "rabbit" }
            uriSecret := some ⟨"drain-uri"⟩ }

/-- The Secret with the URIs of the shovel. -/
def drainSecret : Secret where
  objectMeta := { name := "drain-uri", ns := "shop"
                  labels := [(topologyOperatorLabel, topologyOperatorLabelValue)] }
  data := [("srcUri", "amqp://a"), ("destUri", "amqp://b")]

/-- The shovel of the example can be stored. -/
theorem drainShovel_admitted : Admitted .verbatim drainShovel :=
  .created drainShovel (webhookReplies (fun _ => some drainSecret) fun entries =>
    ⟨entries, .refl _⟩)
    rfl

/-- While its Secret exists, the shovel can be released. -/
theorem drainShovel_released :
    Accepted (webhookReplies (fun _ => some drainSecret) fun entries => ⟨entries, .refl _⟩)
      (validateUpdate .verbatim drainShovel drainShovel.withoutFinalizer) := by
  refine (removal_accepted_iff .verbatim drainShovel_admitted rfl _ _).mpr fun named _ => ?_
  exact ⟨drainSecret, rfl, by decide⟩

/-- Once its Secret is deleted, the shovel cannot be released. -/
theorem deleted_secret_blocks_drainShovel :
    Admitted .verbatim drainShovel ∧
      drainShovel.objectMeta.deletionTimestamp.isSome = true ∧
      ¬ Accepted (webhookReplies (fun _ => none) fun entries => ⟨entries, .refl _⟩)
        (validateUpdate .verbatim drainShovel drainShovel.withoutFinalizer) := by
  refine ⟨drainShovel_admitted, rfl, fun accepted => ?_⟩
  unfold validateUpdate ShovelCustomValidator.validateUpdate at accepted
  have labelled := (andThen_accepted.mp accepted).2
  have usable := validateSecretLabel_accepted.mp labelled
  obtain ⟨secret, found, -⟩ := usable ⟨"drain-uri"⟩ rfl
  cases found

end Example

end TopologyOperator
