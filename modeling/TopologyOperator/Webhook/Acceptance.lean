import TopologyOperator.Webhook.Validation

/-!
# Accepted objects and updates

What it means that a webhook accepts, and what can be concluded from it: the checks
on single fields, and the shape of the cluster reference, which creation checks and
updates freeze.
-/

namespace TopologyOperator

open Dialogue
open Dialogue.Program (Replies)

variable {kind : Kind} {Resource : Type}

/-- The validator returns no error. -/
def Accepted (replies : Replies (@Request.Answer Resource))
    (validator : Prog Resource (Except AdmissionError Unit)) : Prop :=
  (validator.run replies 0).2 = .done (.ok ())

/-- Objects that can be stored: accepted on creation, and by every update since.
Deletion and writes of the status are not validated and leave the spec alone. -/
inductive Admitted (libraries : Libraries) : Object kind → Prop where
  | created (object : Object kind) (replies : Replies (@Request.Answer (Object kind)))
      (accepted : Accepted replies (validateCreate libraries object)) : Admitted libraries object
  | updated (old new : Object kind) (replies : Replies (@Request.Answer (Object kind)))
      (admitted : Admitted libraries old)
      (accepted : Accepted replies (validateUpdate libraries old new)) : Admitted libraries new
  | kept (old new : Object kind) (admitted : Admitted libraries old) (same : new.spec = old.spec) :
      Admitted libraries new

section Fields

/-- Two checks in a row accept if both do. -/
theorem andThen_accepted {replies : Replies (@Request.Answer Resource)}
    {first : Except AdmissionError Unit} {next : Prog Resource (Except AdmissionError Unit)} :
    Accepted replies (andThen first next) ↔ first = .ok () ∧ Accepted replies next := by
  rcases first with err | ⟨⟩ <;> simp [andThen, Accepted]

theorem pure_accepted {replies : Replies (@Request.Answer Resource)}
    {result : Except AdmissionError Unit} :
    Accepted replies (pure result : Prog Resource _) ↔ result = .ok () := by
  simp [Accepted]

theorem except_bind_eq_ok {ε : Type} {first second : Except ε Unit} :
    (first >>= fun _ => second) = .ok () ↔ first = .ok () ∧ second = .ok () := by
  rcases first with err | ⟨⟩ <;> simp [bind, Except.bind]

/-- Exactly one of user and user reference is given. -/
theorem validateUser_eq_ok {reject : FieldError → AdmissionError} {user : String}
    {userReference : Option LocalObjectReference} :
    validateUser reject user userReference = .ok () ↔
      (user = "" ↔ userReference.isSome = true) := by
  unfold validateUser
  rw [except_bind_eq_ok, require_eq_ok, require_eq_ok]
  cases userReference <;> by_cases empty : user = "" <;> simp [empty]

/-- The checks on the fields of the object alone, which creation and update share. -/
def FieldsValid : {kind : Kind} → Object kind → Prop
  | .permission, object => object.spec.user = "" ↔ object.spec.userReference.isSome = true
  | .topicPermission, object => object.spec.user = "" ↔ object.spec.userReference.isSome = true
  | .schemaReplication, object => validateSecret object = .ok ()
  | .shovel, object => amqp10Validate object = .ok ()
  | _, _ => True

/-- The checks read the spec only. -/
theorem FieldsValid.of_spec {old new : Object kind} (valid : FieldsValid old)
    (same : new.spec = old.spec) : FieldsValid new := by
  cases kind <;> simp_all [FieldsValid, validateSecret, amqp10Validate]

/-- An accepted creation passes the checks on fields. -/
theorem fieldsValid_of_create {libraries : Libraries} {object : Object kind}
    {replies : Replies (@Request.Answer (Object kind))}
    (accepted : Accepted replies (validateCreate libraries object)) : FieldsValid object := by
  cases kind with
  | permission => exact validateUser_eq_ok.mp (andThen_accepted.mp accepted).1
  | topicPermission => exact validateUser_eq_ok.mp (andThen_accepted.mp accepted).1
  | schemaReplication => exact (andThen_accepted.mp accepted).1
  | shovel => exact (andThen_accepted.mp accepted).1
  | _ => trivial

/-- So does an accepted update. -/
theorem fieldsValid_of_update {libraries : Libraries} {old new : Object kind}
    {replies : Replies (@Request.Answer (Object kind))}
    (accepted : Accepted replies (validateUpdate libraries old new)) : FieldsValid new := by
  cases kind with
  | permission =>
      have checked := pure_accepted.mp accepted
      exact validateUser_eq_ok.mp (except_bind_eq_ok.mp checked).1
  | topicPermission =>
      have checked := pure_accepted.mp accepted
      exact validateUser_eq_ok.mp (except_bind_eq_ok.mp checked).1
  | schemaReplication => exact (except_bind_eq_ok.mp (andThen_accepted.mp accepted).1).1
  | shovel => exact (except_bind_eq_ok.mp (andThen_accepted.mp accepted).1).1
  | _ => trivial

/-- Whatever can be stored passes the checks on fields. -/
theorem Admitted.fieldsValid {libraries : Libraries} {object : Object kind}
    (admitted : Admitted libraries object) : FieldsValid object := by
  induction admitted with
  | created object replies accepted => exact fieldsValid_of_create accepted
  | updated old new replies admitted accepted ih => exact fieldsValid_of_update accepted
  | kept old new admitted same ih => exact ih.of_spec same

end Fields

section Reference

/-- Exactly one of name and connection secret is set. -/
def RabbitmqClusterReference.ExactlyOne (reference : RabbitmqClusterReference) : Prop :=
  reference.name ≠ "" ↔ reference.connectionSecret = none

/-- Creation accepts references with exactly one of name and connection secret. -/
theorem validateOnCreate_eq_ok {reference : RabbitmqClusterReference} :
    reference.validateOnCreate = .ok () ↔ reference.ExactlyOne := by
  unfold RabbitmqClusterReference.validateOnCreate RabbitmqClusterReference.ExactlyOne
  cases reference.connectionSecret <;> by_cases empty : reference.name = "" <;> simp [empty]

variable {trace : Trace Resource}

/-- An accepting validator has a run that ends without an error. -/
theorem Accepted.exec {replies : Replies (@Request.Answer Resource)}
    {validator : Prog Resource (Except AdmissionError Unit)}
    (accepted : Accepted replies validator) :
    ∃ trace, validator.Exec trace (.done (.ok ())) := by
  have exec := Program.exec_run replies validator 0
  rw [show (validator.run replies 0).2 = .done (.ok ()) from accepted] at exec
  exact ⟨_, exec⟩

theorem andThen_exec {first : Except AdmissionError Unit}
    {next : Prog Resource (Except AdmissionError Unit)}
    (exec : (andThen first next).Exec trace (.done (.ok ()))) :
    first = .ok () ∧ next.Exec trace (.done (.ok ())) := by
  rcases first with err | ⟨⟩
  · cases exec.2
  · exact ⟨rfl, exec⟩

/-- What follows a check of a label was accepted as well. -/
theorem label_then_exec {libraries : Libraries} {reference : Option LocalObjectReference}
    {ns : String} {next : Prog Resource (Except AdmissionError Unit)}
    (exec : (validateSecretLabel libraries reference ns >>= fun labelled =>
      andThen labelled next).Exec trace (.done (.ok ()))) :
    ∃ rest, next.Exec rest (.done (.ok ())) := by
  obtain ⟨labelled, first, rest, rfl, -, second⟩ := Program.exec_bind_done.mp exec
  exact ⟨rest, (andThen_exec second).2⟩

/-- An accepted creation has exactly one of them, whatever the webhook was answered. -/
theorem validateReferenceOnCreate_exec {libraries : Libraries} {object : Object kind}
    (exec : (validateReferenceOnCreate libraries object : Prog Resource _).Exec trace
      (.done (.ok ()))) : object.rabbitReference.ExactlyOne := by
  obtain ⟨rest, returned⟩ := label_then_exec exec
  apply validateOnCreate_eq_ok.mp
  have ended := (Outcome.done.inj returned.2).symm
  cases valid : object.rabbitReference.validateOnCreate with
  | error err => simp [valid, Except.mapError] at ended
  | ok => rfl

/-- An object that is accepted on creation refers to its cluster in one way. -/
theorem exactlyOne_of_create {libraries : Libraries} {object : Object kind}
    {replies : Replies (@Request.Answer (Object kind))}
    (accepted : Accepted replies (validateCreate libraries object)) :
    object.rabbitReference.ExactlyOne := by
  obtain ⟨trace, exec⟩ := accepted.exec
  cases kind with
  | federation =>
      obtain ⟨rest, last⟩ := label_then_exec exec
      exact validateReferenceOnCreate_exec last
  | permission | queue | topicPermission =>
      exact validateReferenceOnCreate_exec (andThen_exec exec).2
  | schemaReplication | shovel | user =>
      obtain ⟨rest, last⟩ := label_then_exec (andThen_exec exec).2
      exact validateReferenceOnCreate_exec last
  | _ => exact validateReferenceOnCreate_exec exec

end Reference

end TopologyOperator
