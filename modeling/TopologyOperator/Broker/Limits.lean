import Mathlib.Logic.Function.Basic
import TopologyOperator.Controller.User
import TopologyOperator.Dialogue.Safety

/-!
# The limits of a broker

The environment of the limits part of the declare functions: the limits of each user and
of each virtual host, by name. A read is answered with one entry that holds the current
limits, or with 404 if there are none. A call to delete limits removes the listed ones, a
call to put limits sets the given ones. Every call may fail, and a call that fails may
have been applied. Nobody else changes the limits.
-/

namespace TopologyOperator.LimitsServer

open Dialogue

/-- What has limits. -/
inductive Owner where
  | user (username : String)
  | vhost (name : String)
  deriving DecidableEq

abbrev World := Owner → String → Option Int

/-- The limits of an owner without the listed ones. -/
def World.remove (world : World) (owner : Owner) (keys : List String) : World :=
  Function.update world owner fun key => if key ∈ keys then none else world owner key

/-- The limits of an owner with the given ones. -/
def World.put (world : World) (owner : Owner) (limits : LimitsValues) : World :=
  Function.update world owner fun key => (limits.lookup key).or (world owner key)

/-- How a read is answered. -/
def Reports (current : String → Option Int) : Except BrokerError (List LimitsValues) → Prop
  | .ok [] => ∀ key, current key = none
  | .ok [limits] => ∀ key, limits.lookup key = current key
  | .ok (_ :: _ :: _) => False
  | .error err => (GoError.broker err).is .rabbithole404 = true → ∀ key, current key = none

/-- The listed limits are removed, unless the call fails. A deletion that is answered with
404 does not count as failed: there was nothing to remove. -/
def Deletes (world : World) (owner : Owner) (keys : List String) (reply : BrokerReply)
    (after : World) : Prop :=
  after = world.remove owner keys ∨ deleted reply ≠ .ok () ∧ after = world

/-- The given limits are set, unless the call fails. -/
def Puts (world : World) (owner : Owner) (limits : LimitsValues) (reply : BrokerReply)
    (after : World) : Prop :=
  after = world.put owner limits ∨ validateResponse reply ≠ .ok () ∧ after = world

variable {Resource : Type}

/-- How the requests of the operator are answered. -/
def Answers (world : World) : (request : Request Resource) → request.Answer → World → Prop
  | .broker (.getUserLimits username), reply, after =>
      after = world ∧ Reports (world (.user username)) reply
  | .broker (.getVhostLimits name), reply, after =>
      after = world ∧ Reports (world (.vhost name)) reply
  | .broker (.deleteUserLimits username keys), reply, after =>
      Deletes world (.user username) keys reply after
  | .broker (.deleteVhostLimits name keys), reply, after =>
      Deletes world (.vhost name) keys reply after
  | .broker (.putUserLimits username limits), reply, after =>
      Puts world (.user username) limits reply after
  | .broker (.putVhostLimits name limits), reply, after =>
      Puts world (.vhost name) limits reply after
  | _, _, after => after = world

def environment : Environment (@Request.Answer Resource) World where
  foreign _ _ := False
  answers := Answers

/-- Nobody else changes the limits. -/
theorem drift_eq {world now : World}
    (drift : (environment : Environment (@Request.Answer Resource) World).Drift world now) :
    now = world := by
  induction drift with
  | refl => rfl
  | tail _ move => exact move.elim

section Requests

/-- The three calls about the limits of an owner. -/
def getLimits : Owner → Prog Resource (Except BrokerError (List LimitsValues))
  | .user username => ask (.broker (.getUserLimits username))
  | .vhost name => ask (.broker (.getVhostLimits name))

def deleteLimits : Owner → List String → Prog Resource BrokerReply
  | .user username, keys => ask (.broker (.deleteUserLimits username keys))
  | .vhost name, keys => ask (.broker (.deleteVhostLimits name keys))

def putLimits : Owner → LimitsValues → Prog Resource BrokerReply
  | .user username, limits => ask (.broker (.putUserLimits username limits))
  | .vhost name, limits => ask (.broker (.putVhostLimits name limits))

/-- The request is one to delete limits. -/
def DeletesLimits : Request Resource → Prop
  | .broker (.deleteUserLimits ..) | .broker (.deleteVhostLimits ..) => True
  | _ => False

end Requests

section World

variable {world : World} {owner : Owner} {limits : LimitsValues} {keys : List String}

@[simp] theorem remove_self (key : String) :
    world.remove owner keys owner key = if key ∈ keys then none else world owner key := by
  rw [World.remove, Function.update_self]

theorem remove_of_ne {other : Owner} (different : other ≠ owner) :
    world.remove owner keys other = world other :=
  Function.update_of_ne different ..

@[simp] theorem put_self (key : String) :
    world.put owner limits owner key = (limits.lookup key).or (world owner key) := by
  rw [World.put, Function.update_self]

theorem put_of_ne {other : Owner} (different : other ≠ owner) :
    world.put owner limits other = world other :=
  Function.update_of_ne different ..

@[simp] theorem remove_nil : world.remove owner [] = world := by
  simp [World.remove]

@[simp] theorem put_nil : world.put owner [] = world := by
  simp [World.put]

/-- Limits that are set already. -/
theorem put_eq_self (set : ∀ key value, limits.lookup key = some value →
    world owner key = some value) : world.put owner limits = world := by
  rw [World.put, Function.update_eq_self_iff]
  funext key
  cases given : limits.lookup key with
  | none => rfl
  | some value => exact (set key value given).symm

end World

/-- The limits that `currentLimits` finds are those of the broker. -/
theorem currentLimits_of_reports {current : String → Option Int}
    {reply : Except BrokerError (List LimitsValues)} {existing : LimitsValues}
    (reports : Reports current reply) (read : currentLimits reply = .ok existing) :
    ∀ key, existing.lookup key = current key := by
  rcases reply with err | entries
  · simp only [currentLimits] at read
    split at read
    · next missing =>
        cases read
        exact fun key => (reports missing key).symm
    · cases read
  · match entries, reports, read with
    | [], reports, rfl => exact fun key => (reports key).symm
    | [limits], reports, rfl => exact reports

end TopologyOperator.LimitsServer
