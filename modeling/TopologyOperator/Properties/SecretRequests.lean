import Mathlib.Data.List.Nodup
import TopologyOperator.Controller.Watches

/-!
# Events on credentials Secrets

The user controller turns an event on a Secret into requests for users. They should
be for the users that import the Secret and for the one that it was generated for, and
for no others. A Secret that is controlled by something of the kind `User` is taken for
a generated one, whoever imports it and whatever controls it.
-/

namespace TopologyOperator.UserReconciler

open Dialogue

/-- The users in the API server: no two of one name in one namespace. -/
structure Users where
  items : List (Object .user)
  distinct : (items.map (·.objectMeta.key)).Nodup

/-- The user imports its credentials from the Secret. -/
def Imports (user : Object .user) (secret : Secret) : Prop :=
  user.objectMeta.ns = secret.objectMeta.ns ∧
    user.spec.importCredentialsSecret = some ⟨secret.objectMeta.name⟩

/-- The controller of the Secret is this user: its group, kind, name and UID. -/
def Controls (user : Object .user) (secret : Secret) : Prop :=
  user.objectMeta.ns = secret.objectMeta.ns ∧
    ∃ owner, getControllerOf secret.objectMeta.ownerReferences = some owner ∧
      apiGroup owner.apiVersion = apiGroup apiVersion ∧ owner.kind = ownerKind ∧
      owner.name = user.objectMeta.name ∧ owner.uid = user.objectMeta.uid

/-- The Secret is where the credentials of the user are generated into. -/
def GeneratesInto (user : Object .user) (secret : Secret) : Prop :=
  user.spec.importCredentialsSecret = none ∧ credentialsKey user = secret.objectMeta.key

/-- The requests for an event on the Secret are exact: they cover the users that read
it, by import or as their own generated Secret, and they are for users that read it or
control it. -/
structure ExactRequests (users : Users) (secret : Secret) : Prop where
  complete : ∀ user ∈ users.items,
    Imports user secret ∨ Controls user secret ∧ credentialsKey user = secret.objectMeta.key →
    user.objectMeta.key ∈ secretToUserRequests (.ok users.items) secret
  sound : ∀ user ∈ users.items,
    user.objectMeta.key ∈ secretToUserRequests (.ok users.items) secret →
    Imports user secret ∨ GeneratesInto user secret ∨ Controls user secret

/-- If the Secret is controlled by something of the kind `User`, only the user of that
name imports it, and the user of that name, if there is one, does read or control it. -/
def OwnerAlone (users : Users) (secret : Secret) : Prop :=
  ∀ owner, getControllerOf secret.objectMeta.ownerReferences = some owner →
    owner.kind = ownerKind → ∀ user ∈ users.items,
      (Imports user secret → user.objectMeta.name = owner.name) ∧
      (user.objectMeta.key = ⟨secret.objectMeta.ns, owner.name⟩ →
        Imports user secret ∨ GeneratesInto user secret ∨ Controls user secret)

variable {users : Users} {secret : Secret} {user other : Object .user} {owner : OwnerReference}

theorem key_eq {objectMeta : ObjectMeta} {ns name : String} (sameNs : objectMeta.ns = ns)
    (sameName : objectMeta.name = name) : objectMeta.key = ⟨ns, name⟩ := by
  rw [← sameNs, ← sameName]
  rfl

/-- No two users have the same name. -/
theorem Users.eq_of_key (member : user ∈ users.items) (otherMember : other ∈ users.items)
    (same : user.objectMeta.key = other.objectMeta.key) : user = other :=
  List.inj_on_of_nodup_map users.distinct member otherMember same

/-- A Secret that a user controls enqueues this user. -/
theorem requests_of_owner {listing : Listing .user}
    (controlled : getControllerOf secret.objectMeta.ownerReferences = some owner)
    (kind : owner.kind = ownerKind) :
    secretToUserRequests listing secret = [⟨secret.objectMeta.ns, owner.name⟩] := by
  unfold secretToUserRequests
  rw [controlled]
  exact if_pos kind

/-- Any other Secret enqueues the users that import it. -/
theorem requests_of_index {listing : Listing .user}
    (uncontrolled : ∀ owner, getControllerOf secret.objectMeta.ownerReferences = some owner →
      owner.kind ≠ ownerKind) :
    secretToUserRequests listing secret = (importers listing secret).map (·.objectMeta.key) := by
  unfold secretToUserRequests
  split
  · next owner controlled => exact if_neg (uncontrolled owner controlled)
  · rfl

/-- Without such a controller the requests are those for the users that import the
Secret. -/
theorem exactRequests_of_index
    (uncontrolled : ∀ owner, getControllerOf secret.objectMeta.ownerReferences = some owner →
      owner.kind ≠ ownerKind) : ExactRequests users secret := by
  constructor
  · intro user member reads
    rw [requests_of_index uncontrolled]
    rcases reads with imports | ⟨⟨-, owner, controlled, -, kind, -⟩, -⟩
    · exact List.mem_map_of_mem (mem_importers.mpr ⟨member, imports.1, imports.2⟩)
    · exact absurd kind (uncontrolled owner controlled)
  · intro user member requested
    rw [requests_of_index uncontrolled] at requested
    obtain ⟨other, importing, same⟩ := List.mem_map.mp requested
    obtain ⟨otherMember, imports⟩ := mem_importers.mp importing
    rw [← Users.eq_of_key otherMember member same]
    exact .inl imports

/-- The requests for events on a Secret are exact if and only if the Secret is not
controlled by something of the kind `User`, or the user of that name is the one to ask
for and nobody else imports the Secret. -/
theorem exactRequests_iff (users : Users) (secret : Secret) :
    ExactRequests users secret ↔ OwnerAlone users secret := by
  constructor
  · intro exactly owner controlled kind user member
    have requests : secretToUserRequests (.ok users.items) secret =
        [⟨secret.objectMeta.ns, owner.name⟩] := requests_of_owner controlled kind
    constructor
    · intro imports
      have requested := exactly.complete user member (.inl imports)
      rw [requests, List.mem_singleton] at requested
      exact congrArg NamespacedName.name requested
    · intro named
      apply exactly.sound user member
      rw [requests, named]
      exact List.mem_singleton.mpr rfl
  · intro alone
    by_cases controlled : ∃ owner, getControllerOf secret.objectMeta.ownerReferences = some owner ∧
        owner.kind = ownerKind
    · obtain ⟨owner, controls, kind⟩ := controlled
      have requests : secretToUserRequests (.ok users.items) secret =
          [⟨secret.objectMeta.ns, owner.name⟩] := requests_of_owner controls kind
      constructor
      · intro user member reads
        rw [requests, List.mem_singleton]
        rcases reads with imports | ⟨⟨ns, found, foundControls, -, -, name, -⟩, -⟩
        · exact key_eq imports.1 ((alone owner controls kind user member).1 imports)
        · rw [Option.some.inj (controls.symm.trans foundControls)]
          exact key_eq ns name.symm
      · intro user member requested
        rw [requests, List.mem_singleton] at requested
        exact (alone owner controls kind user member).2 requested
    · apply exactRequests_of_index
      intro owner controls kind
      exact controlled ⟨owner, controls, kind⟩

section Example

/-- The Secret with the generated credentials of the user `app`. -/
def appCredentials : Secret where
  objectMeta :=
    { name := "app-user-credentials"
      ns := "shop"
      ownerReferences := [⟨apiVersion, ownerKind, "app", 1, some true, some false⟩] }
  data := [("username", "alice"), ("password", "secret")]

/-- The user `batch` imports the credentials that were generated for `app`. -/
def sharingUsers : Users where
  items :=
    [{ objectMeta := { name := "app", ns := "shop", uid := 1 }, spec := {} },
      { objectMeta := { name := "batch", ns := "shop", uid := 2 }
        spec := { importCredentialsSecret := some ⟨"app-user-credentials"⟩ } }]
  distinct := by decide

/-- An event on the Secret leads to no request for `batch`. -/
theorem batch_not_requested : ∃ batch ∈ sharingUsers.items, Imports batch appCredentials ∧
    batch.objectMeta.key ∉ secretToUserRequests (.ok sharingUsers.items) appCredentials := by
  refine ⟨_, .tail _ (.head _), ⟨rfl, rfl⟩, ?_⟩
  decide

end Example

end TopologyOperator.UserReconciler
