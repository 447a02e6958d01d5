import TopologyOperator.Client.Broker
import TopologyOperator.Dialogue.Program

/-!
# Requests of the operator

Everything the operator asks of the outside: the Kubernetes API (through the
cached client or, where the source uses `APIReader`, directly), the broker, the
secret store, the clock, the random source and the order in which Go ranges over
a map. `Request Resource` is indexed by the type of the resource that is being
reconciled, so that requests about that resource are typed by it.

A successful write answers with the object as it was sent, under a new version.
Errors of parties other than the API server and the broker are known by their
text only.
-/

namespace TopologyOperator

open Dialogue

/-- The cached client of the manager, or its uncached `APIReader`. -/
inductive Reader where
  | cache
  | api
  deriving DecidableEq

/-- What the API server assigns to an object on a write. -/
structure Version where
  resourceVersion : ResourceVersion
  generation : Int
  deriving DecidableEq

inductive EventType where
  | normal
  | warning
  deriving DecidableEq

/-- The arguments of `Recorder.Eventf`. The values of a call that passes some are in the
note. A call without values passes its note as the format: in `handleRMQReferenceParseError`
it holds the text of an error, and what becomes of a `%` in that text is not modelled. -/
structure EventNote where
  type : EventType
  reason : String
  action : String
  note : String
  deriving DecidableEq

inductive Request (Resource : Type) where
  /-- Read, write and write the status of the resource that is reconciled. -/
  | get (key : NamespacedName)
  | update (object : Resource)
  | updateStatus (object : Resource)
  | getRabbitmqCluster (key : NamespacedName)
  | getSecret (reader : Reader) (key : NamespacedName)
  | createSecret (secret : Secret)
  | updateSecret (secret : Secret)
  | getService (key : NamespacedName)
  /-- Other objects of the twelve kinds: the `User` of a permission, and the
  children of a super stream. -/
  | getObject (kind : Kind) (key : NamespacedName)
  | createObject {kind : Kind} (object : Object kind)
  | updateObject {kind : Kind} (object : Object kind)
  | eventf (note : EventNote)
  | now
  | systemCertPool
  | secretStoreClient
  | readCredentials (path : String)
  | newClient (uri username password : String) (tls : Bool)
  | randomEncodedString (length : Nat)
  | passwordSalt
  | iterationOrder (entries : Arguments)
  | broker (call : BrokerCall)

namespace Request

variable {Resource : Type}

@[reducible] def Answer : Request Resource → Type
  | get _ => Except ApiError Resource
  | update _ => Except ApiError Version
  | updateStatus _ => Except ApiError Version
  | getRabbitmqCluster _ => Except ApiError RabbitmqCluster
  | getSecret _ _ => Except ApiError Secret
  | createSecret _ => Except ApiError Version
  | updateSecret _ => Except ApiError Version
  | getService _ => Except ApiError Service
  | getObject kind _ => Except ApiError (Object kind)
  | createObject _ => Except ApiError Version
  | updateObject _ => Except ApiError Version
  | eventf _ => Unit
  | now => Time
  | systemCertPool => Except String Unit
  | secretStoreClient => Except String Unit
  | readCredentials _ => Except String (String × String)
  | newClient .. => Except String Unit
  | randomEncodedString _ => Except String String
  | passwordSalt => String
  | iterationOrder entries => { order : Arguments // order.Perm entries }
  | broker call => call.Answer

/-- The answer of an environment in which every call fails. -/
def refusal : (request : Request Resource) → request.Answer
  | get _ | update _ | updateStatus _ | getRabbitmqCluster _ | getSecret .. | createSecret _
  | updateSecret _ | getService _ | getObject .. | createObject _ | updateObject _ =>
      .error ⟨.other, "timeout"⟩
  | eventf _ => ()
  | now => 0
  | systemCertPool | secretStoreClient | readCredentials _ | newClient .. | randomEncodedString _ =>
      .error "unavailable"
  | passwordSalt => ""
  | iterationOrder entries => ⟨entries, .refl entries⟩
  | broker call => call.refusal

/-- The requests that write neither to Kubernetes objects nor to the broker. -/
def observes : Request Resource → Bool
  | update _ | updateStatus _ | createSecret _ | updateSecret _ | createObject _
  | updateObject _ => false
  | broker call => call.entity.isNone
  | _ => true

end Request

/-- A program of the operator. -/
abbrev Prog (Resource : Type) (α : Type) : Type :=
  Program (Request Resource) Request.Answer α

/-- The requests of a run with their answers. -/
abbrev Trace (Resource : Type) : Type := List (Event (@Request.Answer Resource))

/-- Issue one request. -/
def ask {Resource : Type} (request : Request Resource) : Prog Resource request.Answer :=
  Program.request request

@[simp] theorem ask_bind {Resource α : Type} (request : Request Resource)
    (next : request.Answer → Prog Resource α) : (ask request).bind next = .call request next := rfl

theorem outcome_ask_bind {Resource α : Type}
    (answers : (request : Request Resource) → request.Answer) (request : Request Resource)
    (next : request.Answer → Prog Resource α) :
    ((ask request).bind next).outcome answers = (next (answers request)).outcome answers := rfl

/-- A run begins with the answer to its first request. -/
theorem exec_ask_bind {Resource α : Type} {request : Request Resource}
    {next : request.Answer → Prog Resource α} {trace : Trace Resource}
    {outcome : Outcome α} : ((ask request).bind next).Exec trace outcome ↔
      ∃ answer rest, trace = ⟨request, answer⟩ :: rest ∧ (next answer).Exec rest outcome :=
  Iff.rfl

/-- One request that is allowed, and then the rest. -/
theorem calls_ask_bind {Resource α : Type} {request : Request Resource}
    {next : request.Answer → Prog Resource α} {allowed : Request Resource → Prop}
    (first : allowed request) (rest : ∀ answer, (next answer).Calls allowed) :
    ((ask request).bind next).Calls allowed :=
  ⟨first, rest⟩

@[simp] theorem calls_ask {Resource : Type} {request : Request Resource}
    {allowed : Request Resource → Prop} : (ask request).Calls allowed ↔ allowed request := by
  simp [ask, Program.request]

/-- A program returns if it does after each answer to its first request. -/
theorem returns_ask_bind {Resource α : Type} {request : Request Resource}
    {next : request.Answer → Prog Resource α} (returns : ∀ reply, (next reply).Returns) :
    ((ask request).bind next).Returns := returns

theorem returns_ask {Resource : Type} (request : Request Resource) : (ask request).Returns :=
  fun _ => trivial

/-- The libraries that the operator calls and whose code is not part of it.
`json.Unmarshal` is modelled in `Encoding.Json`; only the text of its errors is
left to the library. -/
structure Libraries where
  /-- `url.Parse`: the scheme of a URL, or the text of the error. -/
  urlScheme : String → Except String String
  /-- `URL.String` for a URL with this scheme, host and path. -/
  urlString : (scheme host path : String) → String
  /-- `ini.Load` and the keys of the default section. -/
  iniKeys : String → Except String (List (String × String))
  /-- `Base64EncodedSaltedPasswordHashSHA512` with the salt it drew. -/
  saltedPasswordHash : (salt password : String) → String
  /-- The text of the error of `json.Unmarshal` into a map. -/
  unmarshalError : String → String
  /-- `strconv.Quote`, by which the verb `%q` formats a string. -/
  quote : String → String

/-- Libraries that keep every text as it is, to run the model on examples. -/
def Libraries.verbatim : Libraries where
  urlScheme _ := .ok "http"
  urlString scheme host path := scheme ++ "://" ++ host ++ path
  iniKeys _ := .ok []
  saltedPasswordHash salt password := salt ++ password
  unmarshalError raw := raw
  quote text := text

namespace Object

variable {kind : Kind}

/-- The object as it is after the API server accepted it. -/
def withVersion (object : Object kind) (version : Version) : Object kind :=
  { object with objectMeta := { object.objectMeta with
    resourceVersion := version.resourceVersion
    generation := version.generation } }

end Object

end TopologyOperator
