import TopologyOperator.Client.Resolution
import TopologyOperator.Encoding.Uri

/-!
# Connection URIs

The URI of a connection secret, or of the annotation of a cluster, gets the scheme
`http` if its text does not begin with these four letters. That is not the same as having
no scheme: `HTTPS://rabbit` is prefixed, and the host `httpbin` is not.
-/

namespace TopologyOperator

open Encoding Dialogue

variable {Resource : Type} {libraries : Libraries}

/-- What is assumed of `net/url`. -/
structure NetUrl (libraries : Libraries) : Prop where
  /-- `Parse` splits off the scheme at the first colon, if what precedes it is one. -/
  parse : ∀ text scheme, libraries.urlScheme text = .ok scheme →
    scheme = (uriScheme text).getD ""
  /-- `String` begins with the scheme. -/
  string : ∀ scheme host path, scheme = "http" ∨ scheme = "https" →
    uriScheme (libraries.urlString scheme host path) = some scheme

/-- The scheme is `http` or `https`, in any letter case. -/
def IsWeb (uri : String) : Prop := uriScheme uri = some "http" ∨ uriScheme uri = some "https"

/-- The flag says that the scheme is `https`. -/
def Flagged (uri : String) (tls : Bool) : Prop := tls = true ↔ uriScheme uri = some "https"

/-- A registered name or an IP literal. -/
def IsHost (host : List Char) : Prop :=
  host ≠ [] ∧ ((∀ char ∈ host, char ∉ ":/?#[]@".toList) ∨
    host.head? = some '[' ∧ host.getLast? = some ']')

def IsPort (port : List Char) : Prop :=
  port = [] ∨ ∃ digits, port = ':' :: digits ∧ ∀ digit ∈ digits, digit.isDigit = true

def IsPath (path : List Char) : Prop :=
  path = [] ∨ path.head? = some '/' ∧ ∀ char ∈ path, char ≠ '?' ∧ char ≠ '#'

/-- The text has the form `host[:port][/path]`, and `://` does not occur in it. -/
structure BareHost (input : String) : Prop where
  form : ∃ host port path, input.toList = host ++ port ++ path ∧
    IsHost host ∧ IsPort port ∧ IsPath path
  schemeless : ¬ "://".toList <:+: input.toList

/-- What an extracted URI is expected to be. -/
structure Normalised (libraries : Libraries) (input uri : String) (tls : Bool) : Prop where
  web : IsWeb uri
  flagged : Flagged uri tls
  /-- An input with a scheme is returned with it. -/
  kept : ∀ scheme rest, splitUri input = some (scheme, rest) →
    scheme = "http" ∨ scheme = "https" → splitUri uri = some (scheme, rest)
  bare : BareHost input → uri = "http://" ++ input
  stable : extractURIandScheme libraries uri = .ok (uri, tls)

/-- The text begins with the letters `http`. -/
def Prefixed (input : String) : Prop := "http".toList.isPrefixOf input.toList = true

instance (input : String) : Decidable (Prefixed input) := inferInstanceAs (Decidable (_ = true))

/-- The text is prefixed unless it begins with `http`, and the flag tells the scheme. -/
theorem extractURIandScheme_ok {input uri : String} {tls : Bool}
    (extracted : extractURIandScheme libraries input = .ok (uri, tls)) :
    (uri = if Prefixed input then input else "http://" ++ input) ∧
      ∃ scheme, libraries.urlScheme uri = .ok scheme ∧ tls = decide (scheme = "https") := by
  simp only [extractURIandScheme] at extracted
  split at extracted
  · cases extracted
  next scheme parsed =>
  cases extracted
  exact ⟨rfl, scheme, parsed, rfl⟩

/-- A text that begins with `http` is kept. -/
theorem extractURIandScheme_of_prefixed {uri scheme : String} (prefixed : Prefixed uri)
    (parsed : libraries.urlScheme uri = .ok scheme) :
    extractURIandScheme libraries uri = .ok (uri, decide (scheme = "https")) := by
  unfold Prefixed at prefixed
  simp only [extractURIandScheme, prefixed, ↓reduceIte, parsed]

/-- A prefixed text has the scheme `http`. -/
theorem splitUri_http (text : String) :
    splitUri ("http://" ++ text) = some ("http", '/' :: '/' :: text.toList) := by
  have whole : ("http://" ++ text).toList = "http".toList ++ ':' :: '/' :: '/' :: text.toList :=
    String.toList_append
  exact splitUri_of_append (by decide) whole

/-- It is not prefixed twice. -/
theorem prefixed_http (text : String) : Prefixed ("http://" ++ text) := by
  rw [Prefixed, String.toList_append]
  rfl

theorem append_ne_self (input : String) : input ≠ "http://" ++ input := by
  intro same
  have lengths := congrArg (List.length ∘ String.toList) same
  simp only [Function.comp_apply, String.toList_append, List.length_append] at lengths
  have filled : "http://".toList.length = 7 := rfl
  omega

section NetUrl

variable (netUrl : NetUrl libraries)
include netUrl

/-- The flag of an extracted URI agrees with its scheme. -/
theorem extractURIandScheme_flagged {input uri : String} {tls : Bool}
    (extracted : extractURIandScheme libraries input = .ok (uri, tls)) : Flagged uri tls := by
  obtain ⟨-, scheme, parsed, rfl⟩ := extractURIandScheme_ok extracted
  rw [Flagged, decide_eq_true_eq, netUrl.parse uri scheme parsed]
  cases uriScheme uri <;> simp

/-- A text that begins with `http` is returned as it is. -/
theorem normalised_iff_of_prefixed {input uri : String} {tls : Bool} (prefixed : Prefixed input)
    (extracted : extractURIandScheme libraries input = .ok (uri, tls)) :
    Normalised libraries input uri tls ↔ IsWeb input ∧ ¬ BareHost input := by
  have same := (extractURIandScheme_ok extracted).1
  rw [if_pos prefixed] at same
  subst same
  constructor
  · intro normalised
    exact ⟨normalised.web, fun bare => append_ne_self uri (normalised.bare bare)⟩
  · intro ⟨web, host⟩
    exact ⟨web, extractURIandScheme_flagged netUrl extracted, fun _ _ split _ => split,
      fun bare => absurd bare host, extracted⟩

/-- Any other text is returned with the prefix `http://`. -/
theorem normalised_iff_of_not_prefixed {input uri : String} {tls : Bool}
    (other : ¬ Prefixed input)
    (extracted : extractURIandScheme libraries input = .ok (uri, tls)) :
    Normalised libraries input uri tls ↔ ¬ IsWeb input := by
  obtain ⟨same, scheme, parsed, rfl⟩ := extractURIandScheme_ok extracted
  rw [if_neg other] at same
  subst same
  constructor
  · intro normalised web
    obtain ⟨written, rest, split, known⟩ : ∃ written rest,
        splitUri input = some (written, rest) ∧ (written = "http" ∨ written = "https") := by
      unfold IsWeb uriScheme at web
      cases split : splitUri input with
      | none => simp [split] at web
      | some parts => exact ⟨parts.1, parts.2, rfl, by simpa [split] using web⟩
    have kept := normalised.kept written rest split known
    rw [splitUri_http] at kept
    cases kept
    have shorter := length_lt_of_splitUri split
    simp only [List.length_cons] at shorter
    omega
  · intro schemeless
    exact {
      web := .inl (by rw [uriScheme, splitUri_http]; rfl)
      flagged := extractURIandScheme_flagged netUrl extracted
      kept written rest split known := by
        refine absurd ?_ schemeless
        rw [IsWeb, uriScheme, split]
        simpa using known
      bare := fun _ => rfl
      stable := extractURIandScheme_of_prefixed (prefixed_http input) parsed }

/-- The flag of a URI that is built for a Service agrees with its scheme. -/
theorem managementURI_flagged {svc : Service} {useTLS : Bool} {clusterDomain path uri : String}
    (built : managementURI libraries svc useTLS clusterDomain path = .ok uri) :
    Flagged uri useTLS := by
  unfold managementURI at built
  split at built
  · cases built
  · cases built
    cases useTLS with
    | false => simp [Flagged, netUrl.string "http" _ path (.inl rfl)]
    | true => simp [Flagged, netUrl.string "https" _ path (.inr rfl)]

/-- Whichever way the reference was resolved, the flag fits the URI. -/
theorem parseReference_flagged {rmq : RabbitmqClusterReference}
    {requestNamespace clusterDomain : String} {connectUsingHTTP tls : Bool}
    {creds : ConnectionCreds} {trace : Trace Resource}
    (exec : (parseReference libraries rmq requestNamespace clusterDomain connectUsingHTTP).Exec
      trace (.done (.ok (creds, tls)))) :
    ∃ uri, creds.lookup "uri" = some uri ∧ Flagged uri tls := by
  obtain ⟨username, password, uri, rfl, endpoint⟩ := parseReference_ok exec
  refine ⟨uri, rfl, ?_⟩
  cases endpoint with
  | extracted text extracts => exact extractURIandScheme_flagged netUrl extracts
  | managed svc clusterDomain path builds => exact managementURI_flagged netUrl builds

end NetUrl

/-- An extracted URI is as expected exactly if the text begins with `http` as its scheme or
as that of `https`, or does not begin with it and has another scheme or none. The flag that
`parseReference` returns always fits its URI. -/
theorem connection_uri_normalised_iff (libraries : Libraries) (netUrl : NetUrl libraries) :
    (∀ input uri tls, extractURIandScheme libraries input = .ok (uri, tls) →
      (Normalised libraries input uri tls ↔
        if Prefixed input then IsWeb input ∧ ¬ BareHost input else ¬ IsWeb input)) ∧
    ∀ (Resource : Type) (rmq : RabbitmqClusterReference) (requestNamespace clusterDomain : String)
      (connectUsingHTTP : Bool) (trace : Trace Resource) (creds : ConnectionCreds) (tls : Bool),
      (parseReference libraries rmq requestNamespace clusterDomain connectUsingHTTP).Exec trace
        (.done (.ok (creds, tls))) →
      ∃ uri, creds.lookup "uri" = some uri ∧ Flagged uri tls := by
  constructor
  · intro input uri tls extracted
    split
    · next prefixed => exact normalised_iff_of_prefixed netUrl prefixed extracted
    · next other => exact normalised_iff_of_not_prefixed netUrl other extracted
  · intro Resource rmq requestNamespace clusterDomain connectUsingHTTP trace creds tls exec
    exact parseReference_flagged netUrl exec

section Example

/-- Libraries whose `Parse` fails on no text. -/
def parsingLibraries : Libraries :=
  { Libraries.verbatim with urlScheme := fun text => .ok ((uriScheme text).getD "") }

/-- Libraries that satisfy the assumptions on `net/url`. -/
theorem netUrl_parsingLibraries : NetUrl parsingLibraries where
  parse text scheme parsed := by
    cases parsed
    rfl
  string scheme host path web := by
    have whole : (parsingLibraries.urlString scheme host path).toList =
        scheme.toList ++ ':' :: ('/' :: '/' :: (host.toList ++ path.toList)) := by
      simp [parsingLibraries, Libraries.verbatim]
    rcases web with rfl | rfl <;> rw [uriScheme, splitUri_of_append (by decide) whole] <;> rfl

/-- A URI in capital letters is taken for one without a scheme, and TLS is not used. -/
theorem capital_uri_not_normalised :
    NetUrl parsingLibraries ∧
      extractURIandScheme parsingLibraries "HTTPS://rabbit:15671" =
        .ok ("http://HTTPS://rabbit:15671", false) ∧
      uriScheme "HTTPS://rabbit:15671" = some "https" ∧
      uriScheme "http://HTTPS://rabbit:15671" = some "http" ∧
      ¬ Normalised parsingLibraries "HTTPS://rabbit:15671" "http://HTTPS://rabbit:15671" false := by
  have written : splitUri "HTTPS://rabbit:15671" = some ("https", "//rabbit:15671".toList) := by
    decide
  refine ⟨netUrl_parsingLibraries, by rfl, by decide, by decide, fun normalised => ?_⟩
  exact absurd (normalised.kept _ _ written (.inr rfl)) (by decide)

/-- A host and a port get the scheme `http`. -/
theorem host_uri_normalised :
    NetUrl parsingLibraries ∧
      Normalised parsingLibraries "rabbit:15672" "http://rabbit:15672" false := by
  have schemeless : ¬ IsWeb "rabbit:15672" := by
    unfold IsWeb
    decide
  have sound := connection_uri_normalised_iff parsingLibraries netUrl_parsingLibraries
  refine ⟨netUrl_parsingLibraries, (sound.1 _ _ _ rfl).mpr ?_⟩
  rw [if_neg (by decide)]
  exact schemeless

end Example

end TopologyOperator
