import Verdict.Json.Printer
import Verdict.Text.Quoted

/-!
# Enrichment

A collaborator answers calls for data that is not in the context.  It may depend on the calls made
before; `Responses` is one that does not.
-/

namespace Verdict

inductive EnrichmentError where
  | unknownEndpoint (endpoint : String)
  | timeout (endpoint : String)
  | transport (detail : String)
  | status (endpoint : String) (code : Nat)
  | malformed (detail : String)
deriving DecidableEq

def EnrichmentError.message : EnrichmentError → String
  | unknownEndpoint endpoint => "Unknown endpoint: " ++ endpoint
  | timeout endpoint => "Request to " ++ endpoint ++ " timed out"
  | transport detail => "Transport error: " ++ detail
  | status endpoint code => "Endpoint " ++ endpoint ++ " returned status " ++ Nat.repr code
  | malformed detail => "Malformed response: " ++ detail

structure Call where
  endpoint : String
  params : List (String × Json)

/-- The answer to a call is an object or an error. -/
abbrev Response := Except EnrichmentError (Fields Json)

/-- Answers a call, given the calls before it within one evaluation, from the first one on. -/
abbrev Collaborator := List Call → Call → Response

/-- A fixed answer for every endpoint. -/
structure Responses where
  entries : Fields Response

namespace Responses

def empty : Responses := ⟨[]⟩

def withResponse (responses : Responses) (endpoint : String) (value : Json) : Responses :=
  let response : Response := match value with
    | .object fields => .ok fields
    | other => .error (.malformed ("expected an object, got " ++ other.render))
  ⟨responses.entries.insert endpoint response⟩

def withFailure (responses : Responses) (endpoint : String) (error : EnrichmentError) :
    Responses :=
  ⟨responses.entries.insert endpoint (.error error)⟩

def answer (responses : Responses) (endpoint : String) : Response :=
  (responses.entries.get? endpoint).getD (.error (.unknownEndpoint endpoint))

def collaborator (responses : Responses) : Collaborator :=
  fun _ call => responses.answer call.endpoint

def description (responses : Responses) : String :=
  "StaticEnrichment \x7b endpoints: " ++ Text.quotedList responses.entries.names ++ " \x7d"

end Responses
end Verdict
