import Verdict.Enrichment.Basic
import Verdict.Enrichment.Template

/-!
# Requests

The operand of a fetch names an endpoint, the parameters of the call and where the values of the
answer go.
-/

namespace Verdict

/-- What a fetch asks for and where the answer goes. -/
structure Request where
  endpoint : String
  params : Fields Json
  /-- Paths into the answer with the path into the context that each value is stored under. -/
  mapping : Fields Json

namespace Request

def fieldsOrNone : Option Json → Option (Fields Json)
  | none | some .null => some []
  | some (.object fields) => some fields
  | some _ => none

def ofJson? (operand : Json) : Option Request := do
  let fields ← operand.object?
  let endpoint ← ((fields.get? "endpoint").bind Json.string?).filter fun name => !name.isEmpty
  let params ← fieldsOrNone (fields.get? "params")
  let mapping ← fieldsOrNone (fields.get? "mapping")
  return ⟨endpoint, params, mapping⟩

def fillParams (context : Context) : Fields Json → Option (Fields Json)
  | [] => some []
  | (name, value) :: rest =>
    (Template.fill context value).bind fun value =>
      (fillParams context rest).map fun filled => (name, value) :: filled

def call? (request : Request) (context : Context) : Option Call :=
  (fillParams context request.params).map fun params => ⟨request.endpoint, params⟩

def find? (response : Fields Json) (path : String) : Option Json :=
  (Json.object response).walk (DotPath.segments path)

/-- The values of an answer with the paths to store them under.  Every path into the answer must
lead to a value, and every path into the context must be a text that is not empty. -/
def overlay? (response : Fields Json) : Fields Json → Option (List (String × Json))
  | [] => some []
  | (source, target) :: rest =>
    (target.string?.filter fun target => !target.isEmpty).bind fun target =>
      (find? response source).bind fun value =>
        (overlay? response rest).map fun overlay => (target, value) :: overlay

end Request
end Verdict
