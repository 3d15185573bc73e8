import Verdict.Json.Reader
import Verdict.Rule.Validation
import Verdict.Text.File
import Verdict.Yaml.Value

/-!
# Sources of rule sets

A rule set is made from a document, from a text in one of two formats, or from a file.
-/

namespace Verdict

inductive Format where
  | json
  | yaml
deriving DecidableEq

inductive RuleSetError where
  | unreadable (error : ReadError)
  | notJson (fault : Json.Fault)
  | notYaml
  | invalid (faults : List Fault)

def RuleSetError.message : RuleSetError → String
  | unreadable error => "Failed to read rule set file: " ++ error.message
  | notJson _ => "Failed to parse JSON"
  | notYaml => "Failed to parse YAML"
  | invalid faults => Fault.summary faults

namespace RuleSet

/-- The rule set that a document stands for. -/
def ofJson? (registry : Registry) (document : Json) : Except RuleSetError RuleSet :=
  match check registry document with
  | .sound ruleSet => .ok ruleSet
  | .faulty faults => .error (.invalid faults)

def documentOf (format : Format) (text : String) : Except RuleSetError Json :=
  match format with
  | .json => (Json.parse text).mapError .notJson
  | .yaml =>
    match Yaml.parse? text with
    | some document => .ok document
    | none => .error .notYaml

/-- The rule set of a text. -/
def ofText? (format : Format) (text : String) : Except RuleSetError RuleSet := do
  ofJson? .builtin (← documentOf format text)

def ofFile? (format : Format) (content : FileContent) : Except RuleSetError RuleSet := do
  ofText? format (← content.text?.mapError .unreadable)

end RuleSet
end Verdict
