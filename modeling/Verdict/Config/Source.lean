import Verdict.Config.JsonText
import Verdict.Config.YamlText
import Verdict.Rule.Source

/-!
# Sources of configurations

A configuration is read from a text in one of two formats or from a file, and then checked.
-/

namespace Verdict

inductive ConfigSourceError where
  | unreadable (error : ReadError)
  | notJson (fault : Json.Fault)
  | notYaml
  | unusable (error : ConfigError)

def ConfigSourceError.message : ConfigSourceError → String
  | unreadable error => "Failed to read configuration: " ++ error.message
  | notJson _ => "Failed to parse JSON"
  | notYaml => "Failed to parse YAML"
  | unusable error => error.message

namespace Config

/-- The configuration that a text gives, before it is checked. -/
def unchecked (format : Format) (text : String) : Except ConfigSourceError Config :=
  match format with
  | .json => (ofJsonText text).mapError .notJson
  | .yaml =>
    match ofYamlText? text with
    | some config => .ok config
    | none => .error .notYaml

def ofText? (format : Format) (text : String) : Except ConfigSourceError Config := do
  (← unchecked format text).check.mapError .unusable

def ofFile? (format : Format) (content : FileContent) : Except ConfigSourceError Config := do
  ofText? format (← content.text?.mapError .unreadable)

def equal (a b : Config) : Bool :=
  a.strategy.equal b.strategy && a.timeLimit == b.timeLimit && a.trace == b.trace &&
    a.queueCapacity == b.queueCapacity

end Config
end Verdict
