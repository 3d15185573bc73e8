import Verdict.CommandLine.Arguments
import Verdict.CommandLine.Report
import Verdict.Config.Source
import Verdict.Service.Basic

/-!
# Running commands

What a command does on the files and the input that it finds is its result: the text it prints, an
exit code, and a message if it has failed.
-/

namespace Verdict

/-! ## Paths -/

namespace Path

def lastPart (path : String) : List Char :=
  (path.toList.reverse.takeWhile (· != '/')).reverse

/-- The last part of a path before and behind its last dot.  A dot at the start divides nothing. -/
def divide (path : String) : List Char × Option (List Char) :=
  let part := lastPart path
  let behind := (part.reverse.takeWhile (· != '.')).reverse
  let before := part.take (part.length - behind.length - 1)
  if part.contains '.' && !before.isEmpty then (before, some behind) else (part, none)

def stem (path : String) : String := String.ofList (divide path).1

def format (path : String) : Format :=
  match (divide path).2.map String.ofList with
  | some "yaml" | some "yml" => .yaml
  | _ => .json

end Path

/-! ## Results -/

/-- The files and the input that a command finds. -/
structure Surroundings where
  file : String → FileContent
  input : FileContent

structure CommandResult where
  exitCode : Nat
  output : String
  error : Option String

/-- The result of arguments that ask for no command. -/
def CommandResult.refused (error : ArgumentError) : CommandResult :=
  ⟨2, "", some error.message⟩

namespace Command

def versionLine : String := "arbiter 0.1.0\n"

def readDocument (surroundings : Surroundings) (path : String) : Except String Json := do
  let text ← (surroundings.file path).text?.mapError fun _ => "failed to read " ++ path
  (RuleSet.documentOf (Path.format path) text).mapError fun _ => "failed to parse " ++ path

def readInput (surroundings : Surroundings) : Except String Json := do
  let text ← surroundings.input.text?.mapError fun _ => "failed to read context from stdin"
  (RuleSet.documentOf .json text).mapError fun _ => "failed to parse context from stdin"

/-- The context that a command is given, an object in a file or on the input. -/
def readContext (surroundings : Surroundings) (source : String) : Except String Context := do
  let document ← if source = "-" then readInput surroundings else readDocument surroundings source
  match Context.ofJson? document with
  | some context => .ok context
  | none => .error "context must be a JSON object"

/-! ## Validation -/

def ruleCount (document : Json) : Nat :=
  (((document.field? "rules").bind Json.array?).map List.length).getD 0

/-- The lines about one document, and whether it is valid. -/
def validationLines (path : String) (document : Json) : String × Bool :=
  match (RuleSet.check .builtin document).faults with
  | [] => (path ++ ": ok (" ++ Nat.repr (ruleCount document) ++ " rules)\n", true)
  | faults =>
    (path ++ ": " ++ Nat.repr faults.length ++ " error(s)\n" ++
      String.join (faults.map fun fault => "  - " ++ (Complaint.ofFault fault).line ++ "\n"), false)

/-- Validates documents up to one that cannot be read. -/
def validatePaths (surroundings : Surroundings) (output : String) (valid : Bool) :
    List String → CommandResult
  | [] => ⟨if valid then 0 else 1, output, none⟩
  | path :: rest =>
    match readDocument surroundings path with
    | .error message => ⟨1, output, some message⟩
    | .ok document =>
      let (lines, isValid) := validationLines path document
      validatePaths surroundings (output ++ lines) (valid && isValid) rest

/-! ## Decisions -/

def selectStrategy (configured : Strategy Float) (options : DecideOptions) :
    Except String (Strategy Float) :=
  let chosen : Strategy Float :=
    match options.strategy, configured with
    | none, configured => configured
    | some .weighted, _ => .weightedAverage
    | some .max, _ => .maxWeight
    | some .consensus, _ => .consensus
    | some .threshold, .threshold cutoff fallback => .threshold cutoff fallback
    | some .threshold, _ => .defaultThreshold
  match chosen with
  | .threshold cutoff fallback =>
    .ok (.threshold (options.cutoff.getD cutoff) (options.fallback.getD fallback))
  | other =>
    if options.cutoff.isSome || options.fallback.isSome then
      .error ("--threshold and --fallback only apply to the threshold strategy, not " ++ other.name)
    else .ok other

/-- The configuration of a file, or the one in which everything is left out. -/
def readConfig (surroundings : Surroundings) : Option String → Except String Config
  | none => .ok .default
  | some path =>
    (Config.ofFile? (Path.format path) (surroundings.file path)).mapError fun _ =>
      "failed to load config " ++ path

def readEvaluator (surroundings : Surroundings) (now : Instant) (path : String) :
    Except String Evaluator := do
  let document ← readDocument surroundings path
  let ruleSet ← (RuleSet.ofJson? .builtin document).mapError fun _ => "invalid rule set " ++ path
  return .rules ⟨Path.stem path, ruleSet, ⟨.builtin, none, now⟩⟩

def decideReport (surroundings : Surroundings) (now : Instant) (options : DecideOptions) :
    Except String String := do
  let config ← readConfig surroundings options.config
  let strategy ← selectStrategy config.strategy options
  let config ← Config.check { config with strategy := strategy } |>.mapError ConfigError.message
  let evaluators ← options.rules.mapM (readEvaluator surroundings now)
  let sink : Sink AuditRecord Unit := Sink.discarding
  let service ← (Service.make config evaluators (some sink)).mapError AgentError.message
  let context ← readContext surroundings options.context
  let reply : Option (Except ServiceError (Decision × Option RuleTraces)) :=
    if options.trace then
      (service.decideTraced now context none ()).1.map fun reply =>
        reply.map fun (decision, traces) => (decision, some traces)
    else
      (service.decide now context none ()).1.map fun reply =>
        reply.map fun decision => (decision, none)
  match reply with
  | some (.ok (decision, traces)) =>
    match options.format with
    | .text => return Report.lines decision traces
    | .json => return (Report.document decision traces).pretty ++ "\n"
  | some (.error error) => .error error.message
  | none => .error "no reply"

/-! ## Commands -/

def run (surroundings : Surroundings) (now : Instant) : Command → CommandResult
  | version => ⟨0, versionLine, none⟩
  | validate paths => validatePaths surroundings "" true paths
  | decide options =>
    match decideReport surroundings now options with
    | .ok report => ⟨0, report, none⟩
    | .error message => ⟨1, "", some message⟩

/-- Runs the command that the arguments ask for; arguments that ask for none have an exit code of
their own. -/
def runArguments (surroundings : Surroundings) (now : Instant) (arguments : List String) :
    CommandResult :=
  match ofArguments? arguments with
  | .ok command => command.run surroundings now
  | .error error => .refused error

def paths : Command → List String
  | version => []
  | validate paths => paths
  | decide options =>
    options.config.toList ++ options.rules ++
      if options.context = "-" then [] else [options.context]

def readsInput : Command → Bool
  | decide options => options.context = "-"
  | _ => false

end Command
end Verdict
