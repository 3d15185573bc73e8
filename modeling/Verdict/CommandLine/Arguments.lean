import Verdict.Decimal.Reading

/-!
# Arguments

The program is called with options, the name of a command, and options and paths for the command.
`Command.ofArguments?` reads them or says what is wrong with them.
-/

namespace Verdict

inductive ArgumentError where
  | unknown (argument : String)
  | noCommand
  | missing (name : String)
  | repeated (name : String)
  | noValue (name : String)
  | needlessValue (name : String)
  | badValue (name value : String)
deriving DecidableEq

def ArgumentError.message : ArgumentError → String
  | unknown argument => "unexpected argument '" ++ argument ++ "'"
  | noCommand => "a command is required"
  | missing name => "'" ++ name ++ "' is required"
  | repeated name => "'" ++ name ++ "' cannot be used multiple times"
  | noValue name => "a value is required for '" ++ name ++ "'"
  | needlessValue name => "'" ++ name ++ "' takes no value"
  | badValue name value => "invalid value '" ++ value ++ "' for '" ++ name ++ "'"

namespace Arguments

/-! ## Options -/

/-- How many values an option takes. -/
inductive Arity where
  | flag
  | single
  | many
deriving DecidableEq

structure OptionRule where
  name : String
  letter : Option Char
  arity : Arity
  repeatable : Bool
deriving DecidableEq

structure GivenOption where
  name : String
  values : List String

structure Given where
  options : List GivenOption
  others : List String

/-- Options read so far, and the one that still takes values. -/
structure Reading where
  given : Given
  pending : Option (OptionRule × List String)

namespace Reading

/-- Ends the option that still takes values, which needs one. -/
def close (reading : Reading) : Except ArgumentError Reading :=
  match reading.pending with
  | none => .ok reading
  | some (rule, []) => .error (.noValue rule.name)
  | some (rule, values) =>
    let options := reading.given.options ++ [⟨rule.name, values⟩]
    .ok ⟨{ reading.given with options := options }, none⟩

def add (reading : Reading) (name : String) (values : List String) :
    Except ArgumentError Reading := do
  let reading ← reading.close
  let options := reading.given.options ++ [⟨name, values⟩]
  return ⟨{ reading.given with options := options }, none⟩

def begin (reading : Reading) (rule : OptionRule) (attached : Option String) :
    Except ArgumentError Reading :=
  match rule.arity, attached with
  | .flag, none => reading.add rule.name []
  | .flag, some _ => .error (.needlessValue rule.name)
  | _, some value => reading.add rule.name [value]
  | _, none => reading.close.map fun reading => { reading with pending := some (rule, []) }

def other (reading : Reading) (argument : String) : Except ArgumentError Reading :=
  match reading.pending with
  | some (rule, values) =>
    let reading := { reading with pending := some (rule, values ++ [argument]) }
    if rule.arity = .many then .ok reading else reading.close
  | none =>
    let others := reading.given.others ++ [argument]
    .ok { reading with given := { reading.given with others := others } }

def long (rules : List OptionRule) (text : List Char) (reading : Reading) :
    Except ArgumentError Reading :=
  let name := String.ofList (text.takeWhile (· != '='))
  let attached := match text.dropWhile (· != '=') with
    | [] => none
    | _ :: value => some (String.ofList value)
  match rules.find? fun rule => rule.name == name with
  | some rule => reading.begin rule attached
  | none => .error (.unknown ("--" ++ name))

/-- Reads joined letters.  What follows the letter of an option with a value is the value. -/
def letters (rules : List OptionRule) (text : List Char) (reading : Reading) :
    Except ArgumentError Reading :=
  match text with
  | [] => .ok reading
  | c :: rest =>
    match rules.find? fun rule => rule.letter == some c with
    | none => .error (.unknown (String.ofList ['-', c]))
    | some rule =>
      if rule.arity = .flag then do
        letters rules rest (← reading.begin rule none)
      else
        match rest with
        | [] => reading.begin rule none
        | '=' :: value => reading.begin rule (some (String.ofList value))
        | value => reading.begin rule (some (String.ofList value))

/-- Reads the arguments of a command.  Behind two dashes there are no more options. -/
def run (rules : List OptionRule) (reading : Reading) :
    List String → Except ArgumentError Given
  | [] => do return (← reading.close).given
  | argument :: rest =>
    match argument.toList with
    | ['-', '-'] => do
      let given := (← reading.close).given
      return { given with others := given.others ++ rest }
    | '-' :: '-' :: text => do run rules (← reading.long rules text) rest
    | '-' :: c :: text => do run rules (← reading.letters rules (c :: text)) rest
    | _ => do run rules (← reading.other argument) rest

end Reading

namespace Given

def valuesOf (given : Given) (name : String) : List (List String) :=
  (given.options.filter fun option => option.name == name).map GivenOption.values

/-- The options of the rules that were given more often than they may be. -/
def repetition? (given : Given) (rules : List OptionRule) : Option String :=
  (rules.find? fun rule => !rule.repeatable && 1 < (given.valuesOf rule.name).length).map
    OptionRule.name

def value? (given : Given) (name : String) : Option String :=
  (given.valuesOf name).flatten.head?

def has (given : Given) (name : String) : Bool :=
  !(given.valuesOf name).isEmpty

end Given

end Arguments

/-! ## Commands -/

inductive StrategyChoice where
  | weighted
  | max
  | consensus
  | threshold
deriving DecidableEq

inductive ReportFormat where
  | text
  | json
deriving DecidableEq

structure DecideOptions where
  rules : List String
  context : String
  config : Option String
  strategy : Option StrategyChoice
  cutoff : Option Float
  fallback : Option String
  trace : Bool
  format : ReportFormat

inductive Command where
  | version
  | validate (paths : List String)
  | decide (options : DecideOptions)

namespace Command

open Arguments (OptionRule Given Reading)

def verbose : OptionRule := ⟨"verbose", some 'v', .flag, true⟩

def validateRules : List OptionRule := [verbose]

def decideRules : List OptionRule :=
  [verbose, ⟨"rules", some 'r', .many, true⟩, ⟨"context", some 'c', .single, false⟩,
    ⟨"config", none, .single, false⟩, ⟨"strategy", some 's', .single, false⟩,
    ⟨"threshold", none, .single, false⟩, ⟨"fallback", none, .single, false⟩,
    ⟨"trace", none, .flag, false⟩, ⟨"format", some 'f', .single, false⟩]

def given? (rules : List OptionRule) (arguments : List String) : Except ArgumentError Given := do
  let given ← Reading.run rules ⟨⟨[], []⟩, none⟩ arguments
  match given.repetition? rules with
  | some name => .error (.repeated name)
  | none => .ok given

def paths? (name : String) (values : List String) : Except ArgumentError (List String) :=
  if values.any String.isEmpty then .error (.badValue name "") else .ok values

def read? {α : Type} (given : Given) (name : String) (read : String → Option α) :
    Except ArgumentError (Option α) :=
  match given.value? name with
  | none => .ok none
  | some value =>
    match read value with
    | some result => .ok (some result)
    | none => .error (.badValue name value)

def strategy? : String → Option StrategyChoice
  | "weighted" => some .weighted
  | "max" => some .max
  | "consensus" => some .consensus
  | "threshold" => some .threshold
  | _ => none

def format? : String → Option ReportFormat
  | "text" => some .text
  | "json" => some .json
  | _ => none

def validateOf? (arguments : List String) : Except ArgumentError Command := do
  let given ← given? validateRules arguments
  if given.others.isEmpty then .error (.missing "rules")
  else return .validate (← paths? "rules" given.others)

def decideOf? (arguments : List String) : Except ArgumentError Command := do
  let given ← given? decideRules arguments
  match given.others with
  | other :: _ => .error (.unknown other)
  | [] =>
    let rules ← paths? "rules" (given.valuesOf "rules").flatten
    if rules.isEmpty then .error (.missing "rules")
    else
      match given.value? "context" with
      | none => .error (.missing "context")
      | some context =>
        let config ← read? given "config" fun path => if path.isEmpty then none else some path
        let strategy ← read? given "strategy" strategy?
        let cutoff ← read? given "threshold" fun text => Decimal.word? text.toList
        let format ← read? given "format" format?
        return .decide
          { rules := rules
            context := context
            config := config
            strategy := strategy
            cutoff := cutoff
            fallback := given.value? "fallback"
            trace := given.has "trace"
            format := format.getD .text }

/-- Reads letters in front of a command; the flag says that the version is asked for. -/
def leadingLetters? : List Char → Except ArgumentError Bool
  | [] => .ok false
  | 'v' :: rest => leadingLetters? rest
  | 'V' :: _ => .ok true
  | c :: _ => .error (.unknown (String.ofList ['-', c]))

/-- Reads the arguments of the program. -/
def ofArguments? : List String → Except ArgumentError Command
  | [] => .error .noCommand
  | "validate" :: rest => validateOf? rest
  | "decide" :: rest => decideOf? rest
  | "--version" :: _ => .ok .version
  | "--verbose" :: rest => ofArguments? rest
  | argument :: rest =>
    match argument.toList with
    | '-' :: c :: text =>
      if c = '-' then .error (.unknown argument)
      else do
        if ← leadingLetters? (c :: text) then return .version else ofArguments? rest
    | _ => .error (.unknown argument)

end Command
end Verdict
