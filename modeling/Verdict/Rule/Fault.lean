import Verdict.Json.Printer
import Verdict.Json.Record

/-!
# Faults of documents

A fault says where in a document something is wrong, and what is wrong, as a cause.  Words and paths
are made up only when they are shown.
-/

namespace Verdict

inductive Step where
  | field (name : String)
  | item (index : Nat)
deriving DecidableEq

/-- The steps from the root of a document to a place in it. -/
abbrev Location := List Step

namespace Location

def textFrom (start : String) : Location → String
  | [] => start
  | .field name :: rest => textFrom (if start.isEmpty then name else start ++ "." ++ name) rest
  | .item index :: rest => textFrom (start ++ "[" ++ Nat.repr index ++ "]") rest

/-- The text of a location: names joined by dots, numbers in brackets. -/
def text (location : Location) : String :=
  textFrom "" location

def find? : Location → Json → Option Json
  | [], value => some value
  | .field name :: rest, .object fields => (Fields.get? fields name).bind (find? rest)
  | .item index :: rest, .array items => items[index]?.bind (find? rest)
  | _, _ => none

end Location

inductive Cause where
  | rootNotObject
  | missing
  | missingOperand (operator : String)
  | blank
  | notText
  | notNumber
  | notArray
  | notObject
  | ruleNotObject
  | duplicateId (id : String)
  | weightOutOfRange (weight : Number)
  | conditionNotObject
  | noKind
  | severalKinds (kinds : List String)
  | notConditions
  | improperPath (path : String)
  | unknownOperator (name : String) (known : List String)

def Cause.message : Cause → String
  | rootNotObject => "rule set must be a JSON object"
  | missing => "is required"
  | missingOperand operator => "is required for operator '" ++ operator ++ "'"
  | blank => "must not be empty"
  | notText => "must be a string"
  | notNumber => "must be a number"
  | notArray => "must be an array"
  | notObject => "must be an object"
  | ruleNotObject => "rule must be an object"
  | duplicateId id => "duplicate rule id '" ++ id ++ "'"
  | weightOutOfRange weight => "must be between 0 and 1, got " ++ weight.text
  | conditionNotObject => "condition must be an object"
  | noKind => "condition must have exactly one of 'field', 'all' or 'any'"
  | severalKinds kinds =>
    "condition must have exactly one of 'field', 'all' or 'any', found " ++ ", ".intercalate kinds
  | notConditions => "must be an array of conditions"
  | improperPath path => "'" ++ path ++ "' is not a valid dot path (empty segment)"
  | unknownOperator name known =>
    "unsupported operator '" ++ name ++ "' (expected one of: " ++ ", ".intercalate known ++ ")"

/-- Whether a cause is about a condition as a whole. -/
def Cause.concernsCondition : Cause → Bool
  | conditionNotObject | noKind | severalKinds _ => true
  | _ => false

structure Fault where
  location : Location
  cause : Cause

namespace Fault

/-- The text of the place.  A condition on its own has no location and is called by its name. -/
def path (fault : Fault) : String :=
  if fault.location.isEmpty && fault.cause.concernsCondition then "condition"
  else fault.location.text

def message (fault : Fault) : String :=
  fault.cause.message

end Fault

/-- A fault as it is shown: the text of a place and words. -/
structure Complaint where
  path : String
  message : String
deriving DecidableEq

namespace Complaint

def ofFault (fault : Fault) : Complaint :=
  ⟨fault.path, fault.message⟩

def line (complaint : Complaint) : String :=
  (if complaint.path.isEmpty then "document" else complaint.path) ++ ": " ++ complaint.message

def toJson (complaint : Complaint) : Json :=
  .object [("path", .string complaint.path), ("message", .string complaint.message)]

def ofJson? (document : Json) : Option Complaint := do
  let layout : Layout := [("path", .required), ("message", .required)]
  match ← layout.read document with
  | [some path, some message] => return ⟨← path.string?, ← message.string?⟩
  | _ => none

end Complaint

/-- All faults of a document in one message. -/
def Fault.summary (faults : List Fault) : String :=
  "rule set validation failed with " ++ Nat.repr faults.length ++ " error(s): " ++
    "; ".intercalate (faults.map fun fault => (Complaint.ofFault fault).line)

end Verdict
