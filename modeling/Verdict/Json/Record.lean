import Verdict.Json.Value

/-!
# Records

A record is written as an object or as the array of its fields in order.  A `Layout` says which
fields there are and which of them may be left out.
-/

namespace Verdict

inductive Presence where
  | required
  /-- Left out of an object only. -/
  | optional
  /-- Left out of an object or, if no field behind it is given, of an array. -/
  | defaulted
deriving DecidableEq

/-- The fields of a record in order. -/
abbrev Layout := List (String × Presence)

namespace Layout

def readFields (fields : Fields Json) : Layout → Option (List (Option Json))
  | [] => some []
  | (name, presence) :: rest =>
    match fields.get? name with
    | some value => (readFields fields rest).map (some value :: ·)
    | none => if presence = .required then none else (readFields fields rest).map (none :: ·)

def readItems : Layout → List Json → Option (List (Option Json))
  | [], [] => some []
  | [], _ :: _ => none
  | _ :: rest, item :: items => (readItems rest items).map (some item :: ·)
  | (_, presence) :: rest, [] =>
    if presence = .defaulted then (readItems rest []).map (none :: ·) else none

/-- The values of the fields of a record, none for a field that is left out. -/
def read (layout : Layout) : Json → Option (List (Option Json))
  | .object fields => readFields fields layout
  | .array items => readItems layout items
  | _ => none

end Layout

namespace Json

def bool? : Json → Option Bool
  | bool value => some value
  | _ => none

def optional? {α : Type} (read : Json → Option α) : Option Json → Option (Option α)
  | none | some null => some none
  | some value => (read value).map some

def list? {α : Type} (read : Json → Option α) : Json → Option (List α)
  | array items => items.mapM read
  | _ => none

end Json
end Verdict
