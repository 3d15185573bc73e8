import Verdict.Json.Value
import Verdict.DotPath

/-!
# Contexts

A context is the object a decision is about.  One leading colon is dropped from the name of every
field, however deep.  Fields are looked up by dot path, and `Context.merged` stores values under dot
paths.
-/

namespace Verdict

/-! ## Normal names -/

/-- A name without its leading colon; a colon alone is a name. -/
def normalName (name : String) : String :=
  match name.toList with
  | ':' :: c :: rest => String.ofList (c :: rest)
  | _ => name

namespace Json

mutual

/-- A value in which every name of every object is normal.  Where two names become one, the value
of the later name in the old order stays. -/
def normalized : Json → Json
  | object fields => object (Fields.ofList (normalizedFields fields))
  | array items => array (normalizedItems items)
  | value => value

def normalizedItems : List Json → List Json
  | [] => []
  | item :: rest => normalized item :: normalizedItems rest

def normalizedFields : List (String × Json) → List (String × Json)
  | [] => []
  | (name, value) :: rest => (normalName name, normalized value) :: normalizedFields rest

end

/-! ## Places -/

/-- The value reached through objects by the names given. -/
def walk (value : Json) : List String → Option Json
  | [] => some value
  | name :: rest => (value.field? name).bind fun child => child.walk rest

/-- Stores a value at the place that the names lead to.  Whatever is in the way and is not an
object gives way to one. -/
def store (fields : Fields Json) (names : List String) (value : Json) : Fields Json :=
  match names with
  | [] => fields
  | [name] => fields.insert name value
  | name :: next :: rest =>
    let child := ((fields.get? name).bind object?).getD []
    fields.insert name (object (store child (next :: rest) value))

end Json

/-! ## Contexts -/

/-- The data that a decision is about. -/
structure Context where
  fields : Fields Json

namespace Context

def empty : Context := ⟨[]⟩

def ofObject (fields : Fields Json) : Context :=
  ⟨Fields.ofList (Json.normalizedFields fields)⟩

/-- The context of a value; only an object has data to look up. -/
def ofJson : Json → Context
  | .object fields => ofObject fields
  | _ => empty

def ofJson? : Json → Option Context
  | .object fields => some (ofObject fields)
  | _ => none

/-- The context of named values, the last one of several under one name. -/
def ofPairs (pairs : List (String × Json)) : Context :=
  ofObject (Fields.ofList pairs)

def toJson (context : Context) : Json :=
  .object context.fields

/-- The value at a dot path.  A stored `null` is a value. -/
def get? (context : Context) (path : String) : Option Json :=
  context.toJson.walk (DotPath.segments path)

/-- Whether there is a value other than `null` at a dot path. -/
def has (context : Context) (path : String) : Bool :=
  (context.get? path).any fun value => !value.isNull

/-- The context with values stored under dot paths, one after another. -/
def merged (context : Context) (pairs : List (String × Json)) : Context :=
  ⟨pairs.foldl (fun fields pair => Json.store fields (DotPath.segments pair.1) pair.2)
    context.fields⟩

def size (context : Context) : Nat :=
  context.fields.length

def isEmpty (context : Context) : Bool :=
  context.fields.isEmpty

/-! ## Laws -/

theorem merged_nil (context : Context) : context.merged [] = context := rfl

theorem merged_append (context : Context) (first second : List (String × Json)) :
    context.merged (first ++ second) = (context.merged first).merged second := by
  simp [merged, List.foldl_append]

end Context
end Verdict
