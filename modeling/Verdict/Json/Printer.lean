import Verdict.Json.Value
import Verdict.Decimal.Notation

/-!
# Writing values

`Json.render` is the compact text of a value, `Json.pretty` puts every item and field on a line of
its own.  Both write fields in the order given.
-/

namespace Verdict

def Number.text : Number → String
  | .int value => if value < 0 then "-" ++ Nat.repr value.natAbs else Nat.repr value.natAbs
  | .float value => FloatNotation.json.text value

namespace Json

def hexChar (digit : Nat) : Char :=
  if digit < 10 then Char.ofNat ('0'.toNat + digit) else Char.ofNat ('a'.toNat + digit - 10)

/-- A character inside a string: quotes, backslashes and control characters are escaped. -/
def escape (c : Char) : List Char :=
  match c with
  | '"' => ['\\', '"']
  | '\\' => ['\\', '\\']
  | '\n' => ['\\', 'n']
  | '\r' => ['\\', 'r']
  | '\t' => ['\\', 't']
  | '\x08' => ['\\', 'b']
  | '\x0c' => ['\\', 'f']
  | c =>
    if c.toNat < 32 then
      ['\\', 'u', '0', '0', hexChar (c.toNat / 16), hexChar (c.toNat % 16)]
    else [c]

def quote (text : String) : String :=
  String.ofList ('"' :: text.toList.flatMap escape ++ ['"'])

mutual

def render : Json → String
  | null => "null"
  | bool true => "true"
  | bool false => "false"
  | number value => value.text
  | string value => quote value
  | array items => "[" ++ ",".intercalate (renderItems items) ++ "]"
  | object fields => "\x7b" ++ ",".intercalate (renderFields fields) ++ "\x7d"

def renderItems : List Json → List String
  | [] => []
  | item :: rest => render item :: renderItems rest

def renderFields : List (String × Json) → List String
  | [] => []
  | (name, value) :: rest => (quote name ++ ":" ++ render value) :: renderFields rest

end

def indent (depth : Nat) : String :=
  String.ofList ('\n' :: List.replicate (2 * depth) ' ')

/-- Lines between two brackets, one level deeper than the brackets; no line leaves no break. -/
def block (depth : Nat) (opening closing : String) (lines : List String) : String :=
  if lines.isEmpty then opening ++ closing
  else
    opening ++ ",".intercalate (lines.map (indent (depth + 1) ++ ·)) ++ indent depth ++ closing

mutual

def prettyAt (depth : Nat) : Json → String
  | array items => block depth "[" "]" (prettyItems (depth + 1) items)
  | object fields => block depth "\x7b" "\x7d" (prettyFields (depth + 1) fields)
  | value => value.render

def prettyItems (depth : Nat) : List Json → List String
  | [] => []
  | item :: rest => prettyAt depth item :: prettyItems depth rest

def prettyFields (depth : Nat) : List (String × Json) → List String
  | [] => []
  | (name, value) :: rest =>
    (quote name ++ ": " ++ prettyAt depth value) :: prettyFields depth rest

end

/-- The text of a value with one item or field a line. -/
def pretty (value : Json) : String :=
  prettyAt 0 value

end Json
end Verdict
