import Verdict.Json.Value
import Verdict.Decimal.Reading
import Verdict.Yaml.Node

/-!
# What scalars mean

A plain scalar without a tag can be null, a truth value, an integer or a float, and is a text
otherwise.  A tag of an application's own has no meaning here.
-/

namespace Verdict.Yaml

inductive Meaning where
  | null
  | bool (value : Bool)
  | int (value : Int)
  | float (value : Float)
  | text (value : String)

namespace Meaning

/-! ## Words -/

def isNullWord (text : String) : Bool :=
  ["null", "Null", "NULL", "~"].contains text

def bool? (text : String) : Option Bool :=
  if ["true", "True", "TRUE"].contains text then some true
  else if ["false", "False", "FALSE"].contains text then some false
  else none

/-! ## Integers -/

def digit? (base : Nat) (c : Char) : Option Nat :=
  (Text.hexDigit? c).filter fun value => value < base

def natural? (base : Nat) (digits : List Char) : Option Nat :=
  if digits.isEmpty then none
  else
    (digits.mapM (digit? base)).map fun values =>
      values.foldl (fun total value => total * base + value) 0

def markedBase? : List Char → Option (Nat × List Char)
  | '0' :: 'x' :: digits => some (16, digits)
  | '0' :: 'o' :: digits => some (8, digits)
  | '0' :: 'b' :: digits => some (2, digits)
  | _ => none

/-- Whether there are only digits, of which a needless zero is the first. -/
def hasLeadingZero (digits : List Char) : Bool :=
  1 < digits.length && digits.head? == some '0' && digits.all Char.isDigit

def magnitude? (text : List Char) : Option Nat :=
  match markedBase? text with
  | some (base, digits) => natural? base digits
  | none => if hasLeadingZero text then none else natural? 10 text

def unsigned? (bound : Nat) (text : List Char) : Option Nat :=
  let digits := match text with
    | '+' :: digits => digits
    | digits => digits
  (magnitude? digits).filter fun value => value < bound

/-- An integer with a minus sign that is not below `-bound`. -/
def negative? (bound : Nat) : List Char → Option Int
  | '-' :: digits => ((magnitude? digits).filter fun value => value ≤ bound).map fun value => -value
  | _ => none

/-! ## Floats -/

/-- A float, which may be a word for one that is not finite.  Decimals beyond all floats are
none. -/
def float? (text : List Char) : Option Float :=
  let (positive, digits) := match text with
    | '+' :: digits => (true, digits)
    | digits => (false, digits)
  let word := String.ofList text
  if [".inf", ".Inf", ".INF"].contains (String.ofList digits) then some (1.0 / 0.0)
  else if ["-.inf", "-.Inf", "-.INF"].contains word then some (-1.0 / 0.0)
  else if [".nan", ".NaN", ".NAN"].contains word then some (0.0 / 0.0)
  else if positive && (digits.head? == some '+' || digits.head? == some '-') then none
  else (Decimal.signed? digits).filter Float.isFinite

/-! ## Scalars -/

/-- An integer, if the text is one of 64 bits.  One of 128 bits has no meaning at all. -/
def integer? (text : List Char) : Option (Option Int) :=
  match unsigned? (powerOfTwo 64) text, negative? (powerOfTwo 63) text with
  | some value, _ => some (some value)
  | none, some value => some (some value)
  | none, none =>
    if (unsigned? (powerOfTwo 128) text).isSome || (negative? (powerOfTwo 127) text).isSome
      then none
    else some none

def isPadded : List Char → Bool
  | '-' :: digits | '+' :: digits => hasLeadingZero digits
  | digits => hasLeadingZero digits

def ofPlain? (text : String) : Option Meaning :=
  if text.isEmpty || isNullWord text then some null
  else
    match bool? text with
    | some value => some (bool value)
    | none =>
      match integer? text.toList with
      | none => none
      | some (some value) => some (int value)
      | some none =>
        if isPadded text.toList then some (.text text)
        else some (((float? text.toList).map float).getD (.text text))

def coreTag (name : String) : String := "tag:yaml.org,2002:" ++ name

def isLocalTag (tag : Option String) : Bool :=
  tag.any fun tag => tag.toList.head? == some '!'

def ofScalar? (tag : Option String) (text : String) (style : Style) : Option Meaning :=
  match tag with
  | none => if style = .plain then ofPlain? text else some (.text text)
  | some tag =>
    if isLocalTag (some tag) then none
    else if tag = coreTag "bool" then (bool? text).map bool
    else if tag = coreTag "int" then (integer? text.toList).join.map int
    else if tag = coreTag "float" then (float? text.toList).map float
    else if tag = coreTag "null" then if isNullWord text then some null else none
    else some (.text text)

/-- A meaning as a value.  Infinities and NaN stay floats. -/
def toJson : Meaning → Json
  | null => .null
  | bool value => .bool value
  | int value => .ofInt value
  | float value => .number (.float value)
  | text value => .string value

end Meaning
end Verdict.Yaml
