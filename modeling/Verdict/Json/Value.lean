import Verdict.Fields

/-!
# JSON values

A number is either an integer or a floating-point number, and the two kinds are never equal: `1` and
`1.0` are different values.  The fields of an object are kept in order of name; `Json.Canonical`
says so at every depth.
-/

namespace Verdict

inductive Number where
  /-- Written without a fraction and an exponent, and small enough for 64 bits. -/
  | int (value : Int)
  /-- Any other finite number. -/
  | float (value : Float)

namespace Number

/-- Numbers are equal when they are of one kind and have one value. -/
def equal : Number → Number → Bool
  | int a, int b => a == b
  | float a, float b => a == b
  | _, _ => false

def toFloat : Number → Float
  | int value => Float.ofInt value
  | float value => value

def minInt : Int := -9223372036854775808

def maxInt : Int := 18446744073709551615

def maxSigned : Int := 9223372036854775807

/-- An integer within 64 bits, signed or unsigned, or a finite float. -/
def Representable : Number → Prop
  | int value => minInt ≤ value ∧ value ≤ maxInt
  | float value => value.isFinite = true

end Number

inductive Json where
  | null
  | bool (value : Bool)
  | number (value : Number)
  | string (value : String)
  | array (items : List Json)
  | object (fields : List (String × Json))

instance : Inhabited Json := ⟨.null⟩

namespace Json

/-! ## Equality -/

mutual

/-- Whether two values are equal; objects are compared field by field in order of name. -/
def equal : Json → Json → Bool
  | null, null => true
  | bool a, bool b => a == b
  | number a, number b => a.equal b
  | string a, string b => a == b
  | array a, array b => equalItems a b
  | object a, object b => equalFields a b
  | _, _ => false

def equalItems : List Json → List Json → Bool
  | [], [] => true
  | a :: as, b :: bs => equal a b && equalItems as bs
  | _, _ => false

def equalFields : List (String × Json) → List (String × Json) → Bool
  | [], [] => true
  | (k, a) :: as, (l, b) :: bs => k == l && equal a b && equalFields as bs
  | _, _ => false

end

instance : BEq Json := ⟨equal⟩

/-! ## Parts -/

def isNull : Json → Bool
  | null => true
  | _ => false

def string? : Json → Option String
  | string value => some value
  | _ => none

def array? : Json → Option (List Json)
  | array items => some items
  | _ => none

def object? : Json → Option (Fields Json)
  | object fields => some fields
  | _ => none

def float? : Json → Option Float
  | number value => some value.toFloat
  | _ => none

def int? : Json → Option Int
  | number (.int value) => some value
  | _ => none

def field? (value : Json) (name : String) : Option Json :=
  match value with
  | object fields => Fields.get? fields name
  | _ => none

/-! ## Construction -/

def ofInt (value : Int) : Json := number (.int value)

/-- A float as a value; infinities and NaN have none and become `null`. -/
def ofFloat (value : Float) : Json :=
  if value.isFinite then number (.float value) else null

def ofOption : Option Json → Json
  | some value => value
  | none => null

/-- An object with the fields given, the last one of several under one name. -/
def ofFields (pairs : List (String × Json)) : Json :=
  object (Fields.ofList pairs)

mutual

/-- A value built anew from its parts, as it is when a value is written into another one. -/
def rebuild : Json → Json
  | null => null
  | bool value => bool value
  | number (.int value) => ofInt value
  | number (.float value) => ofFloat value
  | string value => string value
  | array items => array (rebuildItems items)
  | object fields => ofFields (rebuildFields fields)

def rebuildItems : List Json → List Json
  | [] => []
  | item :: rest => rebuild item :: rebuildItems rest

def rebuildFields : List (String × Json) → List (String × Json)
  | [] => []
  | (name, value) :: rest => (name, rebuild value) :: rebuildFields rest

end

/-! ## Canonical form -/

mutual

/-- At every depth names are in order without repetition and numbers are representable. -/
def Canonical : Json → Prop
  | null => True
  | bool _ => True
  | number value => value.Representable
  | string _ => True
  | array items => CanonicalItems items
  | object fields => Fields.Sorted fields ∧ CanonicalFields fields

def CanonicalItems : List Json → Prop
  | [] => True
  | item :: rest => Canonical item ∧ CanonicalItems rest

def CanonicalFields : List (String × Json) → Prop
  | [] => True
  | (_, value) :: rest => Canonical value ∧ CanonicalFields rest

end

end Json
end Verdict
