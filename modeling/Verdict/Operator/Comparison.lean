import Verdict.Operator.Basic

/-!
# Equality, order, membership and presence

Integers compare with integers, floats with floats and strings, by code point, with strings.
Nothing else is ordered.  A missing value equals `null`.
-/

namespace Verdict

/-- The order of two numbers of one kind. -/
def Number.order? : Number → Number → Option Ordering
  | .int a, .int b => some (compare a b)
  | .float a, .float b =>
    if a < b then some .lt
    else if a == b then some .eq
    else if a > b then some .gt
    else none
  | _, _ => none

namespace Operator

def order? (actual : Option Json) (expected : Json) : Option Ordering :=
  match actual, expected with
  | some (.number a), .number b => a.order? b
  | some (.string a), .string b => some (compare a b)
  | _, _ => none

def eq : Test := fun actual expected _ => (actual.getD .null).equal expected

def neq : Test := fun actual expected now => !eq actual expected now

def gt : Test := fun actual expected _ => order? actual expected == some .gt

def gte : Test := fun actual expected _ =>
  order? actual expected == some .gt || order? actual expected == some .eq

def lt : Test := fun actual expected _ => order? actual expected == some .lt

def lte : Test := fun actual expected _ =>
  order? actual expected == some .lt || order? actual expected == some .eq

def isItem (value : Json) (items : List Json) : Bool :=
  items.any fun item => item.equal value

/-- Whether the value is an item of the operand, or the operand itself if that is no array. -/
def isIn : Test := fun actual expected _ =>
  let value := actual.getD .null
  match expected with
  | .array items => isItem value items
  | single => single.equal value

/-- Whether there is a value that is not empty. -/
def present : Test := fun actual _ _ =>
  match actual with
  | none | some .null => false
  | some (.string text) => !text.isEmpty
  | some (.array items) => !items.isEmpty
  | some (.object fields) => !fields.isEmpty
  | some (.number _) | some (.bool _) => true

def blank : Test := fun actual expected now => !present actual expected now

def comparisons : List (String × Test) :=
  [("eq", eq), ("neq", neq), ("gt", gt), ("gte", gte), ("lt", lt), ("lte", lte), ("in", isIn),
    ("present", present), ("blank", blank)]

end Operator
end Verdict
