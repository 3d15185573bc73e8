import Verdict.Operator.Comparison

/-!
# Arrays as sets

Both sides must be arrays; order and repetition of items do not matter.
-/

namespace Verdict.Operator

def itemsOf (actual : Option Json) (expected : Json) : Option (List Json × List Json) :=
  (actual.bind Json.array?).bind fun items => expected.array?.map fun others => (items, others)

/-- Whether every item of the operand is an item of the value. -/
def containsAll : Test := fun actual expected _ =>
  (itemsOf actual expected).any fun (items, others) => others.all (isItem · items)

def containsAny : Test := fun actual expected _ =>
  (itemsOf actual expected).any fun (items, others) => others.any (isItem · items)

def intersects : Test := fun actual expected _ =>
  (itemsOf actual expected).any fun (items, others) => items.any (isItem · others)

/-- Whether every item of the value is an item of the operand. -/
def subsetOf : Test := fun actual expected _ =>
  (itemsOf actual expected).any fun (items, others) => items.all (isItem · others)

def collections : List (String × Test) :=
  [("contains_all", containsAll), ("contains_any", containsAny), ("intersects", intersects),
    ("subset_of", subsetOf)]

end Verdict.Operator
