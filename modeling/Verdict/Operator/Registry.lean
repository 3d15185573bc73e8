import Verdict.Operator.Comparison
import Verdict.Operator.Text
import Verdict.Operator.Numeric
import Verdict.Operator.Temporal
import Verdict.Operator.Collection
import Verdict.Operator.Geo

/-!
# Registries of operators

A registry says which operator a name stands for.  Further pure operators can be registered over a
copy of the built-in one.
-/

namespace Verdict

structure Registry where
  operators : Fields Operator

namespace Registry

def fetchName : String := "fetch_from_api"

/-- The operators of a condition that needs no operand. -/
def operandless : List String := ["present", "blank"]

def empty : Registry := ⟨[]⟩

def get? (registry : Registry) (name : String) : Option Operator :=
  registry.operators.get? name

def contains (registry : Registry) (name : String) : Bool :=
  registry.operators.contains name

/-- The registry with a pure operator under a name, in place of what the name stood for. -/
def register (registry : Registry) (name : String) (test : Test) : Registry :=
  ⟨registry.operators.insert name (.pure test)⟩

def names (registry : Registry) : List String :=
  registry.operators.names

/-- The pure operators that every registry but the empty one starts from. -/
def families : List (String × Test) :=
  Operator.comparisons ++ Operator.textuals ++ Operator.numerics ++ Operator.temporals ++
    Operator.collections ++ Operator.geographics

/-- The registry of all operators of the library. -/
def builtin : Registry :=
  ⟨Fields.ofList (families.map (fun (name, test) => (name, Operator.pure test)) ++
    [(fetchName, .enrichment)])⟩

def requiresOperand (name : String) : Bool :=
  !operandless.contains name

/-! ## Laws -/

theorem get?_register_self (registry : Registry) (name : String) (test : Test) :
    (registry.register name test).get? name = some (.pure test) :=
  Fields.get?_insert_self _ _ _

theorem get?_register_of_ne (registry : Registry) {name other : String} (test : Test)
    (h : other ≠ name) : (registry.register name test).get? other = registry.get? other :=
  Fields.get?_insert_of_ne _ _ h

end Registry
end Verdict
