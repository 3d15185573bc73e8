import Verdict.Config.Basic
import Verdict.Json.Record

/-!
# Configurations from documents

A configuration is a record all of whose fields may be left out.
-/

namespace Verdict.Config

def names : List String := ["strategy", "decide_timeout", "trace", "audit"]

def given? {α : Type} (read : Json → Option α) : Option Json → Option (Option α)
  | none => some none
  | some value => (read value).map some

/-- A number of records, which has to fit into 64 bits. -/
def count? (value : Json) : Option Nat :=
  value.int?.bind fun count => if count < 0 then none else some count.toNat

def capacity? (document : Json) : Option (Option Nat) := do
  let layout : Layout := [(capacityName, .defaulted)]
  match ← layout.read document with
  | [capacity] => given? count? capacity
  | _ => none

def ofJson? (document : Json) : Option Config := do
  let layout : Layout := names.map fun name => (name, .defaulted)
  match ← layout.read document with
  | [strategy, timeLimit, trace, audit] =>
    return ofDraft
      { strategy := ← given? Strategy.ofJson? strategy
        timeLimit := ← given? (fun value => value.string?.bind Duration.ofText?) timeLimit
        trace := ← given? Json.bool? trace
        queueCapacity := (← given? capacity? audit).join }
  | _ => none

end Verdict.Config
