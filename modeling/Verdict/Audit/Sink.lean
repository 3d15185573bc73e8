import Verdict.Audit.Record

/-!
# Audit sinks

A sink takes records, with a state of its own, and may answer with an error, which is never a reason
to change a decision.
-/

namespace Verdict

inductive AuditError where
  | queueFull
  | closed
  | backend (detail : String)
deriving DecidableEq

def AuditError.message : AuditError → String
  | queueFull => "Audit queue is full"
  | closed => "Audit sink is closed"
  | backend detail => "Audit backend error: " ++ detail

/-- What takes records of a kind, with a state. -/
abbrev Sink (α σ : Type) := α → σ → Except AuditError Unit × σ

namespace Sink

variable {α σ : Type}

def discarding : Sink α σ := fun _ state => (.ok (), state)

def keeping : Sink α (List α) := fun record kept => (.ok (), kept ++ [record])

/-- Keeps every record and answers with an error all the same. -/
def failing (error : AuditError) : Sink α (List α) := fun record kept =>
  (.error error, kept ++ [record])

end Sink
end Verdict
