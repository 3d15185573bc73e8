import Verdict.Rule.Fault

/-!
# Checked values

The outcome of a check is a value or a list of faults.  `Checked.both` does not stop at the first
fault.
-/

namespace Verdict

/-- A value, or what is wrong with what it should have been made from. -/
inductive Checked (α : Type) where
  | sound (value : α)
  | faulty (faults : List Fault)

namespace Checked

variable {α β : Type}

def fault (location : Location) (cause : Cause) : Checked α :=
  faulty [⟨location, cause⟩]

def faults : Checked α → List Fault
  | sound _ => []
  | faulty faults => faults

def map (f : α → β) : Checked α → Checked β
  | sound value => sound (f value)
  | faulty faults => faulty faults

/-- Joins two checks. -/
def both : Checked α → Checked β → Checked (α × β)
  | sound a, sound b => sound (a, b)
  | a, b => faulty (a.faults ++ b.faults)

/-! ## Laws -/

@[simp]
theorem faults_map (f : α → β) (checked : Checked α) : (checked.map f).faults = checked.faults := by
  cases checked <;> rfl

@[simp]
theorem faults_both (a : Checked α) (b : Checked β) :
    (a.both b).faults = a.faults ++ b.faults := by
  cases a <;> cases b <;> rfl

/-- Two parts make a value exactly when each of them does. -/
theorem both_eq_sound_iff {a : Checked α} {b : Checked β} {pair : α × β} :
    a.both b = sound pair ↔ a = sound pair.1 ∧ b = sound pair.2 := by
  cases a <;> cases b <;> simp [both, Prod.ext_iff]

theorem map_eq_sound_iff {f : α → β} {checked : Checked α} {value : β} :
    checked.map f = sound value ↔ ∃ source, checked = sound source ∧ f source = value := by
  cases checked <;> simp [map]

end Checked
end Verdict
