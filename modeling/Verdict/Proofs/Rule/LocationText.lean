import Verdict.Rule.Fault
import Verdict.Proofs.Text.Digits
import Mathlib.Data.List.Basic

/-!
# The texts of locations

`Location.ofText?` reads the text of a location as a sequence of names and indices.  It finds the
steps of every location whose names are `Plain`, that is, neither empty nor broken by a dot or a
bracket (`Location.ofText?_text`).
-/

namespace Verdict

/-! ## Reading -/

namespace Location

def isNameChar (c : Char) : Bool :=
  c != '.' && c != '['

theorem length_dropWhile_le (p : Char → Bool) (text : List Char) :
    (text.dropWhile p).length ≤ text.length :=
  (List.dropWhile_sublist p).length_le

/-- Reads steps: a name behind a dot, or an index in brackets. -/
def steps? : List Char → Option Location
  | [] => some []
  | '.' :: rest =>
    (steps? (rest.dropWhile isNameChar)).map
      (.field (String.ofList (rest.takeWhile isNameChar)) :: ·)
  | '[' :: rest =>
    let digits := rest.takeWhile Char.isDigit
    let behind := rest.dropWhile Char.isDigit
    if digits ≠ [] ∧ behind.head? = some ']' then
      (steps? behind.tail).map (.item (Text.numeral digits) :: ·)
    else none
  | _ => none
termination_by text => text.length
decreasing_by
  · exact Nat.lt_succ_of_le (length_dropWhile_le _ _)
  · rw [List.length_tail]
    exact Nat.lt_succ_of_le (Nat.le_trans (Nat.sub_le _ _) (length_dropWhile_le _ _))

def ofText? (text : String) : Option Location :=
  match text.toList with
  | [] => some []
  | c :: rest => steps? (if c = '[' then c :: rest else '.' :: c :: rest)

end Location

/-! ## Writing -/

/-- A step whose name can be told from what stands around it. -/
def Step.Plain : Step → Prop
  | .field name => name ≠ "" ∧ ∀ c ∈ name.toList, Location.isNameChar c = true
  | .item _ => True

def Step.marked : Step → List Char
  | .field name => '.' :: name.toList
  | .item index => '[' :: (Nat.toDigits 10 index ++ [']'])

namespace Location

def Plain (location : Location) : Prop :=
  ∀ step ∈ location, step.Plain

theorem toList_textFrom {start : String} (hstart : start ≠ "") (location : Location) :
    (textFrom start location).toList = start.toList ++ location.flatMap Step.marked := by
  induction location generalizing start with
  | nil => rw [textFrom, List.flatMap_nil, List.append_nil]
  | cons step rest ih =>
      cases step with
      | field name =>
          rw [textFrom, if_neg (by simpa using hstart), ih (by simp)]
          simp [Step.marked]
      | item index =>
          rw [textFrom, ih (by simp)]
          simp [Step.marked, Nat.toList_repr]

theorem toList_text_field {name : String} (hname : name ≠ "") (rest : Location) :
    (text (.field name :: rest)).toList = name.toList ++ rest.flatMap Step.marked := by
  rw [text, textFrom, if_pos (by rfl), toList_textFrom hname]

theorem toList_text_item (index : Nat) (rest : Location) :
    (text (.item index :: rest)).toList = (Step.item index).marked ++ rest.flatMap Step.marked := by
  rw [text, textFrom, toList_textFrom (by simp)]
  simp [Step.marked, Nat.toList_repr]

/-! ## Reading what was written -/

theorem takeWhile_marked (location : Location) :
    (location.flatMap Step.marked).takeWhile isNameChar = [] ∧
      (location.flatMap Step.marked).dropWhile isNameChar = location.flatMap Step.marked := by
  cases location with
  | nil => exact ⟨rfl, rfl⟩
  | cons step rest =>
      cases step with
      | field name => exact ⟨rfl, rfl⟩
      | item index => exact ⟨rfl, rfl⟩

theorem steps?_field {name : String} (hname : ∀ c ∈ name.toList, isNameChar c = true)
    (rest : Location) :
    steps? ('.' :: (name.toList ++ rest.flatMap Step.marked)) =
      (steps? (rest.flatMap Step.marked)).map (.field name :: ·) := by
  obtain ⟨hstart, hend⟩ := takeWhile_marked rest
  rw [steps?, List.takeWhile_append_of_pos hname, List.dropWhile_append_of_pos hname, hstart, hend,
    List.append_nil, String.ofList_toList]

theorem steps?_item (index : Nat) (rest : Location) :
    steps? ((Step.item index).marked ++ rest.flatMap Step.marked) =
      (steps? (rest.flatMap Step.marked)).map (.item index :: ·) := by
  let digits := Nat.toDigits 10 index
  let behind := ']' :: rest.flatMap Step.marked
  have hdigits : Text.Digits digits := by
    intro c hc
    exact Nat.isDigit_of_mem_toDigits (by decide) (by decide) hc
  have htext : (Step.item index).marked ++ rest.flatMap Step.marked =
      '[' :: (digits ++ behind) := by
    simp [Step.marked, digits, behind]
  have htake : (digits ++ behind).takeWhile Char.isDigit = digits :=
    Text.takeWhile_isDigit_append hdigits rfl
  have hdrop : (digits ++ behind).dropWhile Char.isDigit = behind := by
    rw [List.dropWhile_append_of_pos hdigits]
    rfl
  rw [htext, steps?, htake, hdrop, if_pos ⟨Nat.toDigits_ne_nil, rfl⟩, Text.numeral_toDigits]
  rfl

theorem steps?_marked {location : Location} (h : location.Plain) :
    steps? (location.flatMap Step.marked) = some location := by
  induction location with
  | nil => rw [List.flatMap_nil, steps?]
  | cons step rest ih =>
      obtain ⟨hstep, hrest⟩ := List.forall_mem_cons.mp h
      rw [List.flatMap_cons]
      cases step with
      | field name =>
          rw [Step.marked, List.cons_append, steps?_field hstep.2, ih hrest, Option.map_some]
      | item index => rw [steps?_item, ih hrest, Option.map_some]

/-- A plain location is read from its text. -/
theorem ofText?_text {location : Location} (h : location.Plain) :
    ofText? location.text = some location := by
  rw [← steps?_marked h]
  cases location with
  | nil => rw [List.flatMap_nil, steps?, ofText?]; rfl
  | cons step rest =>
      cases step with
      | field name =>
          obtain ⟨hname, hchars⟩ := h _ List.mem_cons_self
          obtain ⟨c, chars, htext⟩ : ∃ c chars, name.toList = c :: chars :=
            List.exists_cons_of_ne_nil (by simpa using hname)
          have hc : c ≠ '[' := by
            rintro rfl
            exact absurd (hchars '[' (htext ▸ List.mem_cons_self)) (by decide)
          rw [ofText?, toList_text_field hname, htext, List.cons_append]
          dsimp only
          rw [if_neg hc, List.flatMap_cons, Step.marked, htext]
          rfl
      | item index =>
          rw [ofText?, toList_text_item]
          rfl

example : ofText? "rules[0].if.all[12].value" =
    some [.field "rules", .item 0, .field "if", .field "all", .item 12, .field "value"] := by
  cbv

theorem eq_of_text_eq {a b : Location} (ha : a.Plain) (hb : b.Plain) (h : a.text = b.text) :
    a = b := by
  have hread := ofText?_text ha
  rw [h, ofText?_text hb] at hread
  exact (Option.some.inj hread).symm

end Location
end Verdict
