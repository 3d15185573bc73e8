import Mathlib.Data.String.Basic
import Mathlib.Tactic.Common

/-!
# The order of texts and the order of their bytes

Texts are ordered by the code points of their characters, which is also the order of the bytes that
they are encoded in (`Text.bytes_lt_iff`).
-/

namespace Verdict.Text

def bytes (text : String) : List UInt8 :=
  text.toUTF8.data.toList

/-- Where the bytes part, the first list has the smaller one. -/
inductive Precedes : List UInt8 → List UInt8 → Prop where
  | here {small great : UInt8} {rest others : List UInt8} (h : small < great) :
      Precedes (small :: rest) (great :: others)
  | there {byte : UInt8} {rest others : List UInt8} (h : Precedes rest others) :
      Precedes (byte :: rest) (byte :: others)

theorem precedes_cons_iff {byte other : UInt8} {rest others : List UInt8} :
    Precedes (byte :: rest) (other :: others) ↔
      byte < other ∨ byte = other ∧ Precedes rest others := by
  constructor
  · intro h
    cases h with
    | here h => exact Or.inl h
    | there h => exact Or.inr ⟨rfl, h⟩
  · rintro (h | ⟨rfl, h⟩)
    · exact .here h
    · exact .there h

theorem not_precedes_nil {others : List UInt8} : ¬ Precedes [] others := by
  intro h
  cases h

theorem Precedes.append_lt {first second : List UInt8} (h : Precedes first second)
    (rest others : List UInt8) : first ++ rest < second ++ others := by
  induction h with
  | here h => exact List.cons_lt_cons_iff.mpr (Or.inl h)
  | there _ ih => exact List.cons_lt_cons_iff.mpr (Or.inr ⟨rfl, ih⟩)

/-! ## Characters -/

theorem ofNat_lt_ofNat_iff {m n : Nat} (hm : m < 256) (hn : n < 256) :
    UInt8.ofNat m < UInt8.ofNat n ↔ m < n := by
  rw [UInt8.lt_iff_toNat_lt, UInt8.toNat_ofNat', UInt8.toNat_ofNat', Nat.mod_eq_of_lt hm,
    Nat.mod_eq_of_lt hn]

theorem ofNat_eq_ofNat_iff {m n : Nat} (hm : m < 256) (hn : n < 256) :
    UInt8.ofNat m = UInt8.ofNat n ↔ m = n := by
  rw [← UInt8.toNat_inj, UInt8.toNat_ofNat', UInt8.toNat_ofNat', Nat.mod_eq_of_lt hm,
    Nat.mod_eq_of_lt hn]

theorem precedes_utf8EncodeChar {c d : Char} (h : c < d) :
    Precedes (String.utf8EncodeChar c) (String.utf8EncodeChar d) := by
  have hlt : c.val.toNat < d.val.toNat := h
  have hmost : d.val.toNat < 1114112 := by
    rcases d.valid with hlow | hhigh
    · change d.val.toNat < 55296 at hlow
      omega
    · exact hhigh.2
  unfold String.utf8EncodeChar
  generalize c.val.toNat = m at hlt ⊢
  generalize d.val.toNat = n at hlt hmost ⊢
  -- A smaller number is smaller in its highest digits, or in the next digit below equal ones.
  have hones : m / 64 < n / 64 ∨ m / 64 = n / 64 ∧ m % 64 < n % 64 := by omega
  have htens : m / 64 < n / 64 → m / 4096 < n / 4096 ∨
      m / 4096 = n / 4096 ∧ m / 64 % 64 < n / 64 % 64 := by
    intro hdigits
    omega
  have hhundreds : m / 4096 < n / 4096 → m / 262144 < n / 262144 ∨
      m / 262144 = n / 262144 ∧ m / 4096 % 64 < n / 4096 % 64 := by
    intro hdigits
    omega
  have hlead : m / 262144 < 8 ∧ n / 262144 < 8 := by omega
  dsimp only
  rw [Nat.mod_eq_of_lt hlead.1, Nat.mod_eq_of_lt hlead.2]
  split_ifs
  all_goals
    simp (disch := omega) only [precedes_cons_iff, ofNat_lt_ofNat_iff, ofNat_eq_ofNat_iff,
      not_precedes_nil]
    omega

/-! ## Texts -/

theorem bytes_eq_flatMap (text : String) :
    bytes text = text.toList.flatMap String.utf8EncodeChar := by
  rw [bytes, String.toUTF8, ← String.utf8Encode_toList, List.utf8Encode]
  exact List.toList_data_toByteArray

theorem flatMap_utf8EncodeChar_lt {text other : List Char} (h : text < other) :
    text.flatMap String.utf8EncodeChar < other.flatMap String.utf8EncodeChar := by
  induction text generalizing other with
  | nil =>
      cases other with
      | nil => exact absurd h (List.lt_irrefl [])
      | cons d others =>
          have hsome : String.utf8EncodeChar d ≠ [] := by
            rw [← List.length_pos_iff, String.length_utf8EncodeChar]
            exact d.utf8Size_pos
          obtain ⟨byte, rest, hbytes⟩ := List.exists_cons_of_ne_nil hsome
          rw [List.flatMap_cons, hbytes]
          exact List.nil_lt_cons _ _
  | cons c rest ih =>
      cases other with
      | nil => exact absurd h (List.not_lt_nil _)
      | cons d others =>
          rw [List.flatMap_cons, List.flatMap_cons]
          rcases List.cons_lt_cons_iff.mp h with hlt | ⟨rfl, hrest⟩
          · exact (precedes_utf8EncodeChar hlt).append_lt _ _
          · exact List.append_left_lt (ih hrest)

theorem bytes_lt_of_lt {text other : String} (h : text < other) : bytes text < bytes other := by
  rw [bytes_eq_flatMap, bytes_eq_flatMap]
  exact flatMap_utf8EncodeChar_lt (String.lt_iff.mp h)

/-- Texts and their bytes are ordered in the same way. -/
theorem bytes_lt_iff {text other : String} : bytes text < bytes other ↔ text < other := by
  refine ⟨?_, bytes_lt_of_lt⟩
  intro h
  rcases lt_trichotomy text other with hlt | rfl | hgt
  · exact hlt
  · exact absurd h (List.lt_irrefl _)
  · exact absurd h (List.lt_asymm (bytes_lt_of_lt hgt))

end Verdict.Text
