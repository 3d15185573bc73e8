import Verdict.Operator.Comparison
import Verdict.Proofs.Decimal.ExactValue

/-!
# The order of values

Integers, floats and texts each have a place in a linear order.  Two values with places in one order
are compared as their places (`Operator.order?_of_placed`), and no others are compared at all.
-/

namespace Verdict

inductive Kind where
  | int
  | float
  | string

def Kind.Place : Kind → Type
  | int => Int
  | float => ℚ
  | string => String

instance : (kind : Kind) → LinearOrder kind.Place
  | .int => inferInstanceAs (LinearOrder Int)
  | .float => inferInstanceAs (LinearOrder ℚ)
  | .string => inferInstanceAs (LinearOrder String)

/-- The place of a value in the order of a kind. -/
inductive Placed : (kind : Kind) → Json → kind.Place → Prop where
  | int (value : Int) : Placed .int (.number (.int value)) value
  | float (value : Float) (finite : value.isFinite = true) :
      Placed .float (.number (.float value)) (ExactValue.exact value)
  | string (value : String) : Placed .string (.string value) value

namespace Operator

def SameKind : Json → Json → Prop
  | .number (.int _), .number (.int _) => True
  | .number (.float _), .number (.float _) => True
  | .string _, .string _ => True
  | _, _ => False

theorem exists_placed_of_sameKind {x y : Json} (hx : x.Canonical) (hy : y.Canonical)
    (same : SameKind x y) : ∃ kind a b, Placed kind x a ∧ Placed kind y b := by
  unfold SameKind at same
  split at same
  · exact ⟨.int, _, _, .int _, .int _⟩
  · exact ⟨.float, _, _, .float _ hx, .float _ hy⟩
  · exact ⟨.string, _, _, .string _, .string _⟩
  · cases same

theorem order?_float {v w : Float} (hv : v.isFinite = true) (hw : w.isFinite = true) :
    (Number.float v).order? (.float w) =
      some (compare (ExactValue.exact v) (ExactValue.exact w)) := by
  rw [Number.order?]
  simp only [gt_iff_lt, ExactValue.lt_iff hv hw, ExactValue.lt_iff hw hv,
    ExactValue.beq_iff hv hw]
  rcases lt_trichotomy (ExactValue.exact v) (ExactValue.exact w) with hlt | heq | hgt
  · rw [if_pos hlt, compare_lt_iff_lt.mpr hlt]
  · rw [if_neg heq.not_lt, if_pos heq, compare_eq_iff_eq.mpr heq]
  · rw [if_neg hgt.not_gt, if_neg hgt.ne', if_pos hgt, compare_gt_iff_gt.mpr hgt]

theorem order?_of_placed {kind : Kind} {x y : Json} {a b : kind.Place} (hx : Placed kind x a)
    (hy : Placed kind y b) : order? (some x) y = some (compare a b) := by
  cases hx with
  | int m =>
      cases hy with
      | int n => rfl
  | float v finite =>
      cases hy with
      | float w finite' => exact order?_float finite finite'
  | string s =>
      cases hy with
      | string t => rfl

theorem equal_iff_of_placed {kind : Kind} {x y : Json} {a b : kind.Place} (hx : Placed kind x a)
    (hy : Placed kind y b) : x.equal y = true ↔ a = b := by
  cases hx with
  | int m =>
      cases hy with
      | int n => exact beq_iff_eq
  | float v finite =>
      cases hy with
      | float w finite' => exact ExactValue.beq_iff finite finite'
  | string s =>
      cases hy with
      | string t => exact beq_iff_eq

section Faces

variable {kind : Kind} {x y : Json} {a b : kind.Place} (hx : Placed kind x a)
  (hy : Placed kind y b) (now : Instant)

include hx hy

theorem gt_iff_of_placed : gt (some x) y now = true ↔ b < a := by
  rw [gt, order?_of_placed hx hy, beq_iff_eq, Option.some_inj, compare_gt_iff_gt]

theorem lt_iff_of_placed : lt (some x) y now = true ↔ a < b := by
  rw [lt, order?_of_placed hx hy, beq_iff_eq, Option.some_inj, compare_lt_iff_lt]

theorem gte_iff_of_placed : gte (some x) y now = true ↔ b ≤ a := by
  rw [gte, order?_of_placed hx hy, Bool.or_eq_true, beq_iff_eq, beq_iff_eq, Option.some_inj,
    Option.some_inj, compare_gt_iff_gt, compare_eq_iff_eq, le_iff_lt_or_eq, eq_comm]

theorem lte_iff_of_placed : lte (some x) y now = true ↔ a ≤ b := by
  rw [lte, order?_of_placed hx hy, Bool.or_eq_true, beq_iff_eq, beq_iff_eq, Option.some_inj,
    Option.some_inj, compare_lt_iff_lt, compare_eq_iff_eq, le_iff_lt_or_eq]

/-- Exactly one of three operators holds, and two more each stand for two of them. -/
theorem faces_of_placed :
    [gt (some x) y now, lt (some x) y now, eq (some x) y now].count true = 1 ∧
      gte (some x) y now = (gt (some x) y now || eq (some x) y now) ∧
      lte (some x) y now = (lt (some x) y now || eq (some x) y now) := by
  have heq : eq (some x) y now = (compare a b == .eq) := by
    rw [Bool.eq_iff_iff, beq_iff_eq, compare_eq_iff_eq]
    exact equal_iff_of_placed hx hy
  simp only [gt, lt, gte, lte, order?_of_placed hx hy, heq]
  cases compare a b with
  | lt => decide
  | eq => decide
  | gt => decide

end Faces

theorem order?_of_not_sameKind {actual : Option Json} {operand : Json}
    (different : ∀ value, actual = some value → ¬ SameKind value operand) :
    order? actual operand = none := by
  unfold order?
  split
  · rename_i m n
    have hdifferent := different _ rfl
    cases m with
    | int a =>
        cases n with
        | int b => exact absurd trivial hdifferent
        | float w => rfl
    | float v =>
        cases n with
        | int b => rfl
        | float w => exact absurd trivial hdifferent
  · exact absurd trivial (different _ rfl)
  · rfl

theorem orderings_of_not_sameKind {actual : Option Json} {operand : Json}
    (different : ∀ value, actual = some value → ¬ SameKind value operand) (now : Instant) :
    gt actual operand now = false ∧ gte actual operand now = false ∧
      lt actual operand now = false ∧ lte actual operand now = false := by
  simp only [gt, gte, lt, lte, order?_of_not_sameKind different]
  exact ⟨rfl, rfl, rfl, rfl⟩

theorem not_sameKind_of_eq_some {x y : Json} (different : ¬ SameKind x y) :
    ∀ value, some x = some value → ¬ SameKind value y := by
  rintro value ⟨⟩
  exact different

theorem sameKind_of_gte {x y : Json} {now : Instant} (h : gte (some x) y now = true) :
    SameKind x y := by
  by_contra different
  have hfalse := (orderings_of_not_sameKind (not_sameKind_of_eq_some different) now).2.1
  rw [hfalse] at h
  cases h

theorem gte_of_gt {x y : Json} {now : Instant} (h : gt (some x) y now = true) :
    gte (some x) y now = true :=
  Bool.or_eq_true_iff.mpr (Or.inl h)

theorem SameKind.symm {x y : Json} (same : SameKind x y) : SameKind y x := by
  unfold SameKind at same
  split at same
  · trivial
  · trivial
  · trivial
  · cases same

theorem gt_eq_lt_swap {x y : Json} (hx : x.Canonical) (hy : y.Canonical) (now : Instant) :
    gt (some x) y now = lt (some y) x now := by
  by_cases same : SameKind x y
  · obtain ⟨kind, a, b, hxa, hyb⟩ := exists_placed_of_sameKind hx hy same
    rw [Bool.eq_iff_iff, gt_iff_of_placed hxa hyb, lt_iff_of_placed hyb hxa]
  · have hxy := orderings_of_not_sameKind (not_sameKind_of_eq_some same) now
    have hyx := orderings_of_not_sameKind (not_sameKind_of_eq_some (mt SameKind.symm same)) now
    rw [hxy.1, hyx.2.2.1]

theorem exists_places {x y z : Json} (hx : x.Canonical) (hy : y.Canonical) (hz : z.Canonical)
    (hxy : SameKind x y) (hyz : SameKind y z) :
    ∃ kind a b c, Placed kind x a ∧ Placed kind y b ∧ Placed kind z c := by
  obtain ⟨kind, a, b, hxa, hyb⟩ := exists_placed_of_sameKind hx hy hxy
  obtain ⟨kind', b', c, hyb', hzc⟩ := exists_placed_of_sameKind hy hz hyz
  have hkind : kind = kind' := by
    cases hyb <;> cases hyb' <;> rfl
  subst hkind
  exact ⟨kind, a, b, c, hxa, hyb, hzc⟩

theorem list_lt_iff {s t : List Char} : s < t ↔ s.map Char.toNat < t.map Char.toNat := by
  induction s generalizing t with
  | nil =>
      cases t with
      | nil => exact iff_of_false (List.lt_irrefl _) (List.lt_irrefl _)
      | cons d others => exact iff_of_true (List.nil_lt_cons _ _) (List.nil_lt_cons _ _)
  | cons c rest ih =>
      cases t with
      | nil => exact iff_of_false (List.not_lt_nil _) (List.not_lt_nil _)
      | cons d others =>
          have hchar : c < d ↔ c.toNat < d.toNat := Iff.rfl
          rw [List.map_cons, List.map_cons, List.cons_lt_cons_iff, List.cons_lt_cons_iff, ih, hchar,
            Char.toNat_inj]

theorem string_lt_iff {s t : String} :
    s < t ↔ s.toList.map Char.toNat < t.toList.map Char.toNat := by
  rw [String.lt_iff]
  exact list_lt_iff

/-- Of two integers, two floats or two texts exactly one is greater, or they are equal.  The order
is that of the integers, of the floats and of the code points of texts; all other values, and a
missing one, have none. -/
theorem orderings_agree {x y z : Json} (hx : x.Canonical) (hy : y.Canonical) (hz : z.Canonical)
    (now : Instant) :
    (SameKind x y →
      [gt (some x) y now, lt (some x) y now, eq (some x) y now].count true = 1 ∧
        gte (some x) y now = (gt (some x) y now || eq (some x) y now) ∧
        lte (some x) y now = (lt (some x) y now || eq (some x) y now)) ∧
      gt (some x) y now = lt (some y) x now ∧
      (gt (some x) y now = true → gt (some y) z now = true → gt (some x) z now = true) ∧
      (gte (some x) y now = true → gte (some y) z now = true → gte (some x) z now = true) ∧
      (∀ a b : Int, gt (some (.ofInt a)) (.ofInt b) now = true ↔ b < a) ∧
      (∀ v w : Float, v.isFinite = true → w.isFinite = true →
        (gt (some (.number (.float v))) (.number (.float w)) now = true ↔ w < v)) ∧
      (∀ s t : String, gt (some (.string s)) (.string t) now = true ↔
        t.toList.map Char.toNat < s.toList.map Char.toNat) ∧
      ∀ actual operand, (∀ value, actual = some value → ¬ SameKind value operand) →
        gt actual operand now = false ∧ gte actual operand now = false ∧
          lt actual operand now = false ∧ lte actual operand now = false := by
  refine ⟨?_, gt_eq_lt_swap hx hy now, ?_, ?_, ?_, ?_, ?_, ?_⟩
  · intro same
    obtain ⟨kind, a, b, hxa, hyb⟩ := exists_placed_of_sameKind hx hy same
    exact faces_of_placed hxa hyb now
  · intro hxy hyz
    obtain ⟨kind, a, b, c, hxa, hyb, hzc⟩ :=
      exists_places hx hy hz (sameKind_of_gte (gte_of_gt hxy)) (sameKind_of_gte (gte_of_gt hyz))
    rw [gt_iff_of_placed hxa hyb] at hxy
    rw [gt_iff_of_placed hyb hzc] at hyz
    rw [gt_iff_of_placed hxa hzc]
    exact hyz.trans hxy
  · intro hxy hyz
    obtain ⟨kind, a, b, c, hxa, hyb, hzc⟩ :=
      exists_places hx hy hz (sameKind_of_gte hxy) (sameKind_of_gte hyz)
    rw [gte_iff_of_placed hxa hyb] at hxy
    rw [gte_iff_of_placed hyb hzc] at hyz
    rw [gte_iff_of_placed hxa hzc]
    exact hyz.trans hxy
  · intro a b
    exact gt_iff_of_placed (.int a) (.int b) now
  · intro v w hv hw
    exact (gt_iff_of_placed (.float v hv) (.float w hw) now).trans (ExactValue.lt_iff hw hv).symm
  · intro s t
    rw [gt_iff_of_placed (.string s) (.string t) now]
    exact string_lt_iff
  · intro actual operand different
    exact orderings_of_not_sameKind different now

theorem orderings_agree_extremes :
    (Json.ofInt Number.maxInt).Canonical ∧ (Json.ofInt (-1)).Canonical ∧
      (Json.ofInt Number.minInt).Canonical ∧
      gt (some (.ofInt Number.maxInt)) (.ofInt (-1)) ⟨0, 0⟩ = true ∧
      gt (some (.ofInt (-1))) (.ofInt Number.minInt) ⟨0, 0⟩ = true ∧
      gt (some (.ofInt Number.maxInt)) (.ofInt Number.minInt) ⟨0, 0⟩ = true ∧
      lt (some (.ofInt (-1))) (.ofInt Number.maxInt) ⟨0, 0⟩ = true ∧
      (Json.number (.float 0)).Canonical ∧ (Json.number (.float (-0))).Canonical ∧
      gte (some (.number (.float 0))) (.number (.float (-0))) ⟨0, 0⟩ = true := by
  have hmax : (Json.ofInt Number.maxInt).Canonical := ⟨by decide, by decide⟩
  have hnegative : (Json.ofInt (-1)).Canonical := ⟨by decide, by decide⟩
  have hmin : (Json.ofInt Number.minInt).Canonical := ⟨by decide, by decide⟩
  have hzero : (Json.number (.float 0)).Canonical := by
    change (0 : Float).isFinite = true
    decide
  have hnegativeZero : (Json.number (.float (-0))).Canonical := by
    change (-0 : Float).isFinite = true
    decide
  have hfirst : gt (some (.ofInt Number.maxInt)) (.ofInt (-1)) ⟨0, 0⟩ = true := by decide
  have hsecond : gt (some (.ofInt (-1))) (.ofInt Number.minInt) ⟨0, 0⟩ = true := by decide
  have hequal : eq (some (.number (.float 0))) (.number (.float (-0))) ⟨0, 0⟩ = true := by
    change ((0 : Float) == -0) = true
    decide
  obtain ⟨-, hswap, htrans, -⟩ := orderings_agree hmax hnegative hmin ⟨0, 0⟩
  have hfaces := ((orderings_agree hzero hnegativeZero hzero ⟨0, 0⟩).1 trivial).2.1
  refine ⟨hmax, hnegative, hmin, hfirst, hsecond, htrans hfirst hsecond, hswap ▸ hfirst, hzero,
    hnegativeZero, ?_⟩
  rw [hfaces, hequal, Bool.or_true]

end Operator
end Verdict
