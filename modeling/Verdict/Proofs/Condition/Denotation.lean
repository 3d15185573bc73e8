import Verdict.Proofs.Condition.Replay
import Verdict.Proofs.Condition.Writing
import Mathlib.Logic.Relation

/-!
# The meaning of conditions without fetches

`Condition.Satisfied` says what a condition claims about a context, in no particular order.  If no
leaf stands for a fetch, evaluation comes to just this (`Interpreter.evaluate_of_fetchFree`),
whatever it skips, and rearranging groups at any depth does not change it.
-/

namespace Verdict

namespace Condition

/-- No leaf stands for a fetch. -/
def FetchFree (registry : Registry) (condition : Condition) : Prop :=
  ∀ leaf ∈ condition.leaves, registry.get? leaf.operator ≠ some .enrichment

/-- A context has what a condition asks for.  A leaf with a name that the registry does not know is
never satisfied. -/
def Satisfied (registry : Registry) (now : Instant) (context : Context) : Condition → Prop
  | all children => ∀ child, child ∈ children → Satisfied registry now context child
  | any children => ∃ child, ∃ _ : child ∈ children, Satisfied registry now context child
  | field leaf => ∃ test, registry.get? leaf.operator = some (.pure test) ∧
      test (context.get? leaf.path) leaf.operand now = true

/-! ## Rearranged groups -/

inductive Within (rule : Condition → Condition → Prop) : Condition → Condition → Prop where
  | here {a b : Condition} (change : rule a b) : Within rule a b
  | inside {name : String} {make : List Condition → Condition} (kind : (name, make) ∈ groups)
      (before after : List Condition) {a b : Condition} (change : Within rule a b) :
      Within rule (make (before ++ a :: after)) (make (before ++ b :: after))

/-- The children of a group are permuted, or one of them is repeated. -/
inductive Rearrangement : Condition → Condition → Prop where
  | permute {name : String} {make : List Condition → Condition} (kind : (name, make) ∈ groups)
      {children others : List Condition} (order : children.Perm others) :
      Rearrangement (make children) (make others)
  | duplicate {name : String} {make : List Condition → Condition} (kind : (name, make) ∈ groups)
      (child : Condition) (rest : List Condition) :
      Rearrangement (make (child :: rest)) (make (child :: child :: rest))

/-- Conditions that become the same by rearranging groups at any depth, any number of times and in
either direction. -/
def Rearranged : Condition → Condition → Prop :=
  Relation.EqvGen (Within Rearrangement)

structure Alike (a b : Condition) : Prop where
  leaves : ∀ leaf, leaf ∈ a.leaves ↔ leaf ∈ b.leaves
  meaning : ∀ registry now context,
    a.Satisfied registry now context ↔ b.Satisfied registry now context

namespace Alike

theorem refl (a : Condition) : Alike a a :=
  ⟨fun _ => .rfl, fun _ _ _ => .rfl⟩

theorem symm {a b : Condition} (h : Alike a b) : Alike b a :=
  ⟨fun leaf => (h.leaves leaf).symm, fun registry now context =>
    (h.meaning registry now context).symm⟩

theorem trans {a b c : Condition} (h : Alike a b) (h' : Alike b c) : Alike a c :=
  ⟨fun leaf => (h.leaves leaf).trans (h'.leaves leaf), fun registry now context =>
    (h.meaning registry now context).trans (h'.meaning registry now context)⟩

theorem make {name : String} {make : List Condition → Condition} (kind : (name, make) ∈ groups)
    {children others : List Condition}
    (forth : ∀ child ∈ children, ∃ other ∈ others, Alike child other)
    (back : ∀ other ∈ others, ∃ child ∈ children, Alike child other) :
    Alike (make children) (make others) := by
  constructor
  · intro leaf
    rw [mem_leaves_make kind, mem_leaves_make kind]
    constructor
    · rintro ⟨child, hchild, hleaf⟩
      obtain ⟨other, hother, halike⟩ := forth child hchild
      exact ⟨other, hother, (halike.leaves leaf).mp hleaf⟩
    · rintro ⟨other, hother, hleaf⟩
      obtain ⟨child, hchild, halike⟩ := back other hother
      exact ⟨child, hchild, (halike.leaves leaf).mpr hleaf⟩
  · intro registry now context
    rcases eq_of_mem_groups kind with ⟨-, rfl⟩ | ⟨-, rfl⟩
    · rw [Satisfied, Satisfied]
      constructor
      · intro h other hother
        obtain ⟨child, hchild, halike⟩ := back other hother
        exact (halike.meaning registry now context).mp (h child hchild)
      · intro h child hchild
        obtain ⟨other, hother, halike⟩ := forth child hchild
        exact (halike.meaning registry now context).mpr (h other hother)
    · rw [Satisfied, Satisfied]
      constructor
      · rintro ⟨child, hchild, h⟩
        obtain ⟨other, hother, halike⟩ := forth child hchild
        exact ⟨other, hother, (halike.meaning registry now context).mp h⟩
      · rintro ⟨other, hother, h⟩
        obtain ⟨child, hchild, halike⟩ := back other hother
        exact ⟨child, hchild, (halike.meaning registry now context).mpr h⟩

theorem of_rearrangement {a b : Condition} (h : Rearrangement a b) : Alike a b := by
  cases h with
  | permute kind order =>
      apply make kind
      · intro child hchild
        exact ⟨child, order.mem_iff.mp hchild, refl child⟩
      · intro other hother
        exact ⟨other, order.mem_iff.mpr hother, refl other⟩
  | duplicate kind child rest =>
      apply make kind
      · intro other hother
        exact ⟨other, List.mem_cons_of_mem child hother, refl other⟩
      · intro other hother
        have hmem : other ∈ child :: rest := by
          rcases List.mem_cons.mp hother with rfl | hrest
          · exact List.mem_cons_self
          · exact hrest
        exact ⟨other, hmem, refl other⟩

theorem of_within {a b : Condition} (h : Within Rearrangement a b) : Alike a b := by
  induction h with
  | here change => exact of_rearrangement change
  | @inside name group kind before after a b _ ih =>
      have hsame {x y other : Condition} (hother : other ∈ before ++ x :: after) :
          other = x ∨ other ∈ before ++ y :: after := by
        rcases List.mem_append.mp hother with hbefore | hrest
        · exact Or.inr (List.mem_append_left _ hbefore)
        · rcases List.mem_cons.mp hrest with rfl | hafter
          · exact Or.inl rfl
          · exact Or.inr (List.mem_append_right _ (List.mem_cons_of_mem _ hafter))
      apply make kind
      · intro child hchild
        rcases hsame hchild with rfl | hother
        · exact ⟨b, List.mem_append_right _ List.mem_cons_self, ih⟩
        · exact ⟨child, hother, refl child⟩
      · intro other hother
        rcases hsame hother with rfl | hchild
        · exact ⟨a, List.mem_append_right _ List.mem_cons_self, ih⟩
        · exact ⟨other, hchild, refl other⟩

theorem of_rearranged {a b : Condition} (h : Rearranged a b) : Alike a b := by
  induction h with
  | rel a b change => exact of_within change
  | refl a => exact refl a
  | symm a b _ ih => exact ih.symm
  | trans a b c _ _ first second => exact first.trans second

end Alike

theorem FetchFree.of_alike {registry : Registry} {a b : Condition} (h : a.FetchFree registry)
    (halike : Alike a b) : b.FetchFree registry :=
  fun leaf hleaf => h leaf ((halike.leaves leaf).mpr hleaf)

theorem FetchFree.child {registry : Registry} {name : String}
    {make : List Condition → Condition} {children : List Condition}
    (h : (make children).FetchFree registry) (kind : (name, make) ∈ groups)
    {child : Condition} (hchild : child ∈ children) : child.FetchFree registry :=
  fun leaf hleaf => h leaf ((mem_leaves_make kind).mpr ⟨child, hchild, hleaf⟩)

end Condition

/-! ## Evaluation -/

namespace Interpreter

theorem evaluateAll_of_still {interpreter : Interpreter} {scope : Scope}
    {children : List Condition}
    (still : ∀ child ∈ children, (interpreter.evaluate child scope).2 = scope) :
    interpreter.evaluateAll children scope =
      (children.all fun child => (interpreter.evaluate child scope).1, scope) := by
  induction children with
  | nil => rfl
  | cons child rest ih =>
      obtain ⟨hchild, hrest⟩ := List.forall_mem_cons.mp still
      rw [evaluateAll, List.all_cons]
      rcases hresult : interpreter.evaluate child scope with ⟨_ | _, after⟩
      · rw [hresult] at hchild
        obtain rfl : after = scope := hchild
        rfl
      · rw [hresult] at hchild
        obtain rfl : after = scope := hchild
        exact ih hrest

theorem evaluateAny_of_still {interpreter : Interpreter} {scope : Scope}
    {children : List Condition}
    (still : ∀ child ∈ children, (interpreter.evaluate child scope).2 = scope) :
    interpreter.evaluateAny children scope =
      (children.any fun child => (interpreter.evaluate child scope).1, scope) := by
  induction children with
  | nil => rfl
  | cons child rest ih =>
      obtain ⟨hchild, hrest⟩ := List.forall_mem_cons.mp still
      rw [evaluateAny, List.any_cons]
      rcases hresult : interpreter.evaluate child scope with ⟨_ | _, after⟩
      · rw [hresult] at hchild
        obtain rfl : after = scope := hchild
        exact ih hrest
      · rw [hresult] at hchild
        obtain rfl : after = scope := hchild
        rfl

theorem evaluateLeaf_of_not_enrichment {interpreter : Interpreter} {leaf : FieldCondition}
    (h : interpreter.registry.get? leaf.operator ≠ some .enrichment) (scope : Scope) :
    (interpreter.evaluateLeaf leaf scope).2 = scope ∧
      ((interpreter.evaluateLeaf leaf scope).1 = true ↔
        (Condition.field leaf).Satisfied interpreter.registry interpreter.now scope.context) := by
  have hscope : interpreter.scopeAfter ⟨leaf, scope⟩ = scope :=
    scopeAfter_eq_of_not_enrichment h
  refine ⟨hscope, ?_⟩
  rw [Condition.Satisfied, evaluateLeaf]
  cases hoperator : interpreter.registry.get? leaf.operator with
  | none => simp
  | some operator =>
      cases operator with
      | pure test => simp
      | enrichment => exact absurd hoperator h

/-- Without fetches, evaluation leaves the scope alone and is true exactly if the context satisfies
the condition. -/
theorem evaluate_of_fetchFree (interpreter : Interpreter) (scope : Scope)
    (condition : Condition) (free : condition.FetchFree interpreter.registry) :
    (interpreter.evaluate condition scope).2 = scope ∧
      ((interpreter.evaluate condition scope).1 = true ↔
        condition.Satisfied interpreter.registry interpreter.now scope.context) := by
  induction condition using Condition.induction_on_groups with
  | leaf leaf => exact evaluateLeaf_of_not_enrichment (free leaf List.mem_cons_self) scope
  | @group name make children kind ih =>
      have hstill : ∀ child ∈ children, (interpreter.evaluate child scope).2 = scope :=
        fun child hchild => (ih child hchild (free.child kind hchild)).1
      have hmeaning : ∀ child ∈ children, ((interpreter.evaluate child scope).1 = true ↔
          child.Satisfied interpreter.registry interpreter.now scope.context) :=
        fun child hchild => (ih child hchild (free.child kind hchild)).2
      rcases Condition.eq_of_mem_groups kind with ⟨-, rfl⟩ | ⟨-, rfl⟩
      · rw [evaluate, evaluateAll_of_still hstill, Condition.Satisfied, List.all_eq_true]
        exact ⟨rfl, forall₂_congr hmeaning⟩
      · rw [evaluate, evaluateAny_of_still hstill, Condition.Satisfied, List.any_eq_true]
        refine ⟨rfl, ?_⟩
        constructor
        · rintro ⟨child, hchild, h⟩
          exact ⟨child, hchild, (hmeaning child hchild).mp h⟩
        · rintro ⟨child, hchild, h⟩
          exact ⟨child, hchild, (hmeaning child hchild).mpr h⟩

/-- A condition without fetches is evaluated to what it says about the context, where a group stands
for all or for some of its children in that same context.  Permuting or repeating the children of
its groups, however deep, makes no difference. -/
theorem evaluate_order_free
    (interpreter : Interpreter) (condition : Condition) (scope : Scope)
    (free : condition.FetchFree interpreter.registry) :
    ((interpreter.evaluate condition scope).1 = true ↔
        condition.Satisfied interpreter.registry interpreter.now scope.context) ∧
      (interpreter.evaluate condition scope).2 = scope ∧
      ∀ other : Condition, condition.Rearranged other →
        interpreter.evaluate other scope = interpreter.evaluate condition scope := by
  obtain ⟨hscope, hmeaning⟩ := interpreter.evaluate_of_fetchFree scope condition free
  refine ⟨hmeaning, hscope, ?_⟩
  intro other hother
  have halike := Condition.Alike.of_rearranged hother
  obtain ⟨hscope', hmeaning'⟩ :=
    interpreter.evaluate_of_fetchFree scope other (free.of_alike halike)
  apply Prod.ext
  · rw [Bool.eq_iff_iff, hmeaning, hmeaning']
    exact (halike.meaning _ _ _).symm
  · rw [hscope, hscope']

def sampleCondition : Condition :=
  .any [.field ⟨"age", "at_least", .ofInt 18⟩,
    .all [.field ⟨"name", "present", .null⟩, .field ⟨"age", "eq", .ofInt 17⟩]]

def sampleRearranged : Condition :=
  .any [.all [.field ⟨"age", "eq", .ofInt 17⟩, .field ⟨"age", "eq", .ofInt 17⟩,
      .field ⟨"name", "present", .null⟩],
    .field ⟨"age", "at_least", .ofInt 18⟩]

theorem sample_rearranged : sampleCondition.Rearranged sampleRearranged := by
  have hall : ("all", Condition.all) ∈ Condition.groups := .head _
  have hany : ("any", Condition.any) ∈ Condition.groups := .tail _ (.head _)
  have hturned := Condition.Within.here (Condition.Rearrangement.permute hany (.swap
    (.all [.field ⟨"name", "present", .null⟩, .field ⟨"age", "eq", .ofInt 17⟩])
    (.field ⟨"age", "at_least", .ofInt 18⟩) []))
  have hswapped := Condition.Within.inside hany [] [.field ⟨"age", "at_least", .ofInt 18⟩]
    (.here (Condition.Rearrangement.permute hall (.swap (.field ⟨"age", "eq", .ofInt 17⟩)
      (.field ⟨"name", "present", .null⟩) [])))
  have hrepeated := Condition.Within.inside hany [] [.field ⟨"age", "at_least", .ofInt 18⟩]
    (.here (Condition.Rearrangement.duplicate hall (.field ⟨"age", "eq", .ofInt 17⟩)
      [.field ⟨"name", "present", .null⟩]))
  exact .trans _ _ _ (.rel _ _ hturned) (.trans _ _ _ (.rel _ _ hswapped) (.rel _ _ hrepeated))

theorem evaluate_order_free_sample :
    sampleCondition.FetchFree .builtin ∧ sampleCondition.Rearranged sampleRearranged ∧
      Interpreter.evaluate ⟨.builtin, none, ⟨0, 0⟩⟩ sampleRearranged
          ⟨.ofPairs [("age", .ofInt 17), ("name", .string "Ada")], []⟩ =
        (true, ⟨.ofPairs [("age", .ofInt 17), ("name", .string "Ada")], []⟩) := by
  have free : sampleCondition.FetchFree .builtin :=
    List.forall_mem_cons.mpr ⟨nofun, List.forall_mem_cons.mpr ⟨nofun, List.forall_mem_cons.mpr
      ⟨nofun, List.forall_mem_nil _⟩⟩⟩
  have horder := evaluate_order_free ⟨.builtin, none, ⟨0, 0⟩⟩ sampleCondition
    ⟨.ofPairs [("age", .ofInt 17), ("name", .string "Ada")], []⟩ free
  exact ⟨free, sample_rearranged, (horder.2.2 _ sample_rearranged).trans rfl⟩

end Interpreter
end Verdict
