import Verdict.Proofs.Condition.Grouping
import Verdict.Proofs.Evaluator.Gate

/-!
# More operators

A registry can be extended by pure operators under names that it does not know yet.  `RuleSet.Names`
says where in a document an operator is named: at a leaf of the condition of a rule.
-/

namespace Verdict

namespace Registry

/-- The registry with pure operators registered under their names, one after another. -/
def extended (registry : Registry) (added : List (String × Test)) : Registry :=
  added.foldl (fun registry entry => registry.register entry.1 entry.2) registry

/-- The registry knows none of the names. -/
def Lacks (registry : Registry) (added : List (String × Test)) : Prop :=
  ∀ entry ∈ added, registry.contains entry.1 = false

theorem extended_cons (registry : Registry) (entry : String × Test)
    (rest : List (String × Test)) :
    registry.extended (entry :: rest) = (registry.register entry.1 entry.2).extended rest :=
  rfl

theorem contains_eq (registry : Registry) (name : String) :
    registry.contains name = (registry.get? name).isSome :=
  rfl

theorem get?_extended_of_forall_ne {registry : Registry} {added : List (String × Test)}
    {name : String} (others : ∀ entry ∈ added, entry.1 ≠ name) :
    (registry.extended added).get? name = registry.get? name := by
  induction added generalizing registry with
  | nil => rfl
  | cons entry rest ih =>
      obtain ⟨hentry, hrest⟩ := List.forall_mem_cons.mp others
      rw [extended_cons, ih hrest, get?_register_of_ne registry entry.2 hentry.symm]

theorem contains_extended {registry : Registry} {name : String}
    (known : registry.contains name = true) (added : List (String × Test)) :
    (registry.extended added).contains name = true := by
  induction added generalizing registry with
  | nil => exact known
  | cons entry rest ih => exact ih (contains_register known entry.1 entry.2)

theorem contains_extended_iff {registry : Registry} {added : List (String × Test)}
    {name : String} :
    (registry.extended added).contains name = true ↔
      registry.contains name = true ∨ ∃ entry ∈ added, entry.1 = name := by
  constructor
  · intro hknown
    by_cases hnew : ∃ entry ∈ added, entry.1 = name
    · exact Or.inr hnew
    · have hothers : ∀ entry ∈ added, entry.1 ≠ name :=
        fun entry hentry heq => hnew ⟨entry, hentry, heq⟩
      rw [contains_eq, get?_extended_of_forall_ne hothers] at hknown
      exact Or.inl hknown
  · rintro (hknown | ⟨entry, hentry, rfl⟩)
    · exact contains_extended hknown added
    · induction added generalizing registry with
      | nil => cases hentry
      | cons first rest ih =>
          rcases List.mem_cons.mp hentry with rfl | hrest
          · refine contains_extended ?_ rest
            rw [contains_eq, get?_register_self]
            rfl
          · exact ih hrest

theorem Lacks.get?_extended {registry : Registry} {added : List (String × Test)}
    (new : registry.Lacks added) {name : String} (known : registry.contains name = true) :
    (registry.extended added).get? name = registry.get? name := by
  apply get?_extended_of_forall_ne
  rintro entry hentry rfl
  rw [new entry hentry] at known
  cases known

end Registry

/-! ## Names in documents -/

namespace Condition

/-- A leaf of the condition that a document holds names the operator. -/
inductive Names (operator : String) : Json → Prop where
  | leaf {fields : Fields Json} (only : OnlyKind fields "field")
      (found : fields.get? "op" = some (.string operator)) : Names operator (.object fields)
  | group {fields : Fields Json} {name : String} {make : List Condition → Condition}
      {items : List Json} {item : Json} (kind : (name, make) ∈ groups)
      (only : OnlyKind fields name) (found : fields.get? name = some (.array items))
      (member : item ∈ items) (inside : Names operator item) : Names operator (.object fields)

variable {registry : Registry} {added : List (String × Test)} {document : Json}

theorem WellFormed.mono {other : Registry}
    (knows : ∀ name, registry.contains name = true → other.contains name = true)
    (h : WellFormed registry document) : WellFormed other document := by
  induction h with
  | leaf only hleaf =>
      obtain ⟨name, hname, hknown, hneeded⟩ := hleaf.operator
      exact .leaf only ⟨hleaf.path, name, hname, knows name hknown, hneeded⟩
  | group kind only found children ih => exact .group kind only found ih

theorem Names.known {operator : String} (names : Names operator document)
    (h : WellFormed registry document) : registry.contains operator = true := by
  induction names with
  | leaf only found =>
      obtain ⟨condition, hdenotes⟩ := h.exists_denotes
      obtain ⟨hleaf, -⟩ := (leaf_iff only).mp ⟨h, hdenotes⟩
      obtain ⟨name, hname, hknown, -⟩ := hleaf.operator
      obtain rfl : name = operator := by simpa [hname] using found
      exact hknown
  | group kind only found member inside ih =>
      obtain ⟨condition, hdenotes⟩ := h.exists_denotes
      obtain ⟨children, ⟨items, hitems, hformed, -⟩, -⟩ :=
        (group_iff kind only).mp ⟨h, hdenotes⟩
      rw [found] at hitems
      cases hitems
      exact ih (hformed _ member)

theorem WellFormed.of_extended (h : WellFormed (registry.extended added) document)
    (old : ∀ entry ∈ added, ¬ Names entry.1 document) : WellFormed registry document := by
  induction h with
  | leaf only hleaf =>
      obtain ⟨name, hname, hknown, hneeded⟩ := hleaf.operator
      rcases Registry.contains_extended_iff.mp hknown with hbefore | ⟨entry, hentry, rfl⟩
      · exact .leaf only ⟨hleaf.path, name, hname, hbefore, hneeded⟩
      · exact absurd (.leaf only hname) (old entry hentry)
  | group kind only found children ih =>
      refine .group kind only found fun item hitem => ih item hitem ?_
      intro entry hentry names
      exact old entry hentry (.group kind only found hitem names)

/-- Among the documents that are well-formed under an extension, those that name none of the new
operators have been well-formed before. -/
theorem wellFormed_iff_extended (new : registry.Lacks added) :
    WellFormed registry document ↔
      WellFormed (registry.extended added) document ∧
        ∀ entry ∈ added, ¬ Names entry.1 document := by
  constructor
  · intro h
    refine ⟨h.mono fun name known => Registry.contains_extended known added, ?_⟩
    intro entry hentry names
    have hknown := names.known h
    rw [new entry hentry] at hknown
    cases hknown
  · rintro ⟨h, old⟩
    exact h.of_extended old

end Condition

def Rule.Names (operator : String) (item : Json) : Prop :=
  ∃ condition, item.field? "if" = some condition ∧ Condition.Names operator condition

theorem Rule.wellFormed_iff_extended {registry : Registry} {added : List (String × Test)}
    {item : Json} (new : registry.Lacks added) :
    WellFormed registry item ↔
      WellFormed (registry.extended added) item ∧ ∀ entry ∈ added, ¬ Names entry.1 item := by
  constructor
  · intro h
    obtain ⟨document, hif, hformed⟩ := h.condition
    obtain ⟨hextended, hold⟩ := (Condition.wellFormed_iff_extended new).mp hformed
    refine ⟨{ h with condition := ⟨document, hif, hextended⟩ }, ?_⟩
    rintro entry hentry ⟨condition, hcondition, names⟩
    rw [hif] at hcondition
    cases hcondition
    exact hold entry hentry names
  · rintro ⟨h, old⟩
    obtain ⟨document, hif, hformed⟩ := h.condition
    refine { h with condition := ⟨document, hif, ?_⟩ }
    refine (Condition.wellFormed_iff_extended new).mpr ⟨hformed, ?_⟩
    intro entry hentry names
    exact old entry hentry ⟨document, hif, names⟩

/-- A rule of the document names the operator. -/
def RuleSet.Names (operator : String) (document : Json) : Prop :=
  ∃ items, document.field? "rules" = some (.array items) ∧ ∃ item ∈ items, Rule.Names operator item

theorem RuleSet.wellFormed_iff_extended {registry : Registry} {added : List (String × Test)}
    {document : Json} (new : registry.Lacks added) :
    WellFormed registry document ↔
      WellFormed (registry.extended added) document ∧
        ∀ entry ∈ added, ¬ Names entry.1 document := by
  constructor
  · intro h
    obtain ⟨items, hitems, heach, hdistinct⟩ := h.rules
    have hboth := fun item hitem => (Rule.wellFormed_iff_extended new).mp (heach item hitem)
    refine ⟨{ h with rules := ⟨items, hitems, fun item hitem => (hboth item hitem).1, hdistinct⟩ },
      ?_⟩
    rintro entry hentry ⟨others, hothers, item, hitem, names⟩
    rw [hitems] at hothers
    cases hothers
    exact (hboth item hitem).2 entry hentry names
  · rintro ⟨h, old⟩
    obtain ⟨items, hitems, heach, hdistinct⟩ := h.rules
    refine { h with rules := ⟨items, hitems, fun item hitem => ?_, hdistinct⟩ }
    refine (Rule.wellFormed_iff_extended new).mpr ⟨heach item hitem, ?_⟩
    intro entry hentry names
    exact old entry hentry ⟨items, hitems, item, hitem, names⟩

/-! ## Evaluation -/

/-- Evaluation asks a registry for the operators of the leaves and for nothing else. -/
theorem Interpreter.evaluateTraced_of_same_operators (interpreter : Interpreter)
    {registry : Registry} {condition : Condition}
    (same : ∀ leaf ∈ condition.leaves,
      registry.get? leaf.operator = interpreter.registry.get? leaf.operator) :
    evaluateTraced { interpreter with registry := registry } condition =
      interpreter.evaluateTraced condition := by
  induction condition using Condition.induction_on_groups with
  | leaf leaf =>
      have hleaf : evaluateLeaf { interpreter with registry := registry } leaf =
          interpreter.evaluateLeaf leaf := by
        funext scope
        rw [evaluateLeaf, evaluateLeaf, same leaf List.mem_cons_self]
        rfl
      funext scope traces
      rw [evaluateTraced, evaluateTraced, hleaf]
  | @group name make children kind ih =>
      obtain ⟨goOn, hgroup⟩ := exists_inTurn kind
      rw [hgroup, hgroup]
      congr 1
      apply List.map_congr_left
      intro child hchild
      apply ih child hchild
      intro leaf hleaf
      exact same leaf ((Condition.mem_leaves_make kind).mpr ⟨child, hchild, hleaf⟩)

/-- Registering operators under new names is a conservative extension: a document that has passed
the check passes it as the same rule set, and each of its rules is evaluated as before.  A document
that passes only since then names one of the new operators. -/
theorem RuleSet.check_under_extension
    (registry : Registry) (added : List (String × Test)) (document : Json)
    (new : registry.Lacks added) :
    (∀ ruleSet, check registry document = .sound ruleSet →
        check (registry.extended added) document = .sound ruleSet ∧
          ∀ rule ∈ ruleSet.rules, ∀ collaborator now scope traces,
            Interpreter.evaluate ⟨registry.extended added, collaborator, now⟩ rule.condition scope =
                Interpreter.evaluate ⟨registry, collaborator, now⟩ rule.condition scope ∧
              Interpreter.evaluateTraced ⟨registry.extended added, collaborator, now⟩
                  rule.condition scope traces =
                Interpreter.evaluateTraced ⟨registry, collaborator, now⟩
                  rule.condition scope traces) ∧
      ∀ ruleSet, check (registry.extended added) document = .sound ruleSet →
        ((¬ ∃ other, check registry document = .sound other) ↔
          ∃ entry ∈ added, Names entry.1 document) := by
  constructor
  · intro ruleSet checked
    obtain ⟨hformed, hdenotes⟩ := check_eq_sound_iff.mp checked
    obtain ⟨hextended, -⟩ := (wellFormed_iff_extended new).mp hformed
    refine ⟨check_eq_sound_iff.mpr ⟨hextended, hdenotes⟩, ?_⟩
    intro rule hrule collaborator now scope traces
    have hsame : ∀ leaf ∈ rule.condition.leaves,
        (registry.extended added).get? leaf.operator = registry.get? leaf.operator :=
      fun leaf hleaf => new.get?_extended (known_of_check checked hrule hleaf)
    have hrun := Interpreter.evaluateTraced_of_same_operators ⟨registry, collaborator, now⟩ hsame
    exact ⟨Interpreter.evaluate_congr hrun scope, congrFun (congrFun hrun scope) traces⟩
  · intro ruleSet checked
    obtain ⟨hextended, hdenotes⟩ := check_eq_sound_iff.mp checked
    constructor
    · intro refused
      by_contra old
      refine refused ⟨ruleSet, check_eq_sound_iff.mpr ⟨?_, hdenotes⟩⟩
      refine (wellFormed_iff_extended new).mpr ⟨hextended, ?_⟩
      intro entry hentry names
      exact old ⟨entry, hentry, names⟩
    · rintro ⟨entry, hentry, names⟩ ⟨other, hother⟩
      obtain ⟨hformed, -⟩ := check_eq_sound_iff.mp hother
      exact ((wellFormed_iff_extended new).mp hformed).2 entry hentry names

def seatOperators : List (String × Test) :=
  [("even", fun actual _ _ => (actual.bind Json.int?).any fun seats => seats % 2 = 0),
    ("free", fun actual _ _ => actual.isNone)]

def seatDocument : Json :=
  .object [("rules", .array [
      .object [("id", .string "pairs"),
        ("if", .object [("all", .array [
          .object [("field", .string "party.seats"), ("op", .string "present")],
          .object [("field", .string "party.seats"), ("op", .string "even"),
            ("value", .null)]])]),
        ("then", .object [("decision", .string "accept")])]]),
    ("version", .ofInt 1)]

theorem RuleSet.check_under_extension_seatDocument :
    Registry.builtin.Lacks seatOperators ∧
      (∃ ruleSet, check .builtin sampleDocument = .sound ruleSet ∧
        check (Registry.builtin.extended seatOperators) sampleDocument = .sound ruleSet ∧
        ∀ rule ∈ ruleSet.rules, ∀ scope,
          Interpreter.evaluate ⟨Registry.builtin.extended seatOperators, none, ⟨0, 0⟩⟩
              rule.condition scope =
            Interpreter.evaluate ⟨.builtin, none, ⟨0, 0⟩⟩ rule.condition scope) ∧
      (∃ ruleSet, check (Registry.builtin.extended seatOperators) seatDocument = .sound ruleSet) ∧
      ∃ entry ∈ seatOperators, Names entry.1 seatDocument := by
  have new : Registry.builtin.Lacks seatOperators :=
    List.forall_mem_cons.mpr ⟨rfl, List.forall_mem_singleton.mpr rfl⟩
  obtain ⟨hkept, -⟩ := check_under_extension .builtin seatOperators sampleDocument new
  obtain ⟨-, hnew⟩ := check_under_extension .builtin seatOperators seatDocument new
  have refused : ¬ ∃ other, check .builtin seatDocument = .sound other := by
    have hfaulty : check .builtin seatDocument = .faulty _ := rfl
    rintro ⟨other, hother⟩
    rw [hfaulty] at hother
    cases hother
  obtain ⟨hsame, hrules⟩ := hkept _ rfl
  refine ⟨new, ⟨_, rfl, hsame, ?_⟩, ⟨_, rfl⟩, (hnew _ rfl).mp refused⟩
  intro rule hrule scope
  exact (hrules rule hrule none ⟨0, 0⟩ scope []).1

end Verdict
