import Verdict.Proofs.Condition.Grammar
import Verdict.Proofs.Decimal.UnitInterval
import Verdict.Proofs.Rule.Explained

/-!
# The grammar of rule sets

`RuleSet.WellFormed` says which documents are rule sets and `RuleSet.Denotes` which rules such a
document stands for.  `Validated.admissible` is what evaluation relies on.
-/

namespace Verdict

namespace Rule

/-! ## Grammar -/

/-- A weight is missing, `null` or a number from zero to one. -/
def WellFormedWeight (value : Option Json) : Prop :=
  value = none ∨ value = some .null ∨ ∃ number, value = some (.number number) ∧ number.InUnit

def WellFormedReason (value : Option Json) : Prop :=
  value = none ∨ value = some .null ∨ ∃ text, value = some (.string text)

structure WellFormedConsequence (fields : Fields Json) : Prop where
  decision : ∃ text, fields.get? "decision" = some (.string text) ∧ text ≠ ""
  weight : WellFormedWeight (fields.get? "weight")
  reason : WellFormedReason (fields.get? "reason")

/-- An item of the list of rules that is a rule when it is looked at alone. -/
structure WellFormed (registry : Registry) (item : Json) : Prop where
  id : ∃ text, item.field? "id" = some (.string text) ∧ text ≠ ""
  condition : ∃ document, item.field? "if" = some document ∧
    Condition.WellFormed registry document
  consequence : ∃ fields, item.field? "then" = some (.object fields) ∧
    WellFormedConsequence fields

/-- The rule that an item stands for.  A weight that is missing is one. -/
structure Denotes (item : Json) (rule : Rule) : Prop where
  id : item.field? "id" = some (.string rule.id)
  condition : ∃ document, item.field? "if" = some document ∧
    Condition.Denotes document rule.condition
  consequence : ∃ fields, item.field? "then" = some (.object fields) ∧
    Fields.get? fields "decision" = some (.string rule.decision) ∧
    rule.weight = ((Fields.get? fields "weight").bind Json.float?).getD 1 ∧
    rule.reason = (Fields.get? fields "reason").bind Json.string?

end Rule

namespace RuleSet

/-- A version is a number or a text with a character that is not white space. -/
def WellFormedVersion (value : Option Json) : Prop :=
  (∃ number, value = some (.number number)) ∨
    ∃ text, value = some (.string text) ∧ ∃ c ∈ text.toList, Text.isBlank c = false

/-- No item has the id of an earlier one. -/
def DistinctIds (items : List Json) : Prop :=
  items.Pairwise fun earlier later => earlier.field? "id" ≠ later.field? "id"

/-- The documents that are rule sets. -/
structure WellFormed (registry : Registry) (document : Json) : Prop where
  version : WellFormedVersion (document.field? "version")
  rules : ∃ items, document.field? "rules" = some (.array items) ∧
    (∀ item ∈ items, Rule.WellFormed registry item) ∧ DistinctIds items

/-- The rule set that a document stands for, with one rule for each item, in order. -/
structure Denotes (document : Json) (ruleSet : RuleSet) : Prop where
  version : document.field? "version" = some (.string ruleSet.version) ∨
    ∃ number, document.field? "version" = some (.number number) ∧ ruleSet.version = number.text
  rules : ∃ items, document.field? "rules" = some (.array items) ∧
    List.Forall₂ Rule.Denotes items ruleSet.rules

end RuleSet

/-! ## Parts of a rule -/

theorem checkName_eq_sound_iff {location : Location} {value : Option Json} {name : String} :
    checkName location value = .sound name ↔ value = some (.string name) ∧ name ≠ "" := by
  constructor
  · intro h
    unfold checkName at h
    split at h
    · cases h
    · cases h
    · obtain ⟨hnonempty, rfl⟩ := Checked.forbidden_eq_sound_iff.mp h
      exact ⟨rfl, by simpa using hnonempty⟩
    · cases h
  · rintro ⟨rfl, hne⟩
    exact if_neg (by simpa using hne)

namespace Rule

theorem checkReason_eq_sound_iff {location : Location} {value : Option Json}
    {reason : Option String} :
    checkNote location value = .sound reason ↔
      WellFormedReason value ∧ reason = value.bind Json.string? := by
  constructor
  · intro h
    unfold checkNote at h
    split at h
    · cases h
      exact ⟨Or.inl rfl, rfl⟩
    · cases h
      exact ⟨Or.inr (Or.inl rfl), rfl⟩
    · cases h
      exact ⟨Or.inr (Or.inr ⟨_, rfl⟩), rfl⟩
    · cases h
  · rintro ⟨rfl | rfl | ⟨text, rfl⟩, rfl⟩
    · rfl
    · rfl
    · rfl

theorem checkWeight_eq_sound_iff {location : Location} {value : Option Json} {weight : Float} :
    checkWeight location value = .sound weight ↔
      WellFormedWeight value ∧ weight = (value.bind Json.float?).getD 1 := by
  constructor
  · intro h
    unfold checkWeight at h
    split at h
    · cases h
      exact ⟨Or.inl rfl, rfl⟩
    · cases h
      exact ⟨Or.inr (Or.inl rfl), rfl⟩
    · next number =>
      obtain ⟨hunit, rfl⟩ := Checked.required_eq_sound_iff.mp h
      rw [Bool.and_eq_true, decide_eq_true_iff, decide_eq_true_iff] at hunit
      exact ⟨Or.inr (Or.inr ⟨number, rfl, number.toFloat_unit_iff.mp hunit⟩), rfl⟩
    · cases h
  · rintro ⟨rfl | rfl | ⟨number, rfl, hunit⟩, rfl⟩
    · rfl
    · rfl
    · apply if_pos
      rw [Bool.and_eq_true, decide_eq_true_iff, decide_eq_true_iff]
      exact number.toFloat_unit_iff.mpr hunit

theorem checkConsequence_eq_sound_iff {location : Location} {value : Option Json}
    {decision : String} {weight : Float} {reason : Option String} :
    checkConsequence location value = .sound (decision, weight, reason) ↔
      ∃ fields, value = some (.object fields) ∧ WellFormedConsequence fields ∧
        Fields.get? fields "decision" = some (.string decision) ∧
        weight = ((Fields.get? fields "weight").bind Json.float?).getD 1 ∧
        reason = (Fields.get? fields "reason").bind Json.string? := by
  constructor
  · intro h
    unfold checkConsequence at h
    split at h
    · cases h
    · cases h
    · next fields =>
      obtain ⟨hdecision, hrest⟩ := Checked.both_eq_sound_iff.mp h
      obtain ⟨hweight, hreason⟩ := Checked.both_eq_sound_iff.mp hrest
      obtain ⟨hdecision, hne⟩ := checkName_eq_sound_iff.mp hdecision
      obtain ⟨hweight, hvalue⟩ := checkWeight_eq_sound_iff.mp hweight
      obtain ⟨hreason, htext⟩ := checkReason_eq_sound_iff.mp hreason
      exact ⟨fields, rfl, ⟨⟨decision, hdecision, hne⟩, hweight, hreason⟩, hdecision, hvalue,
        htext⟩
    · cases h
  · rintro ⟨fields, rfl, ⟨⟨text, htext, hne⟩, hweight, hreason⟩, hdecision, hvalue, hnote⟩
    obtain rfl : text = decision := by simpa [htext] using hdecision
    apply Checked.both_eq_sound_iff.mpr
    refine ⟨checkName_eq_sound_iff.mpr ⟨hdecision, hne⟩, Checked.both_eq_sound_iff.mpr ⟨?_, ?_⟩⟩
    · exact checkWeight_eq_sound_iff.mpr ⟨hweight, hvalue⟩
    · exact checkReason_eq_sound_iff.mpr ⟨hreason, hnote⟩

theorem checkCondition_eq_sound_iff {registry : Registry} {location : Location}
    {value : Option Json} {condition : Condition} :
    checkCondition registry location value = .sound condition ↔
      ∃ document, value = some document ∧ Condition.WellFormed registry document ∧
        Condition.Denotes document condition := by
  constructor
  · intro h
    unfold checkCondition at h
    split at h
    · cases h
    · cases h
    · next document _ =>
      exact ⟨document, rfl, (Condition.checkAt_eq_sound_iff registry document _ _).mp h⟩
  · rintro ⟨document, rfl, h⟩
    have hcheck := (Condition.checkAt_eq_sound_iff registry document location condition).mpr h
    cases document with
    | null => cases hcheck
    | _ => exact hcheck

theorem checkId_eq_sound_iff {location : Location} {earlier : List String}
    {value : Option Json} {id : String} :
    checkId location earlier value = .sound id ↔
      value = some (.string id) ∧ id ≠ "" ∧ id ∉ earlier := by
  constructor
  · intro h
    unfold checkId at h
    split at h
    · next hname =>
      obtain ⟨hnew, rfl⟩ := Checked.forbidden_eq_sound_iff.mp h
      obtain ⟨hvalue, hne⟩ := checkName_eq_sound_iff.mp hname
      exact ⟨hvalue, hne, by simpa using hnew⟩
    · next hnot => exact absurd h (hnot _)
  · rintro ⟨hvalue, hne, hnew⟩
    have hname : checkName location value = .sound id :=
      checkName_eq_sound_iff.mpr ⟨hvalue, hne⟩
    simp only [checkId, hname]
    exact if_neg (by simpa using hnew)

/-- An item passes the check as a rule exactly when it is well-formed, stands for the rule and has
an id that no earlier item claims. -/
theorem checkAt_eq_sound_iff {registry : Registry} {location : Location}
    {earlier : List String} {item : Json} {rule : Rule} :
    checkAt registry location earlier item = .sound rule ↔
      WellFormed registry item ∧ Denotes item rule ∧ rule.id ∉ earlier := by
  constructor
  · intro h
    unfold checkAt at h
    split at h
    · next fields =>
      obtain ⟨⟨id, condition, decision, weight, reason⟩, hparts, rfl⟩ :=
        Checked.map_eq_sound_iff.mp h
      obtain ⟨hid, hrest⟩ := Checked.both_eq_sound_iff.mp hparts
      obtain ⟨hcondition, hconsequence⟩ := Checked.both_eq_sound_iff.mp hrest
      obtain ⟨hid, hne, hnew⟩ := checkId_eq_sound_iff.mp hid
      obtain ⟨document, hif, hformed, hdenotes⟩ := checkCondition_eq_sound_iff.mp hcondition
      obtain ⟨proposal, hthen, hproposal, hvalues⟩ :=
        checkConsequence_eq_sound_iff.mp hconsequence
      exact ⟨⟨⟨id, hid, hne⟩, ⟨document, hif, hformed⟩, ⟨proposal, hthen, hproposal⟩⟩,
        ⟨hid, ⟨document, hif, hdenotes⟩, ⟨proposal, hthen, hvalues⟩⟩, hnew⟩
    · cases h
  · rintro ⟨hformed, hdenotes, hnew⟩
    obtain ⟨text, hid, hne⟩ := hformed.id
    obtain ⟨document, hif, hcondition⟩ := hformed.condition
    obtain ⟨proposal, hthen, hproposal⟩ := hformed.consequence
    obtain ⟨document', hif', hcondition'⟩ := hdenotes.condition
    obtain ⟨proposal', hthen', hvalues⟩ := hdenotes.consequence
    obtain rfl : text = rule.id := by simpa [hid] using hdenotes.id
    obtain rfl : document = document' := by simpa [hif] using hif'
    obtain rfl : proposal = proposal' := by simpa [hthen] using hthen'
    cases item with
    | object fields =>
        apply Checked.map_eq_sound_iff.mpr
        refine ⟨(rule.id, rule.condition, rule.decision, rule.weight, rule.reason), ?_, rfl⟩
        refine Checked.both_eq_sound_iff.mpr ⟨checkId_eq_sound_iff.mpr ⟨hid, hne, hnew⟩, ?_⟩
        refine Checked.both_eq_sound_iff.mpr
          ⟨checkCondition_eq_sound_iff.mpr ⟨document, hif, hcondition, hcondition'⟩, ?_⟩
        exact checkConsequence_eq_sound_iff.mpr ⟨proposal, hthen, hproposal, hvalues⟩
    | _ => cases hid

theorem claimedId?_eq {registry : Registry} {item : Json} {rule : Rule}
    (hformed : WellFormed registry item) (hdenotes : Denotes item rule) :
    claimedId? item = some rule.id := by
  obtain ⟨text, hid, hne⟩ := hformed.id
  obtain rfl : text = rule.id := by simpa [hid] using hdenotes.id
  simp [claimedId?, hid, Json.string?, hne]

theorem WellFormed.exists_denotes {registry : Registry} {item : Json}
    (h : WellFormed registry item) : ∃ rule, Denotes item rule := by
  obtain ⟨id, hid, -⟩ := h.id
  obtain ⟨document, hif, hformed⟩ := h.condition
  obtain ⟨condition, hcondition⟩ := hformed.exists_denotes
  obtain ⟨proposal, hthen, hproposal⟩ := h.consequence
  obtain ⟨decision, hdecision, -⟩ := hproposal.decision
  exact ⟨⟨id, condition, decision, _, _⟩, hid, ⟨document, hif, hcondition⟩,
    ⟨proposal, hthen, hdecision, rfl, rfl⟩⟩

end Rule

/-! ## Rule sets -/

namespace RuleSet

theorem checkVersion_eq_sound_iff {location : Location} {value : Option Json}
    {version : String} :
    checkVersion location value = .sound version ↔
      WellFormedVersion value ∧
        (value = some (.string version) ∨
          ∃ number, value = some (.number number) ∧ version = number.text) := by
  constructor
  · intro h
    unfold checkVersion at h
    split at h
    · cases h
    · cases h
    · obtain ⟨hink, rfl⟩ := Checked.required_eq_sound_iff.mp h
      rw [Text.hasInk, List.any_eq_true] at hink
      refine ⟨Or.inr ⟨_, rfl, ?_⟩, Or.inl rfl⟩
      simpa using hink
    · cases h
      exact ⟨Or.inl ⟨_, rfl⟩, Or.inr ⟨_, rfl, rfl⟩⟩
    · cases h
  · rintro ⟨hformed, rfl | ⟨number, rfl, rfl⟩⟩
    · rcases hformed with ⟨number, hnumber⟩ | ⟨text, htext, hink⟩
      · cases hnumber
      · cases htext
        apply if_pos
        rw [Text.hasInk, List.any_eq_true]
        simpa using hink
    · rfl

def AvoidsIds (ids : List String) (items : List Json) : Prop :=
  ∀ item ∈ items, ∀ id ∈ ids, item.field? "id" ≠ some (.string id)

/-- What the ids claimed before an item are good for: the item and those after it have distinct
ids, none of them claimed before, exactly when the item's own id is new and the items after it
avoid that id too. -/
theorem distinctIds_cons_iff {earlier : List String} {item : Json} {rest : List Json}
    {id : String} (hid : item.field? "id" = some (.string id)) :
    DistinctIds (item :: rest) ∧ AvoidsIds earlier (item :: rest) ↔
      id ∉ earlier ∧ DistinctIds rest ∧ AvoidsIds (earlier ++ [id]) rest := by
  constructor
  · rintro ⟨hdistinct, havoids⟩
    obtain ⟨hfirst, hrest⟩ := List.pairwise_cons.mp hdistinct
    obtain ⟨hitem, havoids⟩ := List.forall_mem_cons.mp havoids
    refine ⟨fun hmem => hitem id hmem hid, hrest, ?_⟩
    intro later hlater other hother
    rcases List.mem_append.mp hother with hmem | hmem
    · exact havoids later hlater other hmem
    · obtain rfl := List.mem_singleton.mp hmem
      intro heq
      exact hfirst later hlater (hid.trans heq.symm)
  · rintro ⟨hnew, hrest, havoids⟩
    constructor
    · refine List.pairwise_cons.mpr ⟨?_, hrest⟩
      intro later hlater heq
      exact havoids later hlater id (by simp) (heq.symm.trans hid)
    · refine List.forall_mem_cons.mpr ⟨?_, ?_⟩
      · intro other hother heq
        rw [hid] at heq
        cases heq
        exact hnew hother
      · intro later hlater other hother
        exact havoids later hlater other (List.mem_append_left _ hother)

theorem checkList_eq_sound_iff {registry : Registry} {value : Option Json}
    {rules : List Rule} :
    checkList registry value = .sound rules ↔
      ∃ items, value = some (.array items) ∧ checkRules registry 0 [] items = .sound rules := by
  constructor
  · intro h
    unfold checkList at h
    split at h
    · cases h
    · exact ⟨_, rfl, h⟩
    · cases h
  · rintro ⟨items, rfl, h⟩
    exact h

theorem checkRules_eq_sound_iff {registry : Registry} {index : Nat} {earlier : List String}
    {items : List Json} {rules : List Rule} :
    checkRules registry index earlier items = .sound rules ↔
      (∀ item ∈ items, Rule.WellFormed registry item) ∧
        (DistinctIds items ∧ AvoidsIds earlier items) ∧
        List.Forall₂ Rule.Denotes items rules := by
  induction items generalizing index earlier rules with
  | nil => simp [checkRules, DistinctIds, AvoidsIds, eq_comm]
  | cons item rest ih =>
      rw [checkRules, Checked.map_eq_sound_iff]
      constructor
      · rintro ⟨⟨rule, others⟩, hparts, rfl⟩
        obtain ⟨hrule, hothers⟩ := Checked.both_eq_sound_iff.mp hparts
        obtain ⟨hformed, hdenotes, hnew⟩ := Rule.checkAt_eq_sound_iff.mp hrule
        rw [Rule.claimedId?_eq hformed hdenotes] at hothers
        obtain ⟨hformed', ⟨hdistinct, havoids⟩, hdenotes'⟩ := ih.mp hothers
        exact ⟨List.forall_mem_cons.mpr ⟨hformed, hformed'⟩,
          (distinctIds_cons_iff hdenotes.id).mpr ⟨hnew, hdistinct, havoids⟩,
          .cons hdenotes hdenotes'⟩
      · rintro ⟨hformed, hids, hdenotes⟩
        obtain ⟨hitem, hrest⟩ := List.forall_mem_cons.mp hformed
        cases hdenotes with
        | cons hrule hothers =>
            obtain ⟨hnew, hids⟩ := (distinctIds_cons_iff hrule.id).mp hids
            refine ⟨(_, _), Checked.both_eq_sound_iff.mpr ⟨?_, ?_⟩, rfl⟩
            · exact Rule.checkAt_eq_sound_iff.mpr ⟨hitem, hrule, hnew⟩
            · rw [Rule.claimedId?_eq hitem hrule]
              exact ih.mpr ⟨hrest, hids, hothers⟩

theorem check_eq_sound_iff {registry : Registry} {document : Json} {ruleSet : RuleSet} :
    check registry document = .sound ruleSet ↔
      WellFormed registry document ∧ Denotes document ruleSet := by
  constructor
  · intro h
    unfold check at h
    split at h
    · next fields =>
      obtain ⟨⟨version, rules⟩, hparts, rfl⟩ := Checked.map_eq_sound_iff.mp h
      obtain ⟨hversion, hlist⟩ := Checked.both_eq_sound_iff.mp hparts
      obtain ⟨hformed, htext⟩ := checkVersion_eq_sound_iff.mp hversion
      obtain ⟨items, hitems, hchecked⟩ := checkList_eq_sound_iff.mp hlist
      obtain ⟨heach, ⟨hdistinct, -⟩, hdenotes⟩ := checkRules_eq_sound_iff.mp hchecked
      exact ⟨⟨hformed, ⟨items, hitems, heach, hdistinct⟩⟩, ⟨htext, ⟨items, hitems, hdenotes⟩⟩⟩
    · cases h
  · rintro ⟨⟨hformed, ⟨items, hitems, heach, hdistinct⟩⟩, ⟨htext, ⟨items', hitems', hdenotes⟩⟩⟩
    obtain rfl : items = items' := by simpa [hitems] using hitems'
    cases document with
    | object fields =>
        apply Checked.map_eq_sound_iff.mpr
        refine ⟨(ruleSet.version, ruleSet.rules), ?_, rfl⟩
        refine Checked.both_eq_sound_iff.mpr ⟨checkVersion_eq_sound_iff.mpr ⟨hformed, htext⟩, ?_⟩
        refine checkList_eq_sound_iff.mpr ⟨items, hitems, checkRules_eq_sound_iff.mpr ?_⟩
        refine ⟨heach, ⟨hdistinct, ?_⟩, hdenotes⟩
        intro item _ id hid
        cases hid
    | _ => cases hitems

theorem WellFormed.exists_denotes {registry : Registry} {document : Json}
    (h : WellFormed registry document) : ∃ ruleSet, Denotes document ruleSet := by
  obtain ⟨items, hitems, heach, -⟩ := h.rules
  obtain ⟨rules, hrules⟩ := exists_forall₂ fun item hitem => (heach item hitem).exists_denotes
  rcases h.version with ⟨number, hnumber⟩ | ⟨text, htext, -⟩
  · exact ⟨⟨number.text, rules⟩, Or.inr ⟨number, hnumber, rfl⟩, ⟨items, hitems, hrules⟩⟩
  · exact ⟨⟨text, rules⟩, Or.inl htext, ⟨items, hitems, hrules⟩⟩

/-- Exactly the well-formed documents pass the check, each as the rule set that it stands for, and
every other document is refused for a reason. -/
theorem check_iff_wellFormed (registry : Registry) (document : Json) :
    ((∃ ruleSet, check registry document = .sound ruleSet) ↔ WellFormed registry document) ∧
      (∀ ruleSet, check registry document = .sound ruleSet → Denotes document ruleSet) ∧
      (∀ faults, check registry document = .faulty faults → faults ≠ []) := by
  refine ⟨⟨?_, ?_⟩, ?_, explained_check registry document⟩
  · rintro ⟨ruleSet, h⟩
    exact (check_eq_sound_iff.mp h).1
  · intro h
    obtain ⟨ruleSet, hdenotes⟩ := h.exists_denotes
    exact ⟨ruleSet, check_eq_sound_iff.mpr ⟨h, hdenotes⟩⟩
  · intro ruleSet h
    exact (check_eq_sound_iff.mp h).2

def sampleDocument : Json :=
  .object [("rules", .array [
      .object [("id", .string "prime"),
        ("if", .object [("all", .array [
          .object [("field", .string "applicant.score"), ("op", .string "gte"),
            ("value", .ofInt 720)],
          .object [("any", .array [
            .object [("field", .string "applicant.email"), ("op", .string "present")]])]])]),
        ("then", .object [("decision", .string "approve"), ("reason", .string "prime"),
          ("weight", .number (.float 0.5))])],
      .object [("id", .string "rest"), ("if", .object [("all", .array [])]),
        ("then", .object [("decision", .string "review")])]]),
    ("version", .ofInt 3)]

theorem check_iff_wellFormed_sampleDocument :
    ∃ ruleSet, check .builtin sampleDocument = .sound ruleSet ∧
      ruleSet.rules.map Rule.id = ["prime", "rest"] ∧ WellFormed .builtin sampleDocument ∧
      Denotes sampleDocument ruleSet := by
  have hexact := check_iff_wellFormed .builtin sampleDocument
  exact ⟨_, rfl, rfl, hexact.1.mp ⟨_, rfl⟩, hexact.2.1 _ rfl⟩

/-! ## Validated rule sets -/

/-- A rule set that some document has been checked as, against whatever registry. -/
def Validated (ruleSet : RuleSet) : Prop :=
  ∃ registry document, check registry document = .sound ruleSet

end RuleSet

/-- A rule that can propose something: a decision that is not empty with a weight from zero to
one. -/
structure Rule.Admissible (rule : Rule) : Prop where
  decision : rule.decision ≠ ""
  weight : 0 ≤ rule.weight ∧ rule.weight ≤ 1

theorem Rule.Admissible.isFinite_weight {rule : Rule} (h : rule.Admissible) :
    rule.weight.isFinite = true :=
  UnitInterval.isFinite_of_le h.weight.1 h.weight.2

theorem Rule.Denotes.admissible {registry : Registry} {item : Json} {rule : Rule}
    (hdenotes : Denotes item rule) (hformed : WellFormed registry item) : rule.Admissible := by
  obtain ⟨fields, hthen, hdecision, hweight, -⟩ := hdenotes.consequence
  obtain ⟨fields', hthen', hproposal⟩ := hformed.consequence
  obtain rfl : fields = fields' := by simpa [hthen] using hthen'
  obtain ⟨text, htext, hne⟩ := hproposal.decision
  obtain rfl : text = rule.decision := by simpa [htext] using hdecision
  refine ⟨hne, ?_⟩
  rw [hweight]
  rcases hproposal.weight with h | h | ⟨number, h, hunit⟩
  · rw [h]
    decide
  · rw [h]
    decide
  · rw [h]
    exact number.toFloat_unit_iff.mpr hunit

theorem RuleSet.Validated.admissible {ruleSet : RuleSet} (h : ruleSet.Validated) :
    ∀ rule ∈ ruleSet.rules, rule.Admissible := by
  obtain ⟨registry, document, hcheck⟩ := h
  obtain ⟨hformed, hdenotes⟩ := check_eq_sound_iff.mp hcheck
  obtain ⟨items, hitems, heach, -⟩ := hformed.rules
  obtain ⟨items', hitems', hrules⟩ := hdenotes.rules
  obtain rfl : items = items' := by simpa [hitems] using hitems'
  intro rule hrule
  obtain ⟨item, hitem, hdenotes⟩ := exists_source_of_mem hrules hrule
  exact hdenotes.admissible (heach item hitem)

end Verdict
