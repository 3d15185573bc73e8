import Verdict.Proofs.Condition.Writing
import Verdict.Proofs.Json.NumberText
import Verdict.Proofs.Rule.Grammar
import Verdict.Rule.Source

/-!
# Rule sets as documents

The rule sets that documents stand for are exactly the `Readable` ones, and a readable rule set is
the one that its own document stands for (`RuleSet.check_toJson_iff`).  Writing after reading is
therefore a normal form, `RuleSet.normalize`.
-/

namespace Verdict

namespace Rule

/-- A rule that can be read: it has an id, its condition can be read, and it can propose
something. -/
structure Readable (registry : Registry) (rule : Rule) : Prop where
  id : rule.id ≠ ""
  condition : rule.condition.Readable registry
  admissible : rule.Admissible

theorem WellFormed.readable_of_denotes {registry : Registry} {item : Json} {rule : Rule}
    (hformed : WellFormed registry item) (hdenotes : Denotes item rule) :
    rule.Readable registry ∧ (item.Canonical → rule.condition.Canonical) := by
  obtain ⟨text, hid, hne⟩ := hformed.id
  obtain ⟨document, hif, hcondition⟩ := hformed.condition
  obtain ⟨document', hif', hcondition'⟩ := hdenotes.condition
  obtain rfl : text = rule.id := by simpa [hid] using hdenotes.id
  obtain rfl : document = document' := by simpa [hif] using hif'
  obtain ⟨hreadable, hcanonical⟩ := hcondition.leaves_of_denotes hcondition'
  exact ⟨⟨hne, hreadable, hdenotes.admissible hformed⟩, fun h => hcanonical (h.field? hif)⟩

/-! ## Proposals -/

/-- The document of a proposal is well-formed and has the decision, the weight and the reason of
the rule.  The weight is the same float, since a weight in the unit interval is never written as
`null`. -/
theorem Admissible.reads_consequence {rule : Rule} (h : rule.Admissible) :
    ∃ fields : Fields Json, rule.consequenceJson = .object fields ∧
      WellFormedConsequence fields ∧ fields.get? "decision" = some (.string rule.decision) ∧
      rule.weight = ((fields.get? "weight").bind Json.float?).getD 1 ∧
      rule.reason = (fields.get? "reason").bind Json.string? := by
  have hweight : Json.ofFloat rule.weight = .number (.float rule.weight) :=
    Json.ofFloat_of_isFinite h.isFinite_weight
  have hunit : WellFormedWeight (some (.number (.float rule.weight))) :=
    Or.inr (Or.inr ⟨_, rfl, h.weight⟩)
  cases hreason : rule.reason with
  | none =>
      refine ⟨[("decision", .string rule.decision), ("weight", .number (.float rule.weight))],
        ?_, ⟨⟨_, rfl, h.decision⟩, hunit, Or.inl rfl⟩, rfl, rfl, rfl⟩
      rw [consequenceJson, hreason, hweight]
      rfl
  | some reason =>
      refine ⟨[("decision", .string rule.decision), ("reason", .string reason),
          ("weight", .number (.float rule.weight))],
        ?_, ⟨⟨_, rfl, h.decision⟩, hunit, Or.inr (Or.inr ⟨reason, rfl⟩)⟩, rfl, rfl, rfl⟩
      rw [consequenceJson, hreason, hweight]
      rfl

theorem canonical_consequenceJson (rule : Rule) : rule.consequenceJson.Canonical := by
  have hweight := Json.canonical_ofFloat rule.weight
  rw [consequenceJson]
  cases rule.reason with
  | none =>
      exact Json.canonical_object ["decision", "weight"] rfl (by decide) ⟨trivial, hweight, trivial⟩
  | some reason =>
      exact Json.canonical_object ["decision", "reason", "weight"] rfl (by decide)
        ⟨trivial, trivial, hweight, trivial⟩

/-! ## Rules -/

theorem Readable.reads {registry : Registry} {rule : Rule} (h : rule.Readable registry) :
    WellFormed registry rule.toJson ∧ Denotes rule.toJson rule := by
  obtain ⟨hformed, hdenotes⟩ := h.condition.reads
  obtain ⟨fields, hfields, hproposal, hvalues⟩ := h.admissible.reads_consequence
  have hthen : rule.toJson.field? "then" = some (.object fields) := by
    rw [← hfields]
    rfl
  exact ⟨⟨⟨rule.id, rfl, h.id⟩, ⟨_, rfl, hformed⟩, ⟨fields, hthen, hproposal⟩⟩,
    ⟨rfl, ⟨_, rfl, hdenotes⟩, ⟨fields, hthen, hvalues⟩⟩⟩

theorem canonical_toJson {rule : Rule} (h : rule.condition.Canonical) : rule.toJson.Canonical :=
  Json.canonical_object ["id", "if", "then"] rfl (by decide)
    ⟨trivial, h.toJson, rule.canonical_consequenceJson, trivial⟩

theorem equal_self {rule : Rule} (h : rule.Admissible) (hcondition : rule.condition.Canonical) :
    rule.equal rule = true := by
  simp [equal, hcondition.equal_self, beq_self_of_isFinite h.isFinite_weight]

end Rule

namespace RuleSet

/-- A rule set that can be read: its version is not blank, its rules can be read, and no two of
them have one id. -/
structure Readable (registry : Registry) (ruleSet : RuleSet) : Prop where
  version : Text.Inked ruleSet.version.toList
  rules : ∀ rule ∈ ruleSet.rules, rule.Readable registry
  ids : ruleSet.rules.Pairwise fun earlier later => earlier.id ≠ later.id

def Canonical (ruleSet : RuleSet) : Prop :=
  ∀ rule ∈ ruleSet.rules, rule.condition.Canonical

/-! ## What has been read -/

theorem inked_version {registry : Registry} {document : Json} {ruleSet : RuleSet}
    (hformed : WellFormed registry document) (hdenotes : Denotes document ruleSet) :
    Text.Inked ruleSet.version.toList := by
  rcases hdenotes.version with htext | ⟨number, -, hversion⟩
  · rcases hformed.version with ⟨number, hnumber⟩ | ⟨text, htext', hink⟩
    · rw [htext] at hnumber
      cases hnumber
    · obtain rfl : ruleSet.version = text := by simpa [htext] using htext'
      exact hink
  · rw [hversion]
    exact number.text_inked

theorem distinct_ids {items : List Json} {rules : List Rule} (h : DistinctIds items)
    (hrules : List.Forall₂ Rule.Denotes items rules) :
    rules.Pairwise fun earlier later => earlier.id ≠ later.id := by
  induction hrules with
  | nil => exact .nil
  | cons hrule hrest ih =>
      obtain ⟨hfirst, hdistinct⟩ := List.pairwise_cons.mp h
      refine List.pairwise_cons.mpr ⟨?_, ih hdistinct⟩
      intro later hlater heq
      obtain ⟨item, hitem, hdenotes⟩ := exists_source_of_mem hrest hlater
      apply hfirst item hitem
      rw [hrule.id, hdenotes.id, heq]

theorem WellFormed.readable_of_denotes {registry : Registry} {document : Json}
    {ruleSet : RuleSet} (hformed : WellFormed registry document)
    (hdenotes : Denotes document ruleSet) :
    ruleSet.Readable registry ∧ (document.Canonical → ruleSet.Canonical) := by
  obtain ⟨items, hitems, heach, hdistinct⟩ := hformed.rules
  obtain ⟨items', hitems', hrules⟩ := hdenotes.rules
  obtain rfl : items = items' := by simpa [hitems] using hitems'
  constructor
  · refine ⟨inked_version hformed hdenotes, ?_, distinct_ids hdistinct hrules⟩
    intro rule hrule
    obtain ⟨item, hitem, hdenotes⟩ := exists_source_of_mem hrules hrule
    exact ((heach item hitem).readable_of_denotes hdenotes).1
  · intro hcanonical rule hrule
    obtain ⟨item, hitem, hdenotes⟩ := exists_source_of_mem hrules hrule
    have harray : (Json.array items).Canonical := hcanonical.field? hitems
    exact ((heach item hitem).readable_of_denotes hdenotes).2 (harray.item hitem)

/-! ## What is written -/

theorem Readable.reads {registry : Registry} {ruleSet : RuleSet} (h : ruleSet.Readable registry) :
    WellFormed registry ruleSet.toJson ∧ Denotes ruleSet.toJson ruleSet := by
  have hdistinct : DistinctIds (ruleSet.rules.map Rule.toJson) := by
    refine List.pairwise_map.mpr (h.ids.imp ?_)
    intro earlier later hne heq
    exact hne (by simpa [Rule.toJson, Json.field?, Fields.get?_cons] using heq)
  have hformed : ∀ item ∈ ruleSet.rules.map Rule.toJson, Rule.WellFormed registry item :=
    List.forall_mem_map.mpr fun rule hrule => (h.rules rule hrule).reads.1
  have hdenotes : List.Forall₂ Rule.Denotes (ruleSet.rules.map Rule.toJson) ruleSet.rules := by
    rw [List.forall₂_map_left_iff, List.forall₂_same]
    exact fun rule hrule => (h.rules rule hrule).reads.2
  exact ⟨⟨Or.inr ⟨ruleSet.version, rfl, h.version⟩, ⟨_, rfl, hformed, hdistinct⟩⟩,
    ⟨Or.inl rfl, ⟨_, rfl, hdenotes⟩⟩⟩

/-- A rule set is what its own document stands for exactly when it is readable. -/
theorem check_toJson_iff {registry : Registry} {ruleSet : RuleSet} :
    check registry ruleSet.toJson = .sound ruleSet ↔ ruleSet.Readable registry := by
  rw [check_eq_sound_iff]
  exact ⟨fun h => (h.1.readable_of_denotes h.2).1, Readable.reads⟩

theorem Canonical.toJson {ruleSet : RuleSet} (h : ruleSet.Canonical) :
    ruleSet.toJson.Canonical := by
  have hitems : Json.CanonicalItems (ruleSet.rules.map Rule.toJson) := by
    rw [Json.canonicalItems_iff, List.forall_mem_map]
    exact fun rule hrule => Rule.canonical_toJson (h rule hrule)
  exact Json.canonical_object ["rules", "version"] rfl (by decide) ⟨hitems, trivial, trivial⟩

/-- Writing the entries one by one makes the same document: the names change places, and no rule
changes when it is built anew. -/
theorem Canonical.written_eq_toJson {ruleSet : RuleSet} (h : ruleSet.Canonical) :
    ruleSet.written = ruleSet.toJson := by
  have hfound : ruleSet.toJson.field? "rules" = some (.array (ruleSet.rules.map Rule.toJson)) := rfl
  have hrules := Json.rebuild_of_canonical (h.toJson.field? hfound)
  have hversion : (Json.string ruleSet.version).rebuild = .string ruleSet.version := rfl
  have hne : "rules" ≠ "version" := by decide
  have hlt : "rules" < "version" := by decide
  simp only [written, entries, List.map_cons, List.map_nil, hversion, hrules]
  simp only [Json.ofFields, Fields.ofList, List.foldl_cons, List.foldl_nil, Fields.insert,
    if_neg hne, if_pos hlt]
  rfl

theorem Readable.equal_self {registry : Registry} {ruleSet : RuleSet}
    (h : ruleSet.Readable registry) (hcanonical : ruleSet.Canonical) :
    ruleSet.equal ruleSet = true := by
  have heach : ∀ rule ∈ ruleSet.rules, rule.equal rule = true := fun rule hrule =>
    Rule.equal_self (h.rules rule hrule).admissible (hcanonical rule hrule)
  have hzip : ruleSet.rules.zip ruleSet.rules = ruleSet.rules.map fun rule => (rule, rule) := by
    rw [List.zip, List.zipWith_self]
  simpa [equal, hzip] using heach

/-! ## The round trip -/

theorem ofJson?_eq_ok_iff {registry : Registry} {document : Json} {ruleSet : RuleSet} :
    ofJson? registry document = .ok ruleSet ↔ check registry document = .sound ruleSet := by
  unfold ofJson?
  cases check registry document with
  | sound found => simp
  | faulty faults => simp

/-- The document of the rule set that a document stands for. -/
def normalize (registry : Registry) (document : Json) : Except RuleSetError Json :=
  (ofJson? registry document).map toJson

theorem ofJson?_toJson {registry : Registry} {document : Json} {ruleSet : RuleSet}
    (h : ofJson? registry document = .ok ruleSet) :
    ofJson? registry ruleSet.toJson = .ok ruleSet := by
  obtain ⟨hformed, hdenotes⟩ := check_eq_sound_iff.mp (ofJson?_eq_ok_iff.mp h)
  exact ofJson?_eq_ok_iff.mpr (check_toJson_iff.mpr (hformed.readable_of_denotes hdenotes).1)

theorem normalize_bind_normalize (registry : Registry) (document : Json) :
    (normalize registry document).bind (normalize registry) = normalize registry document := by
  cases h : ofJson? registry document with
  | error fault =>
      rw [normalize, h]
      rfl
  | ok ruleSet =>
      have hagain : normalize registry ruleSet.toJson = .ok ruleSet.toJson := by
        rw [normalize, ofJson?_toJson h]
        rfl
      rw [normalize, h]
      exact hagain

/-- A rule set that has been read from a document is read again, as it is, from the document that it
is written as, and normalizing documents twice is normalizing them once. -/
theorem toJson_roundtrip {registry : Registry} {document : Json} {ruleSet : RuleSet}
    (h : ofJson? registry document = .ok ruleSet) :
    ofJson? registry ruleSet.toJson = .ok ruleSet ∧
      (document.Canonical →
        ruleSet.equal ruleSet = true ∧ ruleSet.written = ruleSet.toJson) ∧
      normalize registry document = .ok ruleSet.toJson ∧
      (normalize registry document).bind (normalize registry) = normalize registry document := by
  obtain ⟨hformed, hdenotes⟩ := check_eq_sound_iff.mp (ofJson?_eq_ok_iff.mp h)
  obtain ⟨hreadable, hoperands⟩ := hformed.readable_of_denotes hdenotes
  refine ⟨ofJson?_toJson h, ?_, ?_, normalize_bind_normalize registry document⟩
  · intro hdocument
    have hcanonical := hoperands hdocument
    exact ⟨hreadable.equal_self hcanonical, hcanonical.written_eq_toJson⟩
  · rw [normalize, h]
    rfl

def looseDocument : Json :=
  .object [("rules", .array [
      .object [("id", .string "seen"),
        ("if", .object [("any", .array [
          .object [("field", .string "user.email"), ("op", .string "blank"), ("value", .null)],
          .object [("all", .array [
            .object [("field", .string "score"), ("op", .string "eq"), ("value", .null)],
            .object [("field", .string "score"), ("op", .string "present"),
              ("value", .ofInt 1)]])],
          .object [("all", .array [])]])]),
        ("then", .object [("decision", .string "review"), ("reason", .null),
          ("weight", .ofInt 1)])],
      .object [("id", .string "trusted"),
        ("if", .object [("field", .string "user.id"), ("op", .string "trusted"),
          ("value", .null)]),
        ("then", .object [("decision", .string "reject"), ("reason", .string ""),
          ("weight", .null)])]]),
    ("version", .number (.float 1.5))]

def tightDocument : Json :=
  .object [("rules", .array [
      .object [("id", .string "seen"),
        ("if", .object [("any", .array [
          .object [("field", .string "user.email"), ("op", .string "blank")],
          .object [("all", .array [
            .object [("field", .string "score"), ("op", .string "eq"), ("value", .null)],
            .object [("field", .string "score"), ("op", .string "present"),
              ("value", .ofInt 1)]])],
          .object [("all", .array [])]])]),
        ("then", .object [("decision", .string "review"), ("weight", .number (.float 1))])],
      .object [("id", .string "trusted"),
        ("if", .object [("field", .string "user.id"), ("op", .string "trusted"),
          ("value", .null)]),
        ("then", .object [("decision", .string "reject"), ("reason", .string ""),
          ("weight", .number (.float 1))])]]),
    ("version", .string "1.5")]

theorem toJson_roundtrip_looseDocument :
    ∃ ruleSet, ofJson? (Registry.builtin.register "trusted" fun _ _ _ => true) looseDocument =
        .ok ruleSet ∧
      looseDocument.Canonical ∧ ruleSet.toJson = tightDocument ∧
      ofJson? (Registry.builtin.register "trusted" fun _ _ _ => true) tightDocument = .ok ruleSet ∧
      ruleSet.written = tightDocument := by
  have hint : (Number.int 1).Representable := ⟨by decide, by decide⟩
  have hfloat : (Number.float 1.5).Representable := rfl
  have hcanonical : looseDocument.Canonical := by
    simp only [looseDocument, Json.Canonical, Json.CanonicalItems, Json.CanonicalFields,
      Json.ofInt, hint, hfloat, Fields.Sorted]
    decide
  obtain ⟨hread, hwritten, -⟩ := toJson_roundtrip
    (show ofJson? (Registry.builtin.register "trusted" fun _ _ _ => true) looseDocument = .ok _
      from rfl)
  exact ⟨_, rfl, hcanonical, rfl, hread, (hwritten hcanonical).2⟩

end RuleSet
end Verdict
