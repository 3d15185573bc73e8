import Verdict.Config.Source
import Verdict.Proofs.Json.Canonical
import Verdict.Proofs.Service.Assembly
import Verdict.Proofs.Time.Units

/-!
# Configurations are read as they are written

The cutoff of a threshold is finite because it is in range, so it is written as a number, and the
time limit is within the range of its text because its seconds are counted in 64 bits.
-/

namespace Verdict

namespace Fields

variable {α : Type}

theorem insert_nil (name : String) (value : α) :
    insert ([] : Fields α) name value = [(name, value)] :=
  rfl

theorem insert_cons_of_lt {name key : String} (h : name < key) (value old : α) (rest : Fields α) :
    insert ((key, old) :: rest) name value = (name, value) :: (key, old) :: rest := by
  have hne : name ≠ key := fun heq => String.lt_irrefl key (heq ▸ h)
  rw [insert, if_neg hne, if_pos h]

theorem insert_cons_of_gt {name key : String} (h : key < name) (value old : α) (rest : Fields α) :
    insert ((key, old) :: rest) name value = (key, old) :: insert rest name value := by
  have hne : name ≠ key := fun heq => String.lt_irrefl key (heq ▸ h)
  have hnot : ¬ name < key := fun hlt => String.lt_irrefl key (String.lt_trans h hlt)
  rw [insert, if_neg hne, if_neg hnot]

end Fields

namespace Strategy

theorem rebuild_toJson_threshold {cutoff : Float} (finite : cutoff.isFinite = true)
    (fallback : String) :
    (threshold cutoff fallback).toJson.rebuild =
      .object [("fallback", .string fallback), ("threshold", .number (.float cutoff)),
        ("type", .string "threshold")] := by
  have hcutoff := Json.ofFloat_of_isFinite finite
  rw [toJson, hcutoff]
  simp only [Json.rebuild, Json.rebuildFields, hcutoff, Json.ofFields, Fields.ofList,
    List.foldl_cons, List.foldl_nil, typeName, name]
  simp (disch := decide) only [Fields.insert_nil, Fields.insert_cons_of_lt]

theorem ofJson?_rebuild_toJson {strategy : Strategy Float} (inRange : strategy.InRange) :
    ofJson? strategy.toJson.rebuild = some strategy := by
  cases strategy with
  | threshold cutoff fallback =>
      rw [rebuild_toJson_threshold (UnitInterval.isFinite_of_le inRange.1 inRange.2)]
      simp [ofJson?, Fields.get?_cons, typeName, Json.string?, ofSettings?, Settings.pair?,
        Settings.valuesOf, Json.float?, Number.toFloat]
  | weightedAverage | maxWeight | consensus => rfl

theorem canonical_rebuild_toJson {strategy : Strategy Float} (inRange : strategy.InRange) :
    strategy.toJson.rebuild.Canonical := by
  cases strategy with
  | threshold cutoff fallback =>
      have finite := UnitInterval.isFinite_of_le inRange.1 inRange.2
      rw [rebuild_toJson_threshold finite]
      exact Json.canonical_object ["fallback", "threshold", "type"] rfl (by decide)
        ⟨trivial, finite, trivial, trivial⟩
  | weightedAverage | maxWeight | consensus =>
      exact Json.canonical_object ["type"] rfl (by decide) ⟨trivial, trivial⟩

theorem equal_self {strategy : Strategy Float} (inRange : strategy.InRange) :
    strategy.equal strategy = true := by
  cases strategy with
  | threshold cutoff fallback =>
      have hcutoff : (cutoff == cutoff) = true :=
        beq_self_of_isFinite (UnitInterval.isFinite_of_le inRange.1 inRange.2)
      rw [equal, hcutoff, beq_self_eq_true]
      rfl
  | weightedAverage | maxWeight | consensus => rfl

end Strategy

namespace Config

/-- The time limit and the capacity are within the 64 bits that seconds and records are counted
in. -/
structure Bounded (config : Config) : Prop where
  timeLimit : config.timeLimit.seconds < 2 ^ 64
  queueCapacity : config.queueCapacity < 2 ^ 64

theorem rebuild_toJson (config : Config) :
    config.toJson.rebuild =
      .object [("audit", .object [("queue_capacity", .ofInt config.queueCapacity)]),
        ("decide_timeout", .string config.timeLimit.text),
        ("strategy", config.strategy.toJson.rebuild), ("trace", .bool config.trace)] := by
  simp only [toJson, Json.ofInt, Json.rebuild, Json.rebuildFields, Json.ofFields, Fields.ofList,
    List.foldl_cons, List.foldl_nil]
  simp (disch := decide) only [Fields.insert_nil, Fields.insert_cons_of_lt,
    Fields.insert_cons_of_gt]

theorem capacity?_ofInt (capacity : Nat) :
    capacity? (.object [("queue_capacity", .ofInt capacity)]) = some (some capacity) := by
  have hcount : count? (.ofInt capacity) = some capacity := by
    simp [count?, Json.ofInt, Json.int?]
  simp [capacity?, Layout.read, Layout.readFields, Fields.get?_cons, capacityName, given?, hcount]

theorem ofJson?_rebuild_toJson {config : Config} (bounded : config.Bounded)
    (inRange : config.strategy.InRange) : ofJson? config.toJson.rebuild = some config := by
  have hstrategy := Strategy.ofJson?_rebuild_toJson inRange
  have htime := Duration.ofText?_text bounded.timeLimit
  have hcapacity := capacity?_ofInt config.queueCapacity
  rw [rebuild_toJson]
  simp [ofJson?, names, Layout.read, Layout.readFields, Fields.get?_cons, given?, hstrategy,
    htime, hcapacity, Json.string?, Json.bool?, ofDraft]

theorem canonical_rebuild_toJson {config : Config} (bounded : config.Bounded)
    (inRange : config.strategy.InRange) : config.toJson.rebuild.Canonical := by
  have hcapacity : Number.Representable (.int config.queueCapacity) := by
    have hmost := bounded.queueCapacity
    simp only [Number.Representable, Number.minInt, Number.maxInt]
    omega
  have haudit : (Json.object [("queue_capacity", .ofInt config.queueCapacity)]).Canonical :=
    Json.canonical_object ["queue_capacity"] rfl (by decide) ⟨hcapacity, trivial⟩
  have hstrategy := Strategy.canonical_rebuild_toJson inRange
  rw [rebuild_toJson]
  exact Json.canonical_object ["audit", "decide_timeout", "strategy", "trace"] rfl (by decide)
    ⟨haudit, trivial, hstrategy, trivial, trivial⟩

theorem equal_self {config : Config} (inRange : config.strategy.InRange) :
    config.equal config = true := by
  rw [equal, Strategy.equal_self inRange]
  simp

/-- A configuration that has passed the check is written as a value, and this value is read as an
equal configuration, which passes the check again. -/
theorem reads_back_of_check (config : Config) (bounded : config.Bounded)
    (checked : config.check = .ok config) :
    config.toJson.rebuild.Canonical ∧
      ∃ reread, ofJson? config.toJson.rebuild = some reread ∧ reread = config ∧
        reread.equal config = true ∧ reread.check = .ok reread := by
  obtain ⟨⟨-, -, inRange⟩, -⟩ := check_eq_ok_iff.mp checked
  exact ⟨canonical_rebuild_toJson bounded inRange, config, ofJson?_rebuild_toJson bounded inRange,
    rfl, equal_self inRange, checked⟩

def patientConfig : Config :=
  { strategy := .threshold 1 ""
    timeLimit := ⟨18446744073709551615999999999⟩
    trace := true
    queueCapacity := 18446744073709551615 }

theorem reads_back_of_check_patientConfig :
    patientConfig.Bounded ∧ patientConfig.check = .ok patientConfig ∧
      patientConfig.timeLimit.text =
        "584542046090years 7months 15days 17h 5m 3s 999ms 999us 999ns" ∧
      ofJson? patientConfig.toJson.rebuild = some patientConfig := by
  have bounded : patientConfig.Bounded := ⟨by decide, by decide⟩
  have checked : patientConfig.check = .ok patientConfig := rfl
  obtain ⟨-, reread, hread, rfl, -⟩ := reads_back_of_check patientConfig bounded checked
  exact ⟨bounded, checked, by rfl, hread⟩

end Config
end Verdict
