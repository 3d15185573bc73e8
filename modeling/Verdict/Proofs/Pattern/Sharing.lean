import Verdict.Pattern.Cache
import Verdict.Pattern.Compile
import Mathlib.Data.List.Induction
import Mathlib.Data.List.Nodup
import Mathlib.Tactic.Common

/-!
# Callers that share a cache

A section of a lookup finds the cache as other callers have left it.  A section of a faithful lookup
leaves a sound cache and a faithful lookup, and it brings the lookup closer to its answer
(`Cache.Sound.advance`); so the callers are served whatever the order of their sections
(`Cache.Shared.Served.step`).
-/

namespace Verdict.Pattern.Cache

variable {α : Type} {compile : String → Option α} {cache : Cache α} {pattern : String}

/-! ## Caches -/

/-- The cache keeps what compiling gives, once for each of its patterns, and is not overfull. -/
structure Sound (compile : String → Option α) (cache : Cache α) : Prop where
  right : ∀ entry ∈ cache.entries, entry.2 = compile entry.1
  distinct : (cache.entries.map Prod.fst).Nodup
  bounded : cache.entries.length ≤ capacity

theorem sound_empty : Sound compile empty where
  right := fun _ absurdity => absurd absurdity List.not_mem_nil
  distinct := List.nodup_nil
  bounded := Nat.zero_le _

theorem exists_entries_insert (cache : Cache α) (pattern : String) (result : Option α) :
    ∃ kept, (cache.insert pattern result).entries = (pattern, result) :: kept ∧
      kept.Sublist cache.entries ∧ (∀ entry ∈ kept, entry.1 ≠ pattern) ∧
      kept.length < capacity := by
  by_cases full : capacity ≤ cache.entries.length
  · refine ⟨[], ?_, List.nil_sublist _, fun _ absurdity => absurd absurdity List.not_mem_nil,
      Nat.zero_lt_succ _⟩
    simp only [insert, if_pos full, List.filter_nil]
  · refine ⟨cache.entries.filter fun entry => entry.1 ≠ pattern, ?_, List.filter_sublist, ?_, ?_⟩
    · simp only [insert, if_neg full]
    · intro entry hentry
      exact of_decide_eq_true (List.mem_filter.mp hentry).2
    · exact Nat.lt_of_le_of_lt (List.length_filter_le _ _) (Nat.not_le.mp full)

theorem Sound.insert (sound : cache.Sound compile) (pattern : String) :
    (cache.insert pattern (compile pattern)).Sound compile := by
  obtain ⟨kept, hentries, hkept, hothers, hroom⟩ :=
    exists_entries_insert cache pattern (compile pattern)
  constructor
  · intro entry hentry
    rw [hentries] at hentry
    rcases List.mem_cons.mp hentry with rfl | hold
    · rfl
    · exact sound.right entry (hkept.subset hold)
  · rw [hentries, List.map_cons, List.nodup_cons]
    refine ⟨?_, sound.distinct.sublist (hkept.map Prod.fst)⟩
    intro hpattern
    obtain ⟨entry, hentry, hsame⟩ := List.mem_map.mp hpattern
    exact hothers entry hentry hsame
  · rw [hentries, List.length_cons]
    exact hroom

theorem Sound.eq_of_get? (sound : cache.Sound compile) {result : Option α}
    (hit : cache.get? pattern = some result) : result = compile pattern := by
  obtain ⟨before, after, hsplit, -⟩ := List.lookup_eq_some_iff.mp hit
  have hmem : (pattern, result) ∈ cache.entries := by
    rw [hsplit]
    exact List.mem_append_right before List.mem_cons_self
  exact sound.right _ hmem

/-! ## Lookups -/

namespace Lookup

/-- A lookup for a pattern that has nothing in hand but what compiling the pattern gives. -/
inductive Faithful (compile : String → Option α) (pattern : String) : Lookup α → Prop where
  | asked : Faithful compile pattern (.asked pattern)
  | missed : Faithful compile pattern (.missed pattern (compile pattern))
  | answered : Faithful compile pattern (.answered pattern (compile pattern))

def sectionsLeft : Lookup α → Nat
  | .asked _ => 2
  | .missed _ _ => 1
  | .answered _ _ => 0

variable {lookup : Lookup α}

theorem Faithful.eq_answered (faithful : lookup.Faithful compile pattern)
    (done : lookup.sectionsLeft = 0) : lookup = .answered pattern (compile pattern) := by
  cases faithful with
  | asked => cases done
  | missed => cases done
  | answered => rfl

theorem Faithful.of_answered {other : String} {result : Option α}
    (faithful : (Lookup.answered other result).Faithful compile pattern) :
    other = pattern ∧ result = compile pattern := by
  cases faithful
  exact ⟨rfl, rfl⟩

end Lookup

/-- One section keeps the cache sound and the lookup faithful, and one section less is left. -/
theorem Sound.advance (sound : cache.Sound compile) {lookup : Lookup α}
    (faithful : lookup.Faithful compile pattern) :
    (cache.advance compile lookup).1.Sound compile ∧
      (cache.advance compile lookup).2.Faithful compile pattern ∧
      (cache.advance compile lookup).2.sectionsLeft ≤ lookup.sectionsLeft - 1 := by
  cases faithful with
  | asked =>
      cases hget : cache.get? pattern with
      | none =>
          simp only [Cache.advance, hget]
          exact ⟨sound, .missed, Nat.le_refl 1⟩
      | some result =>
          obtain rfl := sound.eq_of_get? hget
          simp only [Cache.advance, hget]
          exact ⟨sound, .answered, Nat.zero_le _⟩
  | missed => exact ⟨sound.insert pattern, .answered, Nat.le_refl 0⟩
  | answered => exact ⟨sound, .answered, Nat.le_refl 0⟩

/-! ## Any order of sections -/

namespace Shared

def start (patterns : List String) : Shared α :=
  ⟨empty, patterns.map .asked⟩

/-- The callers look for the patterns, one each, and are served so far: the cache is sound, their
lookups are faithful, and no more than two sections of a lookup are needed. -/
structure Served (compile : String → Option α) (patterns : List String) (indices : List Nat)
    (shared : Shared α) : Prop where
  sound : shared.cache.Sound compile
  length_eq : shared.callers.length = patterns.length
  faithful : ∀ index lookup, shared.callers[index]? = some lookup →
    ∃ pattern, patterns[index]? = some pattern ∧ lookup.Faithful compile pattern ∧
      lookup.sectionsLeft ≤ 2 - indices.count index

variable {patterns : List String} {indices : List Nat} {shared : Shared α}

theorem served_start (compile : String → Option α) (patterns : List String) :
    Served compile patterns [] (start patterns) where
  sound := sound_empty
  length_eq := List.length_map _
  faithful := by
    intro index lookup hlookup
    rw [start, List.getElem?_map] at hlookup
    obtain ⟨pattern, hpattern, rfl⟩ := Option.map_eq_some_iff.mp hlookup
    exact ⟨pattern, hpattern, .asked, Nat.le_refl 2⟩

theorem step_of_some (compile : String → Option α) {index : Nat} {lookup : Lookup α}
    (caller : shared.callers[index]? = some lookup) :
    shared.step compile index =
      ⟨(shared.cache.advance compile lookup).1,
        shared.callers.set index (shared.cache.advance compile lookup).2⟩ := by
  simp only [step, caller]

theorem step_of_none (compile : String → Option α) {index : Nat}
    (absent : shared.callers[index]? = none) : shared.step compile index = shared := by
  simp only [step, absent]

theorem Served.step (served : Served compile patterns indices shared) (index : Nat) :
    Served compile patterns (indices ++ [index]) (shared.step compile index) := by
  have hcount (other : Nat) (hother : index ≠ other) :
      (indices ++ [index]).count other = indices.count other := by
    rw [List.count_append, List.count_singleton, if_neg (by simpa using hother), Nat.add_zero]
  cases hcaller : shared.callers[index]? with
  | none =>
      rw [step_of_none compile hcaller]
      refine ⟨served.sound, served.length_eq, ?_⟩
      intro other lookup hlookup
      have hother : index ≠ other := by
        rintro rfl
        rw [hcaller] at hlookup
        cases hlookup
      rw [hcount other hother]
      exact served.faithful other lookup hlookup
  | some caller =>
      obtain ⟨pattern, hpattern, hfaithful, hleft⟩ := served.faithful index caller hcaller
      obtain ⟨hsound, hnext, hless⟩ := served.sound.advance hfaithful
      rw [step_of_some compile hcaller]
      refine ⟨hsound, (List.length_set ..).trans served.length_eq, ?_⟩
      intro other lookup hlookup
      by_cases hother : index = other
      · obtain rfl := hother
        obtain ⟨hbound, -⟩ := List.getElem?_eq_some_iff.mp hcaller
        rw [List.getElem?_set_self hbound] at hlookup
        obtain rfl := Option.some.inj hlookup
        refine ⟨pattern, hpattern, hnext, ?_⟩
        rw [List.count_append, List.count_singleton_self]
        omega
      · rw [List.getElem?_set_ne hother] at hlookup
        rw [hcount other hother]
        exact served.faithful other lookup hlookup

theorem served_run (compile : String → Option α) (patterns : List String) (indices : List Nat) :
    Served compile patterns indices (run compile (start patterns) indices) := by
  induction indices using List.reverseRecOn with
  | nil => exact served_start compile patterns
  | append_singleton indices index ih =>
      rw [run, List.foldl_append]
      exact ih.step index

theorem Served.eq_of_answered (served : Served compile patterns indices shared) {index : Nat}
    {result : Option α} (answer : shared.callers[index]? = some (.answered pattern result)) :
    patterns[index]? = some pattern ∧ result = compile pattern := by
  obtain ⟨own, hown, hfaithful, -⟩ := served.faithful index _ answer
  obtain ⟨rfl, hresult⟩ := hfaithful.of_answered
  exact ⟨hown, hresult⟩

theorem Served.answered_of_two_le (served : Served compile patterns indices shared) {index : Nat}
    (asked : patterns[index]? = some pattern) (twice : 2 ≤ indices.count index) :
    shared.callers[index]? = some (.answered pattern (compile pattern)) := by
  obtain ⟨hbound, -⟩ := List.getElem?_eq_some_iff.mp asked
  rw [← served.length_eq] at hbound
  obtain ⟨own, hown, hfaithful, hleft⟩ :=
    served.faithful index _ (List.getElem?_eq_getElem hbound)
  obtain rfl : own = pattern := Option.some.inj (hown.symm.trans asked)
  have hdone : shared.callers[index].sectionsLeft = 0 := by omega
  rw [List.getElem?_eq_getElem hbound, hfaithful.eq_answered hdone]

/-- With patterns compiled as those of conditions are, an answer decides whether the pattern occurs
in a subject as compiling it anew does. -/
theorem Served.any_occursIn_eq_found {shared : Shared Pattern}
    (served : Served compile? patterns indices shared) {index : Nat} {result : Option Pattern}
    (answer : shared.callers[index]? = some (.answered pattern result)) (subject : String) :
    (result.any fun compiled => compiled.occursIn subject.toList) = found pattern subject := by
  obtain ⟨-, rfl⟩ := served.eq_of_answered answer
  rfl

/-- Callers that share a cache, in whatever order their sections follow each other, are answered
with what compiling their own pattern gives, by their second section at the latest.  The cache keeps
nothing else, and no more than 512 patterns. -/
theorem run_answers (compile : String → Option α) (patterns : List String) (indices : List Nat) :
    (∀ (index : Nat) pattern result,
      (run compile (start patterns) indices).callers[index]? = some (.answered pattern result) →
        patterns[index]? = some pattern ∧ result = compile pattern) ∧
    (∀ (index : Nat) pattern, patterns[index]? = some pattern → 2 ≤ indices.count index →
      (run compile (start patterns) indices).callers[index]? =
        some (.answered pattern (compile pattern))) ∧
    (∀ entry ∈ (run compile (start patterns) indices).cache.entries, entry.2 = compile entry.1) ∧
    ((run compile (start patterns) indices).cache.entries.map Prod.fst).Nodup ∧
    (run compile (start patterns) indices).cache.entries.length ≤ 512 := by
  have served := served_run compile patterns indices
  exact ⟨fun _ _ _ => served.eq_of_answered, fun _ _ => served.answered_of_two_le,
    served.sound.right, served.sound.distinct, served.sound.bounded⟩

def partLength (pattern : String) : Option Nat :=
  if pattern = "(" then none else some pattern.length

/-- Two callers miss the same pattern before either of them puts it in, and a third one has its
sections in between. -/
theorem run_answers_afterRace :
    (run partLength (start ["(", "(", "ab"]) [0, 1]).callers =
        [.missed "(" none, .missed "(" none, .asked "ab"] ∧
      (∀ index < 3, 2 ≤ [0, 1, 2, 1, 2, 0].count index) ∧
      (run partLength (start ["(", "(", "ab"]) [0, 1, 2, 1, 2, 0]).callers =
        [.answered "(" none, .answered "(" none, .answered "ab" (some 2)] ∧
      (run partLength (start ["(", "(", "ab"]) [0, 1, 2, 1, 2, 0]).cache.entries =
        [("(", none), ("ab", some 2)] := by
  have twice : ∀ index < 3, 2 ≤ [0, 1, 2, 1, 2, 0].count index := by decide
  obtain ⟨-, hanswers, -⟩ := run_answers partLength ["(", "(", "ab"] [0, 1, 2, 1, 2, 0]
  have hfirst := hanswers 0 "(" rfl (twice 0 (by decide))
  have hsecond := hanswers 1 "(" rfl (twice 1 (by decide))
  have hthird := hanswers 2 "ab" rfl (twice 2 (by decide))
  refine ⟨rfl, twice, List.ext_getElem? fun index => ?_, rfl⟩
  match index with
  | 0 => exact hfirst
  | 1 => exact hsecond
  | 2 => exact hthird
  | index + 3 => rfl

end Shared

end Verdict.Pattern.Cache
