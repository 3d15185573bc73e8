import Verdict.Proofs.Decision.Totality
import Mathlib.Data.List.Induction
import Mathlib.Order.Lattice
import Mathlib.Tactic.Common

/-!
# The first of the greatest entries

What `Tally.first` holds is at any time the first of the greatest entries so far
(`Tally.FirstGreatest`).  No more is asked of the order than that the measures at hand can be
compared and comparisons can be chained, so this is about floats as well as about exact numbers.
-/

namespace Verdict.Tally

variable {α β γ : Type}

/-! ## Total orders -/

/-- Any two of the weights can be compared, and comparisons can be chained. -/
structure TotallyOrdered [LE α] (weights : List α) : Prop where
  total : ∀ a ∈ weights, ∀ b ∈ weights, a ≤ b ∨ b ≤ a
  trans : ∀ a ∈ weights, ∀ b ∈ weights, ∀ c ∈ weights, a ≤ b → b ≤ c → a ≤ c

theorem totallyOrdered_of_linearOrder [LinearOrder α] (weights : List α) :
    TotallyOrdered weights where
  total := fun a _ b _ => le_total a b
  trans := fun _ _ _ _ _ _ => le_trans

theorem TotallyOrdered.of_subset [LE α] {weights fewer : List α} (ordered : TotallyOrdered weights)
    (subset : fewer ⊆ weights) : TotallyOrdered fewer where
  total := fun a ha b hb => ordered.total a (subset ha) b (subset hb)
  trans := fun a ha b hb c hc => ordered.trans a (subset ha) b (subset hb) c (subset hc)

/-! ## The first of the greatest entries -/

/-- The entry stands at the index, no entry is greater, and none that stands before it is as
great. -/
structure FirstGreatest [LE α] (measure : β → α) (entries : List β) (index : Nat) (entry : β) :
    Prop where
  found : entries[index]? = some entry
  greatest : ∀ other ∈ entries, measure other ≤ measure entry
  earliest : ∀ rival candidate, entries[rival]? = some candidate →
    (∀ other ∈ entries, measure other ≤ measure candidate) → index ≤ rival

namespace FirstGreatest

section

variable [LE α] {measure : β → α} {entries : List β} {index : Nat} {held last : β}

theorem mem (first : FirstGreatest measure entries index held) : held ∈ entries :=
  List.mem_of_getElem? first.found

theorem index_lt (first : FirstGreatest measure entries index held) : index < entries.length :=
  (List.getElem?_eq_some_iff.mp first.found).1

theorem unique {other : Nat} (first : FirstGreatest measure entries index held)
    (second : FirstGreatest measure entries other last) : index = other ∧ held = last := by
  have hindex : index = other :=
    Nat.le_antisymm (first.earliest other last second.found second.greatest)
      (second.earliest index held first.found first.greatest)
  refine ⟨hindex, Option.some.inj ?_⟩
  rw [← first.found, ← second.found, hindex]

theorem singleton (ordered : TotallyOrdered [measure last]) :
    FirstGreatest measure [last] 0 last where
  found := rfl
  greatest := by
    have hmem : measure last ∈ [measure last] := List.mem_cons_self
    exact List.forall_mem_singleton.mpr ((ordered.total _ hmem _ hmem).elim id id)
  earliest := fun _ _ _ _ => Nat.zero_le _

theorem append_of_le (first : FirstGreatest measure entries index held)
    (atMost : measure last ≤ measure held) :
    FirstGreatest measure (entries ++ [last]) index held where
  found := by rw [List.getElem?_append_left first.index_lt, first.found]
  greatest := List.forall_mem_append.mpr ⟨first.greatest, List.forall_mem_singleton.mpr atMost⟩
  earliest := by
    intro rival candidate hrival hgreatest
    by_cases hearlier : rival < entries.length
    · rw [List.getElem?_append_left hearlier] at hrival
      exact first.earliest rival candidate hrival (List.forall_mem_append.mp hgreatest).1
    · have := first.index_lt
      omega

theorem append_of_not_le (first : FirstGreatest measure entries index held)
    (ordered : TotallyOrdered ((entries ++ [last]).map measure))
    (greater : ¬ measure last ≤ measure held) :
    FirstGreatest measure (entries ++ [last]) entries.length last := by
  have hmeasure {entry : β} (hentry : entry ∈ entries) :
      measure entry ∈ (entries ++ [last]).map measure :=
    List.mem_map_of_mem (List.mem_append_left [last] hentry)
  have hlast : measure last ∈ (entries ++ [last]).map measure :=
    List.mem_map_of_mem (List.mem_append_right entries List.mem_cons_self)
  have hle : measure held ≤ measure last :=
    (ordered.total _ (hmeasure first.mem) _ hlast).resolve_right greater
  refine ⟨List.getElem?_concat_length, List.forall_mem_append.mpr ⟨?_, ?_⟩, ?_⟩
  · intro entry hentry
    exact ordered.trans _ (hmeasure hentry) _ (hmeasure first.mem) _ hlast
      (first.greatest entry hentry) hle
  · exact List.forall_mem_singleton.mpr ((ordered.total _ hlast _ hlast).elim id id)
  · intro rival candidate hrival hgreatest
    by_contra hbefore
    rw [List.getElem?_append_left (Nat.not_le.mp hbefore)] at hrival
    have hcandidate := List.mem_of_getElem? hrival
    have hbelow : measure last ≤ measure candidate :=
      (List.forall_mem_append.mp hgreatest).2 last List.mem_cons_self
    exact greater (ordered.trans _ hlast _ (hmeasure hcandidate) _ (hmeasure first.mem) hbelow
      (first.greatest candidate hcandidate))

end

theorem of_map [LE α] {measure : β → α} {f : γ → β} {entries : List γ} {index : Nat} {image : β}
    (first : FirstGreatest measure (entries.map f) index image) :
    ∃ entry, f entry = image ∧
      FirstGreatest (fun entry => measure (f entry)) entries index entry := by
  have hfound := first.found
  rw [List.getElem?_map] at hfound
  obtain ⟨entry, hentry, rfl⟩ := Option.map_eq_some_iff.mp hfound
  refine ⟨entry, rfl, hentry, List.forall_mem_map.mp first.greatest, ?_⟩
  intro rival candidate hrival hgreatest
  refine first.earliest rival (f candidate) ?_ (List.forall_mem_map.mpr hgreatest)
  rw [List.getElem?_map, hrival, Option.map_some]

end FirstGreatest

/-! ## What is selected -/

variable [LE α] [DecidableLE α] {measure : β → α} {entries : List β}

theorem first_append_singleton (measure : β → α) (entries : List β) (entry : β) :
    first measure (entries ++ [entry]) =
      match first measure entries with
      | some held => if measure entry ≤ measure held then some held else some entry
      | none => some entry := by
  rw [first, List.foldl_append]
  rfl

/-- What is selected is the first of the greatest entries. -/
theorem exists_firstGreatest_of_first {best : β} (ordered : TotallyOrdered (entries.map measure))
    (found : first measure entries = some best) :
    ∃ index, FirstGreatest measure entries index best := by
  induction entries using List.reverseRecOn generalizing best with
  | nil => cases found
  | append_singleton earlier last ih =>
      rw [first_append_singleton] at found
      cases hearlier : first measure earlier with
      | none =>
          rw [hearlier] at found
          obtain rfl : earlier = [] := first_eq_none_iff.mp hearlier
          cases found
          exact ⟨0, .singleton ordered⟩
      | some held =>
          have hordered := ordered.of_subset
            (List.map_subset measure (List.subset_append_left earlier [last]))
          obtain ⟨index, hheld⟩ := ih hordered hearlier
          simp only [hearlier] at found
          by_cases hle : measure last ≤ measure held
          · rw [if_pos hle, Option.some.injEq] at found
            subst found
            exact ⟨index, hheld.append_of_le hle⟩
          · rw [if_neg hle, Option.some.injEq] at found
            subst found
            exact ⟨earlier.length, hheld.append_of_not_le ordered hle⟩

theorem exists_first (measure : β → α) (occupied : entries ≠ []) :
    ∃ best, first measure entries = some best := by
  apply Option.ne_none_iff_exists'.mp
  intro hnone
  exact occupied (first_eq_none_iff.mp hnone)

theorem exists_firstGreatest (occupied : entries ≠ [])
    (ordered : TotallyOrdered (entries.map measure)) :
    ∃ index best, FirstGreatest measure entries index best ∧
      first measure entries = some best := by
  obtain ⟨best, hbest⟩ := exists_first measure occupied
  obtain ⟨index, hfirst⟩ := exists_firstGreatest_of_first ordered hbest
  exact ⟨index, best, hfirst, hbest⟩

end Verdict.Tally
