/-!
# Fields

A list of named values in increasing order of name, each name at most once.  The order of names is
the order of their code points, which is also the byte order of their UTF-8 encoding.
-/

namespace Verdict

/-- Named values; the invariant `Fields.Sorted` is kept by every operation below. -/
abbrev Fields (α : Type) := List (String × α)

namespace Fields

variable {α β : Type}

def names (fields : Fields α) : List String :=
  fields.map Prod.fst

/-- The names increase strictly, so none occurs twice. -/
def Sorted (fields : Fields α) : Prop :=
  fields.Pairwise fun a b => a.1 < b.1

def get? (fields : Fields α) (name : String) : Option α :=
  match fields with
  | [] => none
  | (key, value) :: rest => if key = name then some value else get? rest name

def contains (fields : Fields α) (name : String) : Bool :=
  (fields.get? name).isSome

/-- Stores a value under a name, replacing the value that was there. -/
def insert (fields : Fields α) (name : String) (value : α) : Fields α :=
  match fields with
  | [] => [(name, value)]
  | (key, old) :: rest =>
    if name = key then (name, value) :: rest
    else if name < key then (name, value) :: (key, old) :: rest
    else (key, old) :: insert rest name value

/-- Collects pairs in the order given; of several values under one name the last one stays. -/
def ofList (pairs : List (String × α)) : Fields α :=
  pairs.foldl (fun fields pair => fields.insert pair.1 pair.2) []

/-! ## Laws -/

@[simp]
theorem get?_nil (name : String) : get? ([] : Fields α) name = none := rfl

theorem get?_cons (key name : String) (value : α) (rest : Fields α) :
    get? ((key, value) :: rest) name = if key = name then some value else get? rest name := rfl

theorem get?_insert_self (fields : Fields α) (name : String) (value : α) :
    (fields.insert name value).get? name = some value := by
  induction fields with
  | nil => simp [insert, get?]
  | cons entry rest ih =>
    obtain ⟨key, old⟩ := entry
    unfold insert
    split
    · simp [get?]
    · rename_i hne
      split
      · simp [get?]
      · simp [get?, Ne.symm hne, ih]

theorem get?_insert_of_ne (fields : Fields α) {name other : String} (value : α)
    (h : other ≠ name) : (fields.insert name value).get? other = fields.get? other := by
  induction fields with
  | nil => simp [insert, get?, Ne.symm h]
  | cons entry rest ih =>
    obtain ⟨key, old⟩ := entry
    unfold insert
    split
    · rename_i heq
      subst heq
      simp [get?, Ne.symm h]
    · split
      · simp [get?, Ne.symm h]
      · simp [get?, ih]

theorem mem_names_insert (fields : Fields α) (name other : String) (value : α) :
    other ∈ (fields.insert name value).names ↔ other = name ∨ other ∈ fields.names := by
  induction fields with
  | nil => simp [insert, names]
  | cons entry rest ih =>
    obtain ⟨key, old⟩ := entry
    unfold insert
    split
    · rename_i heq
      subst heq
      simp [names]
    · split
      · simp [names]
      · simp only [names, List.map_cons, List.mem_cons] at ih ⊢
        rw [ih]
        exact or_left_comm

theorem sorted_insert {fields : Fields α} (h : fields.Sorted) (name : String) (value : α) :
    (fields.insert name value).Sorted := by
  induction fields with
  | nil => simp [insert, Sorted]
  | cons entry rest ih =>
    obtain ⟨key, old⟩ := entry
    have hrest : Sorted rest := (List.pairwise_cons.mp h).2
    have hkey : ∀ pair ∈ rest, key < pair.1 := (List.pairwise_cons.mp h).1
    unfold insert
    split
    · rename_i heq
      subst heq
      exact List.pairwise_cons.mpr ⟨hkey, hrest⟩
    · rename_i hne
      split
      · rename_i hlt
        refine List.pairwise_cons.mpr ⟨?_, h⟩
        intro pair hpair
        rcases List.mem_cons.mp hpair with rfl | hpair
        · exact hlt
        · exact String.lt_trans hlt (hkey pair hpair)
      · rename_i hnlt
        have hgt : key < name := by
          rcases String.le_total name key with hle | hle
          · exact absurd (String.le_antisymm hle (String.not_lt.mp hnlt)) hne
          · exact String.not_le.mp fun hle' => hne (String.le_antisymm hle' hle)
        refine List.pairwise_cons.mpr ⟨?_, ih hrest⟩
        intro pair hpair
        have hmem : pair.1 ∈ (insert rest name value).names :=
          List.mem_map.mpr ⟨pair, hpair, rfl⟩
        rcases (mem_names_insert rest name pair.1 value).mp hmem with heq | hmem
        · exact heq ▸ hgt
        · obtain ⟨pair', hpair', heq⟩ := List.mem_map.mp hmem
          exact heq ▸ hkey pair' hpair'

theorem sorted_foldl_insert (pairs : List (String × α)) {fields : Fields α} (h : fields.Sorted) :
    (pairs.foldl (fun fields pair => fields.insert pair.1 pair.2) fields).Sorted := by
  induction pairs generalizing fields with
  | nil => exact h
  | cons pair rest ih => exact ih (sorted_insert h pair.1 pair.2)

/-- Whatever the order and repetition of the pairs, the result is in order. -/
theorem sorted_ofList (pairs : List (String × α)) : (ofList pairs).Sorted :=
  sorted_foldl_insert pairs List.Pairwise.nil

end Fields
end Verdict
