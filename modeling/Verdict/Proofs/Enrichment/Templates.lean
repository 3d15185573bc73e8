import Verdict.Proofs.Enrichment.Requests
import Verdict.Proofs.Text.Blanks

/-!
# Texts with gaps

A `Template.Draft` is a text of literals and references in turn, and `Template.Filled` says what
becomes of it in a context.  Both are said without a scanner, which finds the references of a draft
and nothing else (`Template.parts_draft`) and never sees a value.
-/

namespace Verdict
namespace Template

/-! ## Drafts -/

/-- A text in which no reference can start.  It may have closing braces. -/
structure Literal where
  chars : List Char
  plain : '\x7b' ∉ chars

structure Reference where
  before : List Char
  path : List Char
  after : List Char
  blank_before : ∀ c ∈ before, Text.isBlank c = true
  path_ne_nil : path ≠ []
  path_chars : ∀ c ∈ path, isPathChar c = true
  blank_after : ∀ c ∈ after, Text.isBlank c = true

/-- A text that starts with a literal and goes on with references, each with the literal behind it.
Any of the literals may be empty. -/
structure Draft where
  opening : Literal
  gaps : List (Reference × Literal)

def Reference.text (reference : Reference) : List Char :=
  '\x7b' :: '\x7b' :: (reference.before ++ reference.path ++ reference.after ++ ['\x7d', '\x7d'])

namespace Draft

def gapsText (gaps : List (Reference × Literal)) : List Char :=
  gaps.flatMap fun (reference, literal) => reference.text ++ literal.chars

def text (draft : Draft) : String :=
  String.ofList (draft.opening.chars ++ gapsText draft.gaps)

def references (draft : Draft) : List Reference :=
  draft.gaps.map Prod.fst

def filledIn (draft : Draft) (texts : List String) : String :=
  String.ofList draft.opening.chars ++
    String.join (List.zipWith (fun text gap => text ++ String.ofList gap.2.chars) texts draft.gaps)

def sole (reference : Reference) : Draft :=
  ⟨⟨[], List.not_mem_nil⟩, [(reference, ⟨[], List.not_mem_nil⟩)]⟩

end Draft

/-! ## What becomes of a draft -/

def LeadsTo (context : Context) (reference : Reference) (value : Json) : Prop :=
  context.get? (String.ofList reference.path) = some value ∧ value ≠ .null

/-- A reference leads nowhere, or to `null`. -/
def Dangling (context : Context) (reference : Reference) : Prop :=
  context.get? (String.ofList reference.path) = none ∨
    context.get? (String.ofList reference.path) = some .null

/-- The text that stands for a value within another text: a text is taken as it is, and any other
value is written as compact JSON. -/
inductive StandsFor : String → Json → Prop where
  | text (text : String) : StandsFor text (.string text)
  | compact {value : Json} (other : value.string? = none) : StandsFor value.render value

/-- The values that drafts become in a context. -/
inductive Filled (context : Context) : Draft → Json → Prop where
  | value {draft : Draft} {reference : Reference} {value : Json} (only : draft = .sole reference)
      (found : LeadsTo context reference value) : Filled context draft value
  | text {draft : Draft} {values : List Json} {texts : List String}
      (mixed : ∀ reference, draft ≠ .sole reference)
      (found : List.Forall₂ (LeadsTo context) draft.references values)
      (shown : List.Forall₂ StandsFor texts values) :
      Filled context draft (.string (draft.filledIn texts))

/-! ## References -/

theorem length_trimStart_le (text : List Char) : (Text.trimStart text).length ≤ text.length :=
  (List.dropWhile_sublist _).length_le

theorem length_lt_of_reference? {text path rest : List Char}
    (h : reference? text = some (path, rest)) : rest.length < text.length := by
  unfold reference? at h
  split at h
  · next inner =>
    dsimp only at h
    split at h
    · cases h
    · split at h
      · next rest' hclosed =>
        cases h
        have hclosing := length_trimStart_le ((Text.trimStart inner).dropWhile isPathChar)
        have hpath := (List.dropWhile_sublist isPathChar (l := Text.trimStart inner)).length_le
        have hopening := length_trimStart_le inner
        rw [hclosed, List.length_cons, List.length_cons] at hclosing
        rw [List.length_cons, List.length_cons]
        omega
      · cases h
  · cases h

theorem reference?_of_ne {c : Char} (hc : c ≠ '\x7b') (rest : List Char) :
    reference? (c :: rest) = none := by
  unfold reference?
  split
  · next heq => exact absurd (List.cons.inj heq).1 hc
  · rfl

theorem not_isPathChar_of_isBlank {c : Char} (h : Text.isBlank c = true) :
    isPathChar c = false := by
  rw [isPathChar, h, Bool.not_true, Bool.and_false]

theorem Reference.unbroken_path (reference : Reference) : Text.Unbroken reference.path := by
  refine ⟨reference.path_ne_nil, ?_⟩
  intro c hc
  apply eq_false_of_ne_true
  intro hblank
  have hpath := reference.path_chars c hc
  rw [not_isPathChar_of_isBlank hblank] at hpath
  exact Bool.false_ne_true hpath

theorem Reference.exists_end (reference : Reference) (rest : List Char) :
    ∃ c others, reference.after ++ '\x7d' :: '\x7d' :: rest = c :: others ∧
      isPathChar c = false := by
  cases hafter : reference.after with
  | nil => exact ⟨'\x7d', '\x7d' :: rest, rfl, by decide⟩
  | cons c others =>
      refine ⟨c, others ++ '\x7d' :: '\x7d' :: rest, rfl, ?_⟩
      exact not_isPathChar_of_isBlank (reference.blank_after c (hafter ▸ List.mem_cons_self))

theorem Reference.reference?_text (reference : Reference) (rest : List Char) :
    reference? (reference.text ++ rest) = some (reference.path, rest) := by
  let closing := reference.after ++ '\x7d' :: '\x7d' :: rest
  have htext : reference.text ++ rest =
      '\x7b' :: '\x7b' :: (reference.before ++ (reference.path ++ closing)) := by
    simp [Reference.text, closing]
  have hopening : Text.trimStart (reference.before ++ (reference.path ++ closing)) =
      reference.path ++ closing := by
    rw [Text.trimStart, List.dropWhile_append_of_pos reference.blank_before]
    exact reference.unbroken_path.trimStart_append closing
  obtain ⟨c, others, (hclosing : closing = c :: others), hend⟩ := reference.exists_end rest
  have hpath : (reference.path ++ closing).takeWhile isPathChar = reference.path := by
    rw [List.takeWhile_append_of_pos reference.path_chars, hclosing,
      List.takeWhile_cons_of_neg (ne_true_of_eq_false hend), List.append_nil]
  have hrest : (reference.path ++ closing).dropWhile isPathChar = closing := by
    rw [List.dropWhile_append_of_pos reference.path_chars, hclosing,
      List.dropWhile_cons_of_neg (ne_true_of_eq_false hend)]
  have hbraces : Text.trimStart closing = '\x7d' :: '\x7d' :: rest := by
    rw [Text.trimStart, List.dropWhile_append_of_pos reference.blank_after]
    exact Text.trimStart_cons_of_not_isBlank (by decide)
  have hsome : reference.path.isEmpty = false := List.isEmpty_eq_false_iff.mpr reference.path_ne_nil
  rw [htext, reference?, hopening, hpath, hrest, hbraces, hsome]
  rfl

/-! ## Scanning -/

theorem partsLoop_nil (fuel : Nat) : partsLoop fuel [] = [] := by
  cases fuel <;> rfl

theorem partsLoop_eq_partsLoop {fuel fuel' : Nat} {text : List Char} (h : text.length ≤ fuel)
    (h' : text.length ≤ fuel') : partsLoop fuel text = partsLoop fuel' text := by
  induction fuel generalizing fuel' text with
  | zero =>
      rw [List.length_eq_zero_iff.mp (Nat.le_zero.mp h), partsLoop_nil, partsLoop_nil]
  | succ fuel ih =>
      cases text with
      | nil => rw [partsLoop_nil, partsLoop_nil]
      | cons c text =>
          obtain ⟨fuel', rfl⟩ := Nat.exists_eq_succ_of_ne_zero (Nat.ne_zero_of_lt h')
          have hle : text.length ≤ fuel := Nat.le_of_succ_le_succ h
          have hle' : text.length ≤ fuel' := Nat.le_of_succ_le_succ h'
          rw [partsLoop, partsLoop]
          split
          · next path rest hreference =>
            have hshorter : rest.length ≤ text.length :=
              Nat.lt_succ_iff.mp (length_lt_of_reference? hreference)
            rw [ih (Nat.le_trans hshorter hle) (Nat.le_trans hshorter hle')]
          · rw [ih hle hle']

theorem parts_cons_of_reference? {c : Char} {text path rest : List Char}
    (h : reference? (c :: text) = some (path, rest)) :
    parts (c :: text) = .reference path :: parts rest := by
  have hlength : rest.length ≤ text.length := Nat.lt_succ_iff.mp (length_lt_of_reference? h)
  rw [parts, List.length_cons, partsLoop, h]
  dsimp only
  rw [partsLoop_eq_partsLoop hlength (Nat.le_refl _), parts]

theorem parts_cons_of_ne {c : Char} (hc : c ≠ '\x7b') (text : List Char) :
    parts (c :: text) = prepend c (parts text) := by
  rw [parts, List.length_cons, partsLoop, reference?_of_ne hc]
  rfl

theorem parts_literal (literal : Literal) (rest : List Char) :
    parts (literal.chars ++ rest) = literal.chars.foldr prepend (parts rest) := by
  obtain ⟨chars, plain⟩ := literal
  induction chars with
  | nil => rfl
  | cons c chars ih =>
      have hc : c ≠ '\x7b' := fun heq => plain (heq ▸ List.mem_cons_self)
      have hrest := ih fun hmem => plain (List.mem_cons_of_mem c hmem)
      rw [List.cons_append, parts_cons_of_ne hc, hrest, List.foldr_cons]

theorem parts_reference (reference : Reference) (rest : List Char) :
    parts (reference.text ++ rest) = .reference reference.path :: parts rest :=
  parts_cons_of_reference? (reference.reference?_text rest)

namespace Draft

def gapsParts (gaps : List (Reference × Literal)) : List Part :=
  gaps.foldr
    (fun (reference, literal) rest => .reference reference.path :: literal.chars.foldr prepend rest)
    []

def parts (draft : Draft) : List Part :=
  draft.opening.chars.foldr prepend (gapsParts draft.gaps)

end Draft

theorem parts_gapsText (gaps : List (Reference × Literal)) :
    parts (Draft.gapsText gaps) = Draft.gapsParts gaps := by
  induction gaps with
  | nil => rfl
  | cons gap rest ih =>
      obtain ⟨reference, literal⟩ := gap
      have htext : Draft.gapsText ((reference, literal) :: rest) =
          reference.text ++ (literal.chars ++ Draft.gapsText rest) := List.append_assoc _ _ _
      rw [htext, parts_reference, parts_literal, ih]
      rfl

/-- The scanner finds the references of a draft and nothing else. -/
theorem parts_draft (draft : Draft) : parts draft.text.toList = draft.parts := by
  rw [Draft.text, String.toList_ofList, parts_literal, parts_gapsText, Draft.parts]

/-! ## Filling in -/

theorem resolve_eq_some_iff {context : Context} {reference : Reference} {value : Json} :
    resolve context reference.path = some value ↔ LeadsTo context reference value := by
  rw [resolve, Option.filter_eq_some_iff, LeadsTo]
  cases value <;> simp [Json.isNull]

theorem resolve_eq_none_iff {context : Context} {reference : Reference} :
    resolve context reference.path = none ↔ Dangling context reference := by
  rw [resolve, Option.filter_eq_none_iff, Dangling]
  cases context.get? (String.ofList reference.path) with
  | none => simp
  | some value => cases value <;> simp [Json.isNull]

theorem standsFor_iff {text : String} {value : Json} :
    StandsFor text value ↔ text = textOf value := by
  constructor
  · intro h
    cases h with
    | text => rfl
    | compact other =>
        cases value with
        | string text => cases other
        | _ => rfl
  · rintro rfl
    cases value with
    | string text => exact .text text
    | _ => exact .compact rfl

theorem forall₂_standsFor_iff {texts : List String} {values : List Json} :
    List.Forall₂ StandsFor texts values ↔ texts = values.map textOf := by
  have hrelation : StandsFor = fun text value => text = textOf value :=
    funext₂ fun _ _ => propext standsFor_iff
  rw [hrelation, ← List.forall₂_map_right_iff, List.forall₂_eq_eq_eq]

theorem fillParts_prepend (context : Context) (c : Char) (rest : List Part) :
    fillParts context (prepend c rest) =
      (fillParts context rest).map (String.singleton c ++ ·) := by
  cases rest with
  | nil => rfl
  | cons part rest =>
      cases part with
      | plain text =>
          rw [prepend, fillParts, fillParts, Option.map_map, String.ofList_cons]
          congr 1
          funext filled
          exact String.append_assoc
      | reference path => rfl

theorem fillParts_foldr_prepend (context : Context) (chars : List Char) (rest : List Part) :
    fillParts context (chars.foldr prepend rest) =
      (fillParts context rest).map (String.ofList chars ++ ·) := by
  induction chars with
  | nil =>
      have hnothing : (String.ofList [] ++ ·) = id := funext fun _ => String.empty_append
      rw [hnothing, Option.map_id]
      rfl
  | cons c chars ih =>
      rw [List.foldr_cons, fillParts_prepend, ih, Option.map_map, String.ofList_cons]
      congr 1
      funext filled
      exact String.append_assoc.symm

theorem fillParts_gapsParts (context : Context) (gaps : List (Reference × Literal)) :
    fillParts context (Draft.gapsParts gaps) =
      ((gaps.map Prod.fst).mapM fun reference => resolve context reference.path).map fun values =>
        String.join (List.zipWith (fun text gap => text ++ String.ofList gap.2.chars)
          (values.map textOf) gaps) := by
  induction gaps with
  | nil => rfl
  | cons gap rest ih =>
      obtain ⟨reference, literal⟩ := gap
      have hgap : fillParts context (Draft.gapsParts ((reference, literal) :: rest)) =
          (resolve context reference.path).bind fun value =>
            (fillParts context (literal.chars.foldr prepend (Draft.gapsParts rest))).map
              (textOf value ++ ·) := rfl
      rw [hgap, fillParts_foldr_prepend, ih, List.map_cons, List.mapM_cons]
      cases resolve context reference.path with
      | none => rfl
      | some value =>
          cases (rest.map Prod.fst).mapM fun reference => resolve context reference.path with
          | none => rfl
          | some values => simp [String.append_assoc]

theorem fillParts_draft (context : Context) (draft : Draft) :
    fillParts context draft.parts =
      (draft.references.mapM fun reference => resolve context reference.path).map fun values =>
        draft.filledIn (values.map textOf) := by
  rw [Draft.parts, fillParts_foldr_prepend, fillParts_gapsParts, Option.map_map]
  rfl

theorem fill_sole (context : Context) (reference : Reference) :
    fill context (.string (Draft.sole reference).text) = resolve context reference.path := by
  rw [fill, parts_draft]
  rfl

theorem exists_plain {chars : List Char} (h : chars ≠ []) (rest : List Part) :
    ∃ text others, chars.foldr prepend rest = .plain text :: others := by
  obtain ⟨c, chars, rfl⟩ := List.exists_cons_of_ne_nil h
  rw [List.foldr_cons]
  unfold prepend
  split
  · exact ⟨_, _, rfl⟩
  · exact ⟨_, _, rfl⟩

theorem Draft.exists_eq_sole {draft : Draft} {path : List Char}
    (h : draft.parts = [.reference path]) : ∃ reference, draft = .sole reference := by
  obtain ⟨⟨opening, hopening⟩, gaps⟩ := draft
  have hstart : opening = [] := by
    by_contra hne
    obtain ⟨text, others, hplain⟩ := exists_plain hne (gapsParts gaps)
    rw [Draft.parts, hplain] at h
    cases h
  subst hstart
  cases gaps with
  | nil => cases h
  | cons gap rest =>
      obtain ⟨reference, ⟨chars, hchars⟩⟩ := gap
      have hbehind : chars.foldr prepend (gapsParts rest) = [] := (List.cons.inj h).2
      have hend : chars = [] := by
        by_contra hne
        obtain ⟨text, others, hplain⟩ := exists_plain hne (gapsParts rest)
        rw [hplain] at hbehind
        cases hbehind
      subst hend
      cases rest with
      | nil => exact ⟨reference, rfl⟩
      | cons next others => cases hbehind

theorem fill_mixed (context : Context) {draft : Draft}
    (mixed : ∀ reference, draft ≠ .sole reference) :
    fill context (.string draft.text) =
      (draft.references.mapM fun reference => resolve context reference.path).map fun values =>
        .string (draft.filledIn (values.map textOf)) := by
  have hpieces : fill context (.string draft.text) =
      (fillParts context draft.parts).map .string := by
    rw [fill, parts_draft]
    split
    · next path hparts =>
      obtain ⟨reference, hsole⟩ := Draft.exists_eq_sole hparts
      exact absurd hsole (mixed reference)
    · rfl
  rw [hpieces, fillParts_draft, Option.map_map]
  rfl

theorem mapM_resolve_eq_some_iff {context : Context} {references : List Reference}
    {values : List Json} :
    references.mapM (fun reference => resolve context reference.path) = some values ↔
      List.Forall₂ (LeadsTo context) references values := by
  simp only [mapM_eq_some_iff, resolve_eq_some_iff]

theorem mapM_resolve_eq_none_iff {context : Context} {references : List Reference} :
    references.mapM (fun reference => resolve context reference.path) = none ↔
      ∃ reference ∈ references, Dangling context reference := by
  rw [← Option.not_isSome_iff_eq_none, isSome_mapM_iff]
  simp only [← resolve_eq_none_iff, ← Option.not_isSome_iff_eq_none]
  push Not
  rfl

/-- A draft that is nothing but a reference becomes the value that this leads to.  Any other draft
becomes a text, and nothing in the texts of its values is taken for a reference.  A draft with a
dangling reference becomes nothing. -/
theorem fill_draft (context : Context) (draft : Draft) :
    (fill context (.string draft.text) = none ↔
        ∃ reference ∈ draft.references, Dangling context reference) ∧
      ∀ value, fill context (.string draft.text) = some value ↔ Filled context draft value := by
  by_cases hsole : ∃ reference, draft = .sole reference
  · obtain ⟨reference, rfl⟩ := hsole
    rw [fill_sole, resolve_eq_none_iff]
    constructor
    · simp [Draft.references, Draft.sole]
    · intro value
      rw [resolve_eq_some_iff]
      constructor
      · intro found
        exact .value rfl found
      · intro h
        cases h with
        | value only found =>
            cases only
            exact found
        | text mixed => exact absurd rfl (mixed reference)
  · have mixed : ∀ reference, draft ≠ .sole reference := fun reference heq => hsole ⟨reference, heq⟩
    rw [fill_mixed context mixed, Option.map_eq_none_iff, mapM_resolve_eq_none_iff]
    refine ⟨Iff.rfl, ?_⟩
    intro value
    rw [Option.map_eq_some_iff]
    constructor
    · rintro ⟨values, hvalues, rfl⟩
      exact .text mixed (mapM_resolve_eq_some_iff.mp hvalues) (forall₂_standsFor_iff.mpr rfl)
    · intro h
      cases h with
      | value only => exact absurd only (mixed _)
      | text _ found shown =>
          rw [forall₂_standsFor_iff.mp shown]
          exact ⟨_, mapM_resolve_eq_some_iff.mpr found, rfl⟩

example :
    let context := Context.ofObject
      [("name", .string "\x7b\x7bteam\x7d\x7d"), ("team", .object [("size", .ofInt 3)])]
    fill context (.string "\x7b\x7b name \x7d\x7d of \x7b\x7bteam\x7d\x7d") =
      some (.string "\x7b\x7bteam\x7d\x7d of \x7b\"size\":3\x7d") := by
  cbv

end Template
end Verdict
