/-!
# Cutting texts at a character

`splitOnce?` cuts at the first separator, `split` at every one of them: a text with `n` separators
has `n + 1` parts.
-/

namespace DocStore.Text

/-- The part before the first `sep` and all that follows it. -/
def cut? (sep : Char) : List Char → Option (List Char × List Char)
  | [] => none
  | c :: rest =>
    if c = sep then some ([], rest)
    else (cut? sep rest).map fun (before, after) => (c :: before, after)

/-- All parts between separators, empty ones included. -/
def parts (sep : Char) : List Char → List (List Char)
  | [] => [[]]
  | c :: rest =>
    if c = sep then [] :: parts sep rest
    else match parts sep rest with
      | part :: more => (c :: part) :: more
      | [] => [[c]]

def splitOnce? (sep : Char) (text : String) : Option (String × String) :=
  (cut? sep text.toList).map fun (before, after) => (String.ofList before, String.ofList after)

def split (sep : Char) (text : String) : List String :=
  (parts sep text.toList).map String.ofList

def contains (text : String) (c : Char) : Bool := text.toList.contains c

def startsWith (text : String) (c : Char) : Bool := text.toList.head? == some c

theorem append_of_cut? {sep : Char} {text before after : List Char}
    (h : cut? sep text = some (before, after)) : text = before ++ sep :: after := by
  induction text generalizing before with
  | nil => simp [cut?] at h
  | cons c rest ih =>
    unfold cut? at h
    split at h
    · rename_i hc
      simp only [Option.some.injEq, Prod.mk.injEq] at h
      simp [← h.1, ← h.2, hc]
    · obtain ⟨⟨b, a⟩, hcut, heq⟩ := Option.map_eq_some_iff.1 h
      simp only [Prod.mk.injEq] at heq
      obtain ⟨rfl, rfl⟩ := heq
      rw [ih hcut, List.cons_append]

theorem not_mem_of_cut? {sep : Char} {text before after : List Char}
    (h : cut? sep text = some (before, after)) : sep ∉ before := by
  induction text generalizing before with
  | nil => simp [cut?] at h
  | cons c rest ih =>
    unfold cut? at h
    split at h
    · simp only [Option.some.injEq, Prod.mk.injEq] at h
      simp [← h.1]
    · rename_i hc
      obtain ⟨⟨b, a⟩, hcut, heq⟩ := Option.map_eq_some_iff.1 h
      simp only [Prod.mk.injEq] at heq
      obtain ⟨rfl, rfl⟩ := heq
      exact fun hm => (List.mem_cons.1 hm).elim (fun he => hc he.symm) (ih hcut)

theorem cut?_eq_none_iff {sep : Char} {text : List Char} :
    cut? sep text = none ↔ sep ∉ text := by
  induction text with
  | nil => simp [cut?]
  | cons c rest ih =>
    unfold cut?
    split
    · rename_i hc
      simp [hc]
    · rename_i hc
      simp [ih, Ne.symm hc]

theorem cut?_append {sep : Char} {before : List Char} (after : List Char) (h : sep ∉ before) :
    cut? sep (before ++ sep :: after) = some (before, after) := by
  induction before with
  | nil => simp [cut?]
  | cons c rest ih =>
    simp only [List.mem_cons, not_or] at h
    simp [cut?, Ne.symm h.1, ih h.2]

theorem parts_ne_nil (sep : Char) (text : List Char) : parts sep text ≠ [] := by
  cases text with
  | nil => simp [parts]
  | cons c rest =>
    unfold parts
    split
    · simp
    · split <;> simp

theorem parts_of_not_mem {sep : Char} {text : List Char} (h : sep ∉ text) :
    parts sep text = [text] := by
  induction text with
  | nil => rfl
  | cons c rest ih =>
    simp only [List.mem_cons, not_or] at h
    simp [parts, Ne.symm h.1, ih h.2]

theorem parts_append {sep : Char} {part : List Char} (rest : List Char) (h : sep ∉ part) :
    parts sep (part ++ sep :: rest) = part :: parts sep rest := by
  induction part with
  | nil => simp [parts]
  | cons c more ih =>
    simp only [List.mem_cons, not_or] at h
    simp [parts, Ne.symm h.1, ih h.2]

theorem not_mem_of_mem_parts {sep : Char} {text part : List Char} (h : part ∈ parts sep text) :
    sep ∉ part := by
  induction text generalizing part with
  | nil => simp_all [parts]
  | cons c rest ih =>
    unfold parts at h
    split at h
    · rcases List.mem_cons.1 h with rfl | hm
      · simp
      · exact ih hm
    · rename_i hc
      split at h
      · rename_i first more heq
        rcases List.mem_cons.1 h with rfl | hm
        · have hfirst : sep ∉ first := ih (heq ▸ List.mem_cons_self)
          exact fun hm => (List.mem_cons.1 hm).elim (fun he => hc he.symm) hfirst
        · exact ih (heq ▸ List.mem_cons_of_mem _ hm)
      · rename_i heq
        exact absurd heq (parts_ne_nil sep rest)

theorem splitOnce?_eq_some_iff {sep : Char} {text before after : String} :
    splitOnce? sep text = some (before, after) ↔
      text = before ++ String.singleton sep ++ after ∧ sep ∉ before.toList := by
  rw [splitOnce?, Option.map_eq_some_iff]
  constructor
  · rintro ⟨⟨front, back⟩, hcut, hparts⟩
    obtain ⟨rfl, rfl⟩ := Prod.mk.inj hparts
    constructor
    · rw [← String.toList_inj, append_of_cut? hcut]
      simp
    · rw [String.toList_ofList]
      exact not_mem_of_cut? hcut
  · rintro ⟨rfl, hbefore⟩
    refine ⟨(before.toList, after.toList), ?_, by simp⟩
    have htext : (before ++ String.singleton sep ++ after).toList =
        before.toList ++ sep :: after.toList := by simp
    rw [htext, cut?_append _ hbefore]

theorem splitOnce?_eq_none_iff {sep : Char} {text : String} :
    splitOnce? sep text = none ↔ sep ∉ text.toList := by
  rw [splitOnce?, Option.map_eq_none_iff, cut?_eq_none_iff]

/-- A text with a separator in it can be cut at the first one. -/
theorem exists_cut {sep : Char} {text : String} (h : sep ∈ text.toList) :
    ∃ before after, text = before ++ String.singleton sep ++ after ∧ sep ∉ before.toList := by
  obtain ⟨⟨before, after⟩, hcut⟩ :=
    Option.ne_none_iff_exists'.1 fun hnone => splitOnce?_eq_none_iff.1 hnone h
  exact ⟨before, after, splitOnce?_eq_some_iff.1 hcut⟩

/-! ## Parts that are joined -/

theorem intercalate_parts (sep : Char) (text : List Char) :
    [sep].intercalate (parts sep text) = text := by
  induction text with
  | nil => rfl
  | cons c rest ih =>
    obtain ⟨part, more, hparts⟩ := List.exists_cons_of_ne_nil (parts_ne_nil sep rest)
    rw [hparts] at ih
    by_cases hc : c = sep
    · simp [parts, hc, hparts, List.intercalate_cons_cons, ih]
    · cases more <;> simpa [parts, hc, hparts, List.intercalate_cons_cons] using ih

theorem parts_intercalate {sep : Char} {pieces : List (List Char)} (hne : pieces ≠ [])
    (hpieces : ∀ piece ∈ pieces, sep ∉ piece) : parts sep ([sep].intercalate pieces) = pieces := by
  induction pieces with
  | nil => exact absurd rfl hne
  | cons first rest ih =>
    obtain ⟨hfirst, hrest⟩ := List.forall_mem_cons.1 hpieces
    cases rest with
    | nil => rw [List.intercalate_singleton, parts_of_not_mem hfirst]
    | cons second more =>
      have htext : [sep].intercalate (first :: second :: more) =
          first ++ sep :: [sep].intercalate (second :: more) := by
        simp [List.intercalate_cons_cons]
      rw [htext, parts_append _ hfirst, ih (List.cons_ne_nil _ _) hrest]

/-- The text is these pieces with a separator between each and the next. -/
structure Separated (sep : Char) (pieces : List String) (text : String) : Prop where
  ne_nil : pieces ≠ []
  apart : ∀ piece ∈ pieces, sep ∉ piece.toList
  joined : text = (String.singleton sep).intercalate pieces

theorem split_eq_iff {sep : Char} {text : String} {pieces : List String} :
    split sep text = pieces ↔ Separated sep pieces text := by
  constructor
  · rintro rfl
    refine ⟨by simpa [split] using parts_ne_nil sep _, ?_, ?_⟩
    · intro piece hpiece
      obtain ⟨part, hpart, rfl⟩ := List.mem_map.1 hpiece
      rw [String.toList_ofList]
      exact not_mem_of_mem_parts hpart
    · rw [← String.toList_inj, String.toList_intercalate, String.toList_singleton, split,
        List.map_map]
      simp [intercalate_parts, Function.comp_def]
  · rintro ⟨hne, hapart, rfl⟩
    rw [split, String.toList_intercalate, String.toList_singleton, parts_intercalate]
    · simp [Function.comp_def]
    · simpa using hne
    · simpa using hapart

end DocStore.Text
