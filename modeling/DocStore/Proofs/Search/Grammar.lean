import DocStore.Proofs.Search.Clauses

/-!
# Which texts are read as clauses

A text is read as a clause exactly if it is blank or made of readable parts that are joined by `&`.
If it is not read, it is the first part that is not readable that is reported.
-/
namespace DocStore.Proofs.Search.Grammar

open Clause (isFieldChar parse parsePart)
open Clauses (exists_mapM_iff mapM_eq_error_iff)
open Text (Separated allBlank split_eq_iff trim trimEnd trimStart)

/-! ## Parts -/

/-- What can stand as the name of a field: letters, digits, underscores and dots, at least one. -/
def FieldName (name : String) : Prop := name ≠ "" ∧ ∀ c ∈ name.toList, isFieldChar c = true

instance (name : String) : Decidable (FieldName name) :=
  decidable_of_iff (name ≠ "" ∧ name.toList.all isFieldChar = true) (by simp [FieldName])

/-- Before the first equals sign stands the name of a field, with any white space around it, and
behind it something else than white space. -/
def Readable (part : String) : Prop :=
  ∃ before value, part = before ++ "=" ++ value ∧ '=' ∉ before.toList ∧
    FieldName (trim before) ∧ allBlank value = false

/-- Why a part is not readable. -/
inductive Refused : String → ClauseFault → Prop where
  | noEquals {part : String} : '=' ∉ part.toList → Refused part (.noEquals (trim part))
  | fieldName {before value : String} : '=' ∉ before.toList → ¬ FieldName (trim before) →
      Refused (before ++ "=" ++ value) (.fieldName (trim before))
  | noValue {before value : String} : '=' ∉ before.toList → FieldName (trim before) →
      allBlank value = true → Refused (before ++ "=" ++ value) (.noValue (trim before))

theorem not_fieldName_iff {name : String} :
    ¬ FieldName name ↔ name = "" ∨ (!name.toList.all isFieldChar) = true := by
  simp [FieldName, imp_iff_not_or]

theorem parsePart_of_notMem {part : String} (h : '=' ∉ part.toList) :
    parsePart part = .error (.noEquals (trim part)) := by
  obtain ⟨⟨front, back, -, -, htext⟩, -⟩ := Text.trim_spec part
  have htrim : '=' ∉ (trim part).toList := by
    intro hmem
    rw [htext] at h
    simp [hmem] at h
  unfold parsePart
  simp only [Text.splitOnce?_eq_none_iff.2 htrim]

/-- The first equals sign stays the first one when a part is trimmed. -/
theorem parsePart_cut {before : String} (value : String) (h : '=' ∉ before.toList) :
    parsePart (before ++ "=" ++ value) =
      if ¬ FieldName (trim before) then .error (.fieldName (trim before))
      else if allBlank value then .error (.noValue (trim before))
      else .ok (trim before, trimEnd value) := by
  obtain ⟨⟨front, -, hfront⟩, -⟩ := Text.trimStart_spec before
  have hstart : '=' ∉ (trimStart before).toList := by
    intro hmem
    rw [hfront] at h
    simp [hmem] at h
  have hcut : Text.splitOnce? '=' (trim (before ++ "=" ++ value)) =
      some (trimStart before, trimEnd value) := by
    rw [show "=" = String.singleton '=' from rfl, Text.splitOnce?_eq_some_iff]
    exact ⟨Text.trim_cut (by decide) before value, hstart⟩
  have hname : trim (trimStart before) = trim before := by
    rw [Text.trim_eq, Text.trim_eq, Text.trimStart_trimStart]
  unfold parsePart
  simp only [hcut, hname, Text.trimEnd_eq_empty_iff]
  exact if_congr not_fieldName_iff.symm rfl rfl

theorem readable_or_refused (part : String) : Readable part ∨ ∃ fault, Refused part fault := by
  by_cases hequals : '=' ∈ part.toList
  · obtain ⟨before, value, rfl, hbefore⟩ := Text.exists_cut hequals
    by_cases hname : FieldName (trim before)
    · cases hvalue : allBlank value with
      | true => exact .inr ⟨_, .noValue hbefore hname hvalue⟩
      | false => exact .inl ⟨before, value, rfl, hbefore, hname, hvalue⟩
    · exact .inr ⟨_, .fieldName hbefore hname⟩
  · exact .inr ⟨_, .noEquals hequals⟩

theorem parsePart_of_readable {part : String} (h : Readable part) :
    ∃ constraint, parsePart part = .ok constraint := by
  obtain ⟨before, value, rfl, hbefore, hname, hvalue⟩ := h
  rw [parsePart_cut value hbefore, if_neg (not_not.2 hname), if_neg (by simp [hvalue])]
  exact ⟨_, rfl⟩

theorem parsePart_of_refused {part : String} {fault : ClauseFault} (h : Refused part fault) :
    parsePart part = .error fault := by
  cases h with
  | noEquals hequals => exact parsePart_of_notMem hequals
  | fieldName hbefore hname => rw [parsePart_cut _ hbefore, if_pos hname]
  | noValue hbefore hname hvalue =>
    rw [parsePart_cut _ hbefore, if_neg (not_not.2 hname), if_pos hvalue]

theorem exists_parsePart_iff {part : String} :
    (∃ constraint, parsePart part = .ok constraint) ↔ Readable part := by
  refine ⟨?_, parsePart_of_readable⟩
  rintro ⟨constraint, hread⟩
  rcases readable_or_refused part with hreadable | ⟨fault, hrefused⟩
  · exact hreadable
  · cases hread.symm.trans (parsePart_of_refused hrefused)

theorem parsePart_eq_error_iff {part : String} {fault : ClauseFault} :
    parsePart part = .error fault ↔ Refused part fault := by
  refine ⟨fun hread => ?_, parsePart_of_refused⟩
  rcases readable_or_refused part with hreadable | ⟨other, hrefused⟩
  · obtain ⟨constraint, hok⟩ := parsePart_of_readable hreadable
    cases hread.symm.trans hok
  · cases hread.symm.trans (parsePart_of_refused hrefused)
    exact hrefused

/-! ## Texts -/

/-- A text of a clause is blank, or it is readable parts joined by `&`. -/
def InGrammar (text : String) : Prop :=
  allBlank text = true ∨ ∃ parts, Separated '&' parts text ∧ ∀ part ∈ parts, Readable part

/-- The first part that is not readable is so for this fault. -/
def FirstRefused (text : String) (fault : ClauseFault) : Prop :=
  ∃ earlier part later, Separated '&' (earlier ++ part :: later) text ∧
    (∀ other ∈ earlier, Readable other) ∧ Refused part fault

theorem parse_of_blank {text : String} (h : allBlank text = true) : parse text = .ok .empty :=
  if_pos h

theorem parse_of_not_blank {text : String} (h : allBlank text = false) :
    parse text = ((Text.split '&' text).mapM parsePart).map .ofPairs :=
  if_neg (by simp [h])

theorem exists_parse_iff {text : String} :
    (∃ clause, parse text = .ok clause) ↔ InGrammar text := by
  cases hblank : allBlank text with
  | true => exact iff_of_true ⟨_, parse_of_blank hblank⟩ (.inl hblank)
  | false =>
    have hparts : InGrammar text ↔ ∀ part ∈ Text.split '&' text, Readable part := by
      simp [InGrammar, hblank, ← split_eq_iff]
    rw [hparts, parse_of_not_blank hblank]
    simp only [map_eq_ok_iff, ← exists_parsePart_iff, ← exists_mapM_iff]
    exact ⟨fun ⟨_, pairs, hread, _⟩ => ⟨pairs, hread⟩, fun ⟨pairs, hread⟩ => ⟨_, pairs, hread, rfl⟩⟩

theorem parse_eq_error_iff {text : String} {fault : ClauseFault} :
    parse text = .error fault ↔ allBlank text = false ∧ FirstRefused text fault := by
  cases hblank : allBlank text with
  | true => simp [parse_of_blank hblank]
  | false =>
    rw [parse_of_not_blank hblank, map_eq_error_iff, mapM_eq_error_iff]
    simp only [split_eq_iff, exists_parsePart_iff, parsePart_eq_error_iff, FirstRefused, true_and]

/-- A text is read as a clause if it is in the grammar, and refused as an invalid clause otherwise.
Which fault is reported is decided by the first part that is not readable. -/
theorem parse_accepts_grammar (text : String) :
    ((∃ clause, parse text = .ok clause) ↔ InGrammar text) ∧
    ((∃ fault, (parse text).mapError Error.invalidClause = .error (.invalidClause fault)) ↔
      ¬ InGrammar text) ∧
    ∀ fault, parse text = .error fault ↔ allBlank text = false ∧ FirstRefused text fault := by
  refine ⟨exists_parse_iff, ?_, fun _ => parse_eq_error_iff⟩
  rw [← exists_parse_iff]
  cases parse text <;> simp [Except.mapError]

/-- A separator at the end leaves an empty part behind it. -/
example : parse "role=admin&" = .error (.noEquals "") := rfl

end DocStore.Proofs.Search.Grammar
