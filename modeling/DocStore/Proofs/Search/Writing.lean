import DocStore.Proofs.Search.Grammar
import DocStore.Proofs.Search.Insertions

/-!
# Clauses that are written down are read back

A constraint is written as `field=value`, with any white space before and behind it and around the
name of the field. White space at the beginning of a value belongs to the value, and so do equals
signs in it. A clause is written as its constraints, joined by `&`.
-/
namespace DocStore.Proofs.Search.Writing

open Clause (isFieldChar parse parsePart)
open Clauses (mapM_eq_ok_iff)
open Compile (constraints_ofPairs firstPer_of_nodup)
open Grammar (FieldName parsePart_cut parse_of_not_blank)
open Insertions (length_ofPairs)
open Text (EndsBare Separated allBlank isBlank notMem_of_allBlank split_eq_iff trim trimEnd)

/-- A constraint, and the white space that it is written with. -/
structure Spelling where
  field : String
  value : String
  /-- What stands before the name, and so before the whole constraint. -/
  leading : String
  /-- What stands between the name and the equals sign. -/
  inner : String
  trailing : String
  field_name : FieldName field
  value_ne : value ≠ ""
  value_apart : '&' ∉ value.toList
  value_bare : EndsBare value
  leading_blank : allBlank leading = true
  inner_blank : allBlank inner = true
  trailing_blank : allBlank trailing = true

namespace Spelling

def constraint (spelling : Spelling) : String × String := (spelling.field, spelling.value)

/-- The name, and what stands around it. -/
def name (spelling : Spelling) : String := spelling.leading ++ spelling.field ++ spelling.inner

def text (spelling : Spelling) : String :=
  spelling.name ++ "=" ++ spelling.value ++ spelling.trailing

end Spelling

/-- The constraints, joined by `&`. -/
def written (spellings : List Spelling) : String := "&".intercalate (spellings.map Spelling.text)

/-! ## One constraint -/

theorem isBlank_of_isFieldChar {c : Char} (h : isFieldChar c = true) : isBlank c = false := by
  simp only [isFieldChar, Bool.or_eq_true, beq_iff_eq] at h
  rcases h with (hletter | rfl) | rfl
  · exact Text.isBlank_of_isAlphanumeric hletter
  · decide
  · decide

theorem trim_name (spelling : Spelling) : trim spelling.name = spelling.field := by
  have hbare : ∀ c ∈ spelling.field.toList, isBlank c = false := fun c hc =>
    isBlank_of_isFieldChar (spelling.field_name.2 c hc)
  exact Text.trim_eq_iff.2 ⟨⟨_, _, spelling.leading_blank, spelling.inner_blank, rfl⟩,
    Text.startsBare_of_forall hbare, Text.endsBare_of_forall hbare⟩

theorem notMem_name (spelling : Spelling) {c : Char} (hblank : isBlank c = false)
    (hfield : isFieldChar c = false) : c ∉ spelling.name.toList := by
  have hleading := notMem_of_allBlank spelling.leading_blank hblank
  have hinner := notMem_of_allBlank spelling.inner_blank hblank
  have hname : c ∉ spelling.field.toList := by
    intro hmem
    rw [spelling.field_name.2 c hmem] at hfield
    cases hfield
  simp [Spelling.name, hleading, hinner, hname]

theorem text_apart (spelling : Spelling) : '&' ∉ spelling.text.toList := by
  have hname := notMem_name spelling (c := '&') (by decide) (by decide)
  have htrailing := notMem_of_allBlank spelling.trailing_blank (c := '&') (by decide)
  simp [Spelling.text, hname, spelling.value_apart, htrailing]

theorem not_allBlank_text (spelling : Spelling) : allBlank spelling.text = false := by
  rw [Bool.eq_false_iff]
  intro hblank
  exact notMem_of_allBlank hblank (c := '=') (by decide) (by simp [Spelling.text])

theorem parsePart_text (spelling : Spelling) :
    parsePart spelling.text = .ok spelling.constraint := by
  have hvalue : trimEnd (spelling.value ++ spelling.trailing) = spelling.value :=
    Text.trimEnd_eq_iff.2 ⟨⟨_, spelling.trailing_blank, rfl⟩, spelling.value_bare⟩
  have hsome : ¬ allBlank (spelling.value ++ spelling.trailing) = true := by
    rw [← Text.trimEnd_eq_empty_iff, hvalue]
    exact spelling.value_ne
  have hequals := notMem_name spelling (c := '=') (by decide) (by decide)
  rw [Spelling.text, String.append_assoc, parsePart_cut _ hequals, trim_name,
    if_neg (not_not.2 spelling.field_name), if_neg hsome, hvalue, Spelling.constraint]

/-! ## All constraints -/

theorem separated_written {spellings : List Spelling} (h : spellings ≠ []) :
    Separated '&' (spellings.map Spelling.text) (written spellings) where
  ne_nil := mt List.map_eq_nil_iff.1 h
  apart := List.forall_mem_map.2 fun spelling _ => text_apart spelling
  joined := rfl

theorem not_allBlank_written (first : Spelling) (more : List Spelling) :
    allBlank (written (first :: more)) = false := by
  obtain ⟨rest, hrest⟩ : ∃ rest, written (first :: more) = first.text ++ rest := by
    cases more with
    | nil => exact ⟨"", by simp [written]⟩
    | cons second more =>
      refine ⟨"&" ++ written (second :: more), ?_⟩
      simp [written, String.intercalate_cons_cons, String.append_assoc]
  rw [hrest, Bool.eq_false_iff]
  intro hblank
  exact absurd (Text.allBlank_append.1 hblank).1 (by simp [not_allBlank_text])

/-- Fields that differ are all constrained, and none is a duplicate. -/
theorem ofPairs_of_nodup {pairs : List (String × String)} (h : (pairs.map (·.1)).Nodup) :
    Clause.ofPairs pairs = ⟨pairs, []⟩ := by
  have hconstraints : (Clause.ofPairs pairs).constraints = pairs := by
    rw [constraints_ofPairs, firstPer_of_nodup h]
  have htotal := length_ofPairs pairs
  rw [hconstraints] at htotal
  have hduplicates : (Clause.ofPairs pairs).duplicates = [] := by
    rw [← List.length_eq_zero_iff]
    omega
  calc Clause.ofPairs pairs
      _ = ⟨(Clause.ofPairs pairs).constraints, (Clause.ofPairs pairs).duplicates⟩ := rfl
      _ = ⟨pairs, []⟩ := by rw [hconstraints, hduplicates]

/-- Constraints on different fields are read back as they were written down, in order and without
duplicates, whatever white space was put around them and around their names. -/
theorem parse_written {spellings : List Spelling}
    (hdistinct : (spellings.map Spelling.field).Nodup) :
    parse (written spellings) = .ok ⟨spellings.map Spelling.constraint, []⟩ := by
  cases spellings with
  | nil => rfl
  | cons first more =>
    have hsplit := split_eq_iff.2 (separated_written (List.cons_ne_nil first more))
    have hread : ((first :: more).map Spelling.text).mapM parsePart =
        .ok ((first :: more).map Spelling.constraint) := by
      rw [mapM_eq_ok_iff, List.forall₂_map_left_iff, List.forall₂_map_right_iff, List.forall₂_same]
      exact fun spelling _ => parsePart_text spelling
    have hfields : ((first :: more).map Spelling.constraint).map (·.1) =
        (first :: more).map Spelling.field := by simp [Spelling.constraint]
    rw [parse_of_not_blank (not_allBlank_written first more), hsplit, hread]
    exact congrArg Except.ok (ofPairs_of_nodup (hfields ▸ hdistinct))

/-- A link with an equals sign in it, and a value that begins with white space. -/
def linkAndAlias : List Spelling := [
  { field := "url", value := "http://x/?a=b", leading := " ", inner := "\t", trailing := "  "
    field_name := by decide
    value_ne := by decide
    value_apart := by decide
    value_bare := by decide
    leading_blank := by decide
    inner_blank := by decide
    trailing_blank := by decide },
  { field := "owner.alias", value := " =Coffey", leading := "", inner := " ", trailing := "\n"
    field_name := by decide
    value_ne := by decide
    value_apart := by decide
    value_bare := by decide
    leading_blank := by decide
    inner_blank := by decide
    trailing_blank := by decide }]

theorem link_and_alias_read_back :
    written linkAndAlias = " url\t=http://x/?a=b  &owner.alias = =Coffey\n" ∧
    (linkAndAlias.map Spelling.field).Nodup ∧
    parse " url\t=http://x/?a=b  &owner.alias = =Coffey\n" =
      .ok ⟨[("url", "http://x/?a=b"), ("owner.alias", " =Coffey")], []⟩ := by
  have hwritten : written linkAndAlias = " url\t=http://x/?a=b  &owner.alias = =Coffey\n" := by
    decide
  have hdistinct : (linkAndAlias.map Spelling.field).Nodup := by decide
  exact ⟨hwritten, hdistinct, hwritten ▸ parse_written hdistinct⟩

end DocStore.Proofs.Search.Writing
