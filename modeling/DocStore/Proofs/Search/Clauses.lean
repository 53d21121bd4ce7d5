import DocStore.Proofs.Search.Compile
import Mathlib.Data.List.Forall2

/-!
# What a clause that was read constrains

The names of fields in the text of a clause are made of letters, digits, underscores and dots. So a
clause that was read compiles, whatever the searched collection and its joins.
-/
namespace DocStore.Proofs.Search.Clauses

open Clause (isFieldChar parse parsePart)
open Compile (Admissible constraints_ofPairs firstPer_sublist)

theorem mapM_eq_ok_iff {ε α β : Type} {read : α → Except ε β} {items : List α} {results : List β} :
    items.mapM read = .ok results ↔
      List.Forall₂ (fun item result => read item = .ok result) items results := by
  induction items generalizing results with
  | nil => simp [List.mapM_nil, pure, Except.pure, eq_comm]
  | cons item rest ih =>
    simp only [List.mapM_cons, bind_eq_ok_iff, ih, List.forall₂_cons_left_iff]
    constructor
    · rintro ⟨result, hitem, more, hrest, hok⟩
      exact ⟨result, more, hitem, hrest, (Except.ok.inj hok).symm⟩
    · rintro ⟨result, more, hitem, hrest, rfl⟩
      exact ⟨result, hitem, more, hrest, rfl⟩

theorem exists_mapM_iff {ε α β : Type} {read : α → Except ε β} {items : List α} :
    (∃ results, items.mapM read = .ok results) ↔ ∀ item ∈ items, ∃ result, read item = .ok result := by
  induction items with
  | nil => exact iff_of_true ⟨[], rfl⟩ (List.forall_mem_nil _)
  | cons item rest ih =>
    rw [List.forall_mem_cons, ← ih]
    simp only [List.mapM_cons, bind_eq_ok_iff]
    constructor
    · rintro ⟨_, result, hitem, more, hrest, -⟩
      exact ⟨⟨result, hitem⟩, more, hrest⟩
    · rintro ⟨⟨result, hitem⟩, more, hrest⟩
      exact ⟨_, result, hitem, more, hrest, rfl⟩

/-- What is reported is the first item that is not read. -/
theorem mapM_eq_error_iff {ε α β : Type} {read : α → Except ε β} {items : List α} {fault : ε} :
    items.mapM read = .error fault ↔
      ∃ earlier item later, items = earlier ++ item :: later ∧
        (∀ other ∈ earlier, ∃ result, read other = .ok result) ∧ read item = .error fault := by
  induction items with
  | nil => simp [List.mapM_nil, pure, Except.pure]
  | cons first rest ih =>
    have hstep : (first :: rest).mapM read = .error fault ↔
        read first = .error fault ∨
          (∃ result, read first = .ok result) ∧ rest.mapM read = .error fault := by
      simp [List.mapM_cons, bind_eq_error_iff, pure, Except.pure, exists_and_right]
    rw [hstep, ih]
    constructor
    · rintro (hfirst | ⟨hfirst, earlier, item, later, rfl, hearlier, hitem⟩)
      · exact ⟨[], first, rest, rfl, List.forall_mem_nil _, hfirst⟩
      · exact ⟨first :: earlier, item, later, rfl, List.forall_mem_cons.2 ⟨hfirst, hearlier⟩, hitem⟩
    · rintro ⟨earlier, item, later, hitems, hearlier, hitem⟩
      cases earlier with
      | nil =>
        obtain ⟨rfl, -⟩ := List.cons.inj hitems
        exact .inl hitem
      | cons _ earlier =>
        obtain ⟨rfl, rfl⟩ := List.cons.inj hitems
        obtain ⟨hfirst, hrest⟩ := List.forall_mem_cons.1 hearlier
        exact .inr ⟨hfirst, earlier, item, later, rfl, hrest, hitem⟩

theorem exists_of_mem_mapM {ε α β : Type} {read : α → Except ε β} {items : List α}
    {results : List β} (h : items.mapM read = .ok results) {result : β} (hmem : result ∈ results) :
    ∃ item ∈ items, read item = .ok result := by
  induction mapM_eq_ok_iff.1 h with
  | nil => cases hmem
  | @cons item _ rest _ hitem hrest ih =>
    rcases List.mem_cons.1 hmem with rfl | hmore
    · exact ⟨item, List.mem_cons_self, hitem⟩
    · obtain ⟨other, hother, hread⟩ := ih (mapM_eq_ok_iff.2 hrest) hmore
      exact ⟨other, List.mem_cons_of_mem _ hother, hread⟩

theorem parsePart_eq_ok {text : String} {constraint : String × String}
    (h : parsePart text = .ok constraint) :
    constraint.1 ≠ "" ∧ constraint.1.toList.all isFieldChar = true ∧ constraint.2 ≠ "" := by
  unfold parsePart at h
  simp only at h
  split at h
  · cases h
  · split at h
    · cases h
    · rename_i hname
      obtain ⟨hne, hchars⟩ := not_or.1 hname
      split at h
      · cases h
      · rename_i hvalue
        cases h
        exact ⟨hne, by simpa using hchars, hvalue⟩

/-- Neither a dollar sign nor NUL stands in the name of a field that was read. -/
theorem admissible_of_fieldChars {field : String} (hne : field ≠ "")
    (hchars : field.toList.all isFieldChar = true) : Admissible field := by
  have hout : ∀ c, isFieldChar c = false → c ∉ field.toList := by
    intro c hc hmem
    rw [List.all_eq_true.1 hchars c hmem] at hc
    cases hc
  have hdollar : '$' ∉ field.toList := hout '$' (by decide)
  have hnul : '\x00' ∉ field.toList := hout '\x00' (by decide)
  refine ⟨hne, ?_, ?_⟩
  · rw [Bool.eq_false_iff]
    intro hstarts
    exact hdollar (List.mem_of_head? (eq_of_beq hstarts))
  · simpa [Text.contains] using hnul

theorem mem_of_mem_constraints {pairs : List (String × String)} {constraint : String × String}
    (h : constraint ∈ (Clause.ofPairs pairs).constraints) : constraint ∈ pairs := by
  rw [constraints_ofPairs] at h
  exact (firstPer_sublist _ pairs).subset h

theorem parse_admissible {text : String} {clause : Clause} (h : parse text = .ok clause) :
    ∀ constraint ∈ clause.constraints, Admissible constraint.1 := by
  unfold parse at h
  split at h
  · cases h
    exact List.forall_mem_nil _
  · cases hparts : (Text.split '&' text).mapM parsePart with
    | error fault =>
      rw [hparts] at h
      cases h
    | ok pairs =>
      rw [hparts] at h
      cases h
      intro constraint hconstraint
      obtain ⟨part, -, hread⟩ := exists_of_mem_mapM hparts (mem_of_mem_constraints hconstraint)
      obtain ⟨hne, hchars, -⟩ := parsePart_eq_ok hread
      exact admissible_of_fieldChars hne hchars

end DocStore.Proofs.Search.Clauses
