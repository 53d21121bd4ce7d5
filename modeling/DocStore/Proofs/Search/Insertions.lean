import DocStore.Proofs.Search.Compile

/-!
# Insertions into a clause

Constraints come into a clause all at once, by calls that answer, or by calls that give the clause
back. Whichever way it is, the first on each field constrains the clause, and each of the others is
refused and remembered as a duplicate.
-/
namespace DocStore.Proofs.Search.Insertions

open Compile (constraints_ofPairs find?_firstPer firstPer firstPer_concat isSome_get?_iff
  mem_map_firstPer ofPairs_concat ofPairs_nodup)

/-! ## The later items with each key -/

section Later

variable {α κ : Type} [DecidableEq κ]

/-- The items whose key one of those before them has, in order. -/
def laterPer (key : α → κ) (items : List α) : List α :=
  (items.zipIdx.filter fun entry => key entry.1 ∈ (items.take entry.2).map key).map (·.1)

/-- A last item counts only if its key is not new. -/
theorem laterPer_concat (key : α → κ) (items : List α) (item : α) :
    laterPer key (items ++ [item]) =
      laterPer key items ++ if key item ∈ items.map key then [item] else [] := by
  have hbefore : items.zipIdx.filter
        (fun entry => key entry.1 ∈ ((items ++ [item]).take entry.2).map key) =
      items.zipIdx.filter fun entry => key entry.1 ∈ (items.take entry.2).map key := by
    apply List.filter_congr
    rintro ⟨other, index⟩ hother
    have hindex : index ≤ items.length :=
      Nat.le_of_lt (by simpa using List.snd_lt_of_mem_zipIdx hother)
    rw [List.take_append_of_le_length hindex]
  unfold laterPer
  rw [List.zipIdx_append, List.filter_append, List.map_append, hbefore]
  by_cases hkey : key item ∈ items.map key <;> simp [hkey]

/-- Each item is either the first with its key or a later one. -/
theorem firstPer_laterPer_perm (key : α → κ) (items : List α) :
    (firstPer key items ++ laterPer key items).Perm items := by
  induction items using List.reverseRecOn with
  | nil => exact .refl _
  | append_singleton earlier item ih =>
    rw [firstPer_concat, laterPer_concat]
    by_cases hkey : key item ∈ earlier.map key
    · rw [if_pos hkey, if_pos hkey, List.append_nil, ← List.append_assoc]
      exact ih.append_right [item]
    · rw [if_neg hkey, if_neg hkey, List.append_nil]
      calc (firstPer key earlier ++ [item]) ++ laterPer key earlier
          _ = firstPer key earlier ++ ([item] ++ laterPer key earlier) := List.append_assoc ..
          _ |>.Perm (firstPer key earlier ++ (laterPer key earlier ++ [item])) :=
            List.perm_append_comm.append_left _
          _ = (firstPer key earlier ++ laterPer key earlier) ++ [item] :=
            (List.append_assoc ..).symm
          _ |>.Perm (earlier ++ [item]) := ih.append_right [item]

end Later

/-! ## Clauses -/

theorem duplicates_adding (clause : Clause) (pair : String × String) :
    (clause.adding pair).duplicates =
      clause.duplicates ++ if pair.1 ∈ clause.constraints.map (·.1) then [pair.1] else [] := by
  unfold Clause.adding Clause.insert
  by_cases hmem : pair.1 ∈ clause.constraints.map (·.1)
  · rw [if_pos (isSome_get?_iff.2 hmem), if_pos hmem]
  · rw [if_neg (mt isSome_get?_iff.1 hmem), if_neg hmem, List.append_nil]

theorem insert_refuses_iff {clause : Clause} {field value : String} :
    (clause.insert field value).2 = false ↔ field ∈ clause.constraints.map (·.1) := by
  rw [← isSome_get?_iff]
  unfold Clause.insert
  cases (clause.get? field).isSome <;> simp

/-- All values of a field but the first are duplicates. -/
theorem duplicates_ofPairs (pairs : List (String × String)) :
    (Clause.ofPairs pairs).duplicates = (laterPer (·.1) pairs).map (·.1) := by
  induction pairs using List.reverseRecOn with
  | nil => rfl
  | append_singleton earlier pair ih =>
    rw [ofPairs_concat, duplicates_adding, ih, constraints_ofPairs, laterPer_concat,
      List.map_append]
    simp only [mem_map_firstPer]
    split <;> rfl

/-- Each pair is put into a clause or remembered as a duplicate. -/
theorem fields_perm (pairs : List (String × String)) :
    ((Clause.ofPairs pairs).constraints.map (·.1) ++ (Clause.ofPairs pairs).duplicates).Perm
      (pairs.map (·.1)) := by
  rw [constraints_ofPairs, duplicates_ofPairs, ← List.map_append]
  exact (firstPer_laterPer_perm _ pairs).map _

theorem length_ofPairs (pairs : List (String × String)) :
    (Clause.ofPairs pairs).constraints.length + (Clause.ofPairs pairs).duplicates.length =
      pairs.length := by
  simpa using (fields_perm pairs).length_eq

/-- A field has the first of the values that it was given. -/
theorem get?_ofPairs (pairs : List (String × String)) (field : String) :
    (Clause.ofPairs pairs).get? field = (pairs.find? (·.1 = field)).map (·.2) := by
  rw [Clause.get?, constraints_ofPairs, find?_firstPer]

/-! ## Histories -/

/-- One more constraint for a clause. -/
inductive Call where
  /-- Answers whether the constraint was put in. -/
  | insert (field value : String)
  /-- Gives the clause back. -/
  | adding (field value : String)

def Call.pair : Call → String × String
  | .insert field value | .adding field value => (field, value)

/-- The clause after the call. -/
def Call.on (clause : Clause) : Call → Clause
  | .insert field value => (clause.insert field value).1
  | .adding field value => clause.adding (field, value)

/-- A clause that is made of pairs, after these calls; no pairs make the empty clause. -/
def after (pairs : List (String × String)) (calls : List Call) : Clause :=
  calls.foldl Call.on (.ofPairs pairs)

/-- Of all pairs that were given to a clause, the first on each field constrain it. The others are
refused and remembered. -/
structure FirstWins (given : List (String × String)) (clause : Clause) : Prop where
  constraints : clause.constraints = firstPer (·.1) given
  distinct : (clause.constraints.map (·.1)).Nodup
  value : ∀ field, clause.get? field = (given.find? (·.1 = field)).map (·.2)
  refuses : ∀ field value,
    (clause.insert field value).2 = false ↔ field ∈ given.map (·.1)
  duplicates : clause.duplicates = (laterPer (·.1) given).map (·.1)
  accounted : (clause.constraints.map (·.1) ++ clause.duplicates).Perm (given.map (·.1))
  total : clause.constraints.length + clause.duplicates.length = given.length

theorem firstWins_ofPairs (pairs : List (String × String)) : FirstWins pairs (.ofPairs pairs) where
  constraints := constraints_ofPairs pairs
  distinct := ofPairs_nodup pairs
  value := get?_ofPairs pairs
  refuses field value := by rw [insert_refuses_iff, constraints_ofPairs, mem_map_firstPer]
  duplicates := duplicates_ofPairs pairs
  accounted := fields_perm pairs
  total := length_ofPairs pairs

/-- It makes no difference to a clause how a constraint comes in. -/
theorem after_eq (pairs : List (String × String)) (calls : List Call) :
    after pairs calls = .ofPairs (pairs ++ calls.map Call.pair) := by
  induction calls using List.reverseRecOn with
  | nil => rw [List.map_nil, List.append_nil]; rfl
  | append_singleton earlier call ih =>
    have hon : ∀ clause : Clause, call.on clause = clause.adding call.pair := by
      cases call <;> exact fun _ => rfl
    rw [List.map_append, List.map_singleton, ← List.append_assoc, ofPairs_concat, ← ih, ← hon]
    exact List.foldl_append ..

/-- Whatever pairs a clause is made of and however more of them come in, the fields are constrained
once each, in the order in which they first came and with their first values. A call answers that it
has refused a constraint exactly if the field came before, and the duplicates are the fields of what
was refused, so each pair is either a constraint or a duplicate. -/
theorem first_insertion_wins (pairs : List (String × String)) (calls : List Call) :
    FirstWins (pairs ++ calls.map Call.pair) (after pairs calls) := by
  rw [after_eq]
  exact firstWins_ofPairs _

example : (after [("name", "a"), ("age", "1")]
    [.insert "name" "b", .adding "city" "c", .insert "age" "2", .insert "name" "d"]).duplicates =
      ["name", "age", "name"] := by decide

end DocStore.Proofs.Search.Insertions
