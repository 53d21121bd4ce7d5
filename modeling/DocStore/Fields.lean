/-!
# Values under text keys, in key order

A sorted list of pairs. `get?` and `insert` obey the usual two equations on every list; `Sorted`
says that the keys rise strictly, and `insert` keeps it. Keys are ordered by code point.
-/

namespace DocStore.Fields

variable {α : Type}

/-- The value stored under `key`. -/
def get? (key : String) : List (String × α) → Option α
  | [] => none
  | (name, value) :: rest => if name = key then some value else get? key rest

/-- Puts `value` under `key`, in the place of a value that is there already. -/
def insert (key : String) (value : α) : List (String × α) → List (String × α)
  | [] => [(key, value)]
  | (name, old) :: rest =>
    if key < name then (key, value) :: (name, old) :: rest
    else if name = key then (key, value) :: rest
    else (name, old) :: insert key value rest

/-- The fields of a list of pairs; of two pairs with one key the later counts. -/
def ofPairs (pairs : List (String × α)) : List (String × α) :=
  pairs.foldl (fun fields pair => insert pair.1 pair.2 fields) []

/-- The keys rise strictly, so no key comes twice. -/
def Sorted (fields : List (String × α)) : Prop :=
  fields.Pairwise (fun a b => a.1 < b.1)

theorem get?_insert_self (key : String) (value : α) (fields : List (String × α)) :
    get? key (insert key value fields) = some value := by
  induction fields with
  | nil => simp [insert, get?]
  | cons field rest ih =>
    obtain ⟨name, old⟩ := field
    unfold insert
    split
    · simp [get?]
    · split
      · simp [get?]
      · rename_i h
        simp [get?, h, ih]

theorem get?_insert_ne {key other : String} (value : α) (fields : List (String × α))
    (h : other ≠ key) : get? other (insert key value fields) = get? other fields := by
  induction fields with
  | nil => simp [insert, get?, Ne.symm h]
  | cons field rest ih =>
    obtain ⟨name, old⟩ := field
    unfold insert
    split
    · simp [get?, Ne.symm h]
    · split
      · rename_i hn
        subst hn
        simp [get?, Ne.symm h]
      · simp [get?, ih]

/-- A value that is put in the place of another one leaves no trace of it. -/
theorem insert_insert (key : String) (value value' : α) (fields : List (String × α)) :
    insert key value' (insert key value fields) = insert key value' fields := by
  induction fields with
  | nil => simp [insert]
  | cons field rest ih =>
    obtain ⟨name, old⟩ := field
    by_cases hlt : key < name
    · simp [insert, hlt]
    · by_cases hname : name = key
      · simp [insert, hname]
      · simp [insert, hlt, hname, ih]

/-- Values under different keys can be put in in either order. -/
theorem insert_comm {key key' : String} (h : key ≠ key') (value value' : α)
    (fields : List (String × α)) :
    insert key value (insert key' value' fields) = insert key' value' (insert key value fields) := by
  -- The smaller key comes first, whichever of the two that is.
  have hless : ∀ {low high : String} (value value' : α), low < high →
      insert low value (insert high value' fields) =
        insert high value' (insert low value fields) := by
    intro low high value value' hlt
    have hnlt : ¬ high < low := String.lt_asymm hlt
    have hne : low ≠ high := Std.ne_of_lt hlt
    induction fields with
    | nil => simp [insert, hlt, hnlt, hne]
    | cons field rest ih =>
      obtain ⟨name, old⟩ := field
      by_cases hlow : low < name
      · by_cases hhigh : high < name
        · simp [insert, hlt, hnlt, hne, hlow, hhigh]
        · by_cases hname : name = high
          · simp [insert, hlt, hnlt, hne, hname]
          · simp [insert, hnlt, hne, hlow, hhigh, hname]
      · by_cases hname : name = low
        · subst hname
          simp [insert, hnlt, hne]
        · have hbefore : name < low := Std.lt_of_le_of_ne (String.not_lt.1 hlow) hname
          have hbehind : name < high := String.lt_trans hbefore hlt
          have hnhigh : ¬ high < name := String.lt_asymm hbehind
          have hnehigh : name ≠ high := Std.ne_of_lt hbehind
          simp [insert, hlow, hname, hnhigh, hnehigh, ih]
  by_cases hlt : key < key'
  · exact hless value value' hlt
  · exact (hless value' value (Std.lt_of_le_of_ne (String.not_lt.1 hlt) h.symm)).symm

theorem mem_insert {key : String} {value : α} {field : String × α} {fields : List (String × α)}
    (h : field ∈ insert key value fields) : field = (key, value) ∨ field ∈ fields := by
  induction fields with
  | nil => simpa [insert] using h
  | cons first rest ih =>
    obtain ⟨name, old⟩ := first
    unfold insert at h
    split at h
    · simpa using h
    · split at h
      · rcases List.mem_cons.1 h with h | h
        · exact .inl h
        · exact .inr (List.mem_cons_of_mem _ h)
      · rcases List.mem_cons.1 h with h | h
        · exact .inr (h ▸ List.mem_cons_self)
        · exact (ih h).imp id (List.mem_cons_of_mem _)

theorem insert_sorted (key : String) (value : α) {fields : List (String × α)}
    (h : Sorted fields) : Sorted (insert key value fields) := by
  induction fields with
  | nil => simp [insert, Sorted]
  | cons first rest ih =>
    obtain ⟨name, old⟩ := first
    have hrest : Sorted rest := (List.pairwise_cons.1 h).2
    have hfirst : ∀ field ∈ rest, name < field.1 := (List.pairwise_cons.1 h).1
    unfold insert
    split
    · rename_i hlt
      refine List.pairwise_cons.2 ⟨fun field hm => ?_, h⟩
      rcases List.mem_cons.1 hm with hm | hm
      · exact hm ▸ hlt
      · exact String.lt_trans hlt (hfirst field hm)
    · split
      · rename_i heq
        exact List.pairwise_cons.2 ⟨fun field hm => heq ▸ hfirst field hm, hrest⟩
      · rename_i hnlt hne
        refine List.pairwise_cons.2 ⟨fun field hm => ?_, ih hrest⟩
        rcases mem_insert hm with hm | hm
        · subst hm
          exact Std.lt_of_le_of_ne (String.not_lt.1 hnlt) hne
        · exact hfirst field hm

theorem sorted_nil : Sorted ([] : List (String × α)) := List.Pairwise.nil

theorem mem_of_get? {key : String} {value : α} {fields : List (String × α)}
    (h : get? key fields = some value) : (key, value) ∈ fields := by
  induction fields with
  | nil => cases h
  | cons first rest ih =>
    obtain ⟨name, old⟩ := first
    unfold get? at h
    split at h
    · rename_i hname
      rw [← hname, ← Option.some.inj h]
      exact List.mem_cons_self
    · exact List.mem_cons_of_mem _ (ih h)

/-- Where no key comes twice, a field is what stands under its key. -/
theorem mem_iff_get? {key : String} {value : α} {fields : List (String × α)}
    (h : (fields.map (·.1)).Nodup) : (key, value) ∈ fields ↔ get? key fields = some value := by
  refine ⟨fun hmem => ?_, mem_of_get?⟩
  induction fields with
  | nil => cases hmem
  | cons first rest ih =>
    obtain ⟨hfirst, hrest⟩ := List.nodup_cons.1 h
    rcases List.mem_cons.1 hmem with rfl | hmem
    · simp [get?]
    · have hne : first.1 ≠ key := by
        rintro rfl
        exact hfirst (List.mem_map.2 ⟨_, hmem, rfl⟩)
      simp only [get?, hne, if_false]
      exact ih hrest hmem

theorem Sorted.nodup {fields : List (String × α)} (h : Sorted fields) :
    (fields.map (·.1)).Nodup := by
  refine List.pairwise_map.2 (h.imp fun hlt heq => ?_)
  rw [heq] at hlt
  exact String.lt_irrefl _ hlt

/-- Fields in the order of their keys are known from what stands under each key. -/
theorem Sorted.ext {fields other : List (String × α)} (h : Sorted fields) (h' : Sorted other)
    (hget : ∀ key, get? key fields = get? key other) : fields = other := by
  have hdistinct : ∀ {fields : List (String × α)}, Sorted fields → fields.Nodup := by
    intro fields hsorted
    refine hsorted.imp fun hlt heq => ?_
    rw [heq] at hlt
    exact String.lt_irrefl _ hlt
  have hperm : fields.Perm other := by
    refine (List.perm_ext_iff_of_nodup (hdistinct h) (hdistinct h')).2 fun (key, value) => ?_
    rw [mem_iff_get? h.nodup, mem_iff_get? h'.nodup, hget]
  exact hperm.eq_of_pairwise (fun _ _ _ _ hlt hlt' => absurd hlt (String.lt_asymm hlt')) h h'

theorem get?_filter (p : String → Bool) (key : String) (fields : List (String × α)) :
    get? key (fields.filter fun field => p field.1) = if p key then get? key fields else none := by
  induction fields with
  | nil => simp [get?]
  | cons field rest ih =>
    by_cases hkept : p field.1
    · by_cases hkey : field.1 = key
      · subst hkey
        simp [get?, hkept]
      · simp [get?, hkept, hkey, ih]
    · by_cases hkey : field.1 = key
      · subst hkey
        simpa [hkept] using ih
      · simp [get?, hkept, hkey, ih]

theorem foldl_insert_sorted (pairs : List (String × α)) {fields : List (String × α)}
    (h : Sorted fields) :
    Sorted (pairs.foldl (fun fields pair => insert pair.1 pair.2 fields) fields) := by
  induction pairs generalizing fields with
  | nil => exact h
  | cons pair rest ih => exact ih (insert_sorted pair.1 pair.2 h)

theorem ofPairs_sorted (pairs : List (String × α)) : Sorted (ofPairs pairs) :=
  foldl_insert_sorted pairs sorted_nil

/-- A key behind all others goes to the end. -/
theorem insert_of_forall_lt {key : String} (value : α) {fields : List (String × α)}
    (h : ∀ field ∈ fields, field.1 < key) : insert key value fields = fields ++ [(key, value)] := by
  induction fields with
  | nil => rfl
  | cons first rest ih =>
    obtain ⟨name, old⟩ := first
    obtain ⟨hfirst, hrest⟩ := List.forall_mem_cons.1 h
    have hnlt : ¬ key < name := String.lt_asymm hfirst
    have hne : name ≠ key := Std.ne_of_lt hfirst
    simp [insert, hnlt, hne, ih hrest]

theorem foldl_insert_of_sorted {fields behind : List (String × α)} (h : Sorted (fields ++ behind)) :
    behind.foldl (fun fields pair => insert pair.1 pair.2 fields) fields = fields ++ behind := by
  induction behind generalizing fields with
  | nil => exact (List.append_nil fields).symm
  | cons pair rest ih =>
    have hbefore : ∀ field ∈ fields, field.1 < pair.1 := fun field hfield =>
      (List.pairwise_append.1 h).2.2 field hfield pair List.mem_cons_self
    rw [List.append_cons] at h ⊢
    rw [List.foldl_cons, insert_of_forall_lt pair.2 hbefore]
    exact ih h

/-- Fields in the order of their keys are those of their own pairs. -/
theorem ofPairs_of_sorted {fields : List (String × α)} (h : Sorted fields) :
    ofPairs fields = fields :=
  foldl_insert_of_sorted h

theorem get?_eq_none_iff {key : String} {fields : List (String × α)} :
    get? key fields = none ↔ ∀ field ∈ fields, field.1 ≠ key := by
  induction fields with
  | nil => simp [get?]
  | cons first rest ih =>
    rw [List.forall_mem_cons, ← ih]
    by_cases hname : first.1 = key <;> simp [get?, hname]

theorem mem_keys_iff {key : String} {fields : List (String × α)} :
    key ∈ fields.map (·.1) ↔ get? key fields ≠ none := by
  rw [ne_eq, get?_eq_none_iff, List.mem_map]
  simp

theorem mem_keys_insert_iff {key other : String} {value : α} {fields : List (String × α)} :
    other ∈ (insert key value fields).map (·.1) ↔ other = key ∨ other ∈ fields.map (·.1) := by
  rw [mem_keys_iff, mem_keys_iff]
  by_cases h : other = key
  · subst h
    simp [get?_insert_self]
  · rw [get?_insert_ne value fields h]
    simp [h]

theorem get?_append (key : String) (first second : List (String × α)) :
    get? key (first ++ second) = (get? key first).or (get? key second) := by
  induction first with
  | nil => rfl
  | cons field rest ih =>
    simp only [List.cons_append, get?]
    split
    · rfl
    · exact ih

theorem get?_foldl_insert (key : String) (pairs fields : List (String × α)) :
    get? key (pairs.foldl (fun fields pair => insert pair.1 pair.2 fields) fields) =
      (get? key pairs.reverse).or (get? key fields) := by
  induction pairs generalizing fields with
  | nil => rfl
  | cons pair rest ih =>
    rw [List.foldl_cons, ih, List.reverse_cons, get?_append, Option.or_assoc]
    congr 1
    by_cases hkey : pair.1 = key
    · subst hkey
      rw [get?_insert_self]
      simp [get?]
    · rw [get?_insert_ne _ _ (Ne.symm hkey)]
      simp [get?, hkey]

/-- The last pair with a key is what stands under it. -/
theorem get?_ofPairs (key : String) (pairs : List (String × α)) :
    get? key (ofPairs pairs) = get? key pairs.reverse := by
  unfold ofPairs
  rw [get?_foldl_insert]
  exact Option.or_none

end DocStore.Fields
