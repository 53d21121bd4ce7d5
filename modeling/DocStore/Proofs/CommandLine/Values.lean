import DocStore.CommandLine.Values
import DocStore.Outcome
import DocStore.Text.Alphanumeric
import Mathlib.Logic.Basic

/-!
# What the values of options stand for

A join that is read names two collections that there can be, and a field on each side. It is
written as `left.field=right.field`, with any white space around each side, and this is all that is
read. The white space before a collection is dropped, as it is when a file is loaded into the
collection. White space behind it is dropped there only, so a join can refer to a collection that
nothing can be loaded into.
-/
namespace DocStore.Proofs.CommandLine.Values

open DocStore.CommandLine (LoadSpec parseJoin parseLoad parseSide)
open Text (EndsBare Padded StartsBare isAlphanumeric isBlank notMem_of_allBlank
  splitOnce?_eq_some_iff trim trimStart)

variable {collection : CollectionName} {field text : String} {join : Join}

/-! ## Sides -/

def sideText (collection : CollectionName) (field : String) : String :=
  collection.text ++ "." ++ field

/-- What can stand on a side of a join. The field may be a dotted path. -/
structure IsSide (collection : CollectionName) (field : String) : Prop where
  valid : collection.Valid
  no_dot : '.' ∉ collection.text.toList
  collection_bare : StartsBare collection.text
  field_ne : field ≠ ""
  field_bare : EndsBare field

theorem IsSide.ends (h : IsSide collection field) :
    StartsBare (sideText collection field) ∧ EndsBare (sideText collection field) := by
  constructor
  · rw [sideText, String.append_assoc]
    exact (Text.startsBare_append h.valid.1).2 h.collection_bare
  · exact (Text.endsBare_append h.field_ne).2 h.field_bare

theorem parseSide_eq_ok_iff :
    parseSide text = .ok (collection, field) ↔
      IsSide collection field ∧ Padded (sideText collection field) text := by
  constructor
  · intro h
    unfold parseSide at h
    simp only at h
    split at h
    · cases h
    · rename_i name rest hcut
      split at h
      · cases h
      · rename_i hside
        cases h
        obtain ⟨hvalid, hne⟩ := not_or.1 hside
        obtain ⟨htrim, hdot⟩ := splitOnce?_eq_some_iff.1 hcut
        obtain ⟨hpadded, hstart, hend⟩ := Text.trim_eq_iff.1 htrim
        rw [String.append_assoc] at hstart
        exact ⟨⟨not_not.1 hvalid, hdot, (Text.startsBare_append (not_not.1 hvalid).1).1 hstart, hne,
          (Text.endsBare_append hne).1 hend⟩, hpadded⟩
  · rintro ⟨hside, hpadded⟩
    have htrim : trim text = sideText collection field :=
      Text.trim_eq_iff.2 ⟨hpadded, hside.ends⟩
    have hcut : Text.splitOnce? '.' (sideText collection field) = some (collection.text, field) :=
      splitOnce?_eq_some_iff.2 ⟨rfl, hside.no_dot⟩
    unfold parseSide
    simp only [htrim, hcut]
    exact if_neg (by simp [hside.valid, hside.field_ne])

/-! ## Joins -/

/-- A join that can be written down: the first equals sign ends its left side. -/
structure IsWritable (join : Join) : Prop where
  left : IsSide join.left join.leftField
  right : IsSide join.right join.rightField
  left_apart : '=' ∉ join.left.text.toList
  leftField_apart : '=' ∉ join.leftField.toList

def joinText (join : Join) : String :=
  sideText join.left join.leftField ++ "=" ++ sideText join.right join.rightField

/-- The text is the join, with any white space around each side. -/
def Spells (join : Join) (text : String) : Prop :=
  ∃ left right, Padded (sideText join.left join.leftField) left ∧
    Padded (sideText join.right join.rightField) right ∧ text = left ++ "=" ++ right

theorem parseJoin_cut {left : String} (right : String) (h : '=' ∉ left.toList) :
    parseJoin (left ++ "=" ++ right) = .ok join ↔
      parseSide left = .ok (join.left, join.leftField) ∧
        parseSide right = .ok (join.right, join.rightField) := by
  have hcut : Text.splitOnce? '=' (left ++ "=" ++ right) = some (left, right) :=
    splitOnce?_eq_some_iff.2 ⟨rfl, h⟩
  unfold parseJoin
  simp only [hcut, bind_eq_ok_iff]
  constructor
  · rintro ⟨⟨name, field⟩, hleft, ⟨name', field'⟩, hright, hjoin⟩
    cases hjoin
    exact ⟨hleft, hright⟩
  · rintro ⟨hleft, hright⟩
    exact ⟨_, hleft, _, hright, rfl⟩

/-- White space around a side does not matter to where the join is cut. -/
theorem notMem_side_iff (h : Padded (sideText collection field) text) :
    '=' ∉ text.toList ↔ '=' ∉ collection.text.toList ∧ '=' ∉ field.toList := by
  obtain ⟨before, after, hbefore, hafter, rfl⟩ := h
  have hfront := notMem_of_allBlank hbefore (show isBlank '=' = false from rfl)
  have hback := notMem_of_allBlank hafter (show isBlank '=' = false from rfl)
  simp [sideText, hfront, hback]

theorem parseJoin_eq_ok_iff :
    parseJoin text = .ok join ↔ IsWritable join ∧ Spells join text := by
  constructor
  · intro h
    by_cases hmem : '=' ∈ text.toList
    · obtain ⟨left, right, rfl, hapart⟩ := Text.exists_cut hmem
      obtain ⟨hleft, hright⟩ := (parseJoin_cut right hapart).1 h
      obtain ⟨hleft, hpadded⟩ := parseSide_eq_ok_iff.1 hleft
      obtain ⟨hright, hpadded'⟩ := parseSide_eq_ok_iff.1 hright
      obtain ⟨hname, hfield⟩ := (notMem_side_iff hpadded).1 hapart
      exact ⟨⟨hleft, hright, hname, hfield⟩, left, right, hpadded, hpadded', rfl⟩
    · unfold parseJoin at h
      rw [Text.splitOnce?_eq_none_iff.2 hmem] at h
      cases h
  · rintro ⟨hwritable, left, right, hleft, hright, rfl⟩
    have hapart := (notMem_side_iff hleft).2 ⟨hwritable.left_apart, hwritable.leftField_apart⟩
    exact (parseJoin_cut right hapart).2 ⟨parseSide_eq_ok_iff.2 ⟨hwritable.left, hleft⟩,
      parseSide_eq_ok_iff.2 ⟨hwritable.right, hright⟩⟩

theorem parseJoin_eq_ok (h : parseJoin text = .ok join) :
    (join.left.Valid ∧ join.leftField ≠ "") ∧ join.right.Valid ∧ join.rightField ≠ "" :=
  have ⟨hwritable, _⟩ := parseJoin_eq_ok_iff.1 h
  ⟨⟨hwritable.left.valid, hwritable.left.field_ne⟩, hwritable.right.valid, hwritable.right.field_ne⟩

theorem spells_joinText (join : Join) : Spells join (joinText join) :=
  ⟨_, _, Text.padded_self _, Text.padded_self _, rfl⟩

/-- A join is read from a text exactly if it can be written down and the text is the join with white
space around its sides. So a join comes back from its text exactly if it can be written down, and
the dots in a field and the equals signs on the right do not matter. -/
theorem reads_spelled_joins (text : String) (join : Join) :
    (parseJoin text = .ok join ↔ IsWritable join ∧ Spells join text) ∧
      (parseJoin (joinText join) = .ok join ↔ IsWritable join) := by
  refine ⟨parseJoin_eq_ok_iff, ?_⟩
  rw [parseJoin_eq_ok_iff]
  exact and_iff_left (spells_joinText join)

example : parseJoin " users.home.city = cities.name=now\t" =
    .ok ⟨⟨"users"⟩, "home.city", ⟨"cities"⟩, "name=now"⟩ := rfl

/-! ## The collections of a load and of a join -/

variable {name path leftField rightField : String} {spec : LoadSpec}

theorem parseLoad_cut (path : String) (h : '=' ∉ name.toList) :
    parseLoad (name ++ "=" ++ path) = .ok spec ↔
      (CollectionName.Valid ⟨trim name⟩ ∧ trim path ≠ "") ∧ spec = ⟨⟨trim name⟩, trim path⟩ := by
  have hcut : Text.splitOnce? '=' (name ++ "=" ++ path) = some (name, path) :=
    splitOnce?_eq_some_iff.2 ⟨rfl, h⟩
  unfold parseLoad
  simp only [hcut]
  by_cases hvalid : CollectionName.Valid ⟨trim name⟩
  · by_cases hpath : trim path = ""
    · simp [hvalid, hpath]
    · simp [hvalid, hpath, eq_comm]
  · simp [hvalid]

/-- What is loaded is loaded into a collection without white space at the end of its name. -/
theorem endsBare_of_parseLoad (h : parseLoad text = .ok spec) : EndsBare spec.collection.text := by
  by_cases hmem : '=' ∈ text.toList
  · obtain ⟨name, path, rfl, hapart⟩ := Text.exists_cut hmem
    obtain ⟨-, rfl⟩ := (parseLoad_cut path hapart).1 h
    exact (Text.trim_spec name).2.2
  · unfold parseLoad at h
    rw [Text.splitOnce?_eq_none_iff.2 hmem] at h
    cases h

/-- White space does no harm to a name. -/
theorem valid_of_padded {core name : String} (hpadded : Padded core name)
    (hvalid : CollectionName.Valid ⟨core⟩) : CollectionName.Valid ⟨name⟩ := by
  obtain ⟨before, after, hbefore, hafter, rfl⟩ := hpadded
  have hdollar : isBlank '$' = false := rfl
  have hnul : isBlank '\x00' = false := rfl
  obtain ⟨hne, hvalid⟩ := hvalid
  simp only [CollectionName.Valid, Text.contains, List.contains_eq_mem, decide_eq_false_iff_not]
    at hvalid ⊢
  refine ⟨by simp [hne], ?_, ?_⟩
  · simp [hvalid.1, notMem_of_allBlank hbefore hdollar, notMem_of_allBlank hafter hdollar]
  · simp [hvalid.2, notMem_of_allBlank hbefore hnul, notMem_of_allBlank hafter hnul]

/-- A field of letters and digits. -/
structure IsWord (field : String) : Prop where
  ne : field ≠ ""
  alphanumeric : ∀ c ∈ field.toList, isAlphanumeric c = true

instance (field : String) : Decidable (IsWord field) :=
  decidable_of_iff (field ≠ "" ∧ field.toList.all isAlphanumeric = true)
    ⟨fun ⟨hne, hall⟩ => ⟨hne, List.all_eq_true.1 hall⟩,
      fun h => ⟨h.ne, List.all_eq_true.2 h.alphanumeric⟩⟩

theorem IsWord.endsBare (h : IsWord field) : EndsBare field :=
  Text.endsBare_of_forall fun c hc => Text.isBlank_of_isAlphanumeric (h.alphanumeric c hc)

theorem IsWord.apart (h : IsWord field) : '=' ∉ field.toList := by
  intro hmem
  have hequals : isAlphanumeric '=' = false := by decide +kernel
  rw [h.alphanumeric _ hmem] at hequals
  cases hequals

/-- On a side of a join, white space before the collection is dropped and white space behind it is a
part of its name. -/
theorem parseSide_word (hdot : '.' ∉ name.toList) (hfield : IsWord field)
    (hvalid : CollectionName.Valid ⟨trimStart name⟩) :
    parseSide (name ++ "." ++ field) = .ok (⟨trimStart name⟩, field) := by
  obtain ⟨⟨before, hbefore, hname⟩, hbare⟩ := Text.trimStart_spec name
  rw [hname, String.toList_append, List.mem_append, not_or] at hdot
  refine parseSide_eq_ok_iff.2
    ⟨⟨hvalid, hdot.2, hbare, hfield.ne, hfield.endsBare⟩, before, "", hbefore, rfl, ?_⟩
  calc name ++ "." ++ field
      _ = before ++ trimStart name ++ "." ++ field := by rw [← hname]
      _ = before ++ sideText ⟨trimStart name⟩ field ++ "" := by
        simp only [sideText, String.append_assoc, String.append_empty]

theorem parseJoin_words (hdot : '.' ∉ name.toList) (hequals : '=' ∉ name.toList)
    (hleft : IsWord leftField) (hright : IsWord rightField)
    (hvalid : CollectionName.Valid ⟨trimStart name⟩) :
    parseJoin (name ++ "." ++ leftField ++ "=" ++ (name ++ "." ++ rightField)) =
      .ok ⟨⟨trimStart name⟩, leftField, ⟨trimStart name⟩, rightField⟩ := by
  have hapart : '=' ∉ (name ++ "." ++ leftField).toList := by simp [hequals, hleft.apart]
  exact (parseJoin_cut _ hapart).2
    ⟨parseSide_word hdot hleft hvalid, parseSide_word hdot hright hvalid⟩

/-- A join that is written with the text that a file was loaded under refers to the collection
loaded exactly if that text does not end in white space. If it does, the join refers to a collection
that no file can be loaded into. -/
theorem join_refers_to_loaded_iff (hdot : '.' ∉ name.toList) (hequals : '=' ∉ name.toList)
    (hleft : IsWord leftField) (hright : IsWord rightField)
    (hload : parseLoad (name ++ "=" ++ path) = .ok spec) :
    ∃ join, parseJoin (name ++ "." ++ leftField ++ "=" ++ (name ++ "." ++ rightField)) = .ok join ∧
      join.leftField = leftField ∧ join.rightField = rightField ∧
      (join.left = spec.collection ∧ join.right = spec.collection ↔ EndsBare name) ∧
      (¬ EndsBare name → ∀ text other, parseLoad text = .ok other →
        join.left ≠ other.collection ∧ join.right ≠ other.collection) := by
  obtain ⟨⟨hvalid, -⟩, rfl⟩ := (parseLoad_cut path hequals).1 hload
  have hstart : CollectionName.Valid ⟨trimStart name⟩ :=
    valid_of_padded (Text.padded_trimStart name) hvalid
  have hends := Text.endsBare_trimStart_iff hstart.1
  refine ⟨_, parseJoin_words hdot hequals hleft hright hstart, rfl, rfl, ?_, ?_⟩
  · rw [← hends, ← Text.trimEnd_eq_self_iff, ← Text.trim_eq]
    simp [eq_comm]
  · intro hbare text other hother
    have hne : (⟨trimStart name⟩ : CollectionName) ≠ other.collection := by
      intro heq
      have hother' := endsBare_of_parseLoad hother
      rw [← heq, hends] at hother'
      exact hbare hother'
    exact ⟨hne, hne⟩

theorem user_names_joined :
    parseLoad "\tuser name= a=b.json" = .ok ⟨⟨"user name"⟩, "a=b.json"⟩ ∧
    ∃ join, parseJoin "\tuser name.org=\tuser name.id" = .ok join ∧
      join.left = ⟨"user name"⟩ ∧ join.right = ⟨"user name"⟩ := by
  have hload : parseLoad ("\tuser name" ++ "=" ++ " a=b.json") =
      .ok ⟨⟨"user name"⟩, "a=b.json"⟩ := by rfl
  have hleft : IsWord "org" := by decide +kernel
  have hright : IsWord "id" := by decide +kernel
  obtain ⟨join, hjoin, -, -, hrefers, -⟩ :=
    join_refers_to_loaded_iff (by decide) (by decide) hleft hright hload
  exact ⟨hload, join, hjoin, hrefers.2 (by decide)⟩

/-- The users are loaded under a text with a space at its end, and joined under the same text. -/
theorem spaced_users_missed :
    ('.' ∉ "user ".toList ∧ '=' ∉ "user ".toList) ∧ (IsWord "org" ∧ IsWord "id") ∧
    parseLoad ("user " ++ "=" ++ "users.json") = .ok ⟨⟨"user"⟩, "users.json"⟩ ∧
    parseJoin ("user " ++ "." ++ "org" ++ "=" ++ ("user " ++ "." ++ "id")) =
      .ok ⟨⟨"user "⟩, "org", ⟨"user "⟩, "id"⟩ ∧
    ¬ ∃ join, parseJoin ("user " ++ "." ++ "org" ++ "=" ++ ("user " ++ "." ++ "id")) = .ok join ∧
      join.left = ⟨"user"⟩ ∧ join.right = ⟨"user"⟩ := by
  have hjoin : parseJoin ("user " ++ "." ++ "org" ++ "=" ++ ("user " ++ "." ++ "id")) =
      .ok ⟨⟨"user "⟩, "org", ⟨"user "⟩, "id"⟩ := by rfl
  refine ⟨by decide, by decide +kernel, by rfl, hjoin, ?_⟩
  rintro ⟨join, hread, hleft, -⟩
  rw [hjoin] at hread
  cases hread
  simp at hleft

end DocStore.Proofs.CommandLine.Values
