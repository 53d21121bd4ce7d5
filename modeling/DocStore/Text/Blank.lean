import DocStore.Text.CodePoints

/-!
# White space

The characters with the Unicode property `White_Space`, and text without them at its ends. What is
left when a text is trimmed is told apart by two facts: the text is it with white space around, and
there is no more white space at its ends.
-/

namespace DocStore.Text

def blankBorders : List Nat := [
  0x9, 0xE, 0x20, 0x21, 0x85, 0x86, 0xA0, 0xA1, 0x1680, 0x1681, 0x2000, 0x200B, 0x2028, 0x202A,
  0x202F, 0x2030, 0x205F, 0x2060, 0x3000, 0x3001]

def isBlank (c : Char) : Bool := within blankBorders c

/-- A text without the white space at its beginning and its end. -/
def trim (text : String) : String :=
  String.ofList (((text.toList.dropWhile isBlank).reverse.dropWhile isBlank).reverse)

/-- Whether a text is nothing but white space. -/
def allBlank (text : String) : Bool := text.toList.all isBlank

/-- A text without the white space at its beginning. -/
def trimStart (text : String) : String := String.ofList (text.toList.dropWhile isBlank)

/-- A text without the white space at its end. -/
def trimEnd (text : String) : String :=
  String.ofList (text.toList.reverse.dropWhile isBlank).reverse

/-- There is no white space at the beginning. -/
def StartsBare (text : String) : Prop := ∀ c ∈ text.toList.head?, isBlank c = false

/-- There is no white space at the end. -/
def EndsBare (text : String) : Prop := ∀ c ∈ text.toList.getLast?, isBlank c = false

instance (text : String) : Decidable (StartsBare text) :=
  decidable_of_iff ((text.toList.head?.all fun c => !isBlank c) = true)
    (by simp [StartsBare, Option.all_eq_true])

instance (text : String) : Decidable (EndsBare text) :=
  decidable_of_iff ((text.toList.getLast?.all fun c => !isBlank c) = true)
    (by simp [EndsBare, Option.all_eq_true])

/-- The text is `core`, with any white space around it. -/
def Padded (core text : String) : Prop :=
  ∃ before after, allBlank before = true ∧ allBlank after = true ∧ text = before ++ core ++ after

variable {text core before after more : String}

theorem padded_self (text : String) : Padded text text := ⟨"", "", rfl, rfl, by simp⟩

/-! ## Blank texts and bare ends -/

/-- The code points of white space. -/
def blankPoints : List Nat := [
  0x9, 0xA, 0xB, 0xC, 0xD, 0x20, 0x85, 0xA0, 0x1680, 0x2000, 0x2001, 0x2002, 0x2003, 0x2004, 0x2005,
  0x2006, 0x2007, 0x2008, 0x2009, 0x200A, 0x2028, 0x2029, 0x202F, 0x205F, 0x3000]

theorem mem_blankPoints {c : Char} (h : isBlank c = true) : c.toNat ∈ blankPoints := by
  simp only [isBlank, blankBorders, within_cons_cons, within_nil, Bool.false_eq_true, or_false] at h
  simp only [blankPoints, List.mem_cons, List.not_mem_nil, or_false]
  omega

theorem allBlank_iff : allBlank text = true ↔ ∀ c ∈ text.toList, isBlank c = true :=
  List.all_eq_true

theorem allBlank_empty : allBlank "" = true := rfl

theorem allBlank_append :
    allBlank (before ++ after) = true ↔ allBlank before = true ∧ allBlank after = true := by
  simp [allBlank]

theorem notMem_of_allBlank {c : Char} (h : allBlank text = true) (hc : isBlank c = false) :
    c ∉ text.toList := by
  intro hmem
  rw [allBlank_iff.1 h c hmem] at hc
  cases hc

theorem startsBare_empty : StartsBare "" := by simp [StartsBare]

theorem startsBare_of_forall (h : ∀ c ∈ text.toList, isBlank c = false) : StartsBare text :=
  fun c hc => h c (List.mem_of_mem_head? hc)

theorem endsBare_of_forall (h : ∀ c ∈ text.toList, isBlank c = false) : EndsBare text :=
  fun c hc => h c (List.mem_of_getLast? hc)

theorem startsBare_append (hcore : core ≠ "") :
    StartsBare (core ++ more) ↔ StartsBare core := by
  obtain ⟨first, rest, hchars⟩ := List.exists_cons_of_ne_nil (mt String.toList_eq_nil_iff.1 hcore)
  simp [StartsBare, hchars]

theorem endsBare_append (hcore : core ≠ "") : EndsBare (more ++ core) ↔ EndsBare core := by
  have hchars := mt String.toList_eq_nil_iff.1 hcore
  simp [EndsBare, List.getLast?_append, List.getLast?_eq_some_getLast hchars]

theorem StartsBare.append (hcore : StartsBare core) (hmore : StartsBare more) :
    StartsBare (core ++ more) := by
  by_cases hempty : core = ""
  · rwa [hempty, String.empty_append]
  · exact (startsBare_append hempty).2 hcore

theorem EndsBare.append (hmore : EndsBare more) (hcore : EndsBare core) :
    EndsBare (more ++ core) := by
  by_cases hempty : core = ""
  · rwa [hempty, String.append_empty]
  · exact (endsBare_append hempty).2 hcore

/-! ## What trimming leaves -/

theorem dropWhile_isBlank_eq_iff {chars rest : List Char} :
    chars.dropWhile isBlank = rest ↔
      (∃ pad, (∀ c ∈ pad, isBlank c = true) ∧ chars = pad ++ rest) ∧
        ∀ c ∈ rest.head?, isBlank c = false := by
  constructor
  · rintro rfl
    refine ⟨⟨chars.takeWhile isBlank, ?_, List.takeWhile_append_dropWhile.symm⟩, ?_⟩
    · exact List.all_eq_true.1 List.all_takeWhile
    · intro c hc
      have hhead := List.head?_dropWhile_not isBlank chars
      rw [Option.mem_def.1 hc] at hhead
      exact hhead
  · rintro ⟨⟨pad, hpad, rfl⟩, hhead⟩
    rw [List.dropWhile_append_of_pos hpad]
    cases rest with
    | nil => rfl
    | cons c rest => simp [hhead c rfl]

theorem trimStart_eq_iff :
    trimStart text = core ↔
      (∃ before, allBlank before = true ∧ text = before ++ core) ∧ StartsBare core := by
  rw [trimStart, ← String.toList_inj, String.toList_ofList, dropWhile_isBlank_eq_iff]
  refine and_congr_left fun _ => ⟨?_, ?_⟩
  · rintro ⟨pad, hpad, htext⟩
    refine ⟨String.ofList pad, by simpa [allBlank] using hpad, ?_⟩
    rw [← String.toList_inj, htext, String.toList_append, String.toList_ofList]
  · rintro ⟨before, hbefore, rfl⟩
    exact ⟨before.toList, allBlank_iff.1 hbefore, String.toList_append⟩

theorem trimEnd_eq_iff :
    trimEnd text = core ↔
      (∃ after, allBlank after = true ∧ text = core ++ after) ∧ EndsBare core := by
  rw [trimEnd, ← String.toList_inj, String.toList_ofList, List.reverse_eq_iff,
    dropWhile_isBlank_eq_iff, List.head?_reverse]
  refine and_congr_left fun _ => ⟨?_, ?_⟩
  · rintro ⟨pad, hpad, htext⟩
    refine ⟨String.ofList pad.reverse, by simpa [allBlank] using hpad, ?_⟩
    rw [← String.toList_inj, ← List.reverse_inj, htext]
    simp
  · rintro ⟨after, hafter, rfl⟩
    exact ⟨after.toList.reverse, by simpa [allBlank] using hafter, by simp⟩

theorem trimStart_spec (text : String) :
    (∃ before, allBlank before = true ∧ text = before ++ trimStart text) ∧
      StartsBare (trimStart text) := trimStart_eq_iff.1 rfl

theorem trimStart_trimStart (text : String) : trimStart (trimStart text) = trimStart text :=
  trimStart_eq_iff.2 ⟨⟨"", allBlank_empty, String.empty_append.symm⟩, (trimStart_spec text).2⟩

theorem trimEnd_spec (text : String) :
    (∃ after, allBlank after = true ∧ text = trimEnd text ++ after) ∧ EndsBare (trimEnd text) :=
  trimEnd_eq_iff.1 rfl

theorem trimEnd_eq_self_iff : trimEnd text = text ↔ EndsBare text := by
  rw [trimEnd_eq_iff]
  exact and_iff_right ⟨"", allBlank_empty, String.append_empty.symm⟩

theorem trimEnd_eq_empty_iff : trimEnd text = "" ↔ allBlank text = true := by
  rw [trimEnd_eq_iff]
  constructor
  · rintro ⟨⟨after, hafter, rfl⟩, -⟩
    rwa [String.empty_append]
  · intro hblank
    exact ⟨⟨text, hblank, String.empty_append.symm⟩, by simp [EndsBare]⟩

theorem trim_eq (text : String) : trim text = trimEnd (trimStart text) := by
  simp [trim, trimEnd, trimStart]

theorem trim_eq_iff :
    trim text = core ↔ Padded core text ∧ StartsBare core ∧ EndsBare core := by
  rw [trim_eq, trimEnd_eq_iff]
  constructor
  · rintro ⟨⟨after, hafter, hstart⟩, hend⟩
    obtain ⟨⟨before, hbefore, htext⟩, hbare⟩ := trimStart_eq_iff.1 hstart
    refine ⟨⟨before, after, hbefore, hafter, by rw [htext, String.append_assoc]⟩, ?_, hend⟩
    by_cases hcore : core = ""
    · rw [hcore]
      exact startsBare_empty
    · exact (startsBare_append hcore).1 hbare
  · rintro ⟨⟨before, after, hbefore, hafter, rfl⟩, hstart, hend⟩
    refine ⟨?_, hend⟩
    by_cases hcore : core = ""
    · -- All of the text is white space, and all of it goes at the beginning.
      subst hcore
      refine ⟨"", allBlank_empty, trimStart_eq_iff.2 ⟨⟨before ++ after, ?_, ?_⟩, startsBare_empty⟩⟩
      · exact allBlank_append.2 ⟨hbefore, hafter⟩
      · simp
    · refine ⟨after, hafter, trimStart_eq_iff.2 ⟨⟨before, hbefore, ?_⟩, ?_⟩⟩
      · exact String.append_assoc ..
      · exact (startsBare_append hcore).2 hstart

theorem trim_spec (text : String) :
    Padded (trim text) text ∧ StartsBare (trim text) ∧ EndsBare (trim text) := trim_eq_iff.1 rfl

theorem padded_trimStart (text : String) : Padded (trim text) (trimStart text) := by
  obtain ⟨⟨after, hafter, htext⟩, -⟩ := trimEnd_spec (trimStart text)
  refine ⟨"", after, rfl, hafter, ?_⟩
  rw [trim_eq, String.empty_append]
  exact htext

theorem endsBare_trimStart_iff (h : trimStart text ≠ "") :
    EndsBare (trimStart text) ↔ EndsBare text := by
  obtain ⟨⟨before, -, htext⟩, -⟩ := trimStart_spec text
  rw [← endsBare_append h, ← htext]

/-- A character that is no white space keeps what stands behind it from being trimmed at the
beginning, and what stands before it from being trimmed at the end. -/
theorem trim_cut {c : Char} (h : isBlank c = false) (before after : String) :
    trim (before ++ String.singleton c ++ after) =
      trimStart before ++ String.singleton c ++ trimEnd after := by
  obtain ⟨⟨front, hfront, hbefore⟩, hstart⟩ := trimStart_spec before
  obtain ⟨⟨back, hback, hafter⟩, hend⟩ := trimEnd_spec after
  have hbare : StartsBare (String.singleton c) ∧ EndsBare (String.singleton c) := by
    simpa [StartsBare, EndsBare] using h
  refine trim_eq_iff.2 ⟨⟨front, back, hfront, hback, ?_⟩, ?_, ?_⟩
  · calc before ++ String.singleton c ++ after
        _ = (front ++ trimStart before) ++ String.singleton c ++ (trimEnd after ++ back) := by
          rw [← hbefore, ← hafter]
        _ = front ++ (trimStart before ++ String.singleton c ++ trimEnd after) ++ back := by
          simp only [String.append_assoc]
  · rw [String.append_assoc]
    exact hstart.append ((startsBare_append (by simp)).2 hbare.1)
  · exact ((endsBare_append (by simp)).2 hbare.2).append hend

end DocStore.Text
