import DocStore.Load.Reading

/-!
# What a source holds

`Holds record source documents ending` says what a source holds in terms of its bytes: an opening
bracket, items with commas between them, a closing bracket, and what follows it. It has no fuel and
calls no reader but that of the records. `holds_iff` says that this is what is read.
-/
namespace DocStore.Proofs.Load.Contents

open Json (Failure Reader)
open Json.Reader (isBlank token nextItem closeList atEnd)

def opening : UInt8 := 0x5B
def comma : UInt8 := 0x2C
def closing : UInt8 := 0x5D

def Blank (bytes : List UInt8) : Prop := ∀ b ∈ bytes, isBlank b = true

/-- An item begins with a byte that is neither blank nor the end of the list. -/
def Begins (bytes : List UInt8) : Prop :=
  ∃ b rest, bytes = b :: rest ∧ isBlank b = false ∧ b ≠ closing

/-- What a look beyond the last byte gives where `fault` is due at the end of the source. -/
def beyond (broken : Option ReadFault) (fault : Json.Fault) : Failure :=
  match broken with
  | some broken => .broken broken
  | none => .fault fault

/-- The bytes before the next item: blanks, and a comma between them unless the item is first. -/
inductive Ahead : Bool → List UInt8 → List UInt8 → Prop
  | first {pad item : List UInt8} : Blank pad → Begins item → Ahead true (pad ++ item) item
  | later {pad pad' item : List UInt8} : Blank pad → Blank pad' → Begins item →
      Ahead false (pad ++ comma :: (pad' ++ item)) item

/-- All that can be wrong before the next item. -/
inductive Derailed (broken : Option ReadFault) : Bool → List UInt8 → Failure → Prop
  | cut {first : Bool} {pad : List UInt8} : Blank pad →
      Derailed broken first pad (beyond broken .endInList)
  | cutAfterComma {pad pad' : List UInt8} : Blank pad → Blank pad' →
      Derailed broken false (pad ++ comma :: pad') (beyond broken .endInValue)
  | noComma {pad rest : List UInt8} {b : UInt8} : Blank pad → isBlank b = false →
      b ≠ comma → b ≠ closing →
      Derailed broken false (pad ++ b :: rest) (.fault .expectedListEnd)
  | trailingComma {pad pad' rest : List UInt8} : Blank pad → Blank pad' →
      Derailed broken false (pad ++ comma :: (pad' ++ closing :: rest)) (.fault .trailingComma)

/-- What follows the closing bracket. -/
inductive Trailing : Option ReadFault → List UInt8 → Ending → Prop
  | clean {pad : List UInt8} : Blank pad → Trailing none pad .closed
  | broken {pad : List UInt8} {fault : ReadFault} : Blank pad →
      Trailing (some fault) pad (.spoiled (.broken fault))
  | junk {broken : Option ReadFault} {pad rest : List UInt8} {b : UInt8} : Blank pad →
      isBlank b = false →
      Trailing broken (pad ++ b :: rest) (.spoiled (.fault .trailingCharacters))

/-- What stands in a list from some byte on. The flag says that no item came before. -/
inductive Items (record : RecordReader) (broken : Option ReadFault) :
    Bool → List UInt8 → List Json → Ending → Prop
  | closed {first : Bool} {pad after : List UInt8} {ending : Ending} : Blank pad →
      Trailing broken after ending → Items record broken first (pad ++ closing :: after) [] ending
  | derailed {first : Bool} {bytes : List UInt8} {failure : Failure} :
      Derailed broken first bytes failure → Items record broken first bytes [] (.failed failure)
  | unreadable {first : Bool} {bytes item : List UInt8} {failure : Failure} :
      Ahead first bytes item → record.run broken item = .error failure →
      Items record broken first bytes [] (.failed failure)
  | unwritable {first : Bool} {bytes item rest : List UInt8} {fault : RecordFault} :
      Ahead first bytes item → record.run broken item = .ok (.error fault, rest) →
      Items record broken first bytes [] (.unwritable fault)
  | item {first : Bool} {bytes item rest : List UInt8} {document : Json} {documents : List Json}
      {ending : Ending} :
      Ahead first bytes item → record.run broken item = .ok (.ok document, rest) →
      Items record broken false rest documents ending →
      Items record broken first bytes (document :: documents) ending

/-- The documents of the records of a source up to what ends the reading, and that ending. -/
inductive Holds (record : RecordReader) (source : Source) : List Json → Ending → Prop
  | list {pad rest : List UInt8} {documents : List Json} {ending : Ending} : Blank pad →
      source.bytes = pad ++ opening :: rest →
      Items record source.broken true rest documents ending →
      Holds record source documents ending
  | noList {failure : Failure} :
      Reading.opening.run source.broken source.bytes = .error failure →
      Holds record source [] (.failed failure)

/-! ## Bytes and tokens -/

theorem toNat_ofNat_byte (b : UInt8) : (Char.ofNat b.toNat).toNat = b.toNat := by
  have hvalid : b.toNat.isValidChar := by
    have h := b.toNat_lt
    left
    omega
  unfold Char.ofNat
  rw [dif_pos hvalid]
  rfl

theorem ofNat_byte_eq_iff (b : UInt8) (c : Char) :
    Char.ofNat b.toNat = c ↔ b.toNat = c.toNat := by
  rw [← Char.toNat_inj, toNat_ofNat_byte]

theorem ofNat_byte_eq_comma (b : UInt8) : Char.ofNat b.toNat = ',' ↔ b = comma := by
  rw [ofNat_byte_eq_iff, ← UInt8.toNat_inj]
  rfl

theorem ofNat_byte_eq_closing (b : UInt8) : Char.ofNat b.toNat = ']' ↔ b = closing := by
  rw [ofNat_byte_eq_iff, ← UInt8.toNat_inj]
  rfl

theorem ofNat_byte_eq_opening (b : UInt8) : Char.ofNat b.toNat = '[' ↔ b = opening := by
  rw [ofNat_byte_eq_iff, ← UInt8.toNat_inj]
  rfl

/-- Bytes are blank, or have a first byte that is not. -/
theorem blank_or_token (bytes : List UInt8) :
    Blank bytes ∨ ∃ pad b rest, Blank pad ∧ isBlank b = false ∧ bytes = pad ++ b :: rest := by
  induction bytes with
  | nil => exact .inl (by simp [Blank])
  | cons first rest ih =>
    cases hfirst : isBlank first with
    | false => exact .inr ⟨[], first, rest, by simp [Blank], hfirst, rfl⟩
    | true =>
      rcases ih with hblank | ⟨pad, b, rest, hpad, hb, rfl⟩
      · left
        simpa [Blank, hfirst] using hblank
      · right
        refine ⟨first :: pad, b, rest, ?_, hb, rfl⟩
        simpa [Blank, hfirst] using hpad

theorem run_token (broken : Option ReadFault) (bytes : List UInt8) :
    token.run broken bytes = Reader.peek.run broken (bytes.dropWhile isBlank) := rfl

theorem dropWhile_pad {pad : List UInt8} (hpad : Blank pad) {b : UInt8} (hb : isBlank b = false)
    (rest : List UInt8) : (pad ++ b :: rest).dropWhile isBlank = b :: rest := by
  rw [List.dropWhile_append_of_pos hpad, List.dropWhile_cons, hb]
  rfl

theorem dropWhile_blank {pad : List UInt8} (hpad : Blank pad) : pad.dropWhile isBlank = [] := by
  induction pad with
  | nil => rfl
  | cons b rest ih =>
    rw [List.dropWhile_cons, hpad b List.mem_cons_self]
    exact ih fun c hc => hpad c (List.mem_cons_of_mem b hc)

theorem run_token_pad {pad : List UInt8} (hpad : Blank pad) {b : UInt8} (hb : isBlank b = false)
    (broken : Option ReadFault) (rest : List UInt8) :
    token.run broken (pad ++ b :: rest) = .ok (some (Char.ofNat b.toNat), b :: rest) := by
  rw [run_token, dropWhile_pad hpad hb]
  rfl

theorem run_token_blank {pad : List UInt8} (hpad : Blank pad) (broken : Option ReadFault) :
    token.run broken pad =
      match broken with
      | some fault => .error (.broken fault)
      | none => .ok (none, []) := by
  rw [run_token, dropWhile_blank hpad]
  cases broken <;> rfl

/-! ## Between the items -/

theorem isBlank_comma : isBlank comma = false := rfl

theorem isBlank_closing : isBlank closing = false := rfl

theorem isBlank_opening : isBlank opening = false := rfl

theorem run_nextItem_closing {pad : List UInt8} (hpad : Blank pad) (first : Bool)
    (broken : Option ReadFault) (after : List UInt8) :
    (nextItem first).run broken (pad ++ closing :: after) = .ok (false, closing :: after) := by
  unfold nextItem
  rw [Reader.run_bind, run_token_pad hpad isBlank_closing]
  rfl

theorem run_nextItem_first {pad : List UInt8} (hpad : Blank pad) {b : UInt8}
    (hb : isBlank b = false) (hne : b ≠ closing) (broken : Option ReadFault) (rest : List UInt8) :
    (nextItem true).run broken (pad ++ b :: rest) = .ok (true, b :: rest) := by
  unfold nextItem
  rw [Reader.run_bind, run_token_pad hpad hb]
  dsimp only
  split
  · rename_i h
    cases h
  · rename_i h
    exact absurd ((ofNat_byte_eq_closing b).1 (Option.some.inj h)) hne
  · rfl

/-- After a comma an item must come. -/
theorem run_nextItem_comma {pad : List UInt8} (hpad : Blank pad) (broken : Option ReadFault)
    (rest : List UInt8) :
    (nextItem false).run broken (pad ++ comma :: rest) =
      (token >>= fun
        | none => Reader.fail .endInValue
        | some ']' => Reader.fail .trailingComma
        | some _ => pure true).run broken rest := by
  unfold nextItem
  rw [Reader.run_bind, run_token_pad hpad isBlank_comma]
  rfl

theorem run_nextItem_ahead {first : Bool} {bytes item : List UInt8} (h : Ahead first bytes item)
    (broken : Option ReadFault) : (nextItem first).run broken bytes = .ok (true, item) := by
  cases h with
  | first hpad hbegins =>
    obtain ⟨b, rest, rfl, hb, hne⟩ := hbegins
    exact run_nextItem_first hpad hb hne broken rest
  | later hpad hpad' hbegins =>
    obtain ⟨b, rest, rfl, hb, hne⟩ := hbegins
    rw [run_nextItem_comma hpad, Reader.run_bind, run_token_pad hpad' hb]
    dsimp only
    split
    · rename_i h
      cases h
    · rename_i h
      exact absurd ((ofNat_byte_eq_closing b).1 (Option.some.inj h)) hne
    · rfl

theorem run_nextItem_derailed {first : Bool} {bytes : List UInt8} {failure : Failure}
    {broken : Option ReadFault} (h : Derailed broken first bytes failure) :
    (nextItem first).run broken bytes = .error failure := by
  cases h with
  | cut hpad =>
    unfold nextItem
    rw [Reader.run_bind, run_token_blank hpad]
    cases broken <;> rfl
  | cutAfterComma hpad hpad' =>
    rw [run_nextItem_comma hpad, Reader.run_bind, run_token_blank hpad']
    cases broken <;> rfl
  | @noComma pad rest b hpad hb hcomma hclosing =>
    unfold nextItem
    rw [Reader.run_bind, run_token_pad hpad hb]
    dsimp only
    split
    · rename_i h
      cases h
    · rename_i h
      exact absurd ((ofNat_byte_eq_closing b).1 (Option.some.inj h)) hclosing
    · rename_i h
      obtain rfl := Option.some.inj h
      have hne : Char.ofNat b.toNat ≠ ',' := fun he => hcomma ((ofNat_byte_eq_comma b).1 he)
      rw [if_neg Bool.false_ne_true, if_pos hne]
      rfl
  | trailingComma hpad hpad' =>
    rw [run_nextItem_comma hpad, Reader.run_bind, run_token_pad hpad' isBlank_closing]
    rfl

/-- Each run of bytes holds an item, the end of the list, or a fault. -/
theorem ahead_or_closing_or_derailed (broken : Option ReadFault) (first : Bool)
    (bytes : List UInt8) :
    (∃ item, Ahead first bytes item) ∨
    (∃ pad after, Blank pad ∧ bytes = pad ++ closing :: after) ∨
    ∃ failure, Derailed broken first bytes failure := by
  rcases blank_or_token bytes with hblank | ⟨pad, b, rest, hpad, hb, rfl⟩
  · exact .inr (.inr ⟨_, .cut hblank⟩)
  by_cases hclosing : b = closing
  · subst hclosing
    exact .inr (.inl ⟨pad, rest, hpad, rfl⟩)
  cases first with
  | true => exact .inl ⟨_, .first hpad ⟨b, rest, rfl, hb, hclosing⟩⟩
  | false =>
    by_cases hcomma : b = comma
    · subst hcomma
      rcases blank_or_token rest with hblank | ⟨pad', b', rest', hpad', hb', rfl⟩
      · exact .inr (.inr ⟨_, .cutAfterComma hpad hblank⟩)
      · by_cases hclosing' : b' = closing
        · subst hclosing'
          exact .inr (.inr ⟨_, .trailingComma hpad hpad'⟩)
        · exact .inl ⟨_, .later hpad hpad' ⟨b', rest', rfl, hb', hclosing'⟩⟩
    · exact .inr (.inr ⟨_, .noComma hpad hb hcomma hclosing⟩)

/-- The way to an item that is not the first takes a byte, and leaves one. -/
theorem length_lt_of_ahead {bytes item : List UInt8} (h : Ahead false bytes item) :
    item.length < bytes.length := by
  cases h with
  | later hpad hpad' hbegins =>
    simp only [List.length_append, List.length_cons]
    omega

theorem length_le_of_ahead {first : Bool} {bytes item : List UInt8} (h : Ahead first bytes item) :
    item.length ≤ bytes.length := by
  cases h with
  | first hpad hbegins => simp
  | later hpad hpad' hbegins => exact Nat.le_of_lt (length_lt_of_ahead (.later hpad hpad' hbegins))

theorem length_pos_of_ahead {first : Bool} {bytes item : List UInt8} (h : Ahead first bytes item) :
    0 < item.length := by
  cases h with
  | first _ hbegins | later _ _ hbegins =>
    obtain ⟨b, rest, rfl, -, -⟩ := hbegins
    exact Nat.succ_pos _

/-! ## Behind the list -/

theorem endingAt_closing (broken : Option ReadFault) (after : List UInt8) :
    Reading.endingAt broken (closing :: after) =
      match atEnd.run broken after with
      | .ok _ => .closed
      | .error failure => .spoiled failure := rfl

theorem endingAt_trailing {broken : Option ReadFault} {after : List UInt8} {ending : Ending}
    (h : Trailing broken after ending) : Reading.endingAt broken (closing :: after) = ending := by
  rw [endingAt_closing]
  unfold atEnd
  rw [Reader.run_bind]
  cases h with
  | clean hpad =>
    rw [run_token_blank hpad]
    rfl
  | broken hpad =>
    rw [run_token_blank hpad]
  | junk hpad hb =>
    rw [run_token_pad hpad hb]
    rfl

theorem exists_trailing (broken : Option ReadFault) (after : List UInt8) :
    ∃ ending, Trailing broken after ending := by
  rcases blank_or_token after with hblank | ⟨pad, b, rest, hpad, hb, rfl⟩
  · cases broken with
    | none => exact ⟨_, .clean hblank⟩
    | some fault => exact ⟨_, .broken hblank⟩
  · exact ⟨_, .junk hpad hb⟩

/-! ## The list as a whole -/

variable {record : RecordReader} {broken : Option ReadFault}

/-- Enough fuel for the items ahead. Only the first item may take nothing at all. -/
def Enough (fuel : Nat) (first : Bool) (bytes : List UInt8) : Prop :=
  0 < fuel ∧ bytes.length + first.toNat ≤ fuel

theorem Enough.exists_succ {fuel : Nat} {first : Bool} {bytes : List UInt8}
    (h : Enough fuel first bytes) : ∃ less, fuel = less + 1 :=
  Nat.exists_eq_add_one_of_ne_zero (Nat.ne_of_gt h.1)

theorem enough_rest {fuel : Nat} {first : Bool} {bytes item rest : List UInt8}
    {result : Except RecordFault Json} (h : Enough (fuel + 1) first bytes)
    (hahead : Ahead first bytes item) (hrecord : record.run broken item = .ok (result, rest)) :
    Enough fuel false rest := by
  obtain ⟨-, hfuel⟩ := h
  have hrest : rest.length ≤ item.length := (record.suffix_of_run hrecord).length_le
  have hpos := length_pos_of_ahead hahead
  have hitem : item.length ≤ fuel := by
    cases first with
    | true =>
      have hle := length_le_of_ahead hahead
      simp only [Bool.toNat_true] at hfuel
      omega
    | false =>
      have hlt := length_lt_of_ahead hahead
      simp only [Bool.toNat_false] at hfuel
      omega
  constructor
  · omega
  · simp only [Bool.toNat_false]
    omega

/-- What stands in the list is what is read of it. -/
theorem items_eq {first : Bool} {bytes : List UInt8} {documents : List Json} {ending : Ending}
    (h : Items record broken first bytes documents ending) {fuel : Nat}
    (hfuel : Enough fuel first bytes) :
    Reading.items record broken fuel first bytes = ⟨documents, ending⟩ := by
  induction h generalizing fuel with
  | closed hpad htrailing =>
    obtain ⟨fuel, rfl⟩ := hfuel.exists_succ
    simp only [Reading.items, run_nextItem_closing hpad, endingAt_trailing htrailing]
  | derailed hderailed =>
    obtain ⟨fuel, rfl⟩ := hfuel.exists_succ
    simp only [Reading.items, run_nextItem_derailed hderailed]
  | unreadable hahead hrecord =>
    obtain ⟨fuel, rfl⟩ := hfuel.exists_succ
    simp only [Reading.items, run_nextItem_ahead hahead, hrecord]
  | unwritable hahead hrecord =>
    obtain ⟨fuel, rfl⟩ := hfuel.exists_succ
    simp only [Reading.items, run_nextItem_ahead hahead, hrecord]
  | item hahead hrecord _ ih =>
    obtain ⟨fuel, rfl⟩ := hfuel.exists_succ
    simp only [Reading.items, run_nextItem_ahead hahead, hrecord,
      ih (enough_rest hfuel hahead hrecord)]

theorem exists_items {first : Bool} {bytes : List UInt8} {fuel : Nat}
    (hfuel : Enough fuel first bytes) :
    ∃ documents ending, Items record broken first bytes documents ending := by
  induction fuel generalizing first bytes with
  | zero => exact absurd hfuel.1 (Nat.lt_irrefl 0)
  | succ fuel ih =>
    rcases ahead_or_closing_or_derailed broken first bytes with
      ⟨item, hahead⟩ | ⟨pad, after, hpad, rfl⟩ | ⟨failure, hderailed⟩
    · cases hrecord : record.run broken item with
      | error failure => exact ⟨_, _, .unreadable hahead hrecord⟩
      | ok taken =>
        obtain ⟨_ | document, rest⟩ := taken
        · exact ⟨_, _, .unwritable hahead hrecord⟩
        · obtain ⟨documents, ending, hitems⟩ := ih (enough_rest hfuel hahead hrecord)
          exact ⟨_, _, .item hahead hrecord hitems⟩
    · obtain ⟨ending, htrailing⟩ := exists_trailing broken after
      exact ⟨_, _, .closed hpad htrailing⟩
    · exact ⟨_, _, .derailed hderailed⟩

theorem enough_first (bytes : List UInt8) : Enough (bytes.length + 1) true bytes :=
  ⟨Nat.succ_pos _, Nat.le_refl _⟩

/-! ## The opening bracket -/

theorem run_opening {pad : List UInt8} (hpad : Blank pad) (broken : Option ReadFault)
    (rest : List UInt8) :
    Reading.opening.run broken (pad ++ opening :: rest) = .ok ((), rest) := by
  unfold Reading.opening
  rw [Reader.run_bind, run_token_pad hpad isBlank_opening]
  rfl

theorem mismatch_fails (expected : String) (bytes : List UInt8) :
    ∃ failure, (Reader.mismatch expected : Reader Unit).run broken bytes = .error failure := by
  unfold Reader.mismatch
  rw [Reader.run_bind]
  cases Reader.found.run broken bytes with
  | error failure => exact ⟨failure, rfl⟩
  | ok taken => exact ⟨_, rfl⟩

theorem opens_or_fails (broken : Option ReadFault) (bytes : List UInt8) :
    (∃ pad rest, Blank pad ∧ bytes = pad ++ opening :: rest) ∨
    ∃ failure, Reading.opening.run broken bytes = .error failure := by
  rcases blank_or_token bytes with hblank | ⟨pad, b, rest, hpad, hb, rfl⟩
  · right
    unfold Reading.opening
    rw [Reader.run_bind, run_token_blank hblank]
    cases broken <;> exact ⟨_, rfl⟩
  · by_cases hopening : b = opening
    · subst hopening
      exact .inl ⟨pad, rest, hpad, rfl⟩
    · right
      unfold Reading.opening
      rw [Reader.run_bind, run_token_pad hpad hb]
      dsimp only
      split
      · rename_i h
        cases h
      · rename_i h
        exact absurd ((ofNat_byte_eq_opening b).1 (Option.some.inj h)) hopening
      · exact mismatch_fails _ _

theorem ofSource_eq {source : Source} {documents : List Json} {ending : Ending}
    (h : Holds record source documents ending) :
    Reading.ofSource record source = ⟨documents, ending⟩ := by
  cases h with
  | list hpad hbytes hitems =>
    simp only [Reading.ofSource, hbytes, run_opening hpad]
    exact items_eq hitems (enough_first _)
  | noList hfailure => simp only [Reading.ofSource, hfailure]

theorem exists_holds (record : RecordReader) (source : Source) :
    ∃ documents ending, Holds record source documents ending := by
  rcases opens_or_fails source.broken source.bytes with
    ⟨pad, rest, hpad, hbytes⟩ | ⟨failure, hfailure⟩
  · obtain ⟨documents, ending, hitems⟩ : ∃ documents ending,
        Items record source.broken true rest documents ending := exists_items (enough_first rest)
    exact ⟨documents, ending, .list hpad hbytes hitems⟩
  · exact ⟨_, _, .noList hfailure⟩

/-- Reading a source gives exactly what the source holds. -/
theorem holds_iff {source : Source} {documents : List Json} {ending : Ending} :
    Holds record source documents ending ↔
      Reading.ofSource record source = ⟨documents, ending⟩ := by
  constructor
  · exact ofSource_eq
  · intro h
    obtain ⟨documents', ending', hholds⟩ := exists_holds record source
    have heq := (ofSource_eq hholds).symm.trans h
    simp only [Reading.mk.injEq] at heq
    obtain ⟨rfl, rfl⟩ := heq
    exact hholds

end DocStore.Proofs.Load.Contents
