import DocStore.Json.Reader.Layout
import DocStore.Proofs.Reading.Numerals

/-!
# Records are read back

A record is written as an object with its fields in the order of a layout. `Fills` follows the
layout through the fields: each is known, comes for the first time, and is read from its written
value. That is all a reader needs to read the object to its end.
-/
namespace DocStore.Proofs.Reading.Records

open Json (Layout Reader Slot renderText)
open Json.Reader (colon nextKey)
open Texts (bytesOf bytesOf_append bytesOf_cons bytesOf_renderText Loops quote run_textBody
  utf8_ofList)

variable {σ : Type}

/-! ## Written objects -/

/-- A field with its name and its written value. -/
def fieldText : String × List Char → List Char
  | (name, value) => renderText name ++ ':' :: value

/-- The text of an object with written values. -/
def objectText (fields : List (String × List Char)) : List Char :=
  '\x7b' :: [','].intercalate (fields.map fieldText) ++ ['\x7d']

/-- The comma before a field that is not the first. -/
def separator (first : Bool) : List Char := if first then [] else [',']

/-- The fields that are still to come, and the end of the object. -/
def tailText : Bool → List (String × List Char) → List Char
  | _, [] => ['\x7d']
  | first, field :: more => separator first ++ (fieldText field ++ tailText false more)

theorem intercalate_fieldText (field : String × List Char) (more : List (String × List Char)) :
    [','].intercalate (fieldText field :: more.map fieldText) ++ ['\x7d']
      = fieldText field ++ tailText false more := by
  induction more generalizing field with
  | nil => rw [List.map_nil, List.intercalate_singleton, tailText]
  | cons next more ih =>
    rw [List.map_cons, List.intercalate_cons_cons, List.append_assoc, ih next, List.append_assoc]
    rfl

theorem objectText_eq (fields : List (String × List Char)) :
    objectText fields = '\x7b' :: tailText true fields := by
  cases fields with
  | nil => rfl
  | cons field more =>
    rw [objectText, List.map_cons, List.cons_append, intercalate_fieldText]
    rfl

theorem length_fieldText_pos (first : Bool) (name : String) (value : List Char) :
    0 < (bytesOf (separator first ++ fieldText (name, value))).length := by
  rw [bytesOf_append, List.length_append, fieldText, bytesOf_append, bytesOf_renderText,
    List.length_append, List.length_cons]
  omega

/-! ## Fields in the order of a layout -/

/-- What may follow a value in an object: a comma or the closing brace. -/
def Follows (b : UInt8) : Prop := b = 0x2C ∨ b = 0x7D

/-- A slot reads its value from these characters, up to what follows a value. -/
def Takes (slot : Slot σ) (broken : Option ReadFault) (record : σ) (value : List Char) (next : σ) :
    Prop :=
  ∀ b rest, Follows b →
    (slot.read record).run broken (bytesOf value ++ b :: rest) = .ok (next, b :: rest)

/-- The fields that are still to come lead from a record to the last one. -/
inductive Fills (layout : Layout σ) (broken : Option ReadFault) :
    List String → σ → List (String × List Char) → σ → Prop
  | done {seen : List String} {record : σ} :
      (layout.slots.find? fun slot => slot.required ∧ slot.name ∉ seen) = none →
      Fills layout broken seen record [] record
  | field {seen : List String} {record next last : σ} {name : String} {value : List Char}
      {slot : Slot σ} {more : List (String × List Char)} :
      layout.slots.find? (·.name = name) = some slot → name ∉ seen →
      Takes slot broken record value next →
      Fills layout broken (name :: seen) next more last →
      Fills layout broken seen record ((name, value) :: more) last

variable {layout : Layout σ} {broken : Option ReadFault}

theorem run_nextKey (first : Bool) (broken : Option ReadFault) (rest : List UInt8) :
    (nextKey first).run broken (bytesOf (separator first) ++ quote :: rest) = .ok (true, rest) := by
  cases first <;> rfl

theorem run_fieldStep_field {seen : List String} {record next : σ} {name : String}
    {value : List Char} {slot : Slot σ} (hslot : layout.slots.find? (·.name = name) = some slot)
    (hnew : name ∉ seen) (htakes : Takes slot broken record value next) (first : Bool) {b : UInt8}
    (hb : Follows b) (rest : List UInt8) :
    (layout.fieldStep ⟨record, seen, first⟩).run broken
        (bytesOf (separator first ++ fieldText (name, value)) ++ b :: rest)
      = .ok (.inl ⟨next, name :: seen, false⟩, b :: rest) := by
  have hname := run_textBody name.toList broken (0x3A :: (bytesOf value ++ b :: rest))
  rw [String.ofList_toList] at hname
  have hbytes : bytesOf (separator first ++ fieldText (name, value)) ++ b :: rest
      = bytesOf (separator first) ++ quote :: (bytesOf (name.toList.flatMap Json.escape) ++
        quote :: 0x3A :: (bytesOf value ++ b :: rest)) := by
    have hcolon : DocStore.Text.utf8Char ':' = [0x3A] := rfl
    rw [fieldText, bytesOf_append, bytesOf_append, bytesOf_cons, bytesOf_renderText, hcolon]
    simp only [List.append_assoc, List.cons_append, List.nil_append]
  rw [hbytes]
  unfold Layout.fieldStep
  rw [Reader.run_bind, run_nextKey]
  dsimp only
  rw [if_pos rfl, Reader.run_bind, hname]
  dsimp only
  rw [hslot]
  dsimp only
  rw [if_neg hnew]
  have hcolon : colon.run broken (0x3A :: (bytesOf value ++ b :: rest))
      = .ok ((), bytesOf value ++ b :: rest) := rfl
  change (colon >>= _).run broken _ = _
  rw [Reader.run_bind, hcolon]
  dsimp only
  rw [Reader.run_bind, htakes b rest hb]
  rfl

theorem run_fieldStep_end {seen : List String} {record : σ}
    (hall : (layout.slots.find? fun slot => slot.required ∧ slot.name ∉ seen) = none)
    (first : Bool) (broken : Option ReadFault) (rest : List UInt8) :
    (layout.fieldStep ⟨record, seen, first⟩).run broken (0x7D :: rest)
      = .ok (.inr record, rest) := by
  have hkey : (nextKey first).run broken (0x7D :: rest) = .ok (false, rest) := by
    cases first <;> rfl
  unfold Layout.fieldStep
  rw [Reader.run_bind, hkey]
  dsimp only
  rw [if_neg Bool.false_ne_true, hall]
  rfl

/-- What stands behind a value of an object begins with a comma or a closing brace. -/
theorem exists_follows (fields : List (String × List Char)) (rest : List UInt8) :
    ∃ b more, Follows b ∧ bytesOf (tailText false fields) ++ rest = b :: more := by
  cases fields with
  | nil => exact ⟨0x7D, rest, .inr rfl, rfl⟩
  | cons field more => exact ⟨0x2C, _, .inl rfl, rfl⟩

theorem Fills.loops {seen : List String} {record last : σ} {fields : List (String × List Char)}
    (h : Fills layout broken seen record fields last) (first : Bool) (rest : List UInt8) :
    Loops layout.fieldStep broken ⟨record, seen, first⟩ (bytesOf (tailText first fields) ++ rest)
      last rest := by
  induction h generalizing first with
  | done hall => exact .done (run_fieldStep_end hall first broken rest)
  | @field seen record next last name value slot more hslot hnew htakes _ ih =>
    obtain ⟨b, behind, hb, hbytes⟩ := exists_follows more rest
    have hrun := run_fieldStep_field hslot hnew htakes first hb behind
    rw [← hbytes] at hrun
    have htail : bytesOf (tailText first ((name, value) :: more)) ++ rest
        = bytesOf (separator first ++ fieldText (name, value)) ++
          (bytesOf (tailText false more) ++ rest) := by
      rw [tailText, ← List.append_assoc, bytesOf_append, List.append_assoc]
    rw [htail]
    refine .more hrun ?_ (ih false)
    generalize bytesOf (tailText false more) ++ rest = left
    rw [List.length_append]
    exact Nat.lt_add_of_pos_left (length_fieldText_pos first name value)

/-- A written object is read to the last record. -/
theorem Fills.run_reader {last : σ} {fields : List (String × List Char)}
    (h : Fills layout broken [] layout.blank fields last) (rest : List UInt8) :
    layout.reader.run broken (bytesOf (objectText fields) ++ rest) = .ok (last, rest) := by
  rw [objectText_eq]
  exact (h.loops true rest).run_loop

/-- A text of a written object holds the last record and nothing else. -/
theorem Fills.ofText {last : σ} {fields : List (String × List Char)}
    (h : Fills layout none [] layout.blank fields last) :
    Json.ofText layout.reader (String.ofList (objectText fields)) = .ok last := by
  have hrun := h.run_reader []
  rw [List.append_nil] at hrun
  have honly : (Reader.only layout.reader).run none (bytesOf (objectText fields))
      = .ok (last, []) := by
    unfold Reader.only
    rw [Reader.run_bind, hrun]
    rfl
  rw [Json.ofText, utf8_ofList, honly]

end DocStore.Proofs.Reading.Records
