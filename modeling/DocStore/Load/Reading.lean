import DocStore.Record.Basic

/-!
# The records of a source

What there is to load in a source: a list of records, read from left to right. The documents come
first that were read without fault, and then what ended the reading.
-/

namespace DocStore

inductive Ending where
  /-- The list ends, and with it the source. -/
  | closed
  /-- The list ends, and then something stands or happens that should not. -/
  | spoiled (failure : Json.Failure)
  /-- Reading fails before the list ends. -/
  | failed (failure : Json.Failure)
  /-- A record is read for which no document can be written. -/
  | unwritable (fault : RecordFault)

structure Reading where
  documents : List Json
  ending : Ending

namespace Reading

open Json

/-- What ends the reading at the end of the list. -/
def endingAt (broken : Option ReadFault) (bytes : List UInt8) : Ending :=
  let rest : Reader Unit := do
    Reader.closeList
    Reader.atEnd
  match rest.run broken bytes with
  | .ok _ => .closed
  | .error failure => .spoiled failure

/-- Reads items of the list up to its end. Each of them takes a byte, so that the number of bytes
bounds the items. -/
def items (record : RecordReader) (broken : Option ReadFault) :
    Nat → Bool → List UInt8 → Reading
  | 0, _, _ => ⟨[], .failed (.fault .endInList)⟩
  | fuel + 1, first, bytes =>
    match (Reader.nextItem first).run broken bytes with
    | .error failure => ⟨[], .failed failure⟩
    | .ok (false, rest) => ⟨[], endingAt broken rest⟩
    | .ok (true, rest) =>
      match record.run broken rest with
      | .error failure => ⟨[], .failed failure⟩
      | .ok (.error fault, _) => ⟨[], .unwritable fault⟩
      | .ok (.ok document, rest) =>
        let more := items record broken fuel false rest
        { more with documents := document :: more.documents }

/-- Takes the opening bracket of the list. -/
def opening : Reader Unit := do
  match ← Reader.token with
  | none => Reader.fail .endInValue
  | some '[' => Reader.skip
  | some _ => Reader.mismatch "a JSON array of records"

def ofSource (record : RecordReader) (source : Source) : Reading :=
  match opening.run source.broken source.bytes with
  | .error failure => ⟨[], .failed failure⟩
  | .ok (_, rest) => items record source.broken (rest.length + 1) true rest

end Reading

end DocStore
