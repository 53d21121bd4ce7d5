import DocStore.Json.Reader.Skip
import DocStore.Json.Reader.Value

/-!
# Records with known fields

A layout lists the fields of a record in order. A record is written as an object, whose fields may
come in any order, or as a list of the values in the order of the layout. Fields that are not
required may be left out.
-/

namespace DocStore.Json

/-- A field, and how its value goes into a record. -/
structure Slot (σ : Type) where
  name : String
  required : Bool
  read : σ → Reader σ

structure Layout (σ : Type) where
  title : String
  slots : List (Slot σ)
  /-- The record before any field is read, with the values of those that may be missing. -/
  blank : σ
  /-- Whether a field that the layout does not know is refused, or else passed over. -/
  strict : Bool

namespace Layout

open Reader

variable {σ : Type}

def elements (layout : Layout σ) : String :=
  let count := layout.slots.length
  s!"{layout.title} with {count} " ++ if count = 1 then "element" else "elements"

/-- What has been read of an object. -/
structure Progress (σ : Type) where
  record : σ
  seen : List String
  first : Bool

def fieldStep (layout : Layout σ) (progress : Progress σ) : Reader (Progress σ ⊕ σ) := do
  if ← nextKey progress.first then
    let name ← textBody
    match layout.slots.find? (·.name = name) with
    | none =>
      if layout.strict then fail (.unknownField name (layout.slots.map (·.name)))
      colon
      skipValue
      return .inl { progress with first := false }
    | some slot =>
      if name ∈ progress.seen then fail (.duplicateField name)
      colon
      let record ← slot.read progress.record
      return .inl { record, seen := name :: progress.seen, first := false }
  match layout.slots.find? fun slot => slot.required ∧ slot.name ∉ progress.seen with
  | some slot => fail (.missingField slot.name)
  | none => return .inr progress.record

/-- Reads values in the order of slots, of which `index` came before. -/
def listFrom (layout : Layout σ) : Nat → List (Slot σ) → σ → Reader σ
  | _, [], record => return record
  | index, slot :: more, record => do
    if ← nextItem (index = 0) then listFrom layout (index + 1) more (← slot.read record)
    else if slot.required then fail (.invalidLength index layout.elements)
    else listFrom layout (index + 1) more record

def reader (layout : Layout σ) : Reader σ := do
  match ← token with
  | some '\x7b' => do
    skip
    loop .endInObject layout.fieldStep { record := layout.blank, seen := [], first := true }
  | some '[' => do
    skip
    let record ← layout.listFrom 0 layout.slots layout.blank
    closeList
    return record
  | _ => mismatch layout.title

end Layout

end DocStore.Json
