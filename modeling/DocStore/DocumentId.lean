import DocStore.Json.Basic

/-!
# Identifiers of documents

A document is known in its collection by the value of its field `_id`: a whole number of 64 bits
with a sign, or a text. Generated identifiers count upwards.
-/

namespace DocStore

inductive DocumentId where
  | int (value : Int64)
  | text (value : String)
  deriving DecidableEq

namespace DocumentId

/-- The field that holds the identifier. -/
def field : String := "_id"

/-- The identifier after the last one, in wrapping arithmetic. -/
def after (last : UInt64) : DocumentId := .int (last + 1).toInt64

def ofJson? : Json → Option DocumentId
  | .num (.int n) => n.toInt64?.map .int
  | .str s => some (.text s)
  | _ => none

def toJson : DocumentId → Json
  | .int value => .num (.int (.ofInt64 value))
  | .text value => .str value

/-- A value that is read as an identifier is the written form of that identifier. -/
theorem toJson_of_ofJson? {value : Json} {id : DocumentId} (h : ofJson? value = some id) :
    id.toJson = value := by
  cases value with
  | num number =>
    cases number with
    | int n =>
      obtain ⟨i, hi, rfl⟩ := Option.map_eq_some_iff.1 h
      rw [toJson, Integer.ofInt64_of_toInt64? hi]
    | float x => simp [ofJson?] at h
  | str s =>
    obtain rfl := Option.some.inj h
    rfl
  | null | bool _ | arr _ | obj _ => simp [ofJson?] at h

theorem ofJson?_toJson (id : DocumentId) : ofJson? id.toJson = some id := by
  cases id with
  | int value => rw [toJson, ofJson?, Integer.toInt64?_ofInt64, Option.map_some]
  | text value => rfl

def display : DocumentId → String
  | .int value => s!"{value.toInt}"
  | .text value => value

end DocumentId

end DocStore
