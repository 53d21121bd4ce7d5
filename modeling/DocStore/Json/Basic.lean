import DocStore.Binary64.Basic
import DocStore.Fields

/-!
# JSON values

Numbers keep the form they were written in: a whole number that fits 64 bits stays whole, every
other number is a double. Two values are the same if they are built alike, which is finer than the
equality of queries: `1` and `1.0` are not the same.
-/

namespace DocStore

/-- A whole number that fits 64 bits, with or without a sign. -/
structure Integer where
  value : Int
  lower : -0x8000000000000000 ≤ value
  upper : value < 0x10000000000000000
  deriving DecidableEq

inductive Number where
  | int (n : Integer)
  | float (x : Binary64)
  deriving DecidableEq

inductive Json where
  | null
  | bool (b : Bool)
  | num (n : Number)
  | str (s : String)
  | arr (items : List Json)
  | obj (fields : List (String × Json))

def Integer.ofInt? (value : Int) : Option Integer :=
  if h : -0x8000000000000000 ≤ value ∧ value < 0x10000000000000000 then
    some ⟨value, h.1, h.2⟩
  else none

def Integer.ofInt64 (value : Int64) : Integer :=
  ⟨value.toInt, Int64.le_toInt value, Int.lt_trans (Int64.toInt_lt value) (by decide)⟩

/-- The number as a signed 64-bit number, if it fits. -/
def Integer.toInt64? (n : Integer) : Option Int64 :=
  if n.value < 0x8000000000000000 then some (Int64.ofInt n.value) else none

theorem Integer.ofInt64_of_toInt64? {n : Integer} {value : Int64} (h : n.toInt64? = some value) :
    Integer.ofInt64 value = n := by
  unfold toInt64? at h
  split at h
  · rename_i hlt
    obtain rfl := Option.some.inj h
    have hvalue : (Int64.ofInt n.value).toInt = n.value :=
      Int64.toInt_ofInt_of_le n.lower hlt
    obtain ⟨value, lower, upper⟩ := n
    simp only [ofInt64, Integer.mk.injEq]
    exact hvalue
  · simp at h

theorem Integer.toInt64?_ofInt64 (value : Int64) : (ofInt64 value).toInt64? = some value := by
  have hlt : (ofInt64 value).value < 0x8000000000000000 := Int64.toInt_lt value
  rw [toInt64?, if_pos hlt]
  exact congrArg some (Int64.ofInt_toInt value)

namespace Json

mutual

/-- Whether two values are built alike. -/
def same : Json → Json → Bool
  | .null, .null => true
  | .bool a, .bool b => a == b
  | .num a, .num b => a == b
  | .str a, .str b => a == b
  | .arr xs, .arr ys => sameItems xs ys
  | .obj xs, .obj ys => sameFields xs ys
  | _, _ => false

def sameItems : List Json → List Json → Bool
  | [], [] => true
  | x :: xs, y :: ys => same x y && sameItems xs ys
  | _, _ => false

def sameFields : List (String × Json) → List (String × Json) → Bool
  | [], [] => true
  | (name, x) :: xs, (other, y) :: ys => name == other && same x y && sameFields xs ys
  | _, _ => false

end

mutual

theorem same_iff : ∀ a b : Json, same a b = true ↔ a = b
  | .arr xs, b => by cases b <;> simp [same, sameItems_iff xs]
  | .obj xs, b => by cases b <;> simp [same, sameFields_iff xs]
  | .null, b => by cases b <;> simp [same]
  | .bool _, b => by cases b <;> simp [same]
  | .num _, b => by cases b <;> simp [same]
  | .str _, b => by cases b <;> simp [same]

theorem sameItems_iff : ∀ xs ys : List Json, sameItems xs ys = true ↔ xs = ys
  | [], ys => by cases ys <;> simp [sameItems]
  | x :: xs, ys => by cases ys <;> simp [sameItems, same_iff x, sameItems_iff xs]

theorem sameFields_iff : ∀ xs ys : List (String × Json), sameFields xs ys = true ↔ xs = ys
  | [], ys => by cases ys <;> simp [sameFields]
  | (_, x) :: xs, ys => by
    cases ys <;> simp [sameFields, same_iff x, sameFields_iff xs, Prod.ext_iff]

end

instance : DecidableEq Json := fun a b =>
  decidable_of_iff (same a b = true) (same_iff a b)

/-- The value of a top-level field. -/
def field? (name : String) : Json → Option Json
  | .obj fields => Fields.get? name fields
  | _ => none

def isObject : Json → Bool
  | .obj _ => true
  | _ => false

def isArray : Json → Bool
  | .arr _ => true
  | _ => false

end Json

end DocStore
