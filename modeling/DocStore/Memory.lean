import DocStore.Error

/-!
# Room for values

A buffer gets its room before anything is put into it. No buffer takes more than half of the 64-bit
address space, and each value takes at least one byte. How many values there can be room for depends
on their size, which is left open.
-/

namespace DocStore

structure Memory where
  /-- How many values a buffer can have room for. -/
  capacity : Nat
  capacity_lt : capacity < UInt64.size / 2

namespace Memory

/-- A memory for values of 32 bytes. -/
def standard : Memory := ⟨(UInt64.size / 2 - 1) / 32, by decide⟩

/-- Makes room for so many values at once, or panics. -/
def reserve (memory : Memory) (count : Nat) : Except Error Unit :=
  if count ≤ memory.capacity then .ok () else .error .capacityOverflow

variable {memory : Memory} {count : Nat}

theorem reserve_of_le (h : count ≤ memory.capacity) : memory.reserve count = .ok () := if_pos h

theorem reserve_of_lt (h : memory.capacity < count) :
    memory.reserve count = .error .capacityOverflow := if_neg (Nat.not_le.2 h)

/-- There is no room for as many values as the greatest size says. -/
theorem capacity_lt_greatest (memory : Memory) : memory.capacity < UInt64.size - 1 :=
  Nat.lt_trans memory.capacity_lt (by decide)

end Memory

end DocStore
