import DocStore.Error
import DocStore.Log

/-!
# What operations answer

An operation answers with its result or the error it failed with, and with the lines it logged. One
that works on a state answers with the state afterwards too.
-/

namespace DocStore

structure Report (α : Type) where
  result : Except Error α
  lines : List Line

structure Outcome (σ α : Type) extends Report α where
  state : σ

/-- What succeeds after another step has got its result from that step. -/
theorem bind_eq_ok {ε α β : Type} {first : Except ε α} {next : α → Except ε β} {result : β}
    (h : first >>= next = .ok result) :
    ∃ value, first = .ok value ∧ next value = .ok result := by
  cases first with
  | error error => cases h
  | ok value => exact ⟨value, rfl, h⟩

theorem bind_eq_ok_iff {ε α β : Type} {first : Except ε α} {next : α → Except ε β} {result : β} :
    first >>= next = .ok result ↔ ∃ value, first = .ok value ∧ next value = .ok result := by
  refine ⟨bind_eq_ok, ?_⟩
  rintro ⟨value, rfl, hnext⟩
  exact hnext

theorem bind_eq_error_iff {ε α β : Type} {first : Except ε α} {next : α → Except ε β} {fault : ε} :
    first >>= next = .error fault ↔
      first = .error fault ∨ ∃ value, first = .ok value ∧ next value = .error fault := by
  cases first <;> simp [bind, Except.bind]

theorem eq_ok_of_toOption {ε α : Type} {first : Except ε α} {value : α}
    (h : first.toOption = some value) : first = .ok value := by
  cases first with
  | error error => cases h
  | ok result => exact congrArg Except.ok (Option.some.inj h)

theorem map_eq_ok_iff {ε α β : Type} {convert : α → β} {first : Except ε α} {result : β} :
    first.map convert = .ok result ↔ ∃ value, first = .ok value ∧ convert value = result := by
  cases first <;> simp [Except.map]

theorem map_eq_error_iff {ε α β : Type} {convert : α → β} {first : Except ε α} {fault : ε} :
    first.map convert = .error fault ↔ first = .error fault := by
  cases first <;> simp [Except.map]

/-- Checks that are made one after the other succeed if each of them does. -/
theorem forM_eq_ok_iff {ε α : Type} {check : α → Except ε Unit} {items : List α} :
    items.forM check = .ok () ↔ ∀ item ∈ items, check item = .ok () := by
  induction items with
  | nil => exact iff_of_true rfl (List.forall_mem_nil _)
  | cons item rest ih =>
    have hcons : (item :: rest).forM check = check item >>= fun _ => rest.forM check := rfl
    rw [hcons, bind_eq_ok_iff, List.forall_mem_cons, ← ih]
    constructor
    · rintro ⟨_, hitem, hrest⟩
      exact ⟨hitem, hrest⟩
    · rintro ⟨hitem, hrest⟩
      exact ⟨(), hitem, hrest⟩

end DocStore
