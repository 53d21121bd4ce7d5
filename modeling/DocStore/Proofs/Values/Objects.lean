import DocStore.Json.Reader.Value

/-!
# Objects in the order of their names

The fields of an object are those of a sorted map: each name once, in the order of the names. A
value that is read from a text is made of such objects only, however its fields stand in the text.
-/
namespace DocStore.Proofs.Values.Objects

open DocStore.Json

/-- All objects within the value have their fields in the order of the names. -/
inductive Ordered : Json → Prop
  | null : Ordered .null
  | bool (b : Bool) : Ordered (.bool b)
  | num (n : Number) : Ordered (.num n)
  | str (s : String) : Ordered (.str s)
  | arr {items : List Json} : (∀ item ∈ items, Ordered item) → Ordered (.arr items)
  | obj {fields : List (String × Json)} : Fields.Sorted fields →
      (∀ field ∈ fields, Ordered field.2) → Ordered (.obj fields)

theorem Ordered.item {items : List Json} (h : Ordered (.arr items)) :
    ∀ item ∈ items, Ordered item := by
  cases h with
  | arr hitems => exact hitems

theorem Ordered.sorted {fields : List (String × Json)} (h : Ordered (.obj fields)) :
    Fields.Sorted fields := by
  cases h with
  | obj hsorted _ => exact hsorted

theorem Ordered.field {fields : List (String × Json)} (h : Ordered (.obj fields)) :
    ∀ field ∈ fields, Ordered field.2 := by
  cases h with
  | obj _ hfields => exact hfields

variable {σ α β : Type} {P : α → Prop} {Q : β → Prop}

/-- Whatever the reader answers with has the property. -/
def Reads (P : α → Prop) (reader : Reader α) : Prop :=
  ∀ (broken : Option ReadFault) (bytes rest : List UInt8) (result : α),
    reader.run broken bytes = .ok (result, rest) → P result

theorem Reads.pure {result : α} (h : P result) : Reads P (pure result : Reader α) := by
  intro _ _ _ _ hrun
  cases hrun
  exact h

theorem Reads.fail (fault : Fault) : Reads P (Reader.fail fault : Reader α) := by
  intro _ _ _ _ hrun
  cases hrun

theorem Reads.bind {first : Reader α} {next : α → Reader β} (hfirst : Reads P first)
    (hnext : ∀ result, P result → Reads Q (next result)) : Reads Q (first >>= next) := by
  intro broken bytes rest result hrun
  rw [Reader.run_bind] at hrun
  split at hrun
  · cases hrun
  · rename_i taken _ htaken
    exact hnext taken (hfirst _ _ _ _ htaken) _ _ _ _ hrun

/-- What comes first does not count. -/
theorem Reads.behind {first : Reader α} {next : α → Reader β}
    (hnext : ∀ result, Reads Q (next result)) : Reads Q (first >>= next) :=
  Reads.bind (P := fun _ => True) (fun _ _ _ _ _ => trivial) fun result _ => hnext result

/-- What each step of a loop keeps of the state is there when the loop ends. -/
theorem Reads.loop {I : σ → Prop} {atEnd : Fault} {step : σ → Reader (σ ⊕ α)}
    (hstep : ∀ state, I state → Reads (Sum.elim I P) (step state)) {state : σ}
    (h : I state) : Reads P (Reader.loop atEnd step state) := by
  have hrepeated : ∀ fuel state, I state → Reads P (Reader.repeated atEnd step fuel state) := by
    intro fuel
    induction fuel with
    | zero => exact fun _ _ => .fail atEnd
    | succ fuel ih =>
      intro state hstate
      refine .bind (hstep state hstate) fun next hnext => ?_
      cases next with
      | inl state => exact ih state hnext
      | inr result => exact .pure hnext
  exact .behind fun count => hrepeated (count + 1) state h

theorem reads_items {item : Reader α} (hitem : Reads P item) :
    Reads (fun items => ∀ item ∈ items, P item) (Reader.items item) := by
  refine .loop (I := fun before => ∀ item ∈ before, P item) ?_ (List.forall_mem_nil P)
  intro before hbefore
  refine .behind fun more => ?_
  cases more with
  | true => exact .bind hitem fun value hvalue => .pure (List.forall_mem_cons.2 ⟨hvalue, hbefore⟩)
  | false => exact .behind fun _ => .pure fun item hitem => hbefore item (List.mem_reverse.1 hitem)

theorem reads_fields {value : Reader Json} {P : Json → Prop} (hvalue : Reads P value) :
    Reads (fun fields => Fields.Sorted fields ∧ ∀ field ∈ fields, P field.2)
      (Reader.fields value) := by
  refine .loop (I := fun state => Fields.Sorted state.2 ∧ ∀ field ∈ state.2, P field.2) ?_
    ⟨Fields.sorted_nil, List.forall_mem_nil _⟩
  rintro ⟨first, before⟩ ⟨hsorted, hbefore⟩
  refine .behind fun more => ?_
  cases more with
  | false => exact .pure ⟨hsorted, hbefore⟩
  | true =>
    refine .behind fun name => .behind fun _ => .bind hvalue fun found hfound => .pure ?_
    refine ⟨Fields.insert_sorted name found hsorted, fun field hfield => ?_⟩
    rcases Fields.mem_insert hfield with rfl | hold
    · exact hfound
    · exact hbefore field hold

theorem reads_within {inner : Option (Reader α)} {read : Reader α → Reader β}
    (hread : ∀ reader ∈ inner, Reads Q (read reader)) : Reads Q (Reader.within inner read) := by
  cases inner with
  | none => exact .fail .recursionLimit
  | some reader => exact .behind fun _ => hread reader rfl

theorem reads_valueWith {inner : Option (Reader Json)} (hinner : ∀ reader ∈ inner,
    Reads Ordered reader) : Reads Ordered (Reader.valueWith inner) := by
  refine .behind fun found => ?_
  split
  · exact .fail .endInValue
  · exact .behind fun _ => .behind fun _ => .pure .null
  · exact .behind fun _ => .behind fun _ => .pure (.bool true)
  · exact .behind fun _ => .behind fun _ => .pure (.bool false)
  · exact .behind fun _ => .behind fun n => .pure (.num n)
  · exact .behind fun _ => .behind fun s => .pure (.str s)
  · exact reads_within fun value hvalue =>
      .bind (reads_items (hinner value hvalue)) fun _ hitems => .pure (.arr hitems)
  · exact reads_within fun value hvalue =>
      .bind (reads_fields (hinner value hvalue)) fun _ hfields => .pure (.obj hfields.1 hfields.2)
  · split
    · exact .behind fun n => .pure (.num n)
    · exact .fail .expectedValue

theorem reads_value (depth : Nat) : Reads Ordered (Reader.value depth) := by
  induction depth with
  | zero => exact reads_valueWith fun _ hnone => by cases hnone
  | succ depth ih =>
    refine reads_valueWith fun reader hreader => ?_
    obtain rfl := Option.mem_some.1 hreader
    exact ih

/-- Whatever order the fields have in a text, and however often one of them comes, the value has
each of them once and in the order of the names. -/
theorem ordered_of_parse {text : String} {value : Json} (h : parse text = .ok value) :
    Ordered value := by
  have honly : Reads Ordered (Reader.only (Reader.value Reader.depthLimit)) :=
    .bind (reads_value Reader.depthLimit) fun _ hresult => .behind fun _ => .pure hresult
  unfold parse ofText at h
  split at h
  · rename_i hrun
    obtain rfl := Except.ok.inj h
    exact honly _ _ _ _ hrun
  · cases h
  · cases h

end DocStore.Proofs.Values.Objects
