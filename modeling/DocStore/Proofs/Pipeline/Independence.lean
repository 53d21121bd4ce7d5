import DocStore.Proofs.Pipeline.Apply
import Mathlib.Data.List.Nodup

/-!
# Lookups do not meet

All lookups look into the document as it is stored and put what they find beside each other, each
under its own name. So where these names differ, none of them sees or covers what another one has
found, and their order does not count.
-/
namespace DocStore.Proofs.Pipeline.Independence

open Apply

variable {pipeline : Pipeline} {resolve : Resolver} {document : Json} {lookup other : Lookup}

theorem attach_comm (h : lookup.output ≠ other.output) (found found' : List Json) (result : Json) :
    lookup.attach found (other.attach found' result) =
      other.attach found' (lookup.attach found result) := by
  cases result with
  | obj fields => exact congrArg Json.obj (Fields.insert_comm h _ _ fields)
  | null | bool _ | num _ | str _ | arr _ => rfl

theorem attached_perm (hnodup : (pipeline.lookups.map (·.output)).Nodup) {lookups : List Lookup}
    (hperm : lookups.Perm pipeline.lookups) :
    attached { pipeline with lookups := lookups } resolve document =
      attached pipeline resolve document := by
  refine hperm.foldl_eq' ?_ document
  intro first hfirst second hsecond result
  -- Two lookups with the same output are one lookup.
  by_cases heq : first = second
  · rw [heq]
  · have hfirst' := hperm.mem_iff.1 hfirst
    have hsecond' := hperm.mem_iff.1 hsecond
    have houtputs : second.output ≠ first.output := fun hsame =>
      heq (List.inj_on_of_nodup_map hnodup hfirst' hsecond' hsame.symm)
    exact attach_comm houtputs _ _ result

theorem apply_perm (hnodup : (pipeline.lookups.map (·.output)).Nodup) {lookups : List Lookup}
    (hperm : lookups.Perm pipeline.lookups) :
    ({ pipeline with lookups := lookups } : Pipeline).apply resolve document =
      pipeline.apply resolve document := by
  rw [apply_eq, apply_eq, attached_perm hnodup hperm]
  rfl

/-- What is put under the output of the lookup is what the pipeline puts there that has no other
lookup: documents of the other collection as they are stored, in their order. -/
def ByItself (pipeline : Pipeline) (resolve : Resolver) (document result : Json)
    (lookup : Lookup) : Prop :=
  ∃ alone, ({ pipeline with lookups := [lookup] } : Pipeline).apply resolve document = some alone ∧
    ∃ found, found.Sublist (resolve lookup.collection) ∧
      alone.field? lookup.output = some (.arr found) ∧
      result.field? lookup.output = some (.arr found)

theorem collect_sublist (foreign : List Json) :
    (lookup.collect document foreign).Sublist foreign := by
  unfold Lookup.collect
  split
  · exact List.nil_sublist foreign
  · exact List.nil_sublist foreign
  · exact List.filter_sublist

theorem byItself (hobject : document.isObject = true)
    (hnodup : (pipeline.lookups.map (·.output)).Nodup) (haccepts : pipeline.accepts document = true)
    (hlookup : lookup ∈ pipeline.lookups) :
    ByItself pipeline resolve document (attached pipeline resolve document) lookup := by
  let only : Pipeline := { pipeline with lookups := [lookup] }
  have honly : (only.lookups.map (·.output)).Nodup := List.nodup_singleton lookup.output
  have hmem : lookup ∈ only.lookups := List.mem_singleton_self lookup
  exact ⟨attached only resolve document, apply_eq_some_iff.2 ⟨haccepts, rfl⟩, _,
    collect_sublist _, field?_attached_of_mem hobject honly hmem,
    field?_attached_of_mem hobject hnodup hlookup⟩

/-- Lookups with different outputs can be made in any order. Whether there is a result is up to the
conditions alone. Each lookup gives to the result what it gives by itself, whatever its local path
is, and all that is no output is left as it is stored. -/
theorem lookups_independent (hobject : document.isObject = true)
    (hnodup : (pipeline.lookups.map (·.output)).Nodup) :
    (∀ lookups : List Lookup, lookups.Perm pipeline.lookups →
      ({ pipeline with lookups := lookups } : Pipeline).apply resolve document =
        pipeline.apply resolve document) ∧
    (pipeline.apply resolve document).isSome = pipeline.accepts document ∧
    ∀ result, pipeline.apply resolve document = some result →
      (∀ lookup ∈ pipeline.lookups, ByItself pipeline resolve document result lookup) ∧
      ∀ name, (∀ lookup ∈ pipeline.lookups, lookup.output ≠ name) →
        result.field? name = document.field? name := by
  refine ⟨fun lookups => apply_perm hnodup, ?_, ?_⟩
  · rw [apply_eq]
    cases pipeline.accepts document <;> rfl
  · intro result hresult
    obtain ⟨haccepts, rfl⟩ := apply_eq_some_iff.1 hresult
    exact ⟨fun lookup => byItself hobject hnodup haccepts,
      fun name => field?_attached_of_ne hobject⟩

/-! ## A path that begins with an output -/

def toOrganizations : Lookup := ⟨⟨"organizations"⟩, "org", "_id", "users_organizations"⟩

def toBosses : Lookup := ⟨⟨"people"⟩, "users_organizations.0.boss", "_id", "users_people"⟩

def named (name : String) (more : List (String × Json)) : Json :=
  .obj (("_id", .str name) :: more)

/-- Bob leads the organization in which the user is, but the user says that it is Ann. -/
def staffResolver : Resolver := fun name =>
  if name = ⟨"people"⟩ then [named "ann" [], named "bob" []]
  else [named "sea" [("boss", .str "bob")]]

def employee (organizations : Json) (more : List (String × Json)) : Json :=
  .obj ([("org", .str "sea"), ("users_organizations", organizations)] ++ more)

def ownWord : Json := .arr [.obj [("boss", .str "ann")]]

theorem own_word_counts :
    (([toOrganizations, toBosses] : List Lookup).map (·.output)).Nodup ∧
    (employee ownWord []).isObject = true ∧
    (⟨[], [toBosses, toOrganizations]⟩ : Pipeline).apply staffResolver (employee ownWord []) =
      (⟨[], [toOrganizations, toBosses]⟩ : Pipeline).apply staffResolver (employee ownWord []) ∧
    (⟨[], [toOrganizations, toBosses]⟩ : Pipeline).apply staffResolver (employee ownWord []) =
      some (employee (.arr [named "sea" [("boss", .str "bob")]])
        [("users_people", .arr [named "ann" []])]) := by
  have hobject : (employee ownWord []).isObject = true := rfl
  have hnodup : (([toOrganizations, toBosses] : List Lookup).map (·.output)).Nodup := by decide
  have hindependent :=
    @lookups_independent ⟨[], [toOrganizations, toBosses]⟩ staffResolver _ hobject hnodup
  exact ⟨hnodup, hobject, hindependent.1 _ (.swap toOrganizations toBosses []), by rfl⟩

end DocStore.Proofs.Pipeline.Independence
