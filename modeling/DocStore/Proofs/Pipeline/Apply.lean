import DocStore.Pipeline.Basic

/-!
# What the lookups put into a document

Each lookup works on the stored document. The result is that document with one field inserted per
lookup, in the order of the lookups.
-/
namespace DocStore.Proofs.Pipeline.Apply

/-- The fields that the lookups give to a document. -/
def attachments (resolve : Resolver) (document : Json) (lookups : List Lookup) :
    List (String × Json) :=
  lookups.map fun lookup =>
    (lookup.output, .arr (lookup.collect document (resolve lookup.collection)))

/-- An object with all that belongs to it, whether the pipeline accepts it or not. -/
def attached (pipeline : Pipeline) (resolve : Resolver) (document : Json) : Json :=
  pipeline.lookups.foldl
    (fun result lookup => lookup.attach (lookup.collect document (resolve lookup.collection)) result)
    document

theorem apply_eq (pipeline : Pipeline) (resolve : Resolver) (document : Json) :
    pipeline.apply resolve document =
      if pipeline.accepts document then some (attached pipeline resolve document) else none := rfl

/-- The results of items, each of which brings its document and what is resolved for it. -/
theorem filterMap_apply_items {α : Type} (pipeline : Pipeline) (items : List α)
    (resolve : α → Resolver) (document : α → Json) :
    (items.filterMap fun item => pipeline.apply (resolve item) (document item)) =
      (items.filter fun item => pipeline.accepts (document item)).map
        fun item => attached pipeline (resolve item) (document item) := by
  induction items with
  | nil => rfl
  | cons item rest ih =>
    rw [List.filterMap_cons, List.filter_cons, apply_eq]
    cases pipeline.accepts (document item) with
    | false => exact ih
    | true => exact congrArg _ ih

theorem filterMap_apply (pipeline : Pipeline) (resolve : Resolver) (documents : List Json) :
    documents.filterMap (pipeline.apply resolve) =
      (documents.filter pipeline.accepts).map (attached pipeline resolve) :=
  filterMap_apply_items pipeline documents (fun _ => resolve) id

variable {pipeline : Pipeline} {resolve : Resolver} {document : Json}

theorem apply_eq_some_iff {result : Json} :
    pipeline.apply resolve document = some result ↔
      pipeline.accepts document = true ∧ attached pipeline resolve document = result := by
  rw [apply_eq, Option.ite_none_right_eq_some, Option.some.injEq]

theorem foldl_attach (lookups : List Lookup) (fields : List (String × Json)) :
    lookups.foldl (fun result lookup =>
      lookup.attach (lookup.collect document (resolve lookup.collection)) result) (.obj fields) =
    .obj ((attachments resolve document lookups).foldl
      (fun fields pair => Fields.insert pair.1 pair.2 fields) fields) := by
  induction lookups generalizing fields with
  | nil => rfl
  | cons lookup rest ih => exact ih _

theorem attached_isObject (hobject : document.isObject = true) :
    (attached pipeline resolve document).isObject = true := by
  cases document with
  | obj fields =>
    unfold attached
    rw [foldl_attach]
    rfl
  | null | bool _ | num _ | str _ | arr _ => cases hobject

/-- A field of the result is what the last lookup with this output has found, or else what the
document has. -/
theorem field?_attached (hobject : document.isObject = true) (name : String) :
    (attached pipeline resolve document).field? name =
      (Fields.get? name (attachments resolve document pipeline.lookups).reverse).or
        (document.field? name) := by
  cases document with
  | obj fields =>
    unfold attached
    rw [foldl_attach]
    exact Fields.get?_foldl_insert name _ fields
  | null | bool _ | num _ | str _ | arr _ => cases hobject

theorem field?_attached_of_mem (hobject : document.isObject = true)
    (hnodup : (pipeline.lookups.map (·.output)).Nodup) {lookup : Lookup}
    (hlookup : lookup ∈ pipeline.lookups) :
    (attached pipeline resolve document).field? lookup.output =
      some (.arr (lookup.collect document (resolve lookup.collection))) := by
  have hkeys : ((attachments resolve document pipeline.lookups).reverse.map (·.1)).Nodup := by
    rw [List.map_reverse]
    refine List.pairwise_reverse.2 ?_
    simpa [attachments, Function.comp_def] using hnodup.imp Ne.symm
  have hget : Fields.get? lookup.output (attachments resolve document pipeline.lookups).reverse =
      some (.arr (lookup.collect document (resolve lookup.collection))) := by
    rw [← Fields.mem_iff_get? hkeys, List.mem_reverse]
    exact List.mem_map.2 ⟨lookup, hlookup, rfl⟩
  rw [field?_attached hobject, hget]
  rfl

theorem field?_attached_of_ne (hobject : document.isObject = true) {name : String}
    (hname : ∀ lookup ∈ pipeline.lookups, lookup.output ≠ name) :
    (attached pipeline resolve document).field? name = document.field? name := by
  rw [field?_attached hobject]
  cases hget : Fields.get? name (attachments resolve document pipeline.lookups).reverse with
  | none => rfl
  | some value =>
    have hmem := List.mem_reverse.1 (Fields.mem_of_get? hget)
    obtain ⟨lookup, hlookup, heq⟩ := List.mem_map.1 hmem
    exact absurd (congrArg Prod.fst heq) (hname lookup hlookup)

end DocStore.Proofs.Pipeline.Apply
