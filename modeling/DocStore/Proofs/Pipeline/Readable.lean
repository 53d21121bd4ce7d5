import DocStore.Proofs.Pipeline.Form

/-!
# Which pipelines can be read back

A written pipeline is read back exactly if each of its conditions and lookups could be run. Of
several conditions on one field only the last one is written, so the others do not count.
-/
namespace DocStore.Proofs.Pipeline.Readable

open DocStore.Pipeline Form

/-- A condition asks for equality in a named field. -/
structure ConditionRuns (condition : String × Json) : Prop where
  named : condition.1 ≠ ""
  no_operator : Text.startsWith condition.1 '$' = false
  no_object : condition.2.isObject = false

/-- A lookup goes from one named field to another, in a collection that there can be. -/
structure LookupRuns (lookup : Lookup) : Prop where
  valid : lookup.collection.Valid
  local_named : lookup.localField ≠ ""
  foreign_named : lookup.foreignField ≠ ""
  output_named : lookup.output ≠ ""
  no_operator : Text.startsWith lookup.output '$' = false

theorem checkCondition_eq_ok_iff {condition : String × Json} :
    checkCondition condition = .ok () ↔ ConditionRuns condition := by
  unfold checkCondition
  constructor
  · intro h
    split at h
    · cases h
    · rename_i hname
      obtain ⟨hne, hoperator⟩ := not_or.1 hname
      split at h
      · cases h
      · rename_i hobject
        exact ⟨hne, by simpa using hoperator, by simpa using hobject⟩
  · rintro ⟨hne, hoperator, hobject⟩
    simp [hne, hoperator, hobject]

theorem conditionsOfJson_eq_ok_iff {fields : List (String × Json)} :
    conditionsOfJson (.obj fields) = .ok fields ↔ ∀ condition ∈ fields, ConditionRuns condition := by
  simp only [← checkCondition_eq_ok_iff, ← forM_eq_ok_iff]
  constructor
  · intro h
    obtain ⟨_, hcheck, -⟩ := bind_eq_ok h
    exact hcheck
  · intro h
    exact bind_eq_ok_iff.2 ⟨(), h, rfl⟩

theorem lookupOfJson_eq_ok_iff {lookup : Lookup} :
    lookupOfJson (.obj (lookupFields lookup)) = .ok lookup ↔ LookupRuns lookup := by
  obtain ⟨hfrom, has, hlocal, hforeign⟩ := get?_lookupFields lookup
  simp only [lookupOfJson_obj_eq_ok_iff, lookupText_eq_ok_iff, hfrom, has, hlocal, hforeign,
    true_and]
  constructor
  · rintro ⟨⟨-, hvalid⟩, ⟨houtput, hoperator⟩, hlocal, hforeign⟩
    exact ⟨hvalid, hlocal, hforeign, houtput, hoperator⟩
  · rintro ⟨hvalid, hlocal, hforeign, houtput, hoperator⟩
    exact ⟨⟨hvalid.1, hvalid⟩, ⟨houtput, hoperator⟩, hlocal, hforeign⟩

theorem stageOfJson_lookup_eq_ok_iff {lookup : Lookup} :
    stageOfJson (lookupToJson lookup) = .ok (.lookup lookup) ↔ LookupRuns lookup := by
  have hstage : stageOfJson (lookupToJson lookup) =
    (lookupOfJson (.obj (lookupFields lookup))).map .lookup := rfl
  rw [← lookupOfJson_eq_ok_iff, hstage]
  cases lookupOfJson (.obj (lookupFields lookup)) <;> simp [Except.map]

theorem lookupsOfJson_eq_ok_iff {lookups : List Lookup} :
    lookupsOfJson (lookups.map lookupToJson) = .ok lookups ↔
      ∀ lookup ∈ lookups, LookupRuns lookup := by
  induction lookups with
  | nil => exact iff_of_true rfl (List.forall_mem_nil _)
  | cons lookup rest ih =>
    rw [List.map_cons, List.forall_mem_cons, ← ih, ← stageOfJson_lookup_eq_ok_iff]
    constructor
    · intro h
      simp only [lookupsOfJson] at h
      obtain ⟨stage, hstage, h⟩ := bind_eq_ok h
      obtain rfl := stageOfJson_lookup hstage
      obtain ⟨more, hmore, -⟩ := bind_eq_ok h
      obtain rfl := lookupsOfJson_map hmore
      exact ⟨hstage, hmore⟩
    · rintro ⟨hstage, hmore⟩
      simp only [lookupsOfJson, hstage, hmore]
      rfl

/-- A pipeline can be read back exactly if it could be run. -/
theorem ofJson_toJson_eq_ok_iff {pipeline : Pipeline} :
    ofJson pipeline.toJson = .ok (normal pipeline) ↔
      (∀ condition ∈ Fields.ofPairs pipeline.conditions, ConditionRuns condition) ∧
        ∀ lookup ∈ pipeline.lookups, LookupRuns lookup := by
  rw [← conditionsOfJson_eq_ok_iff, ← lookupsOfJson_eq_ok_iff]
  have hmatch : stageOfJson (.obj [("$match", .obj (Fields.ofPairs pipeline.conditions))]) =
    (conditionsOfJson (.obj (Fields.ofPairs pipeline.conditions))).map .conditions := rfl
  simp only [toJson, ofJson, hmatch]
  constructor
  · intro h
    obtain ⟨stage, hstage, h⟩ := bind_eq_ok h
    cases hconditions : conditionsOfJson (.obj (Fields.ofPairs pipeline.conditions)) with
    | error fault =>
      rw [hconditions] at hstage
      cases hstage
    | ok conditions =>
      obtain rfl := conditionsOfJson_fields hconditions
      rw [hconditions] at hstage
      cases hstage
      obtain ⟨lookups, hlookups, -⟩ := bind_eq_ok h
      obtain rfl := lookupsOfJson_map hlookups
      exact ⟨rfl, hlookups⟩
  · rintro ⟨hconditions, hlookups⟩
    rw [hconditions]
    refine bind_eq_ok_iff.2 ⟨_, rfl, bind_eq_ok_iff.2 ⟨_, hlookups, rfl⟩⟩

end DocStore.Proofs.Pipeline.Readable
