import Recast.Plan.Matching
import Recast.Proofs.Shape.Registered

/-!
# What a pairing says

The matching of two shapes, read as facts about the declarations. An override is resolved exactly
when it *leads* to a field (`Override.Leads`), and otherwise the path that it misses is known
(`Override.Misses`): the two are complementary in a closed registry, and `resolve` decides between
them (`resolve_eq_ok_iff`, `resolve_eq_error_iff`).

The pairings of two registered shapes are those of the target fields one by one, in the order of
declaration (`ofShapes_eq`); a shape that is not registered is the other way in which matching fails
(`ofShapes_eq_of_unregistered`).
-/

namespace Recast

variable {provider : ShapeProvider} {registry : Registry} {sourceFields : List Field}
  {targetShape : String} {target : Field}

/-! ### Where an override leads -/

/-- The step after the first: the one that the override gives, or else the target field's own
name. -/
def Override.member (override : Override) (target : Field) : String :=
  override.subfield.getD target.name

/-- The override leads to a field of the source shape, or to a member of a nested one. -/
inductive Override.Leads (provider : ShapeProvider) (sourceFields : List Field) (target : Field)
    (override : Override) : Field → Option Field → Prop
  | field {source : Field} (hsource : findField? sourceFields override.field = some source)
      (hkind : ∀ shape, source.kind ≠ .nested shape) (hsub : override.subfield = none) :
      Leads provider sourceFields target override source none
  | member {source : Field} {shape : String} {fields : List Field} {member : Field}
      (hsource : findField? sourceFields override.field = some source)
      (hkind : source.kind = .nested shape) (hfields : provider shape = .ok fields)
      (hmember : findField? fields (override.member target) = some member) :
      Leads provider sourceFields target override source (some member)

/-- The override leads nowhere, and the path that is missing. -/
inductive Override.Misses (provider : ShapeProvider) (sourceFields : List Field) (target : Field)
    (override : Override) : String → Prop
  | field (hsource : findField? sourceFields override.field = none) :
      Misses provider sourceFields target override override.field
  | noObject {source : Field} {subfield : String}
      (hsource : findField? sourceFields override.field = some source)
      (hkind : ∀ shape, source.kind ≠ .nested shape) (hsub : override.subfield = some subfield) :
      Misses provider sourceFields target override (override.field ++ "." ++ subfield)
  | member {source : Field} {shape : String} {fields : List Field}
      (hsource : findField? sourceFields override.field = some source)
      (hkind : source.kind = .nested shape) (hfields : provider shape = .ok fields)
      (hmember : findField? fields (override.member target) = none) :
      Misses provider sourceFields target override (override.field ++ "." ++ override.member target)

namespace Matching

variable {override : Override}

/-- **One equation for all forms of an override.** The three forms of a path meet in two questions:
is the first step a field, and if it is nested or followed by a step, is that step a member. -/
theorem resolve_eq :
    resolve provider sourceFields targetShape target override =
      match findField? sourceFields override.field with
      | none => .error (.unresolvedOverride targetShape target.name override.field)
      | some source =>
        match source.kind, override.subfield with
        | .nested shape, _ =>
          ((provider shape).mapError .catalogue).bind fun fields ↦
            match findField? fields (override.member target) with
            | some member => .ok ⟨target, source, some member, .explicitOverride⟩
            | none => .error (.unresolvedOverride targetShape target.name
                (override.field ++ "." ++ override.member target))
        | _, some subfield =>
          .error (.unresolvedOverride targetShape target.name (override.field ++ "." ++ subfield))
        | _, none => .ok ⟨target, source, none, .explicitOverride⟩ := by
  rw [resolve]
  rcases findField? sourceFields override.field with - | source
  · rfl
  · obtain ⟨name, kind, nullable, mapping⟩ := source
    rcases hsub : override.subfield with - | subfield <;> cases kind <;>
      simp only [pure_bind, Override.member, hsub, Option.getD_none, Option.getD_some] <;> rfl

/-- **An override resolves exactly when it leads somewhere.** -/
theorem resolve_eq_ok_iff (targetShape : String) {pairing : Pairing} :
    resolve provider sourceFields targetShape target override = .ok pairing ↔
      ∃ source member, override.Leads provider sourceFields target source member ∧
        pairing = ⟨target, source, member, .explicitOverride⟩ := by
  rw [resolve_eq]
  constructor
  · intro h
    rcases hs : findField? sourceFields override.field with - | source
    · rw [hs] at h
      cases h
    · simp only [hs] at h
      split at h
      · rename_i shape hkind
        obtain ⟨fields, hfields, h⟩ := bind_eq_ok_iff.1 h
        rw [mapError_eq_ok_iff] at hfields
        rcases hm : findField? fields (override.member target) with - | member
        · simp [hm] at h
        · simp only [hm, Except.ok.injEq] at h
          exact ⟨source, some member, .member hs hkind hfields hm, h.symm⟩
      · cases h
      · rename_i hsub hkind
        exact ⟨source, none, .field hs hkind hsub, (Except.ok.inj h).symm⟩
  · rintro ⟨source, member, hleads, rfl⟩
    cases hleads with
    | field hsource hkind hsub =>
      rcases hk : source.kind with type | name | shape | shape
      case nested => exact absurd hk (hkind shape)
      all_goals simp [hsource, hk, hsub]
    | member hsource hkind hfields hmember =>
      simp [hsource, hkind, hfields, hmember]

/-- **An override that does not resolve misses some path, and the error names it.** In a closed
registry no lookup fails on the way. -/
theorem resolve_eq_error_iff (targetShape : String)
    (hresolves : ∀ field ∈ sourceFields, registry.Resolves field.kind)
    {error : PlanError} :
    resolve registry sourceFields targetShape target override = .error error ↔
      ∃ missing, override.Misses registry sourceFields target missing ∧
        error = .unresolvedOverride targetShape target.name missing := by
  rw [resolve_eq]
  constructor
  · intro h
    rcases hs : findField? sourceFields override.field with - | source
    · simp only [hs] at h
      exact ⟨_, .field hs, (Except.error.inj h).symm⟩
    · simp only [hs] at h
      split at h
      · rename_i shape hkind
        obtain ⟨fields, hfields⟩ : ∃ fields, registry.fields shape = .ok fields := by
          simpa [hkind, Registry.Resolves] using hresolves source (mem_of_findField? hs).1
        simp only [hfields, ok_mapError, except_bind_eq, ok_bind] at h
        rcases hm : findField? fields (override.member target) with - | member
        · simp only [hm] at h
          exact ⟨_, .member hs hkind hfields hm, (Except.error.inj h).symm⟩
        · simp [hm] at h
      · rename_i hsub hkind
        exact ⟨_, .noObject hs hkind hsub, (Except.error.inj h).symm⟩
      · cases h
  · rintro ⟨missing, hmisses, rfl⟩
    cases hmisses with
    | field hsource => simp [hsource]
    | noObject hsource hkind hsub =>
      rename_i source subfield
      rcases hk : source.kind with type | name | shape | shape
      case nested => exact absurd hk (hkind shape)
      all_goals simp [hsource, hk, hsub]
    | member hsource hkind hfields hmember =>
      simp [hsource, hkind, hfields, hmember]

/-! ### Field by field -/

/-- The pairings of target fields, without the records. -/
theorem pairAll_fst {source : String} {fields : List Field} :
    (pairAll provider source targetShape sourceFields fields).1 =
      (fields.mapM (pairField provider sourceFields targetShape)).map (·.filterMap id) := by
  induction fields with
  | nil => rfl
  | cons field rest ih =>
    rw [pairAll, List.mapM_cons]
    rcases pairField provider sourceFields targetShape field with error | - | pairing
    · rfl
    · simp only [ih]
      rcases rest.mapM (pairField provider sourceFields targetShape) with error | pairings <;> rfl
    · simp only [ih]
      rcases rest.mapM (pairField provider sourceFields targetShape) with error | pairings <;> rfl

/-- **Two registered shapes are matched field by field**, in the order of the target. -/
theorem ofShapes_eq {source target : String} {targetFields : List Field}
    (hsource : provider source = .ok sourceFields)
    (htarget : provider target = .ok targetFields) :
    (ofShapes provider source target).1 =
      (targetFields.mapM (pairField provider sourceFields target)).map (·.filterMap id) := by
  rw [ofShapes]
  simp only [hsource, htarget]
  exact pairAll_fst

/-- Matching fails on a lookup exactly when a shape is unregistered, the source shape first. -/
theorem ofShapes_eq_of_unregistered {source target : String}
    (h : registry.hasShape source = false ∨ registry.hasShape target = false) :
    (ofShapes registry source target).1 = .error (.catalogue (.unknownShape
      (if registry.hasShape source then target else source))) := by
  rw [ofShapes]
  rcases hs : registry.hasShape source with - | -
  · simp [Registry.fields_eq_error_iff.2 ⟨hs, rfl⟩]
  · have ht := h.resolve_left (by simp [hs])
    obtain ⟨sourceFields, hfields⟩ := Registry.exists_fields_iff.2 hs
    simp [hfields, Registry.fields_eq_error_iff.2 ⟨ht, rfl⟩]

/-- Shapes that are matched are registered. -/
theorem exists_fields_of_ofShapes {source target : String} {pairings : List Pairing}
    (h : (ofShapes provider source target).1 = .ok pairings) :
    ∃ sourceFields targetFields, provider source = .ok sourceFields ∧
      provider target = .ok targetFields := by
  rw [ofShapes] at h
  rcases hsource : provider source with error | sourceFields
  · simp [hsource] at h
  · rcases htarget : provider target with error | targetFields
    · simp [hsource, htarget] at h
    · exact ⟨sourceFields, targetFields, rfl, rfl⟩

/-- A target field is paired exactly if it declares an override or the source shape has a field of
its name. -/
theorem isSome_of_pairField {outcome : Option Pairing}
    (h : pairField provider sourceFields targetShape target = .ok outcome) :
    outcome.isSome = decide (target.override.isSome ∨ target.name ∈ sourceFields.map (·.name)) ∧
      ∀ pairing, outcome = some pairing → pairing.target = target := by
  rw [pairField] at h
  rcases hoverride : target.override with - | override
  · simp only [hoverride, Except.ok.injEq] at h
    subst h
    refine ⟨?_, fun pairing hpairing ↦ ?_⟩
    · rw [Option.isSome_map, Bool.eq_iff_iff]
      simp [findField?, List.find?_isSome]
    · obtain ⟨source, -, rfl⟩ := Option.map_eq_some_iff.1 hpairing
      rfl
  · simp only [hoverride] at h
    obtain ⟨pairing, hresolve, rfl⟩ := map_eq_ok_iff.1 h
    obtain ⟨source, member, -, rfl⟩ := (resolve_eq_ok_iff targetShape).1 hresolve
    refine ⟨by simp, ?_⟩
    rintro _ ⟨⟩
    rfl

/-- **The fields that are paired**, in the order of declaration: those with an override, and those
of whose name the source shape has a field. -/
theorem map_target_of_ofShapes {source target : String} {pairings : List Pairing}
    (h : (ofShapes provider source target).1 = .ok pairings) :
    ∃ sourceFields targetFields, provider source = .ok sourceFields ∧
      provider target = .ok targetFields ∧
      pairings.map (·.target) = targetFields.filter fun field ↦
        field.override.isSome ∨ field.name ∈ sourceFields.map (·.name) := by
  obtain ⟨sourceFields, targetFields, hsource, htarget⟩ := exists_fields_of_ofShapes h
  rw [ofShapes_eq hsource htarget, map_eq_ok_iff] at h
  obtain ⟨outcomes, houtcomes, rfl⟩ := h
  refine ⟨sourceFields, targetFields, hsource, htarget, ?_⟩
  have hpaired := (mapM_eq_ok_iff.1 houtcomes).imp fun _ _ ↦ isSome_of_pairField
  rw [map_filterMap_id_of_forall₂ (f := Pairing.target) (g := id) hpaired, List.map_id]

/-- A pairing by name is that of a target field without an override and the source field of its
name. -/
theorem exists_fields_of_structural {source target : String} {pairings : List Pairing}
    (h : (ofShapes provider source target).1 = .ok pairings) {pairing : Pairing}
    (hmem : pairing ∈ pairings) (horigin : pairing.origin = .structural) :
    ∃ sourceFields targetFields, provider source = .ok sourceFields ∧
      provider target = .ok targetFields ∧ pairing.target ∈ targetFields ∧
      pairing.target.override = none ∧
      findField? sourceFields pairing.target.name = some pairing.source := by
  obtain ⟨sourceFields, targetFields, hsource, htarget⟩ := exists_fields_of_ofShapes h
  rw [ofShapes_eq hsource htarget, map_eq_ok_iff] at h
  obtain ⟨results, hresults, rfl⟩ := h
  obtain ⟨field, hfield, hpair⟩ :=
    exists_of_mem_of_forall₂ (mapM_eq_ok_iff.1 hresults) (by simpa using hmem)
  refine ⟨sourceFields, targetFields, hsource, htarget, ?_⟩
  rw [pairField] at hpair
  rcases hoverride : field.override with - | override
  · simp only [hoverride, Except.ok.injEq] at hpair
    obtain ⟨sourceField, hsourceField, rfl⟩ := Option.map_eq_some_iff.1 hpair
    exact ⟨hfield, hoverride, hsourceField⟩
  · simp only [hoverride] at hpair
    obtain ⟨pairing', hresolve, hsome⟩ := map_eq_ok_iff.1 hpair
    obtain ⟨sourceField, member, -, rfl⟩ := (resolve_eq_ok_iff target).1 hresolve
    cases hsome
    cases horigin

end Matching

end Recast
