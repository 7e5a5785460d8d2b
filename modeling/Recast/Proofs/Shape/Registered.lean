import Mathlib.Data.List.Nodup
import Recast.Proofs.Outcome
import Recast.Shape.Registry

/-!
# What registration establishes

`Catalogue.register` goes through the enums, the shapes and the references in three passes. Each
pass succeeds exactly when a plain condition holds of the declarations, so the whole succeeds
exactly on the well-formed catalogues (`register_eq_ok_iff`), and the registry holds what was
declared.

What later theory needs is `Registry.Closed`: field names are distinct within a shape, and whatever
a registered field refers to is registered, so that a lookup that follows references never fails.
-/

namespace Recast

/-! ### The conditions -/

/-- A kind that refers to declared things only. -/
def Catalogue.Declares (catalogue : Catalogue) : FieldKind → Prop
  | .scalar _ => True
  | .enumeration name => name ∈ catalogue.enums.map (·.name)
  | .nested name | .collection name => name ∈ catalogue.shapes.map (·.name)

/-- The enum by itself is well formed: all names are words, and no two members share one. -/
structure EnumType.WellFormed (type : EnumType) : Prop where
  name_word : Text.isWord type.name = true
  member_words : ∀ member ∈ type.members, Text.isWord member.name = true
  member_nodup : (type.members.map (·.name)).Nodup

/-- The steps of an override are words. -/
def Override.WellFormed (override : Override) : Prop :=
  Text.isWord override.field = true ∧
    ∀ subfield, override.subfield = some subfield → Text.isWord subfield = true

/-- The shape by itself is well formed: all names are words, and no two fields share one. -/
structure Shape.WellFormed (shape : Shape) : Prop where
  name_word : Text.isWord shape.name = true
  field_words : ∀ field ∈ shape.fields, Text.isWord field.name = true
  override_words : ∀ field ∈ shape.fields, ∀ override, field.override = some override →
    override.WellFormed
  field_nodup : (shape.fields.map (·.name)).Nodup

/-- The declarations are closed and unambiguous. -/
structure Catalogue.WellFormed (catalogue : Catalogue) : Prop where
  enums : ∀ type ∈ catalogue.enums, type.WellFormed
  enum_nodup : (catalogue.enums.map (·.name)).Nodup
  shapes : ∀ shape ∈ catalogue.shapes, shape.WellFormed
  shape_nodup : (catalogue.shapes.map (·.name)).Nodup
  references : ∀ shape ∈ catalogue.shapes, ∀ field ∈ shape.fields, catalogue.Declares field.kind

/-! ### One pass at a time

Each pass carries the names that it has seen. It succeeds exactly when every element passes its own
check, no name was seen before, and no name comes twice. -/

@[simp] theorem checkName_eq_ok_iff {name : String} {u : Unit} :
    checkName name = .ok u ↔ Text.isWord name = true := by
  unfold checkName
  split <;> simp_all

/-- The shape of all three passes: an element is checked, its name is new, and the rest passes with
the name among those seen. -/
theorem nodup_pass_cons_iff {α : Type} (f : α → String) (P : α → Prop) {a : α} {l : List α}
    {seen : List String} :
    (P a ∧ f a ∉ seen ∧ (∀ b ∈ l, P b ∧ f b ∉ f a :: seen) ∧ (l.map f).Nodup) ↔
      (∀ b ∈ a :: l, P b ∧ f b ∉ seen) ∧ ((a :: l).map f).Nodup := by
  rw [List.forall_mem_cons, List.map_cons, List.nodup_cons, List.mem_map]
  simp only [List.mem_cons, not_or, not_exists, not_and]
  constructor
  · rintro ⟨hP, hnew, hrest, hnodup⟩
    exact ⟨⟨⟨hP, hnew⟩, fun b hb ↦ ⟨(hrest b hb).1, (hrest b hb).2.2⟩⟩,
      fun b hb ↦ (hrest b hb).2.1, hnodup⟩
  · rintro ⟨⟨⟨hP, hnew⟩, hrest⟩, hfresh, hnodup⟩
    exact ⟨hP, hnew, fun b hb ↦ ⟨(hrest b hb).1, hfresh b hb, (hrest b hb).2⟩, hnodup⟩

theorem checkMembers_eq_ok_iff {type : EnumType} {members : List EnumMember} {seen : List String}
    {u : Unit} :
    type.checkMembers seen members = .ok u ↔
      (∀ m ∈ members, Text.isWord m.name = true ∧ m.name ∉ seen) ∧
        (members.map (·.name)).Nodup := by
  induction members generalizing seen with
  | nil => simp [EnumType.checkMembers]
  | cons member rest ih =>
    rw [EnumType.checkMembers, bind_eq_ok_iff]
    simp only [guard_eq_ok_iff, ih, checkName_eq_ok_iff, List.contains_eq_mem, decide_eq_true_eq,
      exists_const]
    exact nodup_pass_cons_iff (fun m : EnumMember ↦ m.name) fun m ↦ Text.isWord m.name = true

theorem checkEnums_eq_ok_iff {types : List EnumType} {seen : List String} {u : Unit} :
    Catalogue.checkEnums seen types = .ok u ↔
      (∀ type ∈ types, type.WellFormed ∧ type.name ∉ seen) ∧ (types.map (·.name)).Nodup := by
  have hcheck : ∀ (type : EnumType) (u : Unit), type.check = .ok u ↔ type.WellFormed := by
    intro type u
    rw [EnumType.check, bind_eq_ok_iff]
    simp only [checkName_eq_ok_iff, checkMembers_eq_ok_iff, exists_const, List.not_mem_nil,
      not_false_eq_true, and_true]
    exact ⟨fun ⟨hw, hm, hn⟩ ↦ ⟨hw, hm, hn⟩, fun ⟨hw, hm, hn⟩ ↦ ⟨hw, hm, hn⟩⟩
  induction types generalizing seen with
  | nil => simp [Catalogue.checkEnums]
  | cons type rest ih =>
    rw [Catalogue.checkEnums, bind_eq_ok_iff]
    simp only [guard_eq_ok_iff, ih, hcheck, List.contains_eq_mem, decide_eq_true_eq, exists_const]
    exact nodup_pass_cons_iff (fun type : EnumType ↦ type.name) EnumType.WellFormed

theorem checkOverride_eq_ok_iff {override : Option Override} {u : Unit} :
    Shape.checkOverride override = .ok u ↔ ∀ o, override = some o → o.WellFormed := by
  cases override with
  | none => simp [Shape.checkOverride]
  | some o =>
    rw [Shape.checkOverride, bind_eq_ok_iff]
    rcases h : o.subfield with - | subfield <;> simp [Override.WellFormed, h]

theorem checkFields_eq_ok_iff {shape : Shape} {fields : List Field} {seen : List String}
    {u : Unit} :
    shape.checkFields seen fields = .ok u ↔
      (∀ f ∈ fields, (Text.isWord f.name = true ∧ ∀ o, f.override = some o → o.WellFormed) ∧
        f.name ∉ seen) ∧ (fields.map (·.name)).Nodup := by
  induction fields generalizing seen with
  | nil => simp [Shape.checkFields]
  | cons field rest ih =>
    rw [Shape.checkFields, bind_eq_ok_iff]
    simp only [guard_eq_ok_iff, bind_eq_ok_iff, ih, checkName_eq_ok_iff, checkOverride_eq_ok_iff,
      List.contains_eq_mem, decide_eq_true_eq, exists_const]
    rw [← nodup_pass_cons_iff (fun f : Field ↦ f.name)
      fun f ↦ Text.isWord f.name = true ∧ ∀ o, f.override = some o → o.WellFormed]
    tauto

theorem checkShapes_eq_ok_iff {shapes : List Shape} {seen : List String} {u : Unit} :
    Catalogue.checkShapes seen shapes = .ok u ↔
      (∀ shape ∈ shapes, shape.WellFormed ∧ shape.name ∉ seen) ∧ (shapes.map (·.name)).Nodup := by
  have hcheck : ∀ (shape : Shape) (u : Unit), shape.check = .ok u ↔ shape.WellFormed := by
    intro shape u
    rw [Shape.check, bind_eq_ok_iff]
    simp only [checkName_eq_ok_iff, checkFields_eq_ok_iff, exists_const, List.not_mem_nil,
      not_false_eq_true, and_true]
    exact ⟨fun ⟨hw, hf, hn⟩ ↦ ⟨hw, fun f h ↦ (hf f h).1, fun f h ↦ (hf f h).2, hn⟩,
      fun ⟨hw, hf, ho, hn⟩ ↦ ⟨hw, fun f h ↦ ⟨hf f h, ho f h⟩, hn⟩⟩
  induction shapes generalizing seen with
  | nil => simp [Catalogue.checkShapes]
  | cons shape rest ih =>
    rw [Catalogue.checkShapes, bind_eq_ok_iff]
    simp only [guard_eq_ok_iff, ih, hcheck, List.contains_eq_mem, decide_eq_true_eq, exists_const]
    exact nodup_pass_cons_iff (fun shape : Shape ↦ shape.name) Shape.WellFormed

theorem dangling?_eq_none_iff {catalogue : Catalogue} {kind : FieldKind} :
    catalogue.dangling? kind = none ↔ catalogue.Declares kind := by
  cases kind <;> simp [Catalogue.dangling?, Catalogue.Declares]

theorem checkReferences_eq_ok_iff {catalogue : Catalogue} {u : Unit} :
    catalogue.checkReferences = .ok u ↔
      ∀ shape ∈ catalogue.shapes, ∀ field ∈ shape.fields, catalogue.Declares field.kind := by
  simp only [Catalogue.checkReferences, forM_eq_ok_iff]
  refine forall₄_congr fun shape _ field _ ↦ ?_
  rw [← dangling?_eq_none_iff]
  rcases catalogue.dangling? field.kind with - | reference <;> simp

/-- **Registration accepts exactly the well-formed catalogues**, and the registry is what was
declared. -/
theorem register_eq_ok_iff {catalogue : Catalogue} {registry : Registry} :
    catalogue.register = .ok registry ↔
      catalogue.WellFormed ∧ registry = ⟨catalogue.name, catalogue.enums, catalogue.shapes⟩ := by
  simp only [Catalogue.register, bind_eq_ok_iff, checkEnums_eq_ok_iff, checkShapes_eq_ok_iff,
    checkReferences_eq_ok_iff, exists_const, List.not_mem_nil, not_false_eq_true, and_true]
  constructor
  · rintro ⟨⟨he, hen⟩, ⟨hs, hsn⟩, hr, h⟩
    cases h
    exact ⟨⟨he, hen, hs, hsn, hr⟩, rfl⟩
  · rintro ⟨⟨he, hen, hs, hsn, hr⟩, rfl⟩
    exact ⟨⟨he, hen⟩, ⟨hs, hsn⟩, hr, rfl⟩

/-! ### Search by name -/

/-- Where keys are distinct, what is found under a key is the only element with it. -/
theorem find?_key_eq_some_iff {α : Type} {key : α → String} {l : List α}
    (hnodup : (l.map key).Nodup) {name : String} {a : α} :
    l.find? (fun b ↦ key b = name) = some a ↔ a ∈ l ∧ key a = name := by
  refine ⟨fun h ↦ ⟨List.mem_of_find?_eq_some h, by simpa using List.find?_some h⟩,
    fun ⟨hmem, hkey⟩ ↦ ?_⟩
  rcases h : l.find? (fun b ↦ key b = name) with - | b
  · exact absurd hkey (by simpa using List.find?_eq_none.1 h a hmem)
  · have hkey' : key b = name := by simpa using List.find?_some h
    rw [List.inj_on_of_nodup_map hnodup (List.mem_of_find?_eq_some h) hmem
      (hkey'.trans hkey.symm)]

theorem mem_of_findField? {fields : List Field} {name : String} {field : Field}
    (h : findField? fields name = some field) : field ∈ fields ∧ field.name = name :=
  ⟨List.mem_of_find?_eq_some h, by simpa using List.find?_some h⟩

/-- Where names are distinct, the field that is found is the only one of its name. -/
theorem findField?_eq_some_iff {fields : List Field} (hnodup : (fields.map (·.name)).Nodup)
    {name : String} {field : Field} :
    findField? fields name = some field ↔ field ∈ fields ∧ field.name = name :=
  find?_key_eq_some_iff hnodup

/-! ### Lookups -/

namespace Registry

/-- Whatever the kind refers to is registered. -/
def Resolves (registry : Registry) : FieldKind → Prop
  | .scalar _ => True
  | .enumeration name => ∃ type, registry.enumType name = .ok type
  | .nested name | .collection name => ∃ fields, registry.fields name = .ok fields

/-- Field names are distinct within a shape, and references from registered fields resolve. -/
structure Closed (registry : Registry) : Prop where
  nodup : ∀ {name fields}, registry.fields name = .ok fields → (fields.map (·.name)).Nodup
  resolves : ∀ {name fields}, registry.fields name = .ok fields →
    ∀ field ∈ fields, registry.Resolves field.kind

variable {registry : Registry}

theorem fields_eq_ok_iff {name : String} {fields : List Field} :
    registry.fields name = .ok fields ↔
      ∃ shape, registry.shapes.find? (fun shape ↦ shape.name = name) = some shape ∧
        shape.fields = fields := by
  rw [Registry.fields, map_eq_ok_iff, Registry.shape]
  split <;> simp [*]

theorem exists_fields_iff {name : String} :
    (∃ fields, registry.fields name = .ok fields) ↔ registry.hasShape name = true := by
  simp [fields_eq_ok_iff, hasShape, ← Option.isSome_iff_exists]

/-- A lookup of fields fails only for a name that is not registered, and says so. -/
theorem fields_eq_error_iff {name : String} {error : CatalogueError} :
    registry.fields name = .error error ↔
      registry.hasShape name = false ∧ error = .unknownShape name := by
  have hunknown : ∀ e, registry.fields name = .error e → e = .unknownShape name := by
    intro e h
    rw [Registry.fields, map_eq_error_iff, Registry.shape] at h
    split at h <;> cases h
    rfl
  rw [← Bool.not_eq_true, ← exists_fields_iff]
  rcases h : registry.fields name with e | fields
  · simp [hunknown e h, eq_comm]
  · simp

theorem exists_enumType_iff {name : String} :
    (∃ type, registry.enumType name = .ok type) ↔ name ∈ registry.enums.map (·.name) := by
  have hsome : (∃ type, registry.enumType name = .ok type) ↔
      ∃ type, registry.enums.find? (fun type ↦ type.name = name) = some type := by
    rw [enumType]
    split <;> simp [*]
  rw [hsome, ← Option.isSome_iff_exists]
  simp

/-- **What is registered is closed.** -/
theorem closed_of_register {catalogue : Catalogue} (h : catalogue.register = .ok registry) :
    registry.Closed := by
  obtain ⟨hwf, rfl⟩ := register_eq_ok_iff.1 h
  refine ⟨fun hfields ↦ ?_, fun hfields field hfield ↦ ?_⟩
  · obtain ⟨shape, hshape, rfl⟩ := fields_eq_ok_iff.1 hfields
    exact (hwf.shapes shape (List.mem_of_find?_eq_some hshape)).field_nodup
  · obtain ⟨shape, hshape, rfl⟩ := fields_eq_ok_iff.1 hfields
    have href := hwf.references shape (List.mem_of_find?_eq_some hshape) field hfield
    cases hk : field.kind with
    | scalar => trivial
    | enumeration name =>
      rw [hk] at href
      exact exists_enumType_iff.2 href
    | nested name | collection name =>
      rw [hk] at href
      refine exists_fields_iff.2 ?_
      simpa [Registry.hasShape, Catalogue.Declares] using href

/-- The objects that a registered field holds are of a registered shape. -/
theorem Closed.exists_fields (hclosed : registry.Closed) {name : String} {fields : List Field}
    (hfields : registry.fields name = .ok fields) {field : Field} (hfield : field ∈ fields)
    {inner : String} (hkind : field.kind = .nested inner ∨ field.kind = .collection inner) :
    ∃ innerFields, registry.fields inner = .ok innerFields := by
  have hresolves := hclosed.resolves hfields field hfield
  rcases hkind with hkind | hkind <;> simpa [hkind, Resolves] using hresolves

/-- The name of a field of some registered shape. -/
def NamesField (registry : Registry) (name : String) : Prop :=
  ∃ shape fields, registry.fields shape = .ok fields ∧ ∃ field ∈ fields, field.name = name

theorem namesField_of_mem {shape : String} {fields : List Field}
    (hfields : registry.fields shape = .ok fields) {field : Field} (hfield : field ∈ fields) :
    registry.NamesField field.name :=
  ⟨shape, fields, hfields, field, hfield, rfl⟩

/-- **The names of registered fields are words.** -/
theorem NamesField.isWord {catalogue : Catalogue} (h : catalogue.register = .ok registry)
    {name : String} (hname : registry.NamesField name) : Text.isWord name = true := by
  obtain ⟨shape, fields, hfields, field, hfield, rfl⟩ := hname
  obtain ⟨hwf, rfl⟩ := register_eq_ok_iff.1 h
  obtain ⟨shape, hshape, rfl⟩ := fields_eq_ok_iff.1 hfields
  exact (hwf.shapes shape (List.mem_of_find?_eq_some hshape)).field_words field hfield

end Registry

end Recast
