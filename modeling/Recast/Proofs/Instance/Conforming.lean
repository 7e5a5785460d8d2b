import Recast.Proofs.Instance.Applied
import Recast.Proofs.Plan.Typing

/-!
# Plans are total over their source shape

An instance *conforms* to a shape (`Conforms`) when it has the fields that the shape declares, the
nullable ones perhaps not, and their values conform in their turn. Scalars are not looked at, but
where a plan reads an integer into an enum the integer has to be one (`Plan.IntegersFit`).

A plan that was compiled turns every conforming instance into a result, and whatever it is applied
to, no lookup in the catalogue fails (`apply_total`). Both are read off the typing of the plan: what
a typed path reads conforms to the kind at its end (`followSteps_of_leads`), a value of that kind
can be converted (`exists_convert`), and what a plan below is applied to conforms to its source
shape (`Feed.Typed.conforms_of_applies`).
-/

namespace Recast

section Conforming

/-! ### Instances of a shape -/

/-- The value is an integer of a signed word of sixty-four bits. -/
def Json.IsInt64 (value : Json) : Prop := ∃ integer, value = .int integer ∧ fitsInt64 integer = true

/-- The value conforms to the kind, `enums` telling what stands for a value of an enum. A nullable
field may be null or absent. -/
inductive Conforms (registry : Registry) (enums : String → Json → Prop) : FieldKind → Json → Prop
  | scalar {type : Scalar} {value : Json} : Conforms registry enums (.scalar type) value
  | enumeration {name : String} {value : Json} (hvalue : enums name value) :
      Conforms registry enums (.enumeration name) value
  | nested {shape : String} {fields : List Field} {entries : List (String × Json)}
      (hfields : registry.fields shape = .ok fields)
      (hpresent : ∀ field ∈ fields, ∀ value, Json.present? entries field.name = some value →
        Conforms registry enums field.kind value)
      (habsent : ∀ field ∈ fields, Json.present? entries field.name = none →
        field.nullable = true) :
      Conforms registry enums (.nested shape) (.obj entries)
  | collection {shape : String} {items : List Json}
      (hitems : ∀ item ∈ items, Conforms registry enums (.nested shape) item) :
      Conforms registry enums (.collection shape) (.arr items)

/-- Each field has a value that conforms, or it is nullable and has none. -/
def FieldsConform (registry : Registry) (enums : String → Json → Prop) (fields : List Field)
    (entries : List (String × Json)) : Prop :=
  ∀ field ∈ fields, (Json.present? entries field.name = none ∧ field.nullable = true) ∨
    ∃ value, Json.present? entries field.name = some value ∧
      Conforms registry enums field.kind value

/-- A value of an enum is written as an integer, or as the name of a member. -/
def Registry.HasEnumValue (registry : Registry) (name : String) (value : Json) : Prop :=
  value.IsInt64 ∨ ∃ type member, registry.enumType name = .ok type ∧ member ∈ type.members ∧
    value = .str member.name

/-- A value of an enum is written as an integer only. -/
def IntegerOnly (_ : String) (value : Json) : Prop := value.IsInt64

/-- The plan below is applied to the value: to the object, or to an item of the list. -/
inductive Feed.Applies (entries : List (String × Json)) : Feed Plan → Plan → Json → Prop
  | object {link : Link} {name : String} {plan : Plan} {value : Json} (hlink : link ≠ .collection)
      (hvalue : Json.present? entries name = some value) :
      Applies entries (.child link name plan) plan value
  | item {name : String} {plan : Plan} {items : List Json} {item : Json}
      (hitems : Json.present? entries name = some (.arr items)) (hitem : item ∈ items) :
      Applies entries (.child .collection name plan) plan item

/-- Whatever the plan reads from a plain integer field into an enum, at any level, is an integer of
sixty-four bits. -/
inductive Plan.IntegersFit : Plan → Json → Prop
  | obj {plan : Plan} {entries : List (String × Json)}
      (hread : ∀ a ∈ plan.assignments, ∀ path target,
        a.feed = .value path (.enumeration none target) →
        ∀ value, followSteps plan.source entries path.steps = .ok (some value) → value.IsInt64)
      (hbelow : ∀ a ∈ plan.assignments, ∀ child value, a.feed.Applies entries child value →
        IntegersFit child value) :
      IntegersFit plan (.obj entries)

variable {registry : Registry} {enums : String → Json → Prop} {form : EnumForm}
  {sourceFields targetFields : List Field} {entries : List (String × Json)}

/-- **An instance of a shape is an object whose fields conform.** -/
theorem Conforms.exists_entries {shape : String} {fields : List Field} {value : Json}
    (h : Conforms registry enums (.nested shape) value)
    (hfields : registry.fields shape = .ok fields) :
    ∃ entries, value = .obj entries ∧ FieldsConform registry enums fields entries := by
  obtain - | - | ⟨hfields', hpresent, habsent⟩ := h
  cases hfields.symm.trans hfields'
  refine ⟨_, rfl, fun field hfield ↦ ?_⟩
  rcases h : Json.present? _ field.name with - | part
  · exact .inl ⟨rfl, habsent field hfield h⟩
  · exact .inr ⟨part, rfl, hpresent field hfield part h⟩

theorem Conforms.of_fields {shape : String} {fields : List Field}
    (hfields : registry.fields shape = .ok fields)
    (h : FieldsConform registry enums fields entries) :
    Conforms registry enums (.nested shape) (.obj entries) := by
  refine .nested hfields (fun field hfield value hvalue ↦ ?_) (fun field hfield hnone ↦ ?_)
  · rcases h field hfield with ⟨hnone, -⟩ | ⟨part, hsome, hpart⟩
    · cases hnone.symm.trans hvalue
    · exact Option.some.inj (hsome.symm.trans hvalue) ▸ hpart
  · rcases h field hfield with ⟨-, hnullable⟩ | ⟨part, hsome, -⟩
    · exact hnullable
    · cases hnone.symm.trans hsome

/-- Whoever allows more values of enums has more instances. -/
theorem Conforms.mono {enums' : String → Json → Prop} (hle : ∀ name value, enums name value →
    enums' name value) {kind : FieldKind} {value : Json} (h : Conforms registry enums kind value) :
    Conforms registry enums' kind value := by
  induction h with
  | scalar => exact .scalar
  | enumeration hvalue => exact .enumeration (hle _ _ hvalue)
  | nested hfields _ habsent ih => exact .nested hfields ih habsent
  | collection _ ih => exact .collection ih

theorem Feed.Applies.child?_eq {feed : Feed Plan} {plan : Plan} {value : Json}
    (h : feed.Applies entries plan value) : feed.child? = some plan := by
  cases h <;> rfl

/-! ### What a path reads -/

/-- **What a typed path reads from an instance conforms to the kind at its end.** It reads nothing
only if a step is nullable. -/
theorem followSteps_of_leads {path : Path} {leaf : Field}
    (hpath : path.Leads registry sourceFields leaf)
    (hentries : FieldsConform registry enums sourceFields entries) (shape : String) :
    (followSteps shape entries path.steps = .ok none ∧ path.isNullable = true) ∨
      ∃ value, followSteps shape entries path.steps = .ok (some value) ∧
        Conforms registry enums leaf.kind value := by
  cases hpath with
  | single hsource =>
    rcases hentries leaf hsource with ⟨hnone, hnullable⟩ | ⟨value, hsome, hvalue⟩
    · refine .inl ⟨by simp [followSteps, hnone], ?_⟩
      simp [hnullable]
    · exact .inr ⟨value, by simp [followSteps, hsome], hvalue⟩
  | @member source _ _ _ hsource hkind hfields hmember =>
    rcases hentries source hsource with ⟨hnone, hnullable⟩ | ⟨object, hsome, hobject⟩
    · refine .inl ⟨by simp [followSteps, hnone], ?_⟩
      simp [hnullable]
    · rw [hkind] at hobject
      obtain ⟨inner, rfl, hinner⟩ := hobject.exists_entries hfields
      rcases hinner leaf hmember with ⟨hnone, hnullable⟩ | ⟨value, hvalue, hconforms⟩
      · refine .inl ⟨by simp [followSteps, hsome, hnone], ?_⟩
        simp [hnullable]
      · exact .inr ⟨value, by simp [followSteps, hsome, hvalue], hconforms⟩

/-- What a path reads is not null. -/
theorem ne_null_of_followSteps {shape : String} {steps : List Step} {value : Json}
    (h : followSteps shape entries steps = .ok (some value)) : value ≠ .null := by
  induction steps generalizing shape entries with
  | nil => simp [followSteps] at h
  | cons step rest ih =>
    rcases rest with - | ⟨next, rest⟩
    · rw [followSteps, Except.ok.injEq, Json.present?, Option.filter_eq_some_iff] at h
      rintro rfl
      cases h.2
    · rw [followSteps] at h
      · split at h
        · cases h
        · exact ih h
        · cases h
      · simp

/-- A path never fails on a lookup. -/
theorem followSteps_ne_catalogue {shape : String} {steps : List Step} {error : CatalogueError} :
    followSteps shape entries steps ≠ .error (.catalogue error) := by
  induction steps generalizing entries with
  | nil => simp [followSteps]
  | cons step rest ih =>
    rcases rest with - | ⟨next, rest⟩
    · simp [followSteps]
    · rw [followSteps]
      · split
        · simp
        · exact ih
        · simp
      · simp

/-! ### Conversions -/

@[simp] theorem underlying_int (registry : Registry) (path : Path) (source? : Option String)
    (n : Int) :
    underlying registry path source? (.int n) =
      if fitsInt64 n then .ok n else .error (.invalidEnumValue path.render (.int n)) := by
  by_cases hn : fitsInt64 n = true <;> simp [underlying, Json.int, Number.toInt64?, hn]

@[simp] theorem enumValue_integer (registry : Registry) (target : String) (integer : Int) :
    enumValue registry .integer target integer = .ok (.int integer) := rfl

/-- The value of an enum has an integer. -/
theorem exists_underlying_of_hasEnumValue (path : Path) {name : String} {value : Json}
    (h : registry.HasEnumValue name value) :
    ∃ integer, underlying registry path (some name) value = .ok integer := by
  rcases h with ⟨integer, rfl, hfits⟩ | ⟨type, member, htype, hmember, rfl⟩
  · exact ⟨integer, by simp [hfits]⟩
  · obtain ⟨integer, hinteger⟩ : ∃ integer, type.valueOf? member.name = some integer := by
      rw [← Option.isSome_iff_exists]
      simpa [EnumType.valueOf?] using ⟨member, hmember, rfl⟩
    refine ⟨integer, ?_⟩
    simp [underlying, htype, hinteger]

theorem exists_enumValue (form : EnumForm) {target : String}
    (hresolves : registry.Resolves (.enumeration target))
    (integer : Int) : ∃ value, enumValue registry form target integer = .ok value := by
  obtain ⟨type, htype⟩ := hresolves
  cases form with
  | integer => exact ⟨_, rfl⟩
  | name => exact ⟨_, by rw [enumValue, htype]; rfl⟩

/-- **A value of a kind that fits is converted**, if it is an integer of sixty-four bits where a
plain integer becomes an enum. -/
theorem exists_convert (form : EnumForm) (path : Path) {conversion : Conversion}
    {target source : FieldKind} {value : Json} (hfits : conversion.Fits target source)
    (hresolves : registry.Resolves target)
    (hvalue : Conforms registry registry.HasEnumValue source value)
    (hinteger : ∀ name, conversion = .enumeration none name → value.IsInt64) :
    ∃ out, convert registry form path conversion value = .ok out := by
  cases hfits with
  | copy => exact ⟨value, rfl⟩
  | enumeration =>
    obtain - | hvalue := hvalue
    obtain ⟨integer, hunderlying⟩ := exists_underlying_of_hasEnumValue path hvalue
    obtain ⟨out, hout⟩ := exists_enumValue form hresolves integer
    exact ⟨out, by rw [convert, hunderlying]; exact hout⟩
  | integer =>
    obtain ⟨integer, rfl, hfits⟩ := hinteger _ rfl
    obtain ⟨out, hout⟩ := exists_enumValue form hresolves integer
    refine ⟨out, ?_⟩
    simp [convert, hfits, hout]

/-- **No conversion between kinds that resolve fails on a lookup**, whatever the value. -/
theorem convert_ne_catalogue {conversion : Conversion} {target source : FieldKind} {path : Path}
    {value : Json} {error : CatalogueError} (hfits : conversion.Fits target source)
    (htarget : registry.Resolves target) (hsource : registry.Resolves source) :
    convert registry form path conversion value ≠ .error (.catalogue error) := by
  have henum : ∀ {source? : Option String} {name : String},
      (∀ source, source? = some source → registry.Resolves (.enumeration source)) →
      registry.Resolves (.enumeration name) →
      convert registry form path (.enumeration source? name) value ≠ .error (.catalogue error) := by
    intro source? name hsource hname h
    rcases bind_eq_error_iff.1 h with h | ⟨integer, -, h⟩
    · unfold underlying at h
      split at h
      · split at h <;> cases h
      · obtain ⟨type, htype⟩ := hsource _ rfl
        simp only [htype, ok_mapError, ok_bind] at h
        split at h <;> cases h
      · cases h
    · obtain ⟨out, hout⟩ := exists_enumValue form hname integer
      cases hout.symm.trans h
  cases hfits with
  | copy => nofun
  | enumeration => exact henum (fun _ h ↦ Option.some.inj h ▸ hsource) htarget
  | integer => exact henum nofun htarget

/-! ### Typed feeds -/

namespace Feed.Typed

variable {field : Field} {feed : Feed Plan} {shape : String}

/-- **What a plan below is applied to conforms to its source shape.** -/
theorem conforms_of_applies (h : feed.Typed registry sourceFields field)
    (hentries : FieldsConform registry enums sourceFields entries)
    {child : Plan} {value : Json} (happlies : feed.Applies entries child value) :
    Conforms registry enums (.nested child.source) value := by
  -- The value that stands under the name of the source field conforms to the kind of that field.
  have hpart : ∀ source ∈ sourceFields, ∀ value, Json.present? entries source.name = some value →
      Conforms registry enums source.kind value := by
    intro source hsource value hvalue
    rcases hentries source hsource with ⟨hnone, -⟩ | ⟨part, hsome, hconforms⟩
    · cases hnone.symm.trans hvalue
    · cases hsome.symm.trans hvalue
      exact hconforms
  cases happlies with
  | object hlink hvalue =>
    cases h with
    | object hsource _ _ hkind | optionalObject hsource _ _ hkind =>
      exact hkind ▸ hpart _ hsource _ hvalue
    | collection => exact absurd rfl hlink
  | item hitems hitem =>
    cases h with
    | collection hsource _ _ hkind =>
      have hlist := hkind ▸ hpart _ hsource _ hitems
      obtain - | - | - | hlist := hlist
      exact hlist _ hitem

/-- An object that is missing is one that may be. -/
theorem eq_optionalObject_of_none {link : Link} {name : String} {child : Plan}
    (h : (Feed.child link name child).Typed registry sourceFields field)
    (hentries : FieldsConform registry enums sourceFields entries) (hlink : link ≠ .collection)
    (hnone : Json.present? entries name = none) : link = .optionalObject := by
  cases h with
  | object hsource _ _ _ hnullable =>
    rcases hentries _ hsource with ⟨-, hnull⟩ | ⟨part, hsome, -⟩
    · cases hnullable.symm.trans hnull
    · cases hnone.symm.trans hsome
  | optionalObject => rfl
  | collection => exact absurd rfl hlink

/-- **A typed feed has a value on an instance**, if the plan below has a result wherever it is
applied. -/
theorem exists_valueFor (form : EnumForm) (shape : String)
    (h : feed.Typed registry sourceFields field)
    (hresolves : registry.Resolves field.kind)
    (hentries : FieldsConform registry registry.HasEnumValue sourceFields entries)
    (hread : ∀ path target, feed = .value path (.enumeration none target) →
      ∀ value, followSteps shape entries path.steps = .ok (some value) → value.IsInt64)
    (hbelow : ∀ child value, feed.Applies entries child value →
      ∃ result, child.apply registry form value = .ok result) :
    ∃ value, feed.valueFor registry form shape entries field = .ok value := by
  cases h with
  | @value path leaf conversion hpath hfits =>
    rcases followSteps_of_leads hpath hentries shape with ⟨hnone, -⟩ | ⟨value, hsome, hvalue⟩
    · exact ⟨field.defaultValue, valueFor_value_of_none field hnone⟩
    · obtain ⟨out, hout⟩ := exists_convert form path hfits hresolves hvalue
        fun name hname ↦ hread path name (hname ▸ rfl) value hsome
      exact ⟨out, by rw [valueFor_value_of_some field hsome, hout]⟩
  | @object source plan hsource _ _ _ hnullable =>
    rcases hentries source hsource with ⟨-, hnull⟩ | ⟨part, hsome, -⟩
    · rw [hnullable] at hnull
      cases hnull
    · obtain ⟨result, hresult⟩ := hbelow plan part (.object (by decide) hsome)
      exact ⟨result, by rw [valueFor_child_of_some (by decide) hsome, hresult]⟩
  | @optionalObject source plan =>
    rcases hsome : Json.present? entries source.name with - | part
    · exact ⟨.null, by rw [valueFor_optionalObject_of_none hsome]⟩
    · obtain ⟨result, hresult⟩ := hbelow plan part (.object (by decide) hsome)
      exact ⟨result, by rw [valueFor_child_of_some (by decide) hsome, hresult]⟩
  | @collection source plan hsource _ _ hkind =>
    rcases hentries source hsource with ⟨hnone, -⟩ | ⟨part, hsome, hpart⟩
    · exact ⟨.null, valueFor_collection_of_none hnone⟩
    · rw [hkind] at hpart
      obtain - | - | - | hlist := hpart
      obtain ⟨results, hresults⟩ := exists_mapM_eq_ok fun item hitem ↦
        hbelow plan item (.item hsome hitem)
      exact ⟨.arr results, by simp [valueFor, hsome, Plan.applyAll, hresults]⟩

/-- **A lookup fails for a typed feed only if it does so in a plan below.** -/
theorem valueFor_ne_catalogue (h : feed.Typed registry sourceFields field)
    (htarget : registry.Resolves field.kind)
    (hsource : ∀ path leaf, Path.Leads registry sourceFields path leaf →
      registry.Resolves leaf.kind)
    {error : CatalogueError}
    (hbelow : ∀ child, feed.child? = some child → ∀ value,
      child.apply registry form value ≠ .error (.catalogue error)) :
    feed.valueFor registry form shape entries field ≠ .error (.catalogue error) := by
  cases h with
  | @value path leaf conversion hpath hfits =>
    intro h
    rcases bind_eq_error_iff.1 h with h | ⟨- | value, -, h⟩
    · exact followSteps_ne_catalogue h
    · cases h
    · exact convert_ne_catalogue hfits htarget (hsource _ _ hpath) h
  | @object source plan =>
    rcases hvalue : Json.present? entries source.name with - | part
    · simp [valueFor, hvalue]
    · simpa [valueFor, hvalue] using hbelow plan rfl part
  | @optionalObject source plan =>
    rcases hvalue : Json.present? entries source.name with - | part
    · simp [valueFor, hvalue]
    · simpa [valueFor, hvalue] using hbelow plan rfl part
  | @collection source plan =>
    intro h
    rw [valueFor] at h
    split at h
    · cases h
    · obtain ⟨item, -, hitem⟩ := exists_of_mapM_eq_error (map_eq_error_iff.1 h)
      exact hbelow plan rfl item hitem
    · cases h

end Feed.Typed

/-! ### Compiled plans -/

namespace Plan

variable {plan : Plan}

/-- A failure on an object is that of a typed assignment. -/
theorem WellTyped.exists_of_apply_eq_error (hclosed : registry.Closed) (h : plan.WellTyped registry)
    (hsource : registry.fields plan.source = .ok sourceFields) {error : ApplyError}
    (herror : plan.apply registry form (.obj entries) = .error error) :
    ∃ a ∈ plan.assignments, ∃ field, registry.Resolves field.kind ∧
      a.Typed registry sourceFields field ∧
      a.feed.valueFor registry form plan.source entries field = .error error := by
  obtain ⟨sourceFields', targetFields, hsource', htarget, -, hlevel⟩ := h.level hclosed
  cases hsource.symm.trans hsource'
  obtain ⟨a, ha, field, hfield, hvalue⟩ := Plan.exists_of_apply_eq_error htarget herror
  obtain ⟨field', hmem, hfield', htyped⟩ := hlevel a ha
  cases hfield.symm.trans hfield'
  exact ⟨a, ha, field, hclosed.resolves htarget field hmem, htyped, hvalue⟩

/-- A result on an object holds what the typed assignments give. -/
theorem WellTyped.exists_results (hclosed : registry.Closed) (h : plan.WellTyped registry)
    (hsource : registry.fields plan.source = .ok sourceFields) {result : Json}
    (happly : plan.apply registry form (.obj entries) = .ok result) :
    ∃ fields results, registry.fields plan.target = .ok fields ∧ result = .obj results ∧
      ∀ a ∈ plan.assignments, ∃ field value, findField? fields a.target = some field ∧
        a.Typed registry sourceFields field ∧
        a.feed.valueFor registry form plan.source entries field = .ok value ∧
        results.lookup a.target = some value := by
  obtain ⟨sourceFields', targetFields, hsource', htarget, hnodup, hlevel⟩ := h.level hclosed
  cases hsource.symm.trans hsource'
  obtain ⟨results, rfl, hresults⟩ := exists_value_of_apply htarget
    (fun a ha ↦ (hlevel a ha).imp fun _ h ↦ h.2.1) hnodup happly
  refine ⟨targetFields, results, htarget, rfl, fun a ha ↦ ?_⟩
  obtain ⟨field, value, hfield, hvalue, hlookup⟩ := hresults a ha
  obtain ⟨field', -, hfield', htyped⟩ := hlevel a ha
  cases hfield.symm.trans hfield'
  exact ⟨field, value, hfield, htyped, hvalue, hlookup⟩

/-- **No lookup fails for a well-typed plan**, whatever it is applied to. -/
theorem apply_ne_catalogue (hclosed : registry.Closed) (h : plan.WellTyped registry) {value : Json}
    {error : CatalogueError} : plan.apply registry form value ≠ .error (.catalogue error) := by
  induction plan using Plan.induction generalizing value with
  | step plan ih =>
    obtain ⟨sourceFields, -, hsource, -⟩ := h.level hclosed
    intro herror
    by_cases hobject : ∃ entries, value = .obj entries
    · obtain ⟨entries, rfl⟩ := hobject
      obtain ⟨a, ha, field, hresolves, htyped, hvalue⟩ :=
        h.exists_of_apply_eq_error hclosed hsource herror
      exact htyped.feed.valueFor_ne_catalogue hresolves
        (fun path leaf hpath ↦ hpath.resolves hclosed hsource)
        (fun child hchild value ↦ ih a ha child hchild (h.child ha hchild)) hvalue
    · rw [apply_eq_error_of_notObject (not_exists.1 hobject)] at herror
      cases herror

/-- **A well-typed plan has a result on every instance of its source shape.** -/
theorem exists_apply (form : EnumForm) (hclosed : registry.Closed) (h : plan.WellTyped registry)
    {value : Json} (hvalue : Conforms registry registry.HasEnumValue (.nested plan.source) value)
    (hintegers : plan.IntegersFit value) :
    ∃ result, plan.apply registry form value = .ok result := by
  induction plan using Plan.induction generalizing value with
  | step plan ih =>
    obtain ⟨sourceFields, -, hsource, -⟩ := h.level hclosed
    obtain ⟨entries, rfl, hentries⟩ := hvalue.exists_entries hsource
    obtain ⟨hread, hbelow⟩ := hintegers
    rcases happly : plan.apply registry form (.obj entries) with error | result
    · -- Some assignment has no value, but its feed is typed.
      obtain ⟨a, ha, field, hresolves, htyped, hvalue⟩ :=
        h.exists_of_apply_eq_error hclosed hsource happly
      have hchildren : ∀ child value, a.feed.Applies entries child value →
          ∃ result, child.apply registry form value = .ok result := by
        intro child value happlies
        have hchild := happlies.child?_eq
        have hconforms := htyped.feed.conforms_of_applies hentries happlies
        exact ih a ha child hchild (h.child ha hchild) hconforms (hbelow a ha child value happlies)
      obtain ⟨out, hout⟩ := htyped.feed.exists_valueFor form plan.source hresolves hentries
        (hread a ha) hchildren
      cases hout.symm.trans hvalue
    · exact ⟨result, rfl⟩

/-- **Compiled plans are total over their source shape.** No application fails on a lookup in the
catalogue, and every instance of the source shape has a result, enum values being given as integers
or by name. -/
theorem apply_total {catalogue : Catalogue} (hregister : catalogue.register = .ok registry)
    {settings : BuildSettings} {source target : String} {plan : Plan}
    (hbuild : between registry settings source target = .ok plan) (form : EnumForm) (value : Json) :
    (∀ error, plan.apply registry form value ≠ .error (.catalogue error)) ∧
      (Conforms registry registry.HasEnumValue (.nested source) value → plan.IntegersFit value →
        ∃ result, plan.apply registry form value = .ok result) := by
  have hclosed := Registry.closed_of_register hregister
  have htyped := ofPair_wellTyped hclosed hbuild
  obtain ⟨rfl, -, -⟩ := labels_of_ofPair hbuild
  exact ⟨fun error ↦ apply_ne_catalogue hclosed htyped, exists_apply form hclosed htyped⟩

end Plan

end Conforming

namespace Blog

/-- A post with the given status, by an author and with one tag. -/
def post (status : Json) : Json := .obj [
  ("Id", .int 7),
  ("Status", status),
  ("Author", .obj [("Name", .str "Ann")]),
  ("Site", .obj [("Url", .str "blog.example")]),
  ("Tags", .arr [.obj [("Label", .null), ("Rank", .int 1)]])]

/-- A post conforms if its status does. -/
theorem post_conforms {enums : String → Json → Prop} {status : Json}
    (hpresent : status.isPresent = true) (hstatus : enums "Status" status) :
    Conforms registry enums (.nested "Post") (post status) := by
  have hname : ∀ name, Conforms registry enums (.nested "Author") (.obj [("Name", .str name)]) := by
    intro name
    exact .of_fields rfl (List.forall_mem_singleton.2 (.inr ⟨_, rfl, .scalar⟩))
  have hurl : ∀ url, Conforms registry enums (.nested "Site") (.obj [("Url", .str url)]) := by
    intro url
    exact .of_fields rfl (List.forall_mem_singleton.2 (.inr ⟨_, rfl, .scalar⟩))
  have htag : ∀ rank, Conforms registry enums (.nested "Tag")
      (.obj [("Label", .null), ("Rank", .int rank)]) := by
    intro rank
    refine .of_fields rfl (List.forall_mem_cons.2 ⟨.inl ⟨rfl, rfl⟩, ?_⟩)
    exact List.forall_mem_singleton.2 (.inr ⟨_, rfl, .scalar⟩)
  refine .of_fields rfl ?_
  simp only [FieldsConform, List.forall_mem_cons, List.not_mem_nil, false_implies, implies_true,
    and_true]
  refine ⟨.inr ⟨_, rfl, .scalar⟩, .inr ⟨status, ?_, .enumeration hstatus⟩, .inr ⟨_, rfl, hname _⟩,
    .inr ⟨_, rfl, hurl _⟩, .inr ⟨_, rfl, .collection (List.forall_mem_singleton.2 (htag _))⟩,
    .inl rfl⟩
  exact Option.filter_eq_some_iff.2 ⟨rfl, hpresent⟩

/-- The plan for posts reads the rank of a tag into an enum, and nothing else. -/
theorem post_integersFit (status : Json) : postPlan.IntegersFit (post status) := by
  have hsite : ∀ url, sitePlan.IntegersFit (.obj [("Url", .str url)]) := by
    intro url
    refine .obj ?_ ?_
    · rintro _ (_ | ⟨_, ⟨⟩⟩) path target ⟨⟩
    · rintro _ (_ | ⟨_, ⟨⟩⟩) child value ⟨⟩
  have htag : ∀ rank, fitsInt64 rank = true →
      tagPlan.IntegersFit (.obj [("Label", .null), ("Rank", .int rank)]) := by
    intro rank hrank
    refine .obj ?_ ?_
    · rintro _ (_ | ⟨_, _ | ⟨_, ⟨⟩⟩⟩) path target ⟨⟩
      rintro _ ⟨⟩
      exact ⟨rank, rfl, hrank⟩
    · rintro _ (_ | ⟨_, _ | ⟨_, ⟨⟩⟩⟩) child value ⟨⟩
  refine .obj ?_ ?_
  · simp [postPlan, postValues]
  · simp only [postPlan, postValues, List.cons_append, List.nil_append, List.forall_mem_cons]
    refine ⟨nofun, nofun, nofun, ?_, ?_, ?_, nofun⟩
    · rintro _ _ ⟨-, ⟨⟩⟩
      exact hsite _
    · rintro _ _ (⟨hlink, -⟩ | ⟨⟨⟩, hitem⟩)
      · exact absurd rfl hlink
      · rw [List.mem_singleton.1 hitem]
        exact htag 1 rfl
    · rintro _ _ ⟨-, ⟨⟩⟩

/-- The post with a status given by name has a result, and applying the plan to no object at all
fails on no lookup. -/
theorem post_total :
    (∀ error, postPlan.apply registry .name .null ≠ .error (.catalogue error)) ∧
      ∃ result, postPlan.apply registry .name (post (.str "Draft")) = .ok result := by
  refine ⟨(Plan.apply_total register_eq between_eq .name .null).1,
    (Plan.apply_total register_eq between_eq .name (post (.str "Draft"))).2 ?_ (post_integersFit _)⟩
  exact post_conforms rfl (.inr ⟨_, ⟨"Draft", 0⟩, rfl, List.mem_cons_self, rfl⟩)

end Blog

end Recast
