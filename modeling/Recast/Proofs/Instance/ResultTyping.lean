import Recast.Proofs.Instance.EnumValue
import Recast.Proofs.Instance.Layout
import Recast.Proofs.Shape.Lookup

/-!
# Results are typed

What a compiled plan makes of an instance is typed against the target shape at every level
(`Plan.ResultTyped`). A field that may not be null holds a value of its scalar type or an integer of
sixty-four bits; one that may be null holds such a value or null. A nested field holds null, or an
object that is typed against its own shape, and a collection a list of such objects. A collection that
may not be null is null only where it is fed from one that may be, and that is missing.

Every field of a result comes from one of three sources. Where nothing is assigned or read it has its
default, which is typed by itself (`Field.valueTyped_defaultValue`); a value that is copied has the
type of the leaf, which is that of the field; and an enum value that is converted is an integer of
sixty-four bits, by the number that was read or by the members of the enum
(`fitsInt64_of_underlying`). What counts as a value of a scalar type is left open: nothing but that
the defaults do is needed of it. `Scalar.HasValue` is the plain reading.
-/

namespace Recast

section ResultTyping

/-! ### Values of scalar types -/

/-- The values of a scalar type by the sort of JSON that they are, integers by their width and sign
as well. Decimals, dates and identifiers are texts. -/
def Scalar.HasValue : Scalar → Json → Prop
  | .bool, value => ∃ flag, value = .bool flag
  | .float32, value | .float64, value => ∃ number, value = .num number
  | .decimal, value | .char, value | .string, value | .date, value | .dateTime, value
  | .uuid, value => ∃ text, value = .str text
  | type, value => ∃ integer, value = .int integer ∧ type.HasInteger integer

/-- **The default of a scalar type is a value of it.** -/
theorem Scalar.hasValue_defaultValue (type : Scalar) : type.HasValue type.defaultValue := by
  cases type with
  | int8 | int16 | int32 | int64 | uint8 | uint16 | uint32 | uint64 =>
    exact ⟨0, rfl, by decide, by decide⟩
  | _ => exact ⟨_, rfl⟩

/-- No default of a scalar type is null. -/
theorem Scalar.defaultValue_ne_null (type : Scalar) : type.defaultValue ≠ .null := by
  cases type <;> nofun

/-- Wherever the instance has a scalar, it is a value of its type. -/
inductive ScalarsTyped (registry : Registry) (scalars : Scalar → Json → Prop) :
    FieldKind → Json → Prop
  | scalar {type : Scalar} {value : Json} (hvalue : scalars type value) :
      ScalarsTyped registry scalars (.scalar type) value
  | enumeration {name : String} {value : Json} :
      ScalarsTyped registry scalars (.enumeration name) value
  | nested {shape : String} {fields : List Field} {entries : List (String × Json)}
      (hfields : registry.fields shape = .ok fields)
      (hpresent : ∀ field ∈ fields, ∀ value, Json.present? entries field.name = some value →
        ScalarsTyped registry scalars field.kind value) :
      ScalarsTyped registry scalars (.nested shape) (.obj entries)
  | collection {shape : String} {items : List Json}
      (hitems : ∀ item ∈ items, ScalarsTyped registry scalars (.nested shape) item) :
      ScalarsTyped registry scalars (.collection shape) (.arr items)

/-- The integers of all members are signed words of sixty-four bits. -/
def Catalogue.MembersFit (catalogue : Catalogue) : Prop :=
  ∀ type ∈ catalogue.enums, ∀ member ∈ type.members, fitsInt64 member.value = true

/-- The integers of the members of all registered enums are signed words of sixty-four bits. -/
def Registry.MembersFit (registry : Registry) : Prop :=
  ∀ name type, registry.enumType name = .ok type → ∀ member ∈ type.members,
    fitsInt64 member.value = true

theorem Catalogue.MembersFit.of_register {catalogue : Catalogue} (h : catalogue.MembersFit)
    {registry : Registry} (hregister : catalogue.register = .ok registry) :
    registry.MembersFit :=
  fun _ type htype ↦ h type (Registry.mem_enums_of_register hregister htype)

/-! ### Typed results -/

mutual

/-- **What the plan makes of the source is typed** against the target shape: it has the fields of the
shape in their order, and each of them holds a value that is typed for it. -/
inductive Plan.ResultTyped (registry : Registry) (scalars : Scalar → Json → Prop) :
    Plan → Json → Json → Prop
  | obj {plan : Plan} {fields : List Field} {entries results : List (String × Json)}
      (hfields : registry.fields plan.target = .ok fields)
      (hkeys : results.map (·.1) = fields.map (·.name))
      (hvalues : ∀ field ∈ fields, ∀ value, results.lookup field.name = some value →
        Field.ValueTyped registry scalars plan entries field value) :
      Plan.ResultTyped registry scalars plan (.obj entries) (.obj results)

/-- The value is typed for a target field of the plan, the plan being applied to the entries. Any
field that may be null, and any nested one, may hold null; a collection that may not be null holds it
only if it is fed from a source that may be null and is. -/
inductive Field.ValueTyped (registry : Registry) (scalars : Scalar → Json → Prop) :
    Plan → List (String × Json) → Field → Json → Prop
  | scalar {plan : Plan} {entries : List (String × Json)} {field : Field} {type : Scalar}
      {value : Json} (hkind : field.kind = .scalar type) (hne : value ≠ .null)
      (hvalue : scalars type value) : Field.ValueTyped registry scalars plan entries field value
  | enumeration {plan : Plan} {entries : List (String × Json)} {field : Field} {name : String}
      {value : Json} (hkind : field.kind = .enumeration name) (hvalue : value.IsInt64) :
      Field.ValueTyped registry scalars plan entries field value
  | null {plan : Plan} {entries : List (String × Json)} {field : Field}
      (hnullable : field.nullable = true) :
      Field.ValueTyped registry scalars plan entries field .null
  | noObject {plan : Plan} {entries : List (String × Json)} {field : Field} {shape : String}
      (hkind : field.kind = .nested shape) :
      Field.ValueTyped registry scalars plan entries field .null
  | object {plan child : Plan} {entries : List (String × Json)} {field : Field}
      {a : Assignment Plan} {link : Link} {name : String} {source value : Json}
      (hkind : field.kind = .nested child.target) (ha : a ∈ plan.assignments)
      (htarget : a.target = field.name) (hfeed : a.feed = .child link name child)
      (hsome : Json.present? entries name = some source)
      (hobject : Plan.ResultTyped registry scalars child source value) :
      Field.ValueTyped registry scalars plan entries field value
  | noItems {plan : Plan} {entries : List (String × Json)} {field : Field} {shape : String}
      (hkind : field.kind = .collection shape) :
      Field.ValueTyped registry scalars plan entries field (.arr [])
  | items {plan child : Plan} {entries : List (String × Json)} {field : Field}
      {a : Assignment Plan} {name : String} {items values : List Json}
      (hkind : field.kind = .collection child.target) (ha : a ∈ plan.assignments)
      (htarget : a.target = field.name) (hfeed : a.feed = .child .collection name child)
      (hsome : Json.present? entries name = some (.arr items))
      (hitems : ItemsTyped registry scalars child items values) :
      Field.ValueTyped registry scalars plan entries field (.arr values)
  | noCollection {plan child : Plan} {entries : List (String × Json)} {field source : Field}
      {a : Assignment Plan} {sourceFields : List Field}
      (hkind : field.kind = .collection child.target) (ha : a ∈ plan.assignments)
      (htarget : a.target = field.name) (hfeed : a.feed = .child .collection source.name child)
      (hfields : registry.fields plan.source = .ok sourceFields) (hsource : source ∈ sourceFields)
      (hsourceKind : source.kind = .collection child.source) (hnullable : source.nullable = true)
      (hnone : Json.present? entries source.name = none) :
      Field.ValueTyped registry scalars plan entries field .null

/-- What the plan makes of the items of a list is typed, one by one. -/
inductive ItemsTyped (registry : Registry) (scalars : Scalar → Json → Prop) :
    Plan → List Json → List Json → Prop
  | nil {plan : Plan} : ItemsTyped registry scalars plan [] []
  | cons {plan : Plan} {item value : Json} {items values : List Json}
      (hitem : Plan.ResultTyped registry scalars plan item value)
      (hrest : ItemsTyped registry scalars plan items values) :
      ItemsTyped registry scalars plan (item :: items) (value :: values)

end

variable {registry : Registry} {scalars : Scalar → Json → Prop} {plan : Plan}
  {entries : List (String × Json)} {sourceFields : List Field} {field : Field}

/-! ### The three sources of a value -/

/-- **A field without a value has a typed default.** -/
theorem Field.valueTyped_defaultValue (hdefaults : ∀ type, scalars type type.defaultValue)
    (plan : Plan) (entries : List (String × Json)) (field : Field) :
    field.ValueTyped registry scalars plan entries field.defaultValue := by
  rcases hnullable : field.nullable with - | -
  · rcases hkind : field.kind with type | name | shape | shape <;>
      simp only [Field.defaultValue, hnullable, hkind, Bool.false_eq_true, if_false]
    · exact .scalar hkind type.defaultValue_ne_null (hdefaults type)
    · exact .enumeration hkind ⟨0, rfl, by decide⟩
    · exact .noObject hkind
    · exact .noItems hkind
  · simp only [Field.defaultValue, hnullable, if_true]
    exact .null hnullable

/-- **What a typed path reads holds typed scalars**, as what stands under the source fields does. -/
theorem Path.Leads.scalarsTyped {path : Path} {leaf : Field}
    (hpath : path.Leads registry sourceFields leaf)
    (hentries : ∀ source ∈ sourceFields, ∀ value, Json.present? entries source.name = some value →
      ScalarsTyped registry scalars source.kind value)
    {shape : String} {value : Json}
    (hread : followSteps shape entries path.steps = .ok (some value)) :
    ScalarsTyped registry scalars leaf.kind value := by
  cases hpath with
  | single hsource =>
    exact hentries leaf hsource value (Except.ok.inj hread)
  | @member source _ _ _ hsource hkind hfields hmember =>
    rcases hsome : Json.present? entries source.name with - | object
    · simp [followSteps, hsome] at hread
    · have hobject := hentries source hsource object hsome
      rw [hkind] at hobject
      obtain - | - | ⟨hfields', hpresent⟩ := hobject
      cases hfields.symm.trans hfields'
      simp only [Path.steps_push, Path.steps_single, List.cons_append, List.nil_append,
        followSteps, hsome, Except.ok.injEq] at hread
      exact hpresent leaf hmember value hread

/-- **The integer of an enum value is a signed word.** -/
theorem fitsInt64_of_underlying
    (hmembers : registry.MembersFit)
    {path : Path} {source? : Option String} {value : Json} {integer : Int}
    (h : underlying registry path source? value = .ok integer) : fitsInt64 integer = true := by
  unfold underlying at h
  split at h
  · rename_i number
    rcases number with n | double
    · by_cases hn : fitsInt64 n = true
      · simp only [Number.toInt64?, hn, if_true] at h
        cases h
        exact hn
      · simp [Number.toInt64?, hn] at h
    · cases h
  · rename_i member name
    obtain ⟨type, htype, h⟩ := bind_eq_ok_iff.1 h
    rcases hvalue : type.valueOf? member with - | n
    · simp [hvalue] at h
    · simp only [hvalue] at h
      cases h
      obtain ⟨found, hfound, rfl⟩ := Option.map_eq_some_iff.1 hvalue
      exact hmembers name type (mapError_eq_ok_iff.1 htype) found (List.mem_of_find?_eq_some hfound)
  · cases h

/-- A converted value has the type of the field, its source being typed and there. -/
theorem Field.valueTyped_of_convert
    (hmembers : registry.MembersFit)
    {path : Path} {conversion : Conversion} {sourceKind : FieldKind} {read value : Json}
    (hfits : conversion.Fits field.kind sourceKind) (hne : read ≠ .null)
    (hread : ScalarsTyped registry scalars sourceKind read)
    (h : convert registry .integer path conversion read = .ok value) :
    field.ValueTyped registry scalars plan entries value := by
  have henum : ∀ {source? : Option String} {name : String},
      convert registry .integer path (.enumeration source? name) read = .ok value →
      value.IsInt64 := by
    intro source? name h
    obtain ⟨integer, hinteger, h⟩ := bind_eq_ok_iff.1 h
    cases h
    exact ⟨integer, rfl, fitsInt64_of_underlying hmembers hinteger⟩
  generalize hkind : field.kind = kind at hfits
  cases hfits with
  | copy =>
    cases h
    obtain ⟨hvalue⟩ := hread
    exact .scalar hkind hne hvalue
  | enumeration | integer => exact .enumeration hkind (henum h)

/-- The results for the items of a list are typed, if each of them is. -/
theorem itemsTyped_of_forall₂ {items values : List Json}
    (h : List.Forall₂ (fun item value ↦ plan.apply registry .integer item = .ok value) items values)
    (hitems : ∀ item ∈ items, ∀ value, plan.apply registry .integer item = .ok value →
      plan.ResultTyped registry scalars item value) :
    ItemsTyped registry scalars plan items values := by
  induction h with
  | nil => exact .nil
  | cons hitem _ ih =>
    obtain ⟨hhead, hrest⟩ := List.forall_mem_cons.1 hitems
    exact .cons (hhead _ hitem) (ih hrest)

/-- **What a typed assignment gives is typed for its field**, if the plan below makes typed results
of the instances of its source shape. -/
theorem Assignment.Typed.valueTyped {a : Assignment Plan}
    (htyped : a.Typed registry sourceFields field) (ha : a ∈ plan.assignments)
    (hdefaults : ∀ type, scalars type type.defaultValue)
    (hmembers : registry.MembersFit)
    (hfields : registry.fields plan.source = .ok sourceFields) {enums : String → Json → Prop}
    (hentries : FieldsConform registry enums sourceFields entries)
    (hscalars : ∀ source ∈ sourceFields, ∀ part, Json.present? entries source.name = some part →
      ScalarsTyped registry scalars source.kind part)
    (hbelow : ∀ child, a.feed.child? = some child → ∀ source value,
      Conforms registry enums (.nested child.source) source →
      ScalarsTyped registry scalars (.nested child.source) source →
      child.apply registry .integer source = .ok value →
      child.ResultTyped registry scalars source value)
    {value : Json}
    (hvalue : a.feed.valueFor registry .integer plan.source entries field = .ok value) :
    field.ValueTyped registry scalars plan entries value := by
  obtain ⟨htarget, -, -, hfeed⟩ := htyped
  generalize hkind : a.feed = feed at hfeed hvalue hbelow
  have hconforms : ∀ {child source}, feed.Applies entries child source →
      Conforms registry enums (.nested child.source) source := hfeed.conforms_of_applies hentries
  cases hfeed with
  | @value path leaf conversion hpath hfits =>
    rcases hread : followSteps plan.source entries path.steps with error | - | read
    · simp [Feed.valueFor, hread] at hvalue
    · rw [Feed.valueFor_value_of_none field hread, Except.ok.injEq] at hvalue
      exact hvalue ▸ Field.valueTyped_defaultValue hdefaults plan entries field
    · rw [Feed.valueFor_value_of_some field hread] at hvalue
      exact Field.valueTyped_of_convert hmembers hfits (ne_null_of_followSteps hread)
        (hpath.scalarsTyped hscalars hread) hvalue
  | @object source child hsource _ hfieldKind hsourceKind
  | @optionalObject source child hsource _ hfieldKind hsourceKind =>
    obtain ⟨part, hsome, hpart⟩ | rfl := Feed.valueFor_child_eq_ok (by decide) hvalue
    · exact .object hfieldKind ha htarget hkind hsome (hbelow child rfl part value
        (hconforms (.object (by decide) hsome)) (hsourceKind ▸ hscalars source hsource part hsome)
        hpart)
    · exact .noObject hfieldKind
  | @collection source child hsource _ hfieldKind hsourceKind =>
    rcases hentries source hsource with ⟨hnone, hnullable⟩ | ⟨part, hsome, -⟩
    · simp only [Feed.valueFor, hnone, Except.ok.injEq] at hvalue
      exact hvalue ▸ .noCollection hfieldKind ha htarget hkind hfields hsource hsourceKind
        hnullable hnone
    · obtain ⟨items, values, rfl, rfl, hitems⟩ := Feed.valueFor_collection_eq_ok hsome hvalue
      have hlist := hscalars source hsource _ hsome
      rw [hsourceKind] at hlist
      obtain - | - | - | hlist := hlist
      exact .items hfieldKind ha htarget hkind hsome (itemsTyped_of_forall₂ hitems
        fun item hitem value ↦ hbelow child rfl item value (hconforms (.item hsome hitem))
          (hlist item hitem))

namespace Plan

/-- **A well-typed plan makes typed results** of the instances of its source shape. -/
theorem WellTyped.resultTyped (hclosed : registry.Closed) (h : plan.WellTyped registry)
    (hdefaults : ∀ type, scalars type type.defaultValue)
    (hmembers : registry.MembersFit)
    {enums : String → Json → Prop} {source result : Json}
    (hsource : Conforms registry enums (.nested plan.source) source)
    (hscalars : ScalarsTyped registry scalars (.nested plan.source) source)
    (hresult : plan.apply registry .integer source = .ok result) :
    plan.ResultTyped registry scalars source result := by
  induction plan using Plan.induction generalizing source result with
  | step plan ih =>
    obtain ⟨sourceFields, targetFields, hfields, htarget, hnodup, hlevel⟩ := h.level hclosed
    obtain ⟨entries, rfl, hentries⟩ := hsource.exists_entries hfields
    obtain - | - | ⟨hfields', hparts⟩ := hscalars
    cases hfields.symm.trans hfields'
    obtain ⟨_, _, results, ⟨⟩, htarget', rfl, hkeys, hdefault, hlast⟩ :=
      exists_level_of_apply hclosed hresult
    cases htarget.symm.trans htarget'
    refine .obj htarget hkeys fun field hfield value hvalue ↦ ?_
    by_cases hassigned : ∃ a ∈ plan.assignments, a.target = field.name
    · obtain ⟨a, ha, hname⟩ := hassigned
      obtain ⟨field', hmem, hfound, htyped⟩ := hlevel a ha
      obtain rfl : field' = field :=
        Option.some.inj (hfound.symm.trans ((findField?_eq_some_iff (hclosed.nodup htarget)).2
          ⟨hfield, hname.symm⟩))
      obtain ⟨_, hgiven, hlookup⟩ := hlast a (assignsLast_of_nodup hnodup ha) field' hfound
      cases (hname ▸ hlookup).symm.trans hvalue
      exact htyped.valueTyped ha hdefaults hmembers hfields hentries hparts
        (fun child hchild _ _ ↦ ih a ha child hchild (h.child ha hchild)) hgiven
    · have hne : ∀ a ∈ plan.assignments, a.target ≠ field.name := fun a ha hname ↦
        hassigned ⟨a, ha, hname⟩
      cases (hdefault field hfield hne).symm.trans hvalue
      exact Field.valueTyped_defaultValue hdefaults plan entries field

/-- **What a compiled plan makes of an instance is typed against the target shape**, at every level,
whatever counts as a value of a scalar type as long as its default does. -/
theorem apply_typed {catalogue : Catalogue} (hregister : catalogue.register = .ok registry)
    (hmembers : catalogue.MembersFit) (hdefaults : ∀ type, scalars type type.defaultValue)
    {settings : BuildSettings} {source target : String}
    (hbuild : between registry settings source target = .ok plan) {value result : Json}
    (hvalue : Conforms registry registry.HasEnumValue (.nested source) value)
    (hscalars : ScalarsTyped registry scalars (.nested source) value)
    (hresult : plan.apply registry .integer value = .ok result) :
    plan.target = target ∧ plan.ResultTyped registry scalars value result := by
  have hclosed := Registry.closed_of_register hregister
  obtain ⟨rfl, htarget, -⟩ := labels_of_ofPair hbuild
  exact ⟨htarget, (ofPair_wellTyped hclosed hbuild).resultTyped hclosed hdefaults
    (hmembers.of_register hregister) hvalue hscalars hresult⟩

end Plan

end ResultTyping

namespace Blog

/-- The scalars of a post are of their types. -/
theorem post_scalarsTyped (status : Json) :
    ScalarsTyped registry Scalar.HasValue (.nested "Post") (post status) := by
  have htext : ∀ {shape name text},
      registry.fields shape = .ok [{ name := name, kind := .scalar .string }] →
      ScalarsTyped registry Scalar.HasValue (.nested shape) (.obj [(name, .str text)]) := by
    intro shape name text hfields
    refine .nested hfields (List.forall_mem_singleton.2 fun value hvalue ↦ ?_)
    simp only [Json.present?, List.lookup_cons, beq_self_eq_true] at hvalue
    cases hvalue
    exact .scalar ⟨text, rfl⟩
  have htag : ScalarsTyped registry Scalar.HasValue (.nested "Tag")
      (.obj [("Label", .null), ("Rank", .int 1)]) := by
    refine .nested rfl (List.forall_mem_cons.2 ⟨?_, List.forall_mem_singleton.2 ?_⟩) <;>
      rintro _ ⟨⟩
    exact .scalar ⟨1, rfl, by decide, by decide⟩
  refine .nested rfl ?_
  simp only [List.forall_mem_cons, List.not_mem_nil, false_implies, implies_true, and_true]
  refine ⟨?_, fun _ _ ↦ .enumeration, ?_, ?_, ?_, ?_⟩ <;> rintro _ ⟨⟩
  · exact .scalar ⟨7, rfl, by decide, by decide⟩
  · exact htext rfl
  · exact htext rfl
  · exact .collection (List.forall_mem_singleton.2 htag)

/-- The view of a post is typed: its tag has a text although the tag of the post has none. -/
theorem post_view_typed :
    postPlan.target = "PostView" ∧
    postPlan.ResultTyped registry Scalar.HasValue (post (.str "Published")) (.obj [
      ("Id", .int 7),
      ("State", .int 1),
      ("AuthorName", .str "Ann"),
      ("Site", .obj [("Url", .str "blog.example")]),
      ("Tags", .arr [.obj [("Rank", .int 1), ("Label", .str "")]]),
      ("Parent", .null),
      ("Note", .null)]) := by
  refine Plan.apply_typed register_eq ?_ Scalar.hasValue_defaultValue between_eq ?_
    (post_scalarsTyped _) (by with_unfolding_all rfl)
  · rw [Catalogue.MembersFit]
    decide
  · exact post_conforms rfl (.inr ⟨_, ⟨"Published", 1⟩, rfl, by decide, rfl⟩)

end Blog

end Recast
