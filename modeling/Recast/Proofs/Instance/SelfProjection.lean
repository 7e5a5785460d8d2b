import Recast.Proofs.Instance.EnumNames
import Recast.Proofs.Instance.ResultTyping

/-!
# Projecting a shape onto itself

A shape that declares no override, and reaches none that does, always has a plan onto itself
(`Plan.exists_ofPair_self`). What that plan makes is a fixed point of it: applied to its own result
it gives the result again. Nor does it matter if the result has names for enum values; they are read
back as the integers (`Plan.self_projection`).

Such a plan writes every value where it has read it (`Feed.InPlace`). Three things can stand there
after the first run: a value that was read, which is read again; the default of the field, which is
its own copy, or the integer zero; or null, and then the link was one that takes null. What is left
out holds its default after both runs.
-/

namespace Recast

section SelfProjection

/-! ### Shapes without overrides -/

/-- No field of the shape declares an override, nor does one of a shape that it refers to. -/
def Registry.Plain (registry : Registry) (name : String) : Prop :=
  ∀ other, Relation.ReflTransGen registry.Refers name other →
    ∀ shape, registry.shape other = .ok shape → ∀ field ∈ shape.fields, field.override = none

variable {registry : Registry} {form : EnumForm} {fields : List Field} {field : Field}

namespace Registry.Plain

variable {name : String}

theorem override_eq_none (h : registry.Plain name) (hfields : registry.fields name = .ok fields)
    (hfield : field ∈ fields) : field.override = none := by
  obtain ⟨shape, hshape, rfl⟩ := map_eq_ok_iff.1 hfields
  exact h name .refl shape hshape field hfield

/-- The shapes of nested objects and of items are plain as well. -/
theorem below (h : registry.Plain name) (hfields : registry.fields name = .ok fields)
    (hfield : field ∈ fields) {other : String}
    (hkind : field.kind = .nested other ∨ field.kind = .collection other) :
    registry.Plain other := by
  obtain ⟨shape, hshape, rfl⟩ := map_eq_ok_iff.1 hfields
  exact fun further hfurther ↦ h further (.head ⟨shape, hshape, field, hfield, hkind⟩ hfurther)

end Registry.Plain

/-- **A plain shape has a plan onto itself**, whatever the limits: the same field is found on both
sides, and a plan below is one of a plain shape onto itself. -/
theorem Plan.exists_ofPair_self (hclosed : registry.Closed) (settings : BuildSettings)
    {name : String} (hname : ∃ fields, registry.fields name = .ok fields)
    (hplain : registry.Plain name) (depth : Nat) :
    ∃ plan, ofPair registry settings name name depth = .ok plan := by
  induction depth using level_induction settings generalizing name with
  | _ depth ih =>
    obtain ⟨fields, hfields⟩ := hname
    rcases hplan : ofPair registry settings name name depth with error | plan
    · obtain ⟨field, hfield, herror⟩ := exists_of_ofPair_eq_error hfields hfields hplan
      have hoverride := hplain.override_eq_none hfields hfield
      rcases fieldOutcome_cases hoverride with
        hnone | ⟨source, conversion, -, -, hvalue⟩ | ⟨source, descent, hsource, hdescent⟩
      · cases hnone.symm.trans herror
      · cases hvalue.symm.trans herror
      · obtain rfl : field = source := Option.some.inj
          (((findField?_eq_some_iff (hclosed.nodup hfields)).2 ⟨hfield, rfl⟩).symm.trans hsource)
        rw [fieldOutcome_of_descent? hoverride hsource hdescent, map_eq_error_iff] at herror
        obtain ⟨hlt, hle⟩ := level_of_descent? hdescent
        -- Either way down leads from a shape to itself.
        obtain ⟨hkind, hsame⟩ : (field.kind = .nested descent.target ∨
            field.kind = .collection descent.target) ∧ descent.source = descent.target := by
          rcases descent?_eq_some_iff.1 hdescent with ⟨-, ht, hs, -⟩ | ⟨-, ht, hs, -⟩
          · exact ⟨.inr ht, by simpa using hs.symm.trans ht⟩
          · exact ⟨.inl ht, by simpa using hs.symm.trans ht⟩
        obtain ⟨below, hbelow⟩ := ih descent.level hlt hle
          (hclosed.exists_fields hfields hfield hkind) (hplain.below hfields hfield hkind)
        rw [hsame, hbelow] at herror
        cases herror
    · exact ⟨plan, rfl⟩

/-! ### Reading where it is written -/

/-- The feed of a field reads the field itself: its scalar, the value of its enum, or what its own
shape is projected onto. -/
inductive Feed.InPlace (field : Field) : Feed Plan → Prop
  | copy {nullable : Bool} : InPlace field (.value (.single field.name nullable) .copy)
  | enumeration {nullable : Bool} {name : String} (hkind : field.kind = .enumeration name) :
      InPlace field (.value (.single field.name nullable) (.enumeration (some name) name))
  | child {link : Link} {plan : Plan}
      (hkind : field.kind = .nested plan.target ∨ field.kind = .collection plan.target)
      (hsame : plan.source = plan.target) : InPlace field (.child link field.name plan)

theorem Feed.InPlace.kind_of_child? {feed : Feed Plan} (h : feed.InPlace field) {child : Plan}
    (hchild : feed.child? = some child) :
    field.kind = .nested child.target ∨ field.kind = .collection child.target := by
  cases h with
  | copy | enumeration => cases hchild
  | child hkind =>
    cases hchild
    exact hkind

/-- **Between a shape and itself a typed assignment is in place**, if the field has no override. -/
theorem Assignment.Typed.inPlace {a : Assignment Plan} (h : a.Typed registry fields field)
    (hnodup : (fields.map (·.name)).Nodup) (hfield : field ∈ fields)
    (hoverride : field.override = none) : a.feed.InPlace field := by
  have hsource : ∀ source ∈ fields, source.name = field.name → source = field :=
    fun source hmem hname ↦ List.inj_on_of_nodup_map hnodup hmem hfield hname
  have hstructural : a.origin = .structural := by
    have := h.origin_iff
    cases horigin : a.origin <;> simp_all
  have hpaths := h.by_name hstructural
  have hfeed := h.feed
  generalize a.feed = feed at hpaths hfeed
  cases hfeed with
  | @value path leaf conversion hpath hfits =>
    have hsteps := hpaths path conversion rfl
    cases hpath with
    | single hmem =>
      obtain rfl := hsource leaf hmem (by simpa using hsteps)
      generalize hkind : leaf.kind = kind at hfits
      cases hfits with
      | copy => exact .copy
      | enumeration => exact .enumeration hkind
    | member => simp at hsteps
  | @object source plan hmem hname htarget hkind
  | @optionalObject source plan hmem hname htarget hkind =>
    obtain rfl := hsource source hmem hname
    exact .child (.inl htarget) (by simpa using hkind.symm.trans htarget)
  | @collection source plan hmem hname htarget hkind =>
    obtain rfl := hsource source hmem hname
    exact .child (.inr htarget) (by simpa using hkind.symm.trans htarget)

/-! ### One field, twice -/

section Twice

variable {entries : List (String × Json)} {name : String}

theorem present?_of_lookup {value : Json} (h : entries.lookup name = some value)
    (hne : value ≠ .null) : Json.present? entries name = some value := by
  rw [Json.present?, h, Option.filter_some_eq_some]
  cases value <;> first | rfl | exact absurd rfl hne

theorem present?_of_lookup_null (h : entries.lookup name = some .null) :
    Json.present? entries name = none := by
  rw [Json.present?, h]
  rfl

theorem Feed.valueFor_single {shape : String} {nullable : Bool} {conversion : Conversion} :
    (Feed.value (.single name nullable) conversion).valueFor registry form shape entries field =
      (Json.present? entries name).elim (.ok field.defaultValue)
        (convert registry form (.single name nullable) conversion) :=
  rfl

/-- **An enum value that was converted is converted to the same integer**, be it written as a name
or not. -/
theorem exists_integer_of_convert (hmembers : registry.MembersFit)
    (hnames : registry.NamesMembersOnce) {path : Path} {read result : Json}
    (h : convert registry form path (.enumeration (some name) name) read = .ok result) :
    ∃ integer, convert registry .integer path (.enumeration (some name) name) read =
        .ok (.int integer) ∧
      result ≠ .null ∧ convert registry .integer path (.enumeration (some name) name) result =
        .ok (.int integer) := by
  obtain ⟨integer, hinteger, hresult⟩ := bind_eq_ok_iff.1 h
  have hfits := fitsInt64_of_underlying hmembers hinteger
  have hint : convert registry .integer path (.enumeration (some name) name) (.int integer) =
      .ok (.int integer) := by
    rw [convert_int, if_pos hfits]
  refine ⟨integer, by rw [convert, hinteger]; rfl, ?_⟩
  cases form with
  | integer =>
    cases hresult
    exact ⟨by rintro ⟨⟩, hint⟩
  | name =>
    obtain ⟨type, htype, -⟩ := bind_eq_ok_iff.1 hresult
    rw [mapError_eq_ok_iff] at htype
    rw [enumValue_name htype, Except.ok.injEq] at hresult
    rcases hname : type.nameOf? integer with - | text
    · rw [hname, Option.elim_none] at hresult
      subst hresult
      exact ⟨by rintro ⟨⟩, hint⟩
    · rw [hname, Option.elim_some] at hresult
      subst hresult
      have hvalue := EnumType.valueOf?_of_nameOf? (hnames name type htype) hname
      refine ⟨by rintro ⟨⟩, ?_⟩
      simp [convert, underlying, htype, hvalue, enumValue]

/-- The items of a list, twice, if the plan below does with each what it is to do. -/
theorem exists_applyAll_twice {child : Plan}
    (hbelow : ∀ source result, child.apply registry form source = .ok result →
      ∃ value, child.apply registry .integer source = .ok value ∧
        child.apply registry .integer result = .ok value)
    {items results : List Json} (h : child.applyAll registry form items = .ok results) :
    ∃ values, child.applyAll registry .integer items = .ok values ∧
      child.applyAll registry .integer results = .ok values := by
  obtain ⟨values, hvalues, hagain⟩ := exists_forall₂_of_forall₂
    ((mapM_eq_ok_iff.1 h).imp fun item result ↦ hbelow item result)
  exact ⟨values, mapM_eq_ok_iff.2 hvalues, mapM_eq_ok_iff.2 hagain.flip⟩

/-- **What a feed in place has given it gives again**, in integers, from any object that holds it
under the name of the field. -/
theorem Feed.InPlace.exists_valueFor_twice {feed : Feed Plan} (h : feed.InPlace field)
    (hmembers : registry.MembersFit) (hnames : registry.NamesMembersOnce) {shape : String}
    (hbelow : ∀ child, feed.child? = some child → child.source = child.target →
      ∀ source result, child.apply registry form source = .ok result →
        ∃ value, child.apply registry .integer source = .ok value ∧
          child.apply registry .integer result = .ok value)
    {result : Json} (hresult : feed.valueFor registry form shape entries field = .ok result) :
    ∃ value, feed.valueFor registry .integer shape entries field = .ok value ∧
      ∀ entries', entries'.lookup field.name = some result →
        feed.valueFor registry .integer shape entries' field = .ok value := by
  cases h with
  | copy =>
    refine ⟨result, hresult, fun entries' hlookup ↦ ?_⟩
    rw [Feed.valueFor_single] at hresult ⊢
    by_cases hne : result = .null
    · -- Null is given for nothing but null, as the default of the field.
      subst hne
      rw [present?_of_lookup_null hlookup, Option.elim_none]
      rcases hread : Json.present? entries field.name with - | read
      · rwa [hread, Option.elim_none] at hresult
      · rw [hread, Option.elim_some] at hresult
        cases hresult
        cases (Option.filter_eq_some_iff.1 hread).2
    · rw [present?_of_lookup hlookup hne, Option.elim_some]
      rfl
  | @enumeration nullable name hkind =>
    rw [Feed.valueFor_single] at hresult ⊢
    rcases hread : Json.present? entries field.name with - | read
    · rw [hread, Option.elim_none, Except.ok.injEq] at hresult
      subst hresult
      refine ⟨field.defaultValue, rfl, fun entries' hlookup ↦ ?_⟩
      rw [Feed.valueFor_single]
      rcases hnullable : field.nullable with - | -
      · have hzero : field.defaultValue = .int 0 := by simp [Field.defaultValue, hnullable, hkind]
        rw [hzero] at hlookup ⊢
        rw [present?_of_lookup hlookup (by rintro ⟨⟩), Option.elim_some, convert_int]
        rfl
      · have hnull : field.defaultValue = .null := by simp [Field.defaultValue, hnullable]
        rw [present?_of_lookup_null (hnull ▸ hlookup), Option.elim_none]
    · rw [hread, Option.elim_some] at hresult
      obtain ⟨integer, hinteger, hne, hagain⟩ := exists_integer_of_convert hmembers hnames hresult
      refine ⟨.int integer, hinteger, fun entries' hlookup ↦ ?_⟩
      rw [Feed.valueFor_single, present?_of_lookup hlookup hne, Option.elim_some, hagain]
  | @child link plan hkind hsame =>
    have htwice := hbelow plan rfl hsame
    rcases hread : Json.present? entries field.name with - | read
    · -- Only a link that takes null gives a value here, and that is null.
      cases link with
      | object => simp [Feed.valueFor, hread] at hresult
      | optionalObject | collection =>
        simp only [Feed.valueFor, hread, Option.elim_none, Except.ok.injEq] at hresult
        subst hresult
        refine ⟨.null, by simp [Feed.valueFor, hread], fun entries' hlookup ↦ ?_⟩
        simp [Feed.valueFor, present?_of_lookup_null hlookup]
    · by_cases hlink : link = .collection
      · subst hlink
        obtain ⟨items, results, rfl, rfl, hitems⟩ := Feed.valueFor_collection_eq_ok hread hresult
        obtain ⟨values, hvalues, hagain⟩ := exists_applyAll_twice htwice (mapM_eq_ok_iff.2 hitems)
        refine ⟨.arr values, by rw [Feed.valueFor_collection_of_arr hread, hvalues, ok_map],
          fun entries' hlookup ↦ ?_⟩
        rw [Feed.valueFor_collection_of_arr (present?_of_lookup hlookup (by rintro ⟨⟩)), hagain,
          ok_map]
      · rw [Feed.valueFor_child_of_some hlink hread] at hresult ⊢
        obtain ⟨value, hvalue, hagain⟩ := htwice read result hresult
        refine ⟨value, hvalue, fun entries' hlookup ↦ ?_⟩
        have hne : result ≠ .null := by
          obtain ⟨_, _, rfl, -⟩ := Plan.exists_fields_of_apply hagain
          rintro ⟨⟩
        rw [Feed.valueFor_child_of_some hlink (present?_of_lookup hlookup hne), hagain]

end Twice

/-! ### The whole plan, twice -/

namespace Plan

/-- **A plan of a plain shape onto itself makes a fixed point**, in whatever form enum values are
written the first time. -/
theorem WellTyped.exists_apply_twice {plan : Plan} (hclosed : registry.Closed)
    (hmembers : registry.MembersFit) (hnames : registry.NamesMembersOnce)
    (htyped : plan.WellTyped registry) (hsame : plan.source = plan.target)
    (hplain : registry.Plain plan.target) {source result : Json}
    (h : plan.apply registry form source = .ok result) :
    ∃ value, plan.apply registry .integer source = .ok value ∧
      plan.apply registry .integer result = .ok value := by
  induction plan using Plan.induction generalizing source result with
  | step plan ih =>
    obtain ⟨sourceFields, fields, hsource, hfields, hnodup, hlevel⟩ := htyped.level hclosed
    obtain rfl : sourceFields = fields := Except.ok.inj ((hsame ▸ hsource).symm.trans hfields)
    obtain ⟨entries, _, results, rfl, hfields', rfl, -, -, hlast⟩ :=
      exists_level_of_apply hclosed h
    cases hfields.symm.trans hfields'
    -- What each assignment gives from the source it gives from the result as well.
    have htwice : ∀ a ∈ plan.assignments, ∀ field, findField? sourceFields a.target = some field →
        ∃ value, a.feed.valueFor registry .integer plan.source entries field = .ok value ∧
          a.feed.valueFor registry .integer plan.source results field = .ok value := by
      intro a ha field hfield
      obtain ⟨field', hmem, hfield', hassignment⟩ := hlevel a ha
      cases hfield.symm.trans hfield'
      obtain ⟨given, hgiven, hlookup⟩ := hlast a (assignsLast_of_nodup hnodup ha) field hfield
      have hplace := hassignment.inPlace (hclosed.nodup hfields) hmem
        (hplain.override_eq_none hfields hmem)
      obtain ⟨value, hvalue, hagain⟩ := hplace.exists_valueFor_twice hmembers hnames
        (fun child hchild hchildSame source result ↦ ih a ha child hchild (htyped.child ha hchild)
          hchildSame (hplain.below hfields hmem (hplace.kind_of_child? hchild))) hgiven
      exact ⟨value, hvalue, hagain results (hassignment.target_eq ▸ hlookup)⟩
    obtain ⟨value, hvalue⟩ := exists_apply_of_valueFor hfields fun a ha field hfield ↦
      have ⟨value, hvalue, _⟩ := htwice a ha field hfield
      ⟨value, hvalue⟩
    have hsecond : plan.apply registry .integer (.obj results) =
        plan.apply registry .integer (.obj entries) := by
      rw [apply_obj hfields, apply_obj hfields]
      refine congrArg _ (assign_congr fun a ha field hfield ↦ ?_)
      obtain ⟨value, hvalue, hagain⟩ := htwice a ha field hfield
      rw [hvalue, hagain]
    exact ⟨value, hvalue, hsecond.trans hvalue⟩

/-- **Projecting a shape onto itself is idempotent.** A shape that declares no override, and refers
to none that does, has a plan onto itself under any settings. The result of that plan is a fixed
point of it, and a result with names for enum values leads to the same fixed point. -/
theorem self_projection {catalogue : Catalogue} (hregister : catalogue.register = .ok registry)
    (hmembers : catalogue.MembersFit) {name : String} (hname : name ∈ registry.shapeNames)
    (hplain : registry.Plain name) (settings : BuildSettings) :
    ∃ plan, between registry settings name name = .ok plan ∧ ∀ source,
      (∀ value, plan.apply registry .integer source = .ok value →
        plan.apply registry .integer value = .ok value) ∧
      ∀ named, plan.apply registry .name source = .ok named →
        ∃ value, plan.apply registry .integer source = .ok value ∧
          plan.apply registry .integer named = .ok value := by
  have hclosed := Registry.closed_of_register hregister
  have hfields : ∃ fields, registry.fields name = .ok fields := by
    rw [Registry.exists_fields_iff]
    simpa [Registry.shapeNames, Registry.hasShape] using hname
  obtain ⟨plan, hplan⟩ := exists_ofPair_self hclosed settings hfields hplain 1
  obtain ⟨rfl, htarget, -⟩ := labels_of_ofPair hplan
  have htwice : ∀ {form source result}, plan.apply registry form source = .ok result →
      ∃ value, plan.apply registry .integer source = .ok value ∧
        plan.apply registry .integer result = .ok value :=
    (ofPair_wellTyped hclosed hplan).exists_apply_twice hclosed (hmembers.of_register hregister)
      (Registry.namesMembersOnce_of_register hregister) htarget.symm (htarget ▸ hplain)
  refine ⟨plan, hplan, fun source ↦ ⟨fun value hvalue ↦ ?_, fun named ↦ htwice⟩⟩
  obtain ⟨value', hvalue', hagain⟩ := htwice hvalue
  cases hvalue.symm.trans hvalue'
  exact hagain

end Plan

end SelfProjection

namespace Blog

/-- A post refers to posts, authors, sites and tags, and none of them has an override. -/
theorem post_plain : registry.Plain "Post" := by
  have hreach : ∀ other, Relation.ReflTransGen registry.Refers "Post" other →
      other ∈ ["Post", "Author", "Site", "Tag"] := by
    intro other h
    induction h with
    | refl => exact List.mem_cons_self
    | tail _ hrefers ih =>
      obtain ⟨shape, hshape, field, hfield, hkind⟩ := hrefers
      simp only [List.mem_cons, List.not_mem_nil, or_false] at ih
      rcases ih with rfl | rfl | rfl | rfl <;> cases hshape <;>
        simp only [List.mem_cons, List.not_mem_nil, or_false] at hfield <;>
        rcases hfield with rfl | rfl | rfl | rfl | rfl | rfl <;> simp_all
  intro other h shape hshape
  have hother := hreach other h
  simp only [List.mem_cons, List.not_mem_nil, or_false] at hother
  rcases hother with rfl | rfl | rfl | rfl <;> cases hshape <;> simp

/-- A post copied with the name of its status, and copied again, is the post copied with the
integer. -/
theorem draft_copied :
    catalogue.MembersFit ∧ "Post" ∈ registry.shapeNames ∧ registry.Plain "Post" ∧
    ∃ plan named value, Plan.between registry settings "Post" "Post" = .ok plan ∧
      plan.apply registry .name (post (.int 0)) = .ok named ∧
      plan.apply registry .integer (post (.int 0)) = .ok value ∧
      plan.apply registry .integer value = .ok value ∧
      plan.apply registry .integer named = .ok value := by
  have hmembers : catalogue.MembersFit := by
    rw [Catalogue.MembersFit]
    decide
  have hname : "Post" ∈ registry.shapeNames := by decide
  obtain ⟨plan, hplan, htwice⟩ :=
    Plan.self_projection register_eq hmembers hname post_plain settings
  have hnamed : ∃ plan named, Plan.between registry settings "Post" "Post" = .ok plan ∧
      plan.apply registry .name (post (.int 0)) = .ok named :=
    ⟨_, _, by with_unfolding_all rfl, by with_unfolding_all rfl⟩
  obtain ⟨plan', named, hplan', hnamed⟩ := hnamed
  cases hplan.symm.trans hplan'
  obtain ⟨value, hvalue, hagain⟩ := (htwice _).2 named hnamed
  exact ⟨hmembers, hname, post_plain, plan, named, value, hplan, hnamed, hvalue,
    (htwice _).1 value hvalue, hagain⟩

end Blog

end Recast
