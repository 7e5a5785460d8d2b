import Recast.Proofs.Instance.Conforming
import Recast.Proofs.Plan.Depth
import Recast.Proofs.Shape.Lookup

/-!
# The rest of the catalogue does not matter

A registry lies *within* another one (`Registry.Within`) if the other answers every lookup that
succeeds in the first, and in the same way. The other may hold more, and its declarations may stand
in any order. Whatever is built or applied for shapes of the smaller registry is then the same in
the larger, failures included (`Plan.between_eq_of_within`).

The reason is that references do not lead out of a closed registry: every shape that the
construction consults is reached by a step (`Plan.assemble_congr`), and every enum that an
application looks up is the kind of a registered field. So one level of the construction is compared
in both registries, and the induction on steps does the rest.
-/

namespace Recast

section Extension

/-- Every shape and every enum of the first registry is registered in the second, just as it is. -/
structure Registry.Within (registry registry' : Registry) : Prop where
  shape : ∀ {name shape}, registry.shape name = .ok shape → registry'.shape name = .ok shape
  enumType : ∀ {name type}, registry.enumType name = .ok type → registry'.enumType name = .ok type

variable {registry registry' : Registry} {settings : BuildSettings} {form : EnumForm}

namespace Registry.Within

/-- A catalogue that declares no less, in any order, registers no less. -/
theorem of_register {catalogue catalogue' : Catalogue}
    (hregister : catalogue.register = .ok registry)
    (hregister' : catalogue'.register = .ok registry')
    (hshapes : catalogue.shapes ⊆ catalogue'.shapes) (henums : catalogue.enums ⊆ catalogue'.enums) :
    registry.Within registry' := by
  obtain ⟨hwf, rfl⟩ := register_eq_ok_iff.1 hregister
  have hanswers := answersFor_of_register hregister'
  refine ⟨fun hshape ↦ ?_, fun htype ↦ ?_⟩
  · obtain ⟨hmem, rfl⟩ := (shape_eq_ok_iff (by exact hwf.shape_nodup)).1 hshape
    exact hanswers.shape_declared _ (hshapes hmem)
  · obtain ⟨hmem, rfl⟩ := (enumType_eq_ok_iff (by exact hwf.enum_nodup)).1 htype
    exact hanswers.enum_declared _ (henums hmem)

theorem fields (hwithin : registry.Within registry') {name : String} {fields : List Field}
    (h : registry.fields name = .ok fields) : registry'.fields name = .ok fields := by
  obtain ⟨shape, hshape, rfl⟩ := map_eq_ok_iff.1 h
  exact map_eq_ok_iff.2 ⟨shape, hwithin.shape hshape, rfl⟩

end Registry.Within

/-! ### Building -/

namespace Matching

variable {sourceFields targetFields : List Field} {source target : String}

/-- An override is resolved alike: the shape that it leads through is registered. -/
theorem resolve_eq_of_within (hwithin : registry.Within registry')
    (hresolves : ∀ field ∈ sourceFields, registry.Resolves field.kind) {field : Field}
    {override : Override} :
    resolve registry sourceFields target field override =
      resolve registry' sourceFields target field override := by
  rw [resolve_eq, resolve_eq]
  rcases hfind : findField? sourceFields override.field with - | sourceField
  · rfl
  · have hkind := hresolves sourceField (mem_of_findField? hfind).1
    rcases hk : sourceField.kind with type | name | shape | shape
    case nested =>
      rw [hk] at hkind
      obtain ⟨fields, hfields⟩ := hkind
      simp only [hk, hfields, hwithin.fields hfields]
    all_goals
      simp only [hk]
      rcases override.subfield with - | subfield <;> rfl

/-- Registered shapes are matched alike. -/
theorem ofShapes_eq_of_within (hwithin : registry.Within registry') (hclosed : registry.Closed)
    (hsource : registry.fields source = .ok sourceFields)
    (htarget : registry.fields target = .ok targetFields) :
    (ofShapes registry source target).1 = (ofShapes registry' source target).1 := by
  rw [ofShapes_eq hsource htarget, ofShapes_eq (hwithin.fields hsource) (hwithin.fields htarget)]
  congr 1
  refine mapM_congr fun field _ ↦ ?_
  rw [pairField, pairField]
  rcases field.override with - | override
  · rfl
  · simp only [resolve_eq_of_within hwithin (hclosed.resolves hsource)]

end Matching

namespace Plan

/-- Apart from the matching, a level of the construction looks nothing up. -/
theorem assignWith_eq {build : Level → Except PlanError Plan} {level : Level} :
    assignWith registry settings build level = assignWith registry' settings build level := by
  funext pairing
  have hfeed := @structuralFeed_direct registry settings level.depth
    (fun s t depth ↦ build ⟨s, t, depth⟩) pairing
  have hfeed' := @structuralFeed_direct registry' settings level.depth
    (fun s t depth ↦ build ⟨s, t, depth⟩) pairing
  rcases horigin : pairing.origin with - | - <;>
    simp only [assignWith, assignmentOf, horigin, hfeed, hfeed']

/-- **A level of registered shapes has the same plan, or the same error, in both registries.** The
induction is on the steps of the smaller: they lead to registered shapes only. -/
theorem ofLevel_eq_of_within (hwithin : registry.Within registry') (hclosed : registry.Closed)
    (level : Level) (hsource : ∃ fields, registry.fields level.source = .ok fields)
    (htarget : ∃ fields, registry.fields level.target = .ok fields) :
    ofLevel registry settings level = ofLevel registry' settings level := by
  induction level using (Level.step_wellFounded registry settings).induction with
  | _ level ih =>
    obtain ⟨sourceFields, hsource⟩ := hsource
    obtain ⟨targetFields, htarget⟩ := htarget
    calc ofLevel registry settings level
        = assemble registry settings (ofLevel registry settings) level :=
          (assemble_ofLevel registry settings level).symm
      _ = assemble registry settings (ofLevel registry' settings) level :=
          assemble_congr fun next hstep ↦
            ih next hstep (hstep.exists_fields hclosed).1 (hstep.exists_fields hclosed).2
      _ = assemble registry' settings (ofLevel registry' settings) level := by
          rw [assemble, assemble, Matching.ofShapes_eq_of_within hwithin hclosed hsource htarget,
            assignWith_eq]
      _ = ofLevel registry' settings level := assemble_ofLevel registry' settings level

end Plan

/-! ### Applying -/

/-- What can be converted is converted alike: the enums on both sides are registered. -/
theorem convert_eq_of_within (hwithin : registry.Within registry') {path : Path}
    {conversion : Conversion} {target source : FieldKind} (hfits : conversion.Fits target source)
    (htarget : registry.Resolves target) (hsource : registry.Resolves source) (value : Json) :
    convert registry form path conversion value = convert registry' form path conversion value := by
  have hwritten : ∀ {name : String}, registry.Resolves (.enumeration name) → ∀ integer,
      enumValue registry form name integer = enumValue registry' form name integer := by
    rintro name ⟨type, htype⟩ integer
    cases form with
    | integer => rfl
    | name => rw [enumValue, enumValue, htype, hwithin.enumType htype]
  have hread : ∀ source? : Option String,
      (∀ name, source? = some name → registry.Resolves (.enumeration name)) →
      underlying registry path source? value = underlying registry' path source? value := by
    rintro (- | name) hname
    · cases value <;> rfl
    · obtain ⟨type, htype⟩ := hname name rfl
      cases value <;> simp only [underlying, htype, hwithin.enumType htype]
  cases hfits with
  | copy => rfl
  | enumeration =>
    rw [convert, convert, hread _ fun name h ↦ Option.some.inj h ▸ hsource]
    simp only [hwritten htarget]
  | integer =>
    rw [convert, convert, hread none fun name h ↦ by cases h]
    simp only [hwritten htarget]

/-- The value of a typed feed is the same, if those of the plans below are. -/
theorem Feed.Typed.valueFor_eq_of_within {sourceFields : List Field} {field : Field}
    {feed : Feed Plan} (h : feed.Typed registry sourceFields field)
    (hwithin : registry.Within registry') (htarget : registry.Resolves field.kind)
    (hsource : ∀ path leaf, Path.Leads registry sourceFields path leaf →
      registry.Resolves leaf.kind)
    (hbelow : ∀ child, feed.child? = some child → ∀ value,
      child.apply registry form value = child.apply registry' form value)
    (shape : String) (entries : List (String × Json)) :
    feed.valueFor registry form shape entries field =
      feed.valueFor registry' form shape entries field := by
  cases h with
  | @value path leaf conversion hpath hfits =>
    have hconvert : convert registry form path conversion =
        convert registry' form path conversion :=
      funext (convert_eq_of_within hwithin hfits htarget (hsource path leaf hpath))
    rw [valueFor, valueFor, hconvert]
  | @object source plan | @optionalObject source plan =>
    have happly : plan.apply registry form = plan.apply registry' form := funext (hbelow plan rfl)
    rw [valueFor, valueFor, happly]
  | @collection source plan =>
    have happly : plan.apply registry form = plan.apply registry' form := funext (hbelow plan rfl)
    have hall : plan.applyAll registry form = plan.applyAll registry' form := by
      funext items
      simp only [Plan.applyAll, happly]
    rw [valueFor, valueFor, hall]

namespace Plan

/-- **A well-typed plan is applied alike in both registries**, to any value. -/
theorem WellTyped.apply_eq_of_within {plan : Plan} (h : plan.WellTyped registry)
    (hwithin : registry.Within registry') (hclosed : registry.Closed) (value : Json) :
    plan.apply registry form value = plan.apply registry' form value := by
  induction plan using Plan.induction generalizing value with
  | step plan ih =>
    obtain ⟨sourceFields, targetFields, hsource, htarget, -, hlevel⟩ := h.level hclosed
    by_cases hobject : ∃ entries, value = .obj entries
    · obtain ⟨entries, rfl⟩ := hobject
      rw [apply_obj htarget, apply_obj (hwithin.fields htarget)]
      congr 1
      refine assign_congr fun a ha field hfield ↦ ?_
      obtain ⟨field', hmem, hfield', htyped⟩ := hlevel a ha
      cases hfield.symm.trans hfield'
      exact htyped.feed.valueFor_eq_of_within hwithin (hclosed.resolves htarget field hmem)
        (fun path leaf hpath ↦ hpath.resolves hclosed hsource)
        (fun child hchild ↦ ih a ha child hchild (h.child ha hchild)) plan.source entries
    · rw [apply_eq_error_of_notObject (not_exists.1 hobject),
        apply_eq_error_of_notObject (not_exists.1 hobject)]

/-- **Results depend only on the shapes involved.** If a registered catalogue lies within another
registry, then for its shapes the same plan is built in both, or building fails with the same error,
and every plan so built is applied with the same result, or the same error, to every value. -/
theorem between_eq_of_within {catalogue : Catalogue} (hregister : catalogue.register = .ok registry)
    (hwithin : registry.Within registry') (settings : BuildSettings) {source target : String}
    (hsource : registry.hasShape source = true) (htarget : registry.hasShape target = true) :
    between registry settings source target = between registry' settings source target ∧
      ∀ plan, between registry settings source target = .ok plan → ∀ form value,
        plan.apply registry form value = plan.apply registry' form value := by
  have hclosed := Registry.closed_of_register hregister
  refine ⟨ofLevel_eq_of_within hwithin hclosed ⟨source, target, 1⟩
    (Registry.exists_fields_iff.2 hsource) (Registry.exists_fields_iff.2 htarget), ?_⟩
  exact fun plan hbuild form value ↦
    (ofPair_wellTyped hclosed hbuild).apply_eq_of_within hwithin hclosed value

end Plan

end Extension

namespace Blog

/-- The blog in the catalogue of a magazine, which declares its own things first and those of the
blog in the opposite order. -/
def magazine : Catalogue := ⟨"magazine",
  ⟨"Season", [⟨"Spring", 1⟩]⟩ :: catalogue.enums.reverse,
  ⟨"Issue", [
    { name := "Season", kind := .enumeration "Season" },
    { name := "Posts", kind := .collection "Post" }]⟩ :: catalogue.shapes.reverse⟩

/-- In the magazine posts have the plan that they have in the blog, and it gives the same view of a
post. -/
theorem magazine_between :
    ∃ registry', magazine.register = .ok registry' ∧ registry.Within registry' ∧
      Plan.between registry' settings "Post" "PostView" = .ok postPlan ∧
      postPlan.apply registry .name (post (.int 0)) =
        postPlan.apply registry' .name (post (.int 0)) := by
  have hregister' : magazine.register = .ok ⟨magazine.name, magazine.enums, magazine.shapes⟩ := by
    with_unfolding_all rfl
  have hwithin := Registry.Within.of_register register_eq hregister'
    (fun shape h ↦ List.mem_cons_of_mem _ (List.mem_reverse.2 h))
    (fun type h ↦ List.mem_cons_of_mem _ (List.mem_reverse.2 h))
  obtain ⟨hbetween, happly⟩ := Plan.between_eq_of_within register_eq hwithin settings
    (show registry.hasShape "Post" = true by decide)
    (show registry.hasShape "PostView" = true by decide)
  exact ⟨_, hregister', hwithin, hbetween ▸ between_eq, happly postPlan between_eq .name _⟩

end Blog

end Recast
