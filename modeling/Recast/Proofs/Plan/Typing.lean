import Recast.Proofs.Plan.Building

/-!
# Compiled plans are well typed

A plan is *well typed* (`Plan.WellTyped`) when at every level what it assigns fits the declarations:
the paths lead from declared field to declared field with their nullability as declared, the values
at their ends have kinds that convert to those of the target fields, and a plan below joins the
shapes that the source and the target field hold. It is a property of a plan and a registry alone;
limits play no part.

`between_wellTyped` says that the construction yields nothing else. The proof is one case analysis
of the assignments of a field (`Plan.Assigns.typed`) carried to all levels by
`Plan.level_induction`. What the walker and the lowering need of a plan is read off its typing.
-/

namespace Recast

section Typing

variable {registry : Registry} {sourceFields targetFields : List Field}

/-! ### The typing rules -/

/-- The path leads from the fields of a shape to a field: one of these, or a member of a nested one.
Each step is nullable as it is declared. -/
inductive Path.Leads (registry : Registry) (sourceFields : List Field) : Path → Field → Prop
  | single {source : Field} (hsource : source ∈ sourceFields) :
      Leads registry sourceFields (.single source.name source.nullable) source
  | member {source member : Field} {shape : String} {fields : List Field}
      (hsource : source ∈ sourceFields) (hkind : source.kind = .nested shape)
      (hfields : registry.fields shape = .ok fields) (hmember : member ∈ fields) :
      Leads registry sourceFields
        ((Path.single source.name source.nullable).push member.name member.nullable) member

/-- What feeds a target field fits it. A plan below is linked as the source field is declared, and a
plan of an object is not empty. -/
inductive Feed.Typed (registry : Registry) (sourceFields : List Field) (target : Field) :
    Feed Plan → Prop
  | value {path : Path} {leaf : Field} {conversion : Conversion}
      (hpath : path.Leads registry sourceFields leaf)
      (hfits : conversion.Fits target.kind leaf.kind) :
      Typed registry sourceFields target (.value path conversion)
  | object {source : Field} {plan : Plan} (hsource : source ∈ sourceFields)
      (hname : source.name = target.name) (htarget : target.kind = .nested plan.target)
      (hkind : source.kind = .nested plan.source) (hnullable : source.nullable = false)
      (hplan : plan.isEmpty = false) :
      Typed registry sourceFields target (.child .object source.name plan)
  | optionalObject {source : Field} {plan : Plan} (hsource : source ∈ sourceFields)
      (hname : source.name = target.name) (htarget : target.kind = .nested plan.target)
      (hkind : source.kind = .nested plan.source) (hnullable : source.nullable = true)
      (hplan : plan.isEmpty = false) :
      Typed registry sourceFields target (.child .optionalObject source.name plan)
  | collection {source : Field} {plan : Plan} (hsource : source ∈ sourceFields)
      (hname : source.name = target.name) (htarget : target.kind = .collection plan.target)
      (hkind : source.kind = .collection plan.source) :
      Typed registry sourceFields target (.child .collection source.name plan)

/-- An assignment to a target field is typed: it tells whether the field declares an override, and
without one it reads the source field of the same name. -/
structure Assignment.Typed (registry : Registry) (sourceFields : List Field) (target : Field)
    (assignment : Assignment Plan) : Prop where
  target_eq : assignment.target = target.name
  origin_iff : assignment.origin = .explicitOverride ↔ target.override.isSome
  by_name : assignment.origin = .structural → ∀ path conversion,
    assignment.feed = .value path conversion → path.steps.map (·.field) = [target.name]
  feed : assignment.feed.Typed registry sourceFields target

/-- **The plan is well typed at every level.** The fields that it assigns are target fields in the
order of declaration, none of them twice. -/
inductive Plan.WellTyped (registry : Registry) : Plan → Prop
  | intro {plan : Plan} {sourceFields targetFields : List Field}
      (hsource : registry.fields plan.source = .ok sourceFields)
      (htarget : registry.fields plan.target = .ok targetFields)
      (hsublist : plan.targetFields.Sublist (targetFields.map (·.name)))
      (hnodup : plan.targetFields.Nodup)
      (hassignments : ∀ a ∈ plan.assignments, ∃ field ∈ targetFields,
        a.Typed registry sourceFields field)
      (hchildren : ∀ a ∈ plan.assignments, ∀ child, a.feed.child? = some child →
        WellTyped registry child) :
      WellTyped registry plan

/-- What a path leads to is a registered field, so its kind resolves. -/
theorem Path.Leads.resolves {path : Path} {leaf : Field} {shape : String}
    (h : path.Leads registry sourceFields leaf) (hclosed : registry.Closed)
    (hsource : registry.fields shape = .ok sourceFields) : registry.Resolves leaf.kind := by
  cases h with
  | single hleaf => exact hclosed.resolves hsource _ hleaf
  | member _ _ hfields hmember => exact hclosed.resolves hfields _ hmember

/-- Where names are distinct, the field of a typed assignment is found by its target. -/
theorem Assignment.Typed.findField? {target : Field} {assignment : Assignment Plan}
    (h : assignment.Typed registry sourceFields target)
    (hnodup : (targetFields.map (·.name)).Nodup) (htarget : target ∈ targetFields) :
    findField? targetFields assignment.target = some target :=
  (findField?_eq_some_iff hnodup).2 ⟨htarget, h.target_eq.symm⟩

/-- **What a level of a well-typed plan offers**: both shapes are registered, no field is assigned
twice, and each assignment goes to a field that is found and is typed for it. -/
theorem Plan.WellTyped.level {plan : Plan} (hclosed : registry.Closed)
    (h : plan.WellTyped registry) :
    ∃ sourceFields targetFields, registry.fields plan.source = .ok sourceFields ∧
      registry.fields plan.target = .ok targetFields ∧ plan.targetFields.Nodup ∧
      ∀ a ∈ plan.assignments, ∃ field ∈ targetFields,
        Recast.findField? targetFields a.target = some field ∧
          a.Typed registry sourceFields field := by
  obtain ⟨hsource, htarget, -, hnodup, hassignments, -⟩ := h
  refine ⟨_, _, hsource, htarget, hnodup, fun a ha ↦ ?_⟩
  obtain ⟨field, hfield, htyped⟩ := hassignments a ha
  exact ⟨field, hfield, htyped.findField? (hclosed.nodup htarget) hfield, htyped⟩

/-- The plans below a well-typed plan are well typed. -/
theorem Plan.WellTyped.child {plan child : Plan} (h : plan.WellTyped registry)
    {assignment : Assignment Plan} (ha : assignment ∈ plan.assignments)
    (hchild : assignment.feed.child? = some child) : child.WellTyped registry := by
  obtain ⟨-, -, -, -, -, hchildren⟩ := h
  exact hchildren assignment ha child hchild

/-! ### The assignments of a field -/

/-- An override that leads to a field gives a path that does. -/
theorem Override.Leads.path {override : Override} {target source : Field} {member : Option Field}
    (h : override.Leads registry sourceFields target source member) :
    (Pairing.path ⟨target, source, member, .explicitOverride⟩).Leads registry sourceFields
      (member.getD source) := by
  cases h with
  | field hsource => exact .single (mem_of_findField? hsource).1
  | member hsource hkind hfields hmember =>
    exact .member (mem_of_findField? hsource).1 hkind hfields (mem_of_findField? hmember).1

namespace Plan

variable {settings : BuildSettings} {depth : Nat}

/-- A plan is labelled by the shapes and the level it was asked for. -/
theorem labels_of_ofPair {source target : String} {plan : Plan}
    (h : ofPair registry settings source target depth = .ok plan) :
    plan.source = source ∧ plan.target = target ∧ plan.depth = depth := by
  obtain ⟨sourceFields, targetFields, hsource, htarget⟩ := exists_fields_of_ofPair h
  obtain ⟨outcomes, -, rfl⟩ := (ofPair_eq_ok_iff hsource htarget).1 h
  exact ⟨rfl, rfl, rfl⟩

/-- **Every assignment that the construction makes is typed.** -/
theorem Assigns.typed {field : Field} {assignment : Assignment Plan}
    (h : Assigns registry settings sourceFields depth field assignment) :
    assignment.Typed registry sourceFields field := by
  cases h with
  | override hoverride hleads hfits =>
    exact ⟨rfl, by simp [hoverride], nofun,
      .value hleads.path (Conversion.between?_eq_some_iff.1 hfits)⟩
  | value hoverride hsource hfits =>
    obtain ⟨hmem, hname⟩ := mem_of_findField? hsource
    refine ⟨rfl, by simp [hoverride], ?_,
      .value (.single hmem) (Conversion.between?_eq_some_iff.1 hfits)⟩
    rintro - path conversion ⟨⟩
    simp [hname]
  | child hoverride hsource hdescent hplan hkept =>
    rename_i source descent plan
    obtain ⟨hmem, hname⟩ := mem_of_findField? hsource
    obtain ⟨hs, ht, -⟩ := labels_of_ofPair hplan
    refine ⟨rfl, by simp [hoverride], nofun, ?_⟩
    rcases descent?_eq_some_iff.1 hdescent with
      ⟨hlink, htarget, hkind, -⟩ | ⟨hlink, htarget, hkind, -⟩
    · rw [hlink]
      exact .collection hmem hname (ht ▸ htarget) (hs ▸ hkind)
    · have hplan : plan.isEmpty = false := hkept.resolve_left (by rw [hlink]; split <;> nofun)
      rw [hlink]
      rcases hnullable : source.nullable with - | -
      · exact .object hmem hname (ht ▸ htarget) (hs ▸ hkind) hnullable hplan
      · exact .optionalObject hmem hname (ht ▸ htarget) (hs ▸ hkind) hnullable hplan

/-- A plan below was made at a deeper level within the hard limit. -/
theorem Assigns.exists_ofPair {field : Field} {assignment : Assignment Plan}
    (h : Assigns registry settings sourceFields depth field assignment) {child : Plan}
    (hchild : assignment.feed.child? = some child) :
    ∃ source target level, depth < level ∧ level ≤ settings.limits.hardDepth ∧
      ofPair registry settings source target level = .ok child := by
  cases h with
  | override => cases hchild
  | value => cases hchild
  | child hoverride hsource hdescent hplan =>
    cases hchild
    obtain ⟨hlt, hle⟩ := level_of_descent? hdescent
    exact ⟨_, _, _, hlt, hle, hplan⟩

/-- The assignments of a plan, each with the target field that it is for. -/
theorem exists_assigns_of_ofPair {source target : String} {plan : Plan}
    (hsource : registry.fields source = .ok sourceFields)
    (htarget : registry.fields target = .ok targetFields)
    (h : ofPair registry settings source target depth = .ok plan) {assignment : Assignment Plan}
    (ha : assignment ∈ plan.assignments) :
    ∃ field ∈ targetFields, Assigns registry settings sourceFields depth field assignment := by
  obtain ⟨outcomes, houtcomes, rfl⟩ := (ofPair_eq_ok_iff hsource htarget).1 h
  obtain ⟨outcome, houtcome, rfl⟩ := List.mem_filterMap.1 ha
  obtain ⟨field, hfield, hfield'⟩ := exists_of_mem_of_forall₂ houtcomes houtcome
  exact ⟨field, hfield, fieldOutcome_eq_ok_some_iff.1 hfield'⟩

/-- The fields that a plan assigns are target fields, in their order. -/
theorem targetFields_sublist_of_ofPair {source target : String} {plan : Plan}
    (hsource : registry.fields source = .ok sourceFields)
    (htarget : registry.fields target = .ok targetFields)
    (h : ofPair registry settings source target depth = .ok plan) :
    plan.targetFields.Sublist (targetFields.map (·.name)) := by
  obtain ⟨outcomes, houtcomes, rfl⟩ := (ofPair_eq_ok_iff hsource htarget).1 h
  simp only [Plan.targetFields]
  clear h htarget
  induction houtcomes with
  | nil => exact .slnil
  | @cons field outcome _ _ hfield _ ih =>
    rcases outcome with - | assignment
    · exact ih.cons _
    · have hname := (fieldOutcome_eq_ok_some_iff.1 hfield).typed.target_eq
      simp only [List.filterMap_cons, id, List.map_cons, hname]
      exact ih.cons_cons _

/-- **At every level the construction yields well-typed plans.** -/
theorem ofPair_wellTyped (hclosed : registry.Closed) {source target : String} {plan : Plan}
    (h : ofPair registry settings source target depth = .ok plan) : plan.WellTyped registry := by
  induction depth using level_induction settings generalizing source target plan with
  | _ depth ih =>
    obtain ⟨sourceFields, targetFields, hsource, htarget⟩ := exists_fields_of_ofPair h
    obtain ⟨rfl, rfl, -⟩ := labels_of_ofPair h
    have hsublist := targetFields_sublist_of_ofPair hsource htarget h
    refine .intro hsource htarget hsublist ((hclosed.nodup htarget).sublist hsublist) ?_ ?_
    · intro a ha
      obtain ⟨field, hfield, hassigns⟩ := exists_assigns_of_ofPair hsource htarget h ha
      exact ⟨field, hfield, hassigns.typed⟩
    · intro a ha child hchild
      obtain ⟨field, -, hassigns⟩ := exists_assigns_of_ofPair hsource htarget h ha
      obtain ⟨s, t, level, hlt, hle, hbuilt⟩ := hassigns.exists_ofPair hchild
      exact ih level hlt hle hbuilt

/-- **Every compiled plan is well typed at every level**, and it is a plan for the shapes that were
asked for. -/
theorem between_wellTyped {catalogue : Catalogue} (hregister : catalogue.register = .ok registry)
    {source target : String} {plan : Plan}
    (hbuild : between registry settings source target = .ok plan) :
    plan.source = source ∧ plan.target = target ∧ plan.WellTyped registry := by
  obtain ⟨hs, ht, -⟩ := labels_of_ofPair hbuild
  exact ⟨hs, ht, ofPair_wellTyped (Registry.closed_of_register hregister) hbuild⟩

end Plan

end Typing

/-! ### A blog

A small catalogue with every kind of assignment: posts with an enum, an author and a parent that may
be missing, a site that is always there, and a list of tags whose rank is a plain integer. -/

namespace Blog

/-- The declarations. -/
def catalogue : Catalogue where
  name := "blog"
  enums := [
    ⟨"Status", [⟨"Draft", 0⟩, ⟨"Published", 1⟩]⟩,
    ⟨"State", [⟨"Hidden", 0⟩, ⟨"Shown", 1⟩]⟩]
  shapes := [
    ⟨"Author", [{ name := "Name", kind := .scalar .string }]⟩,
    ⟨"Site", [{ name := "Url", kind := .scalar .string }]⟩,
    ⟨"Tag", [
      { name := "Label", kind := .scalar .string, nullable := true },
      { name := "Rank", kind := .scalar .uint8 }]⟩,
    ⟨"Post", [
      { name := "Id", kind := .scalar .int64 },
      { name := "Status", kind := .enumeration "Status" },
      { name := "Author", kind := .nested "Author", nullable := true },
      { name := "Site", kind := .nested "Site" },
      { name := "Tags", kind := .collection "Tag" },
      { name := "Parent", kind := .nested "Post", nullable := true }]⟩,
    ⟨"TagView", [
      { name := "Rank", kind := .enumeration "State" },
      { name := "Label", kind := .scalar .string }]⟩,
    ⟨"PostView", [
      { name := "Id", kind := .scalar .int64 },
      { name := "State", kind := .enumeration "State", override := some ⟨"Status", none⟩ },
      { name := "AuthorName", kind := .scalar .string, override := some ⟨"Author", some "Name"⟩ },
      { name := "Site", kind := .nested "Site" },
      { name := "Tags", kind := .collection "TagView" },
      { name := "Parent", kind := .nested "PostView" },
      { name := "Note", kind := .scalar .string, nullable := true }]⟩]

/-- The registry of the declarations. -/
def registry : Registry := ⟨catalogue.name, catalogue.enums, catalogue.shapes⟩

/-- Limits that expand a post's parent once and its tags at the top only. -/
def settings : BuildSettings := ⟨⟨1, 2, 1, 3⟩, false⟩

/-- The plan for the tags of a post. -/
def tagPlan : Plan := ⟨"Tag", "TagView", 2, [
  ⟨"Rank", .structural, .value (.single "Rank" false) (.enumeration none "State")⟩,
  ⟨"Label", .structural, .value (.single "Label" true) .copy⟩]⟩

/-- The plan for the site of a post. -/
def sitePlan : Plan := ⟨"Site", "Site", 2, [
  ⟨"Url", .structural, .value (.single "Url" false) .copy⟩]⟩

/-- The values that a post is read for at every level. -/
def postValues : List (Assignment Plan) := [
  ⟨"Id", .structural, .value (.single "Id" false) .copy⟩,
  ⟨"State", .explicitOverride,
    .value (.single "Status" false) (.enumeration (some "Status") "State")⟩,
  ⟨"AuthorName", .explicitOverride, .value ((Path.single "Author" true).push "Name" false) .copy⟩]

/-- The plan for posts. -/
def postPlan : Plan := ⟨"Post", "PostView", 1, postValues ++ [
  ⟨"Site", .structural, .child .object "Site" sitePlan⟩,
  ⟨"Tags", .structural, .child .collection "Tags" tagPlan⟩,
  ⟨"Parent", .structural, .child .optionalObject "Parent" ⟨"Post", "PostView", 2, postValues⟩⟩]⟩

theorem register_eq : catalogue.register = .ok registry := by
  with_unfolding_all rfl

theorem between_eq : Plan.between registry settings "Post" "PostView" = .ok postPlan := by
  with_unfolding_all rfl

/-- The plan for posts is typed. -/
theorem postPlan_wellTyped : postPlan.WellTyped registry :=
  (Plan.between_wellTyped register_eq between_eq).2.2

end Blog

end Recast
