import Recast.Proofs.Plan.Nodes
import Recast.Proofs.Plan.Visited

/-!
# Which fields a plan assigns

A target field that is not assigned has its default in the end, and nothing tells of it. So it
matters that a field is left out for a reason. `Projectable` gives the reasons as rules on the
declarations and the limits: a field is projectable if it declares an override, if the source field
of its name converts to it, if both hold collections that the limits let expand, or if both hold
objects within the limits and some field below is projectable.

At every node of a compiled plan the assigned fields are exactly the projectable ones, in the order
of declaration (`Plan.targetFields_eq_projectable`). The limits are applied on the way down and
emptiness is decided on the way up, so one half follows the levels of the construction and the other
the rules.
-/

namespace Recast

section Projectable

variable {registry : Registry} {settings : BuildSettings}

/-! ### The rules -/

/-- The target field declares no override, and the source shape of the level has the field of its
name. -/
structure Level.Pairs (registry : Registry) (level : Level) (field source : Field) : Prop where
  override : field.override = none
  mem : ∃ fields, registry.fields level.source = .ok fields ∧ source ∈ fields
  name : source.name = field.name

/-- A target field that a plan of the level should assign. -/
inductive Projectable (registry : Registry) (settings : BuildSettings) : Level → Field → Prop
  | override {level : Level} {field : Field} {override : Override}
      (hoverride : field.override = some override) : Projectable registry settings level field
  | value {level : Level} {field source : Field} {conversion : Conversion}
      (hpairs : level.Pairs registry field source)
      (hfits : conversion.Fits field.kind source.kind) : Projectable registry settings level field
  | collection {level : Level} {field source : Field} {s t : String}
      (hpairs : level.Pairs registry field source)
      (htarget : field.kind = .collection t) (hsource : source.kind = .collection s)
      (hexpand : level.depth ≤ settings.limits.collectionDepth)
      (hlimit : max settings.limits.elementDepth (level.depth + 1) ≤ settings.limits.hardDepth) :
      Projectable registry settings level field
  | nested {level : Level} {field source member : Field} {s t : String} {members : List Field}
      (hpairs : level.Pairs registry field source)
      (htarget : field.kind = .nested t) (hsource : source.kind = .nested s)
      (hload : level.depth ≤ settings.limits.nestedDepth ∨ settings.loadChildren = true)
      (hlimit : level.depth < settings.limits.hardDepth)
      (hmembers : registry.fields t = .ok members) (hmember : member ∈ members)
      (hbelow : Projectable registry settings ⟨s, t, level.depth + 1⟩ member) :
      Projectable registry settings level field

namespace Plan

variable {sourceFields : List Field} {source target : String} {depth : Nat} {field : Field}

/-! ### What is assigned is projectable -/

/-- The field that is found is the one that the level pairs. -/
theorem pairs_of_findField? {sourceField : Field}
    (hsource : registry.fields source = .ok sourceFields)
    (hoverride : field.override = none)
    (hfind : findField? sourceFields field.name = some sourceField) :
    Level.Pairs registry ⟨source, target, depth⟩ field sourceField :=
  ⟨hoverride, ⟨sourceFields, hsource, (mem_of_findField? hfind).1⟩, (mem_of_findField? hfind).2⟩

/-- **Whatever is assigned is projectable.** An object is assigned only with a plan that assigns
something, at a deeper level. -/
theorem Assigns.projectable (hsource : registry.fields source = .ok sourceFields)
    {assignment : Assignment Plan}
    (h : Assigns registry settings sourceFields depth field assignment) :
    Projectable registry settings ⟨source, target, depth⟩ field := by
  induction depth using level_induction settings
    generalizing source target sourceFields field assignment with
  | _ depth ih =>
    cases h with
    | override hoverride => exact .override hoverride
    | value hoverride hfind hfits =>
      exact .value (pairs_of_findField? hsource hoverride hfind)
        (Conversion.between?_eq_some_iff.1 hfits)
    | @child sourceField descent plan hoverride hfind hdescent hplan hkept =>
      have hpairs : Level.Pairs registry ⟨source, target, depth⟩ field sourceField :=
        pairs_of_findField? hsource hoverride hfind
      obtain ⟨hlt, hle⟩ := level_of_descent? hdescent
      rcases descent?_eq_some_iff.1 hdescent with
        ⟨-, ht, hs, hexpand, hlevel, hlimit⟩ | ⟨hlink, ht, hs, hload, hlevel, hlimit⟩
      · exact .collection hpairs ht hs hexpand (hlevel ▸ hlimit)
      · have hplan' : plan.isEmpty = false := hkept.resolve_left (by rw [hlink]; split <;> nofun)
        obtain ⟨a, ha⟩ := List.exists_mem_of_ne_nil _ (List.isEmpty_eq_false_iff.1 hplan')
        obtain ⟨sourceFields', targetFields', hsource', htarget'⟩ := exists_fields_of_ofPair hplan
        obtain ⟨member, hmember, hassigns⟩ := exists_assigns_of_ofPair hsource' htarget' hplan ha
        have hbelow : Projectable registry settings
            ⟨descent.source, descent.target, descent.level⟩ member :=
          ih descent.level hlt hle hsource' hassigns
        rw [hlevel] at hbelow hlimit
        exact .nested hpairs ht hs hload hlimit htarget' hmember hbelow

/-! ### What is projectable is assigned -/

/-- In a closed registry the paired field is the one that is found. -/
theorem findField?_of_pairs (hclosed : registry.Closed) {level : Level} {sourceField : Field}
    (h : level.Pairs registry field sourceField)
    (hsource : registry.fields level.source = .ok sourceFields) :
    findField? sourceFields field.name = some sourceField := by
  obtain ⟨fields, hfields, hmem⟩ := h.mem
  cases hsource.symm.trans hfields
  exact (findField?_eq_some_iff (hclosed.nodup hsource)).2 ⟨hmem, h.name⟩

/-- A plan with an assignment for one of its target fields is not empty. -/
theorem isEmpty_eq_false_of_isSome {targetFields : List Field} {plan : Plan}
    (hsource : registry.fields source = .ok sourceFields)
    (htarget : registry.fields target = .ok targetFields)
    (hplan : ofPair registry settings source target depth = .ok plan)
    (hfield : field ∈ targetFields)
    (hsome : ∀ outcome,
      fieldOutcome registry settings sourceFields target depth field = .ok outcome →
        outcome.isSome = true) : plan.isEmpty = false := by
  obtain ⟨outcomes, houtcomes, rfl⟩ := (ofPair_eq_ok_iff hsource htarget).1 hplan
  obtain ⟨outcome, hmem, houtcome⟩ := exists_of_mem_left_of_forall₂ houtcomes hfield
  obtain ⟨a, rfl⟩ := Option.isSome_iff_exists.1 (hsome outcome houtcome)
  have ha : a ∈ outcomes.filterMap id := List.mem_filterMap.2 ⟨some a, hmem, rfl⟩
  exact List.isEmpty_eq_false_iff.2 (List.ne_nil_of_mem ha)

/-- **Whatever is projectable is assigned**, if the field does not make the construction fail. -/
theorem isSome_of_projectable (hclosed : registry.Closed) {level : Level}
    (h : Projectable registry settings level field)
    (hsource : registry.fields level.source = .ok sourceFields)
    {outcome : Option (Assignment Plan)}
    (houtcome : fieldOutcome registry settings sourceFields target level.depth field =
      .ok outcome) : outcome.isSome = true := by
  induction h generalizing sourceFields target outcome with
  | override hoverride =>
    rw [fieldOutcome_of_override hoverride] at houtcome
    obtain ⟨pairing, -, houtcome⟩ := bind_eq_ok_iff.1 houtcome
    obtain ⟨feed, -, rfl⟩ := map_eq_ok_iff.1 houtcome
    rfl
  | value hpairs hfits =>
    have hfind := findField?_of_pairs hclosed hpairs hsource
    rw [fieldOutcome_eq_ok_some_iff.2 (.value hpairs.override hfind
      (Conversion.between?_eq_some_iff.2 hfits))] at houtcome
    cases houtcome
    rfl
  | @collection level field sourceField s t hpairs ht hs hexpand hlimit =>
    have hfind := findField?_of_pairs hclosed hpairs hsource
    have hdescent : descent? settings level.depth field sourceField =
        some ⟨.collection, s, t, max settings.limits.elementDepth (level.depth + 1)⟩ :=
      descent?_eq_some_iff.2 (.inl ⟨rfl, ht, hs, hexpand, rfl, hlimit⟩)
    rw [fieldOutcome_of_descent? hpairs.override hfind hdescent] at houtcome
    obtain ⟨plan, -, rfl⟩ := map_eq_ok_iff.1 houtcome
    rw [Descent.feed?_eq_some_iff.2 ⟨rfl, .inl rfl⟩]
    rfl
  | @nested level field sourceField member s t members hpairs ht hs hload hlimit hmembers hmember
      hbelow ih =>
    have hfind := findField?_of_pairs hclosed hpairs hsource
    have hdescent : descent? settings level.depth field sourceField =
        some ⟨if sourceField.nullable then .optionalObject else .object, s, t, level.depth + 1⟩ :=
      descent?_eq_some_iff.2 (.inr ⟨rfl, ht, hs, hload, rfl, hlimit⟩)
    rw [fieldOutcome_of_descent? hpairs.override hfind hdescent] at houtcome
    obtain ⟨plan, hplan, rfl⟩ := map_eq_ok_iff.1 houtcome
    obtain ⟨sourceFields', -, hsource', -⟩ := exists_fields_of_ofPair hplan
    have hkept := isEmpty_eq_false_of_isSome hsource' hmembers hplan hmember
      fun outcome houtcome ↦ ih hsource' houtcome
    rw [Descent.feed?_eq_some_iff.2 ⟨rfl, .inr hkept⟩]
    rfl

/-! ### The assigned fields -/

open scoped Classical in
/-- **No projectable field is lost, and nothing else is assigned.** At every node of a compiled plan
the assigned fields are the projectable fields of its target shape, in the order of declaration. -/
theorem targetFields_eq_projectable {catalogue : Catalogue}
    (hregister : catalogue.register = .ok registry) {plan node : Plan}
    (hbuild : between registry settings source target = .ok plan) (hnode : plan.HasNode node) :
    ∃ fields, registry.fields node.target = .ok fields ∧
      node.targetFields = (fields.filter fun field ↦
        Projectable registry settings ⟨node.source, node.target, node.depth⟩ field).map
          (·.name) := by
  have hclosed := Registry.closed_of_register hregister
  have hbelow := ofPair_of_hasNode hbuild hnode
  obtain ⟨sourceFields, targetFields, hsource, htarget⟩ := exists_fields_of_ofPair hbelow
  obtain ⟨outcomes, houtcomes, heq⟩ := (ofPair_eq_ok_iff hsource htarget).1 hbelow
  have hassignments : node.assignments = outcomes.filterMap id := congrArg Plan.assignments heq
  refine ⟨targetFields, htarget, ?_⟩
  rw [Plan.targetFields, hassignments]
  refine map_filterMap_id_of_forall₂
    (houtcomes.imp fun field outcome houtcome ↦ ⟨?_, fun a ha ↦ ?_⟩)
  · rw [Bool.eq_iff_iff, decide_eq_true_eq]
    refine ⟨fun hsome ↦ ?_, fun h ↦ isSome_of_projectable hclosed h hsource houtcome⟩
    obtain ⟨a, rfl⟩ := Option.isSome_iff_exists.1 hsome
    exact (fieldOutcome_eq_ok_some_iff.1 houtcome).projectable hsource
  · subst ha
    exact (fieldOutcome_eq_ok_some_iff.1 houtcome).typed.target_eq

end Plan

end Projectable

open scoped Classical in
/-- Of the fields of a view of a post, three are projectable at a parent: its site, its tags and its
own parent are beyond the limits there. -/
theorem Blog.parent_projectable :
    postPlan.HasNode ⟨"Post", "PostView", 2, postValues⟩ ∧
    ∃ fields, registry.fields "PostView" = .ok fields ∧
      (fields.filter fun field ↦
        Projectable registry settings ⟨"Post", "PostView", 2⟩ field).map (·.name) =
          ["Id", "State", "AuthorName"] := by
  have hnode : postPlan.HasNode ⟨"Post", "PostView", 2, postValues⟩ :=
    .single ⟨⟨"Parent", .structural, .child .optionalObject "Parent"
      ⟨"Post", "PostView", 2, postValues⟩⟩, by simp [postPlan], rfl⟩
  obtain ⟨fields, hfields, hnames⟩ :=
    Plan.targetFields_eq_projectable register_eq between_eq hnode
  exact ⟨hnode, fields, hfields, hnames.symm⟩

end Recast
