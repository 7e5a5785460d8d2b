import Recast.Config.Basic
import Recast.Number.Width
import Recast.Proofs.Plan.Nodes
import Recast.Proofs.Plan.Visited

/-!
# The discipline of depths

Shapes may refer to each other in cycles, so what ends the construction is depth alone. A level
consults only levels that it has a step to (`assemble_congr`), every step goes deeper within the
hard limit (`Level.Step.lt`), and so steps cannot go on for ever (`Level.step_wellFounded`). No
level that is visited is deeper than the hard limit, unless it is the top one, so that the level
below it is a number of thirty-two bits if the hard limit leaves room for one more
(`fitsNat32_of_visits`).

In a compiled plan the depths are as the limits have it at every node (`Plan.Disciplined`).
-/

namespace Recast

section Depth

variable {registry : Registry} {settings : BuildSettings}

/-! ### The recursion -/

namespace Level

variable {level next : Level}

/-- A step goes deeper and stays within the hard limit. -/
theorem Step.lt (h : level.Step registry settings next) :
    level.depth < next.depth ∧ next.depth ≤ settings.limits.hardDepth := by
  cases h with
  | nested _ _ _ _ _ _ _ _ hlimit => exact ⟨Nat.lt_succ_self _, hlimit⟩
  | collection _ _ _ _ _ _ _ _ hlimit =>
    exact ⟨Nat.lt_of_lt_of_le (Nat.lt_succ_self _) (Nat.le_max_right ..), hlimit⟩

/-- **Steps cannot go on for ever**: each leaves less below the hard limit. -/
theorem step_wellFounded (registry : Registry) (settings : BuildSettings) :
    WellFounded fun next level : Level ↦ level.Step registry settings next := by
  refine Subrelation.wf (fun {next level} h ↦ ?_)
    (measure fun level : Level ↦ settings.limits.hardDepth - level.depth).wf
  have hlt := h.lt
  show settings.limits.hardDepth - next.depth < settings.limits.hardDepth - level.depth
  omega

/-- Below the level from which a visit starts, nothing is deeper than the hard limit. -/
theorem Visits.depth_le (h : level.Visits registry settings next) :
    next.depth ≤ max level.depth settings.limits.hardDepth := by
  cases h with
  | refl => exact Nat.le_max_left ..
  | tail _ hstep => exact Nat.le_trans hstep.lt.2 (Nat.le_max_right ..)

/-- The level after one that is visited fits thirty-two bits. -/
theorem fitsNat32_of_visits (hlimit : settings.limits.hardDepth < 0xFFFFFFFF)
    {source target : String} (h : Level.Visits registry settings ⟨source, target, 1⟩ level) :
    fitsNat32 (level.depth + 1) = true := by
  have hle : level.depth ≤ max 1 settings.limits.hardDepth := h.depth_le
  rw [fitsNat32_iff]
  omega

end Level

namespace Plan

/-- The assignment of a pairing at a level, with `build` for the levels below it. -/
def assignWith (registry : Registry) (settings : BuildSettings)
    (build : Level → Except PlanError Plan) (level : Level) :
    Pairing → Except PlanError (Option (Assignment Plan)) :=
  assignmentOf (.direct registry) settings level.target level.depth
    fun source target deeper ↦ build ⟨source, target, deeper.1⟩

/-- One level of the construction, with `build` for the levels below it. -/
def assemble (registry : Registry) (settings : BuildSettings)
    (build : Level → Except PlanError Plan) (level : Level) : Except PlanError Plan := do
  let pairings ← (Matching.ofShapes registry level.source level.target).1
  let assignments ← pairings.mapM (assignWith registry settings build level)
  return ⟨level.source, level.target, level.depth, assignments.filterMap id⟩

theorem assemble_ofLevel (registry : Registry) (settings : BuildSettings) (level : Level) :
    assemble registry settings (ofLevel registry settings) level =
      ofLevel registry settings level := by
  rw [ofLevel, ofPair, atLevel]
  rfl

variable {build build' : Level → Except PlanError Plan} {level : Level}

/-- A pairing has the same assignment for two constructions that agree where its fields lead. -/
theorem assignWith_congr {pairing : Pairing}
    (h : pairing.origin = .structural → ∀ descent,
      descent? settings level.depth pairing.target pairing.source = some descent →
      build ⟨descent.source, descent.target, descent.level⟩ =
        build' ⟨descent.source, descent.target, descent.level⟩) :
    assignWith registry settings build level pairing =
      assignWith registry settings build' level pairing := by
  rcases horigin : pairing.origin with - | -
  · -- The feed of a pairing by name asks for the level that the pair of fields leads to.
    have hfeed := @structuralFeed_direct registry settings level.depth
      (fun s t depth ↦ build ⟨s, t, depth⟩) pairing
    have hfeed' := @structuralFeed_direct registry settings level.depth
      (fun s t depth ↦ build' ⟨s, t, depth⟩) pairing
    simp only [assignWith, assignmentOf, horigin, hfeed, hfeed']
    rcases Conversion.between? pairing.target.kind pairing.source.kind with - | conversion
    · rcases hdescent : descent? settings level.depth pairing.target pairing.source with - | descent
      · rfl
      · simp only [h horigin descent hdescent]
    · rfl
  · simp only [assignWith, assignmentOf, horigin]

/-- **A level consults only levels that it has a step to.** -/
theorem assemble_congr
    (h : ∀ next, level.Step registry settings next → build next = build' next) :
    assemble registry settings build level = assemble registry settings build' level := by
  rw [assemble, assemble]
  rcases hpairings : (Matching.ofShapes registry level.source level.target).1 with error | pairings
  · rfl
  · have hassignments : pairings.mapM (assignWith registry settings build level) =
        pairings.mapM (assignWith registry settings build' level) := by
      refine mapM_congr fun pairing hpairing ↦
        assignWith_congr fun horigin descent hdescent ↦ h _ ?_
      obtain ⟨sourceFields, targetFields, hsource, htarget, hfield, hoverride, hpair⟩ :=
        Matching.exists_fields_of_structural hpairings hpairing horigin
      exact Level.step_iff.2 ⟨sourceFields, targetFields, pairing.target, pairing.source, descent,
        hsource, htarget, hfield, hoverride, hpair, hdescent, rfl⟩
    simp only [ok_bind, hassignments]

/-! ### The depths of a plan -/

/-- The plans right below a node have the depths that the limits give them, and the node is not too
deep to have them. -/
structure Disciplined (settings : BuildSettings) (node : Plan) : Prop where
  /-- A plan of an object is one deeper. -/
  object : ∀ a ∈ node.assignments, ∀ link field child, a.feed = .child link field child →
    link ≠ .collection → child.depth = node.depth + 1 ∧
      (settings.loadChildren = false → node.depth ≤ settings.limits.nestedDepth)
  /-- A plan of items is deeper, and at the element depth at least. -/
  collection : ∀ a ∈ node.assignments, ∀ field child, a.feed = .child .collection field child →
    child.depth = max settings.limits.elementDepth (node.depth + 1) ∧
      node.depth ≤ settings.limits.collectionDepth
  limit : ∀ a ∈ node.assignments, ∀ child, a.feed.child? = some child →
    child.depth ≤ settings.limits.hardDepth

/-- What feeds a field from a plan below was descended into, and the plan has the depth of the
descent. -/
theorem Assigns.exists_descent {sourceFields : List Field} {depth : Nat} {field : Field}
    {assignment : Assignment Plan}
    (h : Assigns registry settings sourceFields depth field assignment)
    {link : Link} {name : String} {child : Plan}
    (hfeed : assignment.feed = .child link name child) :
    ∃ source descent, descent? settings depth field source = some descent ∧
      link = descent.link ∧ child.depth = descent.level := by
  cases h with
  | override => cases hfeed
  | value => cases hfeed
  | child hoverride hsource hdescent hplan =>
    cases hfeed
    exact ⟨_, _, hdescent, rfl, (labels_of_ofPair hplan).2.2⟩

/-- **Every node of a compiled plan keeps the discipline.** -/
theorem disciplined_of_hasNode {source target : String} {depth : Nat} {plan node : Plan}
    (hbuild : ofPair registry settings source target depth = .ok plan)
    (hnode : plan.HasNode node) : node.Disciplined settings := by
  have hbelow := ofPair_of_hasNode hbuild hnode
  refine ⟨fun a ha link name child hfeed hlink ↦ ?_, fun a ha name child hfeed ↦ ?_,
    fun a ha child hchild ↦ ?_⟩
  all_goals obtain ⟨sourceFields, field, hassigns⟩ := exists_assigns_of_mem hbelow ha
  · obtain ⟨source, descent, hdescent, rfl, hdepth⟩ := hassigns.exists_descent hfeed
    rcases descent?_eq_some_iff.1 hdescent with ⟨hcollection, -⟩ | ⟨-, -, -, hload, hlevel, -⟩
    · exact absurd hcollection hlink
    · exact ⟨hdepth.trans hlevel, fun h ↦ hload.resolve_right (by simp [h])⟩
  · obtain ⟨source, descent, hdescent, hlink, hdepth⟩ := hassigns.exists_descent hfeed
    rcases descent?_eq_some_iff.1 hdescent with ⟨-, -, -, hexpand, hlevel, -⟩ | ⟨hobject, -⟩
    · exact ⟨hdepth.trans hlevel, hexpand⟩
    · rw [hobject] at hlink
      split at hlink <;> cases hlink
  · obtain ⟨s, t, level, -, hle, hbelow⟩ := hassigns.exists_ofPair hchild
    rwa [(labels_of_ofPair hbelow).2.2]

end Plan

/-- A configuration that passes the checks leaves room above its hard limit. -/
theorem Config.hardDepth_lt_of_check {config checked : Config} (h : config.check = .ok checked) :
    checked.limits.hardDepth < 0xFFFFFFFF := by
  rw [check] at h
  split at h
  · cases h
  · rename_i hranges
    have hhard : config.hardDepthLimit ≤ 256 := by
      by_contra hlarge
      simp [rangeViolations, rangeViolation, hlarge] at hranges
    split at h
    · cases h
    · cases h
      exact Nat.lt_of_le_of_lt hhard (by decide)

/-- **Plan construction ends, and it keeps the discipline of depths**, on every graph of shapes.
The recursion goes from a level to levels that it has a step to and to no others, and steps are well
founded. Under a hard limit with room above it, as every checked configuration has, the level below
a visited one never leaves thirty-two bits. In a plan that is returned the depth is one at the top,
and below it is as the limits have it. -/
theorem Plan.depth_discipline (registry : Registry) (settings : BuildSettings)
    (source target : String) :
    (WellFounded fun next level : Level ↦ level.Step registry settings next) ∧
    (∀ level build, (∀ next, level.Step registry settings next →
        build next = ofLevel registry settings next) →
      assemble registry settings build level = ofLevel registry settings level) ∧
    (settings.limits.hardDepth < 0xFFFFFFFF →
      ∀ level, Level.Visits registry settings ⟨source, target, 1⟩ level →
        fitsNat32 (level.depth + 1) = true) ∧
    (∀ config checked : Config, config.check = .ok checked →
      checked.limits.hardDepth < 0xFFFFFFFF) ∧
    ∀ plan, between registry settings source target = .ok plan →
      plan.depth = 1 ∧ ∀ node, plan.HasNode node → node.Disciplined settings := by
  refine ⟨Level.step_wellFounded registry settings, fun level build h ↦ ?_,
    fun hlimit level ↦ Level.fitsNat32_of_visits hlimit,
    fun config checked ↦ Config.hardDepth_lt_of_check, fun plan hbuild ↦ ?_⟩
  · rw [assemble_congr h, assemble_ofLevel]
  · exact ⟨(labels_of_ofPair hbuild).2.2, fun node ↦ disciplined_of_hasNode hbuild⟩

end Depth

namespace Blog

/-- Posts lead to their parents, which are posts, one level deeper. -/
theorem step_parent :
    Level.Step registry settings ⟨"Post", "PostView", 1⟩ ⟨"Post", "PostView", 2⟩ := by
  have hview : registry.fields "PostView" = .ok (catalogue.shapes.getLast (by decide)).fields := by
    with_unfolding_all rfl
  have hfield : { name := "Parent", kind := .nested "PostView" } ∈
      (catalogue.shapes.getLast (by decide)).fields := by decide
  exact .nested rfl hview hfield rfl rfl rfl rfl (.inl (by decide)) (by decide)

/-- The plan for posts keeps the discipline, and so does the plan for tags in it. -/
theorem postPlan_disciplined :
    settings.limits.hardDepth < 0xFFFFFFFF ∧ Config.check {} = .ok {} ∧
    (Config.limits {}).hardDepth < 0xFFFFFFFF ∧
    Level.Visits registry settings ⟨"Post", "PostView", 1⟩ ⟨"Post", "PostView", 2⟩ ∧
    fitsNat32 (2 + 1) = true ∧ postPlan.HasNode tagPlan ∧ tagPlan.Disciplined settings := by
  obtain ⟨-, -, hfits, hconfig, hplan⟩ := Plan.depth_discipline registry settings "Post" "PostView"
  have hvisits := Relation.ReflTransGen.single step_parent
  have hnode : postPlan.HasNode tagPlan :=
    .single ⟨⟨"Tags", .structural, .child .collection "Tags" tagPlan⟩, by simp [postPlan], rfl⟩
  have hcheck : Config.check {} = .ok {} := rfl
  exact ⟨by decide, hcheck, hconfig {} {} hcheck, hvisits, hfits (by decide) _ hvisits, hnode,
    (hplan postPlan between_eq).2 tagPlan hnode⟩

end Blog

end Recast
