import Mathlib.Data.List.Forall2
import Recast.Proofs.Plan.Typing

/-!
# Tighter limits prune a plan

Limits decide which branches a plan has, and nothing else about it. A plan is a *pruning* of another
one if it comes from it by leaving out assignments, at any level (`Plan.Pruning`). If two settings
differ in limits of which one is tighter (`BuildSettings.Tighter`), then wherever the looser has a
plan the tighter has one too, and that is a pruning of the looser's
(`Plan.exists_pruning_of_tighter`). In particular the plan without children is a pruning of the plan
with them.

Both constructions are at the same level all the time, so one induction on levels does for the two.
A field that the tighter one assigns, the looser one assigns alike: a branch that is not empty when
it is pruned was not empty before.
-/

namespace Recast

/-! ### Prunings -/

/-- The feeds are the same, up to related plans below. -/
inductive Feed.Alike {P : Type} (R : P → P → Prop) : Feed P → Feed P → Prop
  | value {path : Path} {conversion : Conversion} :
      Alike R (.value path conversion) (.value path conversion)
  | child {link : Link} {field : String} {plan plan' : P} (hplan : R plan plan') :
      Alike R (.child link field plan) (.child link field plan')

/-- The assignments are the same, up to related plans below. -/
inductive Assignment.Alike {P : Type} (R : P → P → Prop) : Assignment P → Assignment P → Prop
  | intro {target : String} {origin : Origin} {feed feed' : Feed P} (hfeed : feed.Alike R feed') :
      Alike R ⟨target, origin, feed⟩ ⟨target, origin, feed'⟩

/-- **The first plan comes from the second by leaving out assignments**, in it and in the plans
below. -/
inductive Plan.Pruning : Plan → Plan → Prop
  | intro {plan plan' : Plan} (hsource : plan.source = plan'.source)
      (htarget : plan.target = plan'.target) (hdepth : plan.depth = plan'.depth)
      (hassignments :
        List.SublistForall₂ (Assignment.Alike Pruning) plan.assignments plan'.assignments) :
      Pruning plan plan'

/-- A pruning of an empty plan is empty. -/
theorem Plan.Pruning.isEmpty {plan plan' : Plan} (h : plan.Pruning plan')
    (hempty : plan'.isEmpty = true) : plan.isEmpty = true := by
  obtain ⟨-, -, -, hassignments⟩ := h
  rw [Plan.isEmpty, List.isEmpty_iff] at hempty ⊢
  obtain ⟨kept, hkept, hsublist⟩ := List.sublistForall₂_iff.1 hassignments
  rw [hempty, List.sublist_nil] at hsublist
  rwa [hsublist, List.forall₂_nil_right_iff] at hkept

/-- What is fed from a pruning is fed alike from the plan: if that is empty, so is the pruning. -/
theorem Plan.Pruning.exists_feed? {plan plan' : Plan} (h : plan.Pruning plan') {descent : Descent}
    {field : String} {feed : Feed Plan} (hfeed : descent.feed? field plan = some feed) :
    ∃ feed', descent.feed? field plan' = some feed' ∧ feed.Alike Plan.Pruning feed' := by
  obtain ⟨rfl, hkept⟩ := Descent.feed?_eq_some_iff.1 hfeed
  have hkept' : descent.link = .collection ∨ plan'.isEmpty = false := by
    refine hkept.imp_right fun hplan ↦ ?_
    by_contra hempty
    rw [h.isEmpty (by simpa using hempty)] at hplan
    cases hplan
  exact ⟨_, Descent.feed?_eq_some_iff.2 ⟨rfl, hkept'⟩, .child h⟩

/-- Assignments are related in order if the fields that they come from are, one by one. -/
theorem sublistForall₂_filterMap {α β : Type} {R : α → β → Prop} {l : List (Option α)}
    {l' : List (Option β)}
    (h : List.Forall₂ (fun outcome outcome' ↦ ∀ a ∈ outcome, ∃ a' ∈ outcome', R a a') l l') :
    List.SublistForall₂ R (l.filterMap id) (l'.filterMap id) := by
  induction h with
  | nil => exact .nil
  | @cons outcome outcome' _ _ houtcome _ ih =>
    rcases outcome with - | a
    · rcases outcome' with - | a'
      · exact ih
      · exact .cons_right ih
    · obtain ⟨a', rfl, ha⟩ := houtcome a rfl
      exact .cons ha ih

/-! ### Tighter limits -/

/-- The first settings allow at most the branches that the second ones allow. Items start at the
same level, since that level is written into the plans. -/
structure BuildSettings.Tighter (settings settings' : BuildSettings) : Prop where
  element : settings.limits.elementDepth = settings'.limits.elementDepth
  collection : settings.limits.collectionDepth ≤ settings'.limits.collectionDepth
  nested : settings.limits.nestedDepth ≤ settings'.limits.nestedDepth
  hard : settings.limits.hardDepth ≤ settings'.limits.hardDepth
  load : settings.loadChildren = true → settings'.loadChildren = true

/-- Without children the limits are tighter than with them. -/
theorem BuildSettings.tighter_loadChildren (limits : Limits) :
    Tighter ⟨limits, false⟩ ⟨limits, true⟩ :=
  ⟨rfl, Nat.le_refl _, Nat.le_refl _, Nat.le_refl _, nofun⟩

namespace Plan

variable {registry : Registry} {settings settings' : BuildSettings} {depth : Nat}

/-- Where the tighter limits let a plan descend, the looser do so too, and to the same level. -/
theorem descent?_of_tighter (htight : settings.Tighter settings') {target source : Field}
    {descent : Descent} (h : descent? settings depth target source = some descent) :
    descent? settings' depth target source = some descent := by
  obtain ⟨helement, hcollection, hnested, hhard, hload⟩ := htight
  rcases descent?_eq_some_iff.1 h with
    ⟨hlink, ht, hs, hexpand, hlevel, hle⟩ | ⟨hlink, ht, hs, hchild, hlevel, hle⟩
  · exact descent?_eq_some_iff.2 (.inl ⟨hlink, ht, hs, Nat.le_trans hexpand hcollection,
      helement ▸ hlevel, Nat.le_trans hle hhard⟩)
  · exact descent?_eq_some_iff.2 (.inr ⟨hlink, ht, hs, hchild.imp (Nat.le_trans · hnested) hload,
      hlevel, Nat.le_trans hle hhard⟩)

/-- **One target field under both limits**, if below it the tighter prune. It does not fail under
the tighter, and what it is assigned there it is assigned alike under the looser. -/
theorem exists_alike_of_fieldOutcome (htight : settings.Tighter settings')
    (hbelow : ∀ level, depth < level → level ≤ settings.limits.hardDepth →
      ∀ {source target : String} {plan' : Plan},
        ofPair registry settings' source target level = .ok plan' →
        ∃ plan, ofPair registry settings source target level = .ok plan ∧ plan.Pruning plan')
    {sourceFields : List Field} {target : String} {field : Field}
    {outcome' : Option (Assignment Plan)}
    (h : fieldOutcome registry settings' sourceFields target depth field = .ok outcome') :
    ∃ outcome, fieldOutcome registry settings sourceFields target depth field = .ok outcome ∧
      ∀ a ∈ outcome, ∃ a' ∈ outcome', a.Alike Pruning a' := by
  rcases hoverride : field.override with - | override
  · -- The cases are those of the tighter limits: where they lead on, the looser lead on as well.
    rcases fieldOutcome_cases hoverride with
      hnone | ⟨source, conversion, hsource, hfits, hvalue⟩ | ⟨source, descent, hsource, hdescent⟩
    · exact ⟨none, hnone, nofun⟩
    · rw [fieldOutcome_eq_ok_some_iff.2 (.value hoverride hsource hfits)] at h
      cases h
      exact ⟨_, hvalue, fun a ha ↦ ⟨a, ha, by cases ha; exact .intro .value⟩⟩
    · have hdescent' : descent? settings' depth field source = some descent :=
        descent?_of_tighter htight hdescent
      rw [fieldOutcome_of_descent? hoverride hsource hdescent', map_eq_ok_iff] at h
      obtain ⟨plan', hplan', rfl⟩ := h
      obtain ⟨hlt, hle⟩ := level_of_descent? hdescent
      obtain ⟨plan, hplan, hpruning⟩ := hbelow descent.level hlt hle hplan'
      refine ⟨(descent.feed? source.name plan).map (⟨field.name, .structural, ·⟩), ?_,
        fun a ha ↦ ?_⟩
      · rw [fieldOutcome_of_descent? hoverride hsource hdescent, hplan]
        rfl
      · obtain ⟨feed, hfeed, rfl⟩ := Option.map_eq_some_iff.1 ha
        obtain ⟨feed', hfeed', halike⟩ := hpruning.exists_feed? hfeed
        exact ⟨⟨field.name, .structural, feed'⟩, by rw [hfeed']; rfl, .intro halike⟩
  · -- An override does not look at limits.
    rw [fieldOutcome_of_override hoverride] at h
    obtain ⟨pairing, hresolve, h⟩ := bind_eq_ok_iff.1 h
    obtain ⟨source, member, hleads, rfl⟩ := (Matching.resolve_eq_ok_iff target).1 hresolve
    obtain ⟨feed, hfeed, rfl⟩ := map_eq_ok_iff.1 h
    obtain ⟨conversion, hfits, rfl⟩ := overrideFeed_eq_ok_iff.1 hfeed
    exact ⟨_, fieldOutcome_eq_ok_some_iff.2 (.override hoverride hleads hfits),
      fun a ha ↦ ⟨a, ha, by cases ha; exact .intro .value⟩⟩

/-- **Tighter limits prune the plan of a level**, by induction on the levels that the tighter ones
allow below it. -/
theorem exists_pruning_of_ofPair (htight : settings.Tighter settings') {source target : String}
    {plan' : Plan} (h : ofPair registry settings' source target depth = .ok plan') :
    ∃ plan, ofPair registry settings source target depth = .ok plan ∧ plan.Pruning plan' := by
  induction depth using level_induction settings generalizing source target plan' with
  | _ depth ih =>
    obtain ⟨sourceFields, targetFields, hsource, htarget⟩ := exists_fields_of_ofPair h
    obtain ⟨outcomes', houtcomes', rfl⟩ := (ofPair_eq_ok_iff hsource htarget).1 h
    obtain ⟨outcomes, houtcomes, halike⟩ := exists_forall₂_of_forall₂ (houtcomes'.imp
      fun field outcome' ↦ exists_alike_of_fieldOutcome htight fun level hlt hle {_ _ _} hplan' ↦
        ih level hlt hle hplan')
    exact ⟨_, (ofPair_eq_ok_iff hsource htarget).2 ⟨outcomes, houtcomes, rfl⟩,
      .intro rfl rfl rfl (sublistForall₂_filterMap halike)⟩

/-- **Looser limits only add to a plan.** Wherever the looser of two settings have a plan, the
tighter have one too, and it is a pruning. In particular the plan without children is a pruning of
the plan with them. -/
theorem exists_pruning_of_tighter (registry : Registry) (source target : String) :
    (∀ settings settings' : BuildSettings, settings.Tighter settings' →
      ∀ plan', between registry settings' source target = .ok plan' →
        ∃ plan, between registry settings source target = .ok plan ∧ plan.Pruning plan') ∧
    ∀ limits plan', between registry ⟨limits, true⟩ source target = .ok plan' →
      ∃ plan, between registry ⟨limits, false⟩ source target = .ok plan ∧ plan.Pruning plan' :=
  ⟨fun _ _ htight _ h ↦ exists_pruning_of_ofPair htight h,
    fun limits _ h ↦ exists_pruning_of_ofPair (BuildSettings.tighter_loadChildren limits) h⟩

end Plan

namespace Blog

/-- The plan for posts with children: a parent has its site and its own parent. -/
def loadedPlan : Plan := ⟨"Post", "PostView", 1, postValues ++ [
  ⟨"Site", .structural, .child .object "Site" sitePlan⟩,
  ⟨"Tags", .structural, .child .collection "Tags" tagPlan⟩,
  ⟨"Parent", .structural, .child .optionalObject "Parent" ⟨"Post", "PostView", 2, postValues ++ [
    ⟨"Site", .structural, .child .object "Site" { sitePlan with depth := 3 }⟩,
    ⟨"Parent", .structural, .child .optionalObject "Parent"
      ⟨"Post", "PostView", 3, postValues⟩⟩]⟩⟩]⟩

/-- Limits that expand no collection. -/
def untaggedSettings : BuildSettings := ⟨⟨0, 2, 1, 2⟩, false⟩

/-- The plan for posts without their tags. -/
def untaggedPlan : Plan := ⟨"Post", "PostView", 1, postValues ++ [
  ⟨"Site", .structural, .child .object "Site" sitePlan⟩,
  ⟨"Parent", .structural, .child .optionalObject "Parent" ⟨"Post", "PostView", 2, postValues⟩⟩]⟩

/-- The plan for posts is a pruning of the one with children, and tighter limits prune it of its
tags. -/
theorem postPlan_pruning :
    untaggedSettings.Tighter settings ∧ untaggedPlan.Pruning postPlan ∧
      postPlan.Pruning loadedPlan := by
  obtain ⟨hprune, hload⟩ := Plan.exists_pruning_of_tighter registry "Post" "PostView"
  have htight : untaggedSettings.Tighter settings :=
    ⟨rfl, by decide, by decide, by decide, nofun⟩
  have huntagged : Plan.between registry untaggedSettings "Post" "PostView" = .ok untaggedPlan := by
    with_unfolding_all rfl
  have hloaded :
      Plan.between registry ⟨settings.limits, true⟩ "Post" "PostView" = .ok loadedPlan := by
    with_unfolding_all rfl
  obtain ⟨plan, hplan, hpruning⟩ := hprune untaggedSettings settings htight postPlan between_eq
  obtain ⟨plan', hplan', hpruning'⟩ := hload settings.limits loadedPlan hloaded
  cases hplan.symm.trans huntagged
  cases hplan'.symm.trans between_eq
  exact ⟨htight, hpruning, hpruning'⟩

end Blog

end Recast
