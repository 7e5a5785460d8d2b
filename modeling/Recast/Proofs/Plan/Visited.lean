import Mathlib.Logic.Relation
import Recast.Proofs.Plan.Typing

/-!
# When a plan cannot be built

Shapes may be recursive and the limits cut branches off, so which declarations the construction
consults is a question of its own. A `Level` is a pair of shapes with a depth; `Level.Step` goes
from a level to one that the limits let it descend to, and a level is *visited* when steps lead to
it from the top.

The construction fails exactly if a shape that was asked for is not registered, or if an override at
some visited level is at fault (`between_eq_ok_iff_visited`). An override in a branch that is cut
off does no harm; one in a branch that is empty in the end does; and a pair of fields by name that
do not fit never does. What fails is said by the error (`Level.Faults`).
-/

namespace Recast

section Visited

/-- A pair of shapes with the depth of a plan for them. -/
structure Level where
  source : String
  target : String
  depth : Nat
deriving DecidableEq, Repr

namespace Level

/-! ### Levels that are visited -/

/-- One step down, along a target field without an override and the source field of its name: into
the objects that both hold, or into the items. -/
inductive Step (registry : Registry) (settings : BuildSettings) (level : Level) : Level → Prop
  | nested {sourceFields targetFields : List Field} {field source : Field} {s t : String}
      (hsource : registry.fields level.source = .ok sourceFields)
      (htarget : registry.fields level.target = .ok targetFields)
      (hfield : field ∈ targetFields) (hoverride : field.override = none)
      (hpair : findField? sourceFields field.name = some source)
      (htargetKind : field.kind = .nested t) (hsourceKind : source.kind = .nested s)
      (hload : level.depth ≤ settings.limits.nestedDepth ∨ settings.loadChildren = true)
      (hlimit : level.depth < settings.limits.hardDepth) :
      Step registry settings level ⟨s, t, level.depth + 1⟩
  | collection {sourceFields targetFields : List Field} {field source : Field} {s t : String}
      (hsource : registry.fields level.source = .ok sourceFields)
      (htarget : registry.fields level.target = .ok targetFields)
      (hfield : field ∈ targetFields) (hoverride : field.override = none)
      (hpair : findField? sourceFields field.name = some source)
      (htargetKind : field.kind = .collection t) (hsourceKind : source.kind = .collection s)
      (hexpand : level.depth ≤ settings.limits.collectionDepth)
      (hlimit : max settings.limits.elementDepth (level.depth + 1) ≤ settings.limits.hardDepth) :
      Step registry settings level
        ⟨s, t, max settings.limits.elementDepth (level.depth + 1)⟩

/-- Steps lead from the first level to the second. -/
def Visits (registry : Registry) (settings : BuildSettings) : Level → Level → Prop :=
  Relation.ReflTransGen (Step registry settings)

/-- Every override that a target field of the level declares leads to a field of a kind that
fits. -/
def Fits (registry : Registry) (level : Level) : Prop :=
  ∀ sourceFields targetFields, registry.fields level.source = .ok sourceFields →
    registry.fields level.target = .ok targetFields →
    ∀ field ∈ targetFields, ∀ override, field.override = some override →
      ∃ source member conversion, override.Leads registry sourceFields field source member ∧
        Conversion.Fits field.kind (member.getD source).kind conversion

/-- The error of an override of the level that is at fault: it misses a path, or it leads to a field
of a kind that does not fit. -/
inductive Faults (registry : Registry) (level : Level) : PlanError → Prop
  | unresolved {sourceFields targetFields : List Field} {field : Field} {override : Override}
      {missing : String}
      (hsource : registry.fields level.source = .ok sourceFields)
      (htarget : registry.fields level.target = .ok targetFields)
      (hfield : field ∈ targetFields) (hoverride : field.override = some override)
      (hmisses : override.Misses registry sourceFields field missing) :
      Faults registry level (.unresolvedOverride level.target field.name missing)
  | incompatible {sourceFields targetFields : List Field} {field source : Field}
      {override : Override} {member : Option Field}
      (hsource : registry.fields level.source = .ok sourceFields)
      (htarget : registry.fields level.target = .ok targetFields)
      (hfield : field ∈ targetFields) (hoverride : field.override = some override)
      (hleads : override.Leads registry sourceFields field source member)
      (hunfit : ∀ conversion, ¬ Conversion.Fits field.kind (member.getD source).kind conversion) :
      Faults registry level (.incompatibleOverride level.target field.name
        (Pairing.path ⟨field, source, member, .explicitOverride⟩).render field.kind
        (member.getD source).kind)

variable {registry : Registry} {settings : BuildSettings} {level next : Level}

/-- A step is a descent of the construction. -/
theorem step_iff :
    Step registry settings level next ↔
      ∃ sourceFields targetFields field source descent,
        registry.fields level.source = .ok sourceFields ∧
        registry.fields level.target = .ok targetFields ∧ field ∈ targetFields ∧
        field.override = none ∧ findField? sourceFields field.name = some source ∧
        Plan.descent? settings level.depth field source = some descent ∧
        next = ⟨descent.source, descent.target, descent.level⟩ := by
  constructor
  · intro h
    cases h with
    | @nested _ _ _ source s t hsource htarget hfield hoverride hpair ht hs hload hlimit =>
      refine ⟨_, _, _, _, ⟨if source.nullable then .optionalObject else .object, s, t, _⟩, hsource,
        htarget, hfield, hoverride, hpair, ?_, rfl⟩
      exact Plan.descent?_eq_some_iff.2 (.inr ⟨rfl, ht, hs, hload, rfl, hlimit⟩)
    | @collection _ _ _ source s t hsource htarget hfield hoverride hpair ht hs hexpand hlimit =>
      refine ⟨_, _, _, _, ⟨.collection, s, t, _⟩, hsource, htarget, hfield, hoverride, hpair, ?_,
        rfl⟩
      exact Plan.descent?_eq_some_iff.2 (.inl ⟨rfl, ht, hs, hexpand, rfl, hlimit⟩)
  · rintro ⟨sourceFields, targetFields, field, source, descent, hsource, htarget, hfield, hoverride,
      hpair, hdescent, rfl⟩
    rcases Plan.descent?_eq_some_iff.1 hdescent with
      ⟨-, ht, hs, hexpand, hlevel, hlimit⟩ | ⟨-, ht, hs, hload, hlevel, hlimit⟩
    · rw [hlevel] at hlimit ⊢
      exact .collection hsource htarget hfield hoverride hpair ht hs hexpand hlimit
    · rw [hlevel] at hlimit ⊢
      exact .nested hsource htarget hfield hoverride hpair ht hs hload hlimit

/-- In a closed registry a step leads to registered shapes. -/
theorem Step.exists_fields (hclosed : registry.Closed) (h : level.Step registry settings next) :
    (∃ fields, registry.fields next.source = .ok fields) ∧
      ∃ fields, registry.fields next.target = .ok fields := by
  cases h with
  | nested hsource htarget hfield _ hpair ht hs | collection hsource htarget hfield _ hpair ht hs =>
    have hsourceKind := hclosed.resolves hsource _ (mem_of_findField? hpair).1
    have htargetKind := hclosed.resolves htarget _ hfield
    rw [hs] at hsourceKind
    rw [ht] at htargetKind
    exact ⟨hsourceKind, htargetKind⟩

/-- Where every override fits, none is at fault. -/
theorem not_faults_of_fits (hfits : level.Fits registry)
    (hresolves : ∀ fields, registry.fields level.source = .ok fields →
      ∀ field ∈ fields, registry.Resolves field.kind) {error : PlanError} :
    ¬ level.Faults registry error := by
  -- Resolving decides where an override leads: it cannot lead to two fields, or to one and nowhere.
  rintro (⟨hsource, htarget, hfield, hoverride, hmisses⟩ |
    ⟨hsource, htarget, hfield, hoverride, hleads, hunfit⟩)
  · obtain ⟨source, member, -, hleads, -⟩ := hfits _ _ hsource htarget _ hfield _ hoverride
    have hok := (Matching.resolve_eq_ok_iff level.target).2 ⟨_, _, hleads, rfl⟩
    have herror := (Matching.resolve_eq_error_iff level.target (hresolves _ hsource)).2
      ⟨_, hmisses, rfl⟩
    simp [hok] at herror
  · obtain ⟨source', member', conversion, hleads', hfit⟩ :=
      hfits _ _ hsource htarget _ hfield _ hoverride
    have hok := (Matching.resolve_eq_ok_iff level.target).2 ⟨_, _, hleads, rfl⟩
    have hok' := (Matching.resolve_eq_ok_iff level.target).2 ⟨_, _, hleads', rfl⟩
    rw [hok] at hok'
    cases hok'
    exact hunfit conversion hfit

end Level

namespace Plan

variable {registry : Registry} {settings : BuildSettings} {level next : Level}

/-! ### A success visits no fault -/

/-- The plan of a level. -/
abbrev ofLevel (registry : Registry) (settings : BuildSettings) (level : Level) :
    Except PlanError Plan :=
  ofPair registry settings level.source level.target level.depth

/-- A level that has a plan has one below every step, whether or not the plan is kept. -/
theorem exists_ofLevel_of_step {plan : Plan} (h : ofLevel registry settings level = .ok plan)
    (hstep : level.Step registry settings next) :
    ∃ child, ofLevel registry settings next = .ok child := by
  obtain ⟨sourceFields, targetFields, field, source, descent, hsource, htarget, hfield, hoverride,
    hpair, hdescent, rfl⟩ := Level.step_iff.1 hstep
  obtain ⟨outcomes, houtcomes, -⟩ := (ofPair_eq_ok_iff hsource htarget).1 h
  obtain ⟨outcome, -, houtcome⟩ := exists_of_mem_left_of_forall₂ houtcomes hfield
  rw [fieldOutcome_of_descent? hoverride hpair hdescent] at houtcome
  obtain ⟨child, hchild, -⟩ := map_eq_ok_iff.1 houtcome
  exact ⟨child, hchild⟩

/-- At a level that has a plan every override fits. -/
theorem fits_of_ofLevel {plan : Plan} (h : ofLevel registry settings level = .ok plan) :
    level.Fits registry := by
  intro sourceFields targetFields hsource htarget field hfield override hoverride
  obtain ⟨outcomes, houtcomes, -⟩ := (ofPair_eq_ok_iff hsource htarget).1 h
  obtain ⟨outcome, -, houtcome⟩ := exists_of_mem_left_of_forall₂ houtcomes hfield
  rw [fieldOutcome_of_override hoverride] at houtcome
  obtain ⟨pairing, hresolve, houtcome⟩ := bind_eq_ok_iff.1 houtcome
  obtain ⟨source, member, hleads, rfl⟩ := (Matching.resolve_eq_ok_iff _).1 hresolve
  obtain ⟨feed, hfeed, -⟩ := map_eq_ok_iff.1 houtcome
  obtain ⟨conversion, hfits, -⟩ := overrideFeed_eq_ok_iff.1 hfeed
  exact ⟨source, member, conversion, hleads, Conversion.between?_eq_some_iff.1 hfits⟩

/-- **A level that has a plan visits only levels that have one.** -/
theorem exists_ofLevel_of_visits (level : Level) {plan : Plan}
    (h : ofLevel registry settings level = .ok plan)
    (hvisits : level.Visits registry settings next) :
    ∃ child, ofLevel registry settings next = .ok child := by
  induction hvisits with
  | refl => exact ⟨plan, h⟩
  | tail _ hstep ih =>
    obtain ⟨child, hchild⟩ := ih
    exact exists_ofLevel_of_step hchild hstep

/-! ### A failure comes from a fault -/

/-- **A level of registered shapes fails by a fault at a level that it visits.** The induction is on
the levels that the hard limit leaves below; the shapes below are registered since the registry is
closed. -/
theorem exists_faults_of_ofLevel (hclosed : registry.Closed) (level : Level)
    {sourceFields targetFields : List Field}
    (hsource : registry.fields level.source = .ok sourceFields)
    (htarget : registry.fields level.target = .ok targetFields) {error : PlanError}
    (h : ofLevel registry settings level = .error error) :
    ∃ fault, level.Visits registry settings fault ∧ fault.Faults registry error := by
  obtain ⟨source, target, depth⟩ := level
  induction depth using level_induction settings
    generalizing source target sourceFields targetFields with
  | _ depth ih =>
    obtain ⟨field, hfield, hfails⟩ := exists_of_ofPair_eq_error hsource htarget h
    cases (fieldOutcome_eq_error_iff (hclosed.resolves hsource)).1 hfails with
    | misses hoverride hmisses =>
      exact ⟨_, .refl, .unresolved hsource htarget hfield hoverride hmisses⟩
    | unfit hoverride hleads hfits =>
      exact ⟨_, .refl, .incompatible hsource htarget hfield hoverride hleads
        (Conversion.between?_eq_none_iff.1 hfits)⟩
    | child hoverride hpair hdescent hplan =>
      rename_i sourceField descent
      have hstep : Level.Step registry settings ⟨source, target, depth⟩
          ⟨descent.source, descent.target, descent.level⟩ :=
        Level.step_iff.2 ⟨_, _, _, _, descent, hsource, htarget, hfield, hoverride, hpair, hdescent,
          rfl⟩
      obtain ⟨⟨sourceFields', hsource'⟩, targetFields', htarget'⟩ := hstep.exists_fields hclosed
      obtain ⟨hlt, hle⟩ := level_of_descent? hdescent
      obtain ⟨fault, hvisits, hfaults⟩ := ih _ hlt hle _ _ hsource' htarget' hplan
      exact ⟨fault, .head hstep hvisits, hfaults⟩

/-! ### The exact condition -/

/-- **Compilation fails exactly on overrides at fault that are reached.** It fails on a lookup if
and only if a shape that was asked for is not registered, the source shape being named first.
Otherwise it succeeds if and only if every override at every visited level leads to a field that
fits, and the error of a failure is that of an override at fault. -/
theorem between_eq_ok_iff_visited {catalogue : Catalogue}
    (hregister : catalogue.register = .ok registry) (settings : BuildSettings)
    (source target : String) :
    (∀ error, between registry settings source target = .error (.catalogue error) ↔
      (registry.hasShape source = false ∧ error = .unknownShape source) ∨
      (registry.hasShape source = true ∧ registry.hasShape target = false ∧
        error = .unknownShape target)) ∧
    (registry.hasShape source = true → registry.hasShape target = true →
      ((∃ plan, between registry settings source target = .ok plan) ↔
        ∀ level, Level.Visits registry settings ⟨source, target, 1⟩ level → level.Fits registry) ∧
      ∀ error, between registry settings source target = .error error →
        ∃ level, Level.Visits registry settings ⟨source, target, 1⟩ level ∧
          level.Faults registry error) := by
  have hclosed := Registry.closed_of_register hregister
  have hfaults : registry.hasShape source = true → registry.hasShape target = true →
      ∀ error, between registry settings source target = .error error →
        ∃ level, Level.Visits registry settings ⟨source, target, 1⟩ level ∧
          level.Faults registry error := by
    intro hs ht error h
    obtain ⟨sourceFields, hsource⟩ := Registry.exists_fields_iff.2 hs
    obtain ⟨targetFields, htarget⟩ := Registry.exists_fields_iff.2 ht
    exact exists_faults_of_ofLevel hclosed ⟨source, target, 1⟩ hsource htarget h
  constructor
  · intro error
    by_cases hregistered : registry.hasShape source = true ∧ registry.hasShape target = true
    · obtain ⟨hs, ht⟩ := hregistered
      simp only [hs, ht, Bool.true_eq_false, false_and, and_false, or_self, iff_false]
      intro h
      obtain ⟨level, -, hfault⟩ := hfaults hs ht _ h
      cases hfault
    · rw [not_and_or, Bool.not_eq_true, Bool.not_eq_true] at hregistered
      rw [between_eq_ofPair, ofPair_eq_of_unregistered hregistered]
      rcases hs : registry.hasShape source with - | -
      · simpa using eq_comm
      · simpa [hregistered.resolve_left (by simp [hs])] using eq_comm
  · intro hs ht
    refine ⟨⟨?_, ?_⟩, hfaults hs ht⟩
    · rintro ⟨plan, hplan⟩ level hvisits
      obtain ⟨child, hchild⟩ := exists_ofLevel_of_visits ⟨source, target, 1⟩ hplan hvisits
      exact fits_of_ofLevel hchild
    · intro hfits
      rcases h : between registry settings source target with error | plan
      · obtain ⟨level, hvisits, hfault⟩ := hfaults hs ht _ h
        exact absurd hfault
          (Level.not_faults_of_fits (hfits level hvisits) fun _ ↦ hclosed.resolves)
      · exact ⟨plan, rfl⟩

end Plan

end Visited

/-- Every override that the plan for posts meets fits, and tags have no plan for posts. -/
theorem Blog.overrides_visited :
    (∀ level, Level.Visits registry settings ⟨"Post", "PostView", 1⟩ level → level.Fits registry) ∧
      ¬ ∀ level, Level.Visits registry settings ⟨"Tag", "PostView", 1⟩ level →
        level.Fits registry := by
  refine ⟨?_, fun h ↦ ?_⟩
  · exact ((Plan.between_eq_ok_iff_visited register_eq settings "Post" "PostView").2 rfl rfl).1.1
      ⟨postPlan, between_eq⟩
  · obtain ⟨plan, hplan⟩ :=
      ((Plan.between_eq_ok_iff_visited register_eq settings "Tag" "PostView").2 rfl rfl).1.2 h
    have herror : Plan.between registry settings "Tag" "PostView" =
        .error (.unresolvedOverride "PostView" "State" "Status") := by
      with_unfolding_all rfl
    cases herror.symm.trans hplan

end Recast
