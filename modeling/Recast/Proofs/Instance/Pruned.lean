import Recast.Proofs.Instance.Layout
import Recast.Proofs.Plan.Nodes
import Recast.Proofs.Plan.Pruning

/-!
# What a pruned plan makes

The assignments of a plan do not depend on each other. If some are left out, at any level, the plan
still has a result wherever it had one, and that differs from the result of the whole plan only in
holding defaults for what is left out (`Plan.Reduced`, `Plan.Pruning.apply_reduced`). The plan
without children and the one with them thus agree on all that both assign.

At one level both walks are known by what the last assignment to a field gives. No field is assigned
twice, so every assignment that is kept is the last one in both plans, and gives the same in both,
up to the plans below.
-/

namespace Recast

section Pruned

/-! ### When a result is another one with defaults -/

mutual

/-- **The first object is the second with defaults for what the plan does not assign.** Both have
the fields of the target shape; what the plan assigns is as in the second object, up to defaults
below. -/
inductive Plan.Reduced (registry : Registry) : Plan → Json → Json → Prop
  | obj {plan : Plan} {fields : List Field} {reduced full : List (String × Json)}
      (hfields : registry.fields plan.target = .ok fields)
      (hreduced : reduced.map (·.1) = fields.map (·.name))
      (hfull : full.map (·.1) = fields.map (·.name))
      (hdefault : ∀ field ∈ fields, (∀ a ∈ plan.assignments, a.target ≠ field.name) →
        reduced.lookup field.name = some field.defaultValue)
      (hfeeds : ∀ a ∈ plan.assignments, ∀ value value', reduced.lookup a.target = some value →
        full.lookup a.target = some value' → Feed.Reduced registry a.feed value value') :
      Plan.Reduced registry plan (.obj reduced) (.obj full)

/-- The same of what a feed gives. A value that is read is the same; an object or a list is null on
both sides or on none, and lists are of one length. -/
inductive Feed.Reduced (registry : Registry) : Feed Plan → Json → Json → Prop
  | value {path : Path} {conversion : Conversion} {value : Json} :
      Feed.Reduced registry (.value path conversion) value value
  | missing {link : Link} {name : String} {plan : Plan} :
      Feed.Reduced registry (.child link name plan) .null .null
  | object {link : Link} {name : String} {plan : Plan} {value value' : Json}
      (hlink : link ≠ .collection) (hobject : Plan.Reduced registry plan value value') :
      Feed.Reduced registry (.child link name plan) value value'
  | items {name : String} {plan : Plan} {items items' : List Json}
      (hlength : items.length = items'.length)
      (hitems : ∀ item item', (item, item') ∈ items.zip items' →
        Plan.Reduced registry plan item item') :
      Feed.Reduced registry (.child .collection name plan) (.arr items) (.arr items')

end

variable {registry : Registry} {form : EnumForm}

namespace Plan

/-! ### What is kept -/

variable {plan plan' : Plan}

/-- Every assignment of a pruning is one of the plan, up to the plan below. -/
theorem Pruning.exists_alike (h : plan.Pruning plan') {a : Assignment Plan}
    (ha : a ∈ plan.assignments) : ∃ a' ∈ plan'.assignments, a.Alike Pruning a' := by
  obtain ⟨-, -, -, hassignments⟩ := h
  obtain ⟨kept, hkept, hsublist⟩ := List.sublistForall₂_iff.1 hassignments
  obtain ⟨a', ha', halike⟩ := exists_of_mem_left_of_forall₂ hkept ha
  exact ⟨a', hsublist.subset ha', halike⟩

/-- A pruning assigns fields that the plan assigns, in the same order. -/
theorem Pruning.targetFields_sublist (h : plan.Pruning plan') :
    plan.targetFields.Sublist plan'.targetFields := by
  obtain ⟨-, -, -, hassignments⟩ := h
  obtain ⟨kept, hkept, hsublist⟩ := List.sublistForall₂_iff.1 hassignments
  have htargets : plan.assignments.map (·.target) = kept.map (·.target) := by
    rw [← List.forall₂_eq_eq_eq, List.forall₂_map_left_iff, List.forall₂_map_right_iff]
    exact hkept.imp fun _ _ ⟨_⟩ ↦ rfl
  rw [targetFields, htargets]
  exact hsublist.map _

end Plan

/-! ### One assignment in both plans -/

/-- The items of a list have results by a pruning wherever they have results by the whole plan. -/
theorem exists_reduced_items {child child' : Plan}
    (hbelow : ∀ source value', child'.apply registry form source = .ok value' →
      ∃ value, child.apply registry form source = .ok value ∧ child.Reduced registry value value')
    {items results' : List Json} (h : child'.applyAll registry form items = .ok results') :
    ∃ results, child.applyAll registry form items = .ok results ∧
      List.Forall₂ (child.Reduced registry) results results' := by
  obtain ⟨results, hresults, hreduced⟩ := exists_forall₂_of_forall₂
    ((mapM_eq_ok_iff.1 h).imp fun item result' ↦ hbelow item result')
  exact ⟨results, mapM_eq_ok_iff.2 hresults, hreduced⟩

/-- **A feed that is kept gives what it gave**, up to defaults below, if the plans below do. -/
theorem Feed.Alike.exists_reduced {feed feed' : Feed Plan} (h : feed.Alike Plan.Pruning feed')
    {shape : String} {entries : List (String × Json)} {field : Field}
    (hbelow : ∀ child child', feed.child? = some child → feed'.child? = some child' →
      child.Pruning child' → ∀ source value', child'.apply registry form source = .ok value' →
        ∃ value, child.apply registry form source = .ok value ∧ child.Reduced registry value value')
    {value' : Json} (hvalue' : feed'.valueFor registry form shape entries field = .ok value') :
    ∃ value, feed.valueFor registry form shape entries field = .ok value ∧
      feed.Reduced registry value value' := by
  cases h with
  | value => exact ⟨value', hvalue', .value⟩
  | @child link name child child' hchild =>
    have happly := hbelow child child' rfl rfl hchild
    rcases hsource : Json.present? entries name with - | source
    · -- Without a source only null is given, and by both.
      cases link with
      | object => simp [valueFor, hsource] at hvalue'
      | optionalObject | collection =>
        simp only [valueFor, hsource, Option.elim_none, Except.ok.injEq] at hvalue'
        subst hvalue'
        exact ⟨.null, by simp [valueFor, hsource], .missing⟩
    · by_cases hlink : link = .collection
      · subst hlink
        rw [valueFor, hsource] at hvalue'
        cases source with
        | arr items =>
          obtain ⟨results', hresults', rfl⟩ := map_eq_ok_iff.1 hvalue'
          obtain ⟨results, hresults, hreduced⟩ := exists_reduced_items happly hresults'
          obtain ⟨hlength, hitems⟩ := List.forall₂_iff_zip.1 hreduced
          refine ⟨.arr results, ?_, .items hlength fun _ _ ↦ hitems⟩
          rw [valueFor_collection_of_arr hsource, hresults, ok_map]
        | _ => cases hvalue'
      · rw [valueFor_child_of_some hlink hsource] at hvalue'
        obtain ⟨value, hvalue, hreduced⟩ := happly source value' hvalue'
        exact ⟨value, by rw [valueFor_child_of_some hlink hsource, hvalue], .object hlink hreduced⟩

/-! ### The whole plan -/

namespace Plan

variable {plan plan' : Plan}

/-- What a kept assignment gives at a level, and what the level of the whole plan has for it. -/
theorem Pruning.exists_given (h : plan.Pruning plan') (hnodup : plan'.targetFields.Nodup)
    {entries full : List (String × Json)} {fields : List Field}
    (hlast : ∀ a, plan'.AssignsLast a → ∀ field, findField? fields a.target = some field →
      ∃ value, a.feed.valueFor registry form plan'.source entries field = .ok value ∧
        full.lookup a.target = some value)
    {a : Assignment Plan} (ha : a ∈ plan.assignments)
    (hbelow : ∀ a' ∈ plan'.assignments, ∀ child child', a.feed.child? = some child →
      a'.feed.child? = some child' → child.Pruning child' → ∀ source value',
        child'.apply registry form source = .ok value' →
          ∃ value, child.apply registry form source = .ok value ∧
            child.Reduced registry value value')
    {field : Field} (hfield : findField? fields a.target = some field) :
    ∃ value value', a.feed.valueFor registry form plan.source entries field = .ok value ∧
      full.lookup a.target = some value' ∧ a.feed.Reduced registry value value' := by
  obtain ⟨a', ha', halike⟩ := h.exists_alike ha
  obtain ⟨hsource, -⟩ := h
  obtain @⟨target, origin, feed, feed', hfeed⟩ := halike
  obtain ⟨value', hvalue', hlookup'⟩ := hlast _ (assignsLast_of_nodup hnodup ha') field hfield
  rw [← hsource] at hvalue'
  obtain ⟨value, hvalue, hreduced⟩ := hfeed.exists_reduced (hbelow _ ha') hvalue'
  exact ⟨value, value', hvalue, hlookup', hreduced⟩

/-- **Leaving out assignments only puts defaults in their place.** If no node of a plan assigns a
field twice, then wherever the plan has a result a pruning of it has one too. At each level both
results have the same keys; a value that the pruning reads is the same in both, an object or a list
is null in both or compared in its turn, item by item, and what the pruning does not assign holds
its default. -/
theorem Pruning.apply_reduced {catalogue : Catalogue}
    (hregister : catalogue.register = .ok registry) (h : plan.Pruning plan')
    (hnodup : ∀ node, plan'.HasNode node → node.targetFields.Nodup)
    (form : EnumForm) {source value' : Json}
    (happly : plan'.apply registry form source = .ok value') :
    ∃ value, plan.apply registry form source = .ok value ∧ plan.Reduced registry value value' := by
  have hclosed := Registry.closed_of_register hregister
  induction plan using Plan.induction generalizing plan' source value' with
  | step plan ih =>
    obtain ⟨entries, fields, full, rfl, hfields', rfl, hfull, -, hlast'⟩ :=
      exists_level_of_apply hclosed happly
    have hfields : registry.fields plan.target = .ok fields := by
      obtain ⟨-, htarget, -⟩ := h
      exact htarget ▸ hfields'
    have hkept : plan.targetFields.Nodup := (hnodup plan' .refl).sublist h.targetFields_sublist
    have hgiven : ∀ a ∈ plan.assignments, ∀ field, findField? fields a.target = some field →
        ∃ value value', a.feed.valueFor registry form plan.source entries field = .ok value ∧
          full.lookup a.target = some value' ∧ a.feed.Reduced registry value value' :=
      fun a ha field ↦ h.exists_given (hnodup plan' .refl) hlast' ha
        fun a' ha' child child' hchild hchild' hpruning source value' ↦
          ih a ha child hchild hpruning fun node hnode ↦
            hnodup node (.head ⟨a', ha', hchild'⟩ hnode)
    obtain ⟨value, hvalue⟩ := exists_apply_of_valueFor hfields fun a ha field hfield ↦
      have ⟨value, _, hvalue, _⟩ := hgiven a ha field hfield
      ⟨value, hvalue⟩
    obtain ⟨_, _, reduced, ⟨⟩, hfields'', rfl, hreduced, hdefault, hlast⟩ :=
      exists_level_of_apply hclosed hvalue
    cases hfields.symm.trans hfields''
    refine ⟨_, hvalue, .obj hfields hreduced hfull hdefault fun a ha value value' hval hval' ↦ ?_⟩
    obtain ⟨field, hfield⟩ : ∃ field, findField? fields a.target = some field :=
      exists_findField?_of_mem (hreduced ▸ mem_map_fst_of_lookup hval)
    obtain ⟨part, part', hpart, hlookup', hpartReduced⟩ := hgiven a ha field hfield
    obtain ⟨_, hpart', hlookup⟩ := hlast a (assignsLast_of_nodup hkept ha) field hfield
    cases hpart.symm.trans hpart'
    cases hlookup.symm.trans hval
    cases hlookup'.symm.trans hval'
    exact hpartReduced

end Plan

end Pruned

namespace Blog

/-- A post that answers another one. -/
def answer : Json := .obj [
  ("Id", .int 8),
  ("Status", .int 1),
  ("Author", .null),
  ("Site", .obj [("Url", .str "blog.example")]),
  ("Tags", .arr [.obj [("Rank", .int 0)]]),
  ("Parent", post (.int 0))]

/-- Without children an answer is shown as with them, but its parent has no site. -/
theorem answer_reduced :
    postPlan.Pruning loadedPlan ∧
    (∀ node, loadedPlan.HasNode node → node.targetFields.Nodup) ∧
    ∃ full, loadedPlan.apply registry .integer answer = .ok full ∧
      ∃ value, postPlan.apply registry .integer answer = .ok value ∧
        postPlan.Reduced registry value full := by
  have hloaded :
      Plan.between registry ⟨settings.limits, true⟩ "Post" "PostView" = .ok loadedPlan := by
    with_unfolding_all rfl
  obtain ⟨plan, hplan, hpruning⟩ :=
    Plan.exists_pruning_of_ofPair (BuildSettings.tighter_loadChildren settings.limits) hloaded
  cases hplan.symm.trans between_eq
  have hnodup : ∀ node, loadedPlan.HasNode node → node.targetFields.Nodup := by
    intro node hnode
    have hclosed := Registry.closed_of_register register_eq
    have htyped := Plan.ofPair_wellTyped hclosed (Plan.ofPair_of_hasNode hloaded hnode)
    obtain ⟨-, -, -, -, hnodup, -⟩ := htyped.level hclosed
    exact hnodup
  have hfull : ∃ full, loadedPlan.apply registry .integer answer = .ok full :=
    ⟨_, by with_unfolding_all rfl⟩
  obtain ⟨full, hfull⟩ := hfull
  exact ⟨hpruning, hnodup, full, hfull, hpruning.apply_reduced register_eq hnodup .integer hfull⟩

end Blog

end Recast
