import Mathlib.Logic.Relation
import Recast.Proofs.Plan.Typing

/-!
# The nodes of a plan

The *nodes* of a plan are the plan itself and all plans below it (`Plan.HasNode`). Every node of a
compiled plan is in its turn the plan that the construction makes for the two shapes and the level
on its label (`ofPair_of_hasNode`). What is known of one level of the construction thus holds at
every node, and a property of all nodes needs no induction of its own.
-/

namespace Recast.Plan

/-- The second plan is directly below the first. -/
def HasChild (plan child : Plan) : Prop :=
  ∃ a ∈ plan.assignments, a.feed.child? = some child

/-- The second plan is the first, or somewhere below it. -/
def HasNode : Plan → Plan → Prop := Relation.ReflTransGen HasChild

variable {registry : Registry} {settings : BuildSettings} {source target : String} {depth : Nat}
  {plan node : Plan}

/-- The assignments of a plan are those that the construction makes at its level. -/
theorem exists_assigns_of_mem (hbuild : ofPair registry settings source target depth = .ok plan)
    {assignment : Assignment Plan} (ha : assignment ∈ plan.assignments) :
    ∃ sourceFields field, Assigns registry settings sourceFields depth field assignment := by
  obtain ⟨sourceFields, targetFields, hsource, htarget⟩ := exists_fields_of_ofPair hbuild
  obtain ⟨field, -, hassigns⟩ := exists_assigns_of_ofPair hsource htarget hbuild ha
  exact ⟨sourceFields, field, hassigns⟩

/-- **A node of a compiled plan is what the construction makes of its label.** -/
theorem ofPair_of_hasNode (hbuild : ofPair registry settings source target depth = .ok plan)
    (hnode : plan.HasNode node) :
    ofPair registry settings node.source node.target node.depth = .ok node := by
  induction hnode with
  | refl =>
    obtain ⟨rfl, rfl, rfl⟩ := labels_of_ofPair hbuild
    exact hbuild
  | tail _ hchild ih =>
    obtain ⟨a, ha, hchild⟩ := hchild
    obtain ⟨sourceFields, field, hassigns⟩ := exists_assigns_of_mem ih ha
    obtain ⟨s, t, level, -, -, hbelow⟩ := hassigns.exists_ofPair hchild
    obtain ⟨rfl, rfl, rfl⟩ := labels_of_ofPair hbelow
    exact hbelow

/-- Induction over a plan all of whose nodes have a property. -/
theorem node_induction {p motive : Plan → Prop}
    (step : ∀ plan : Plan, p plan →
      (∀ a ∈ plan.assignments, ∀ child, a.feed.child? = some child → motive child) → motive plan)
    (plan : Plan) (h : ∀ node, plan.HasNode node → p node) : motive plan := by
  induction plan using induction with
  | step plan ih =>
    refine step plan (h plan .refl) fun a ha child hchild ↦ ?_
    exact ih a ha child hchild fun node hnode ↦ h node (.head ⟨a, ha, hchild⟩ hnode)

/-! ### The greatest depth -/

theorem le_maxDepthAll (depth : Nat) (assignments : List (Assignment Plan)) :
    depth ≤ maxDepthAll depth assignments := by
  induction assignments generalizing depth with
  | nil => exact Nat.le_refl depth
  | cons a rest ih =>
    obtain ⟨target, origin, path | ⟨link, field, child⟩⟩ := a
    · exact ih depth
    · exact Nat.le_trans (Nat.le_max_left ..) (ih _)

theorem maxDepth_le_maxDepthAll {assignments : List (Assignment Plan)} {a : Assignment Plan}
    {child : Plan} (ha : a ∈ assignments) (hchild : a.feed.child? = some child) (depth : Nat) :
    child.maxDepth ≤ maxDepthAll depth assignments := by
  induction assignments generalizing depth with
  | nil => cases ha
  | cons b rest ih =>
    rcases List.mem_cons.1 ha with rfl | hrest
    · obtain ⟨target, origin, path | ⟨link, field, plan⟩⟩ := a <;> cases hchild
      exact Nat.le_trans (Nat.le_max_right ..) (le_maxDepthAll _ rest)
    · obtain ⟨target, origin, path | ⟨link, field, plan⟩⟩ := b
      · exact ih hrest depth
      · exact ih hrest _

/-- **No node is deeper than the greatest depth of the plan.** -/
theorem HasNode.depth_le_maxDepth (h : plan.HasNode node) : node.depth ≤ plan.maxDepth := by
  induction h using Relation.ReflTransGen.head_induction_on with
  | refl =>
    obtain ⟨source, target, depth, assignments⟩ := node
    exact le_maxDepthAll depth assignments
  | @head plan child hchild _ ih =>
    obtain ⟨a, ha, hchild⟩ := hchild
    obtain ⟨source, target, depth, assignments⟩ := plan
    exact Nat.le_trans ih (maxDepth_le_maxDepthAll ha hchild depth)

end Recast.Plan
