import Recast.Proofs.Outcome
import Recast.Sql.Select

/-!
# The columns of a plan

What lowering makes of a plan, said once. An expression feeds a target field (`Feed.toExpr`), and
the tuple of a plan is made of these (`toTuple_eq`). A select list has a column for each *leaf* of
the plan: an assignment of a value or a collection that is reached through objects (`Plan.leaves`).
The column of a leaf is known from the leaf alone (`resultColumns_eq`): its name is the path to it,
and the objects above it that may be null guard it, the outermost first.
-/

namespace Recast

/-! ### Expressions -/

/-- The expression that feeds a target field; `mayBeNull` tells whether the object may be null. -/
def Feed.toExpr (object : ObjectRef) (mayBeNull : Bool) : Feed Plan → Expr
  | .value path conversion => readExpr object mayBeNull path conversion
  | .child .object field plan => plan.toTuple (.value (object.field field)) mayBeNull
  | .child .optionalObject field plan =>
    (plan.toTuple (.value (object.field field)) true).guardedBy (object.field field)
  | .child .collection field plan =>
    object.mapField field plan.depth (plan.toTuple (itemRef plan.depth) false)

namespace Plan

variable {object : ObjectRef} {mayBeNull : Bool}

theorem tupleItems_eq {assignments : List (Assignment Plan)} :
    tupleItems object mayBeNull assignments =
      assignments.map fun a ↦ a.feed.toExpr object mayBeNull := by
  induction assignments with
  | nil => rfl
  | cons assignment rest ih =>
    obtain ⟨target, origin, ⟨path, conversion⟩ | ⟨- | - | -, field, plan⟩⟩ := assignment <;>
      rw [tupleItems, List.map_cons, ih] <;> rfl

/-- **A tuple has a member for each assignment**, in order. -/
theorem toTuple_eq (plan : Plan) :
    plan.toTuple object mayBeNull =
      .tuple (plan.assignments.map fun a ↦ a.feed.toExpr object mayBeNull) := by
  obtain ⟨source, target, depth, assignments⟩ := plan
  rw [toTuple, tupleItems_eq]

end Plan

/-! ### Leaves -/

/-- An object on the way to a leaf: the target field that holds it, and the source field it comes
from. -/
structure Owner where
  target : String
  link : Link
  field : String
deriving DecidableEq, Repr

/-- An assignment that gives a column: the objects on the way to it, the outermost first, and the
plan that it belongs to. -/
structure Leaf where
  owners : List Owner
  plan : Plan
  assignment : Assignment Plan

namespace Leaf

/-- The leaf seen from the owner of its outermost object. -/
def below (owner : Owner) (leaf : Leaf) : Leaf := { leaf with owners := owner :: leaf.owners }

/-- The target fields on the way to a leaf and its own. -/
def path (leaf : Leaf) : List String := leaf.owners.map (·.target) ++ [leaf.assignment.target]

/-- The column of an assignment below owners, for an object with a path and guards of its own. -/
def columnFrom (object : ObjectRef) (path : String) (guards : List Expr)
    (assignment : Assignment Plan) : List Owner → ResultColumn
  | [] =>
    ⟨(assignment.feed.toExpr object (!guards.isEmpty)).guardedByAll guards,
      path ++ assignment.target⟩
  | owner :: owners =>
    columnFrom (.value (object.field owner.field)) (path ++ owner.target ++ ".")
      (if owner.link = .optionalObject then guards ++ [object.field owner.field] else guards)
      assignment owners

/-- The column of a leaf, for an object with a path and guards of its own. -/
def column (object : ObjectRef) (path : String) (guards : List Expr) (leaf : Leaf) : ResultColumn :=
  columnFrom object path guards leaf.assignment leaf.owners

variable {object : ObjectRef} {guards : List Expr}

/-- **The name of a column is the path to its leaf.** -/
@[simp] theorem column_name (leaf : Leaf) (path : String) :
    (leaf.column object path guards).name = path ++ ".".intercalate leaf.path := by
  obtain ⟨owners, plan, assignment⟩ := leaf
  induction owners generalizing object path guards with
  | nil => rfl
  | cons owner owners ih =>
    have hpath : (⟨owner :: owners, plan, assignment⟩ : Leaf).path =
        owner.target :: (⟨owners, plan, assignment⟩ : Leaf).path := rfl
    rw [hpath, String.intercalate_cons_of_ne_nil (by simp [Leaf.path])]
    simpa only [column, columnFrom, String.append_assoc] using ih (path ++ owner.target ++ ".")

/-- **The guards of an object guard every column below it**, and stand before all others. -/
theorem exists_column_expression (leaf : Leaf) (object : ObjectRef) (path : String)
    (guards : List Expr) :
    ∃ expr more, (leaf.column object path guards).expression =
      Expr.guardedByAll (guards ++ more) expr := by
  obtain ⟨owners, plan, assignment⟩ := leaf
  induction owners generalizing object path guards with
  | nil => exact ⟨_, [], by rw [List.append_nil]; rfl⟩
  | cons owner owners ih =>
    obtain ⟨expr, more, h⟩ := ih (.value (object.field owner.field)) (path ++ owner.target ++ ".")
      (if owner.link = .optionalObject then guards ++ [object.field owner.field] else guards)
    refine ⟨expr, ?_⟩
    split at h
    · rename_i hlink
      exact ⟨object.field owner.field :: more, by simpa [column, columnFrom, hlink] using h⟩
    · rename_i hlink
      exact ⟨more, by simpa [column, columnFrom, hlink] using h⟩

end Leaf

namespace Plan

mutual

/-- The leaves of a plan, in the order of its columns. -/
def leaves : Plan → List Leaf
  | ⟨source, target, depth, assignments⟩ =>
    leavesAll ⟨source, target, depth, assignments⟩ assignments

/-- The leaves of assignments of a plan. -/
def leavesAll (owner : Plan) : List (Assignment Plan) → List Leaf
  | [] => []
  | ⟨target, origin, .value path conversion⟩ :: rest =>
    ⟨[], owner, ⟨target, origin, .value path conversion⟩⟩ :: leavesAll owner rest
  | ⟨target, origin, .child .collection field plan⟩ :: rest =>
    ⟨[], owner, ⟨target, origin, .child .collection field plan⟩⟩ :: leavesAll owner rest
  | ⟨target, _, .child .object field plan⟩ :: rest =>
    plan.leaves.map (.below ⟨target, .object, field⟩) ++ leavesAll owner rest
  | ⟨target, _, .child .optionalObject field plan⟩ :: rest =>
    plan.leaves.map (.below ⟨target, .optionalObject, field⟩) ++ leavesAll owner rest

end

/-- The leaf is that of an assignment of the plan, or it is below the object that one gives. -/
inductive HasLeaf (plan : Plan) (assignment : Assignment Plan) : Leaf → Prop
  | own (hown : ∀ link field child, assignment.feed = .child link field child →
        link = .collection) :
      HasLeaf plan assignment ⟨[], plan, assignment⟩
  | below {link : Link} {field : String} {child : Plan} {inner : Leaf}
      (hfeed : assignment.feed = .child link field child) (hlink : link ≠ .collection)
      (hinner : inner ∈ child.leaves) :
      HasLeaf plan assignment (inner.below ⟨assignment.target, link, field⟩)

@[simp] theorem mem_leavesAll_cons {plan : Plan} {assignment : Assignment Plan}
    {rest : List (Assignment Plan)} {leaf : Leaf} :
    leaf ∈ leavesAll plan (assignment :: rest) ↔
      plan.HasLeaf assignment leaf ∨ leaf ∈ leavesAll plan rest := by
  obtain ⟨target, origin, ⟨path, conversion⟩ | ⟨link, field, child⟩⟩ := assignment
  · rw [leavesAll, List.mem_cons]
    refine or_congr_left ⟨?_, ?_⟩
    · rintro rfl
      exact .own nofun
    · rintro (_ | ⟨⟨⟩⟩)
      rfl
  · cases link with
    | object | optionalObject =>
      rw [leavesAll, List.mem_append, List.mem_map]
      refine or_congr_left ⟨?_, ?_⟩
      · rintro ⟨inner, hinner, rfl⟩
        exact .below rfl nofun hinner
      · rintro (hown | ⟨⟨⟩, -, hinner⟩)
        · cases hown _ _ _ rfl
        · exact ⟨_, hinner, rfl⟩
    | collection =>
      rw [leavesAll, List.mem_cons]
      refine or_congr_left ⟨?_, ?_⟩
      · rintro rfl
        exact .own fun _ _ _ h ↦ by cases h; rfl
      · rintro (_ | ⟨⟨⟩, hlink, -⟩)
        · rfl
        · exact absurd rfl hlink

/-- **The leaves of a plan are its own and those below its objects.** -/
theorem mem_leaves_iff {plan : Plan} {leaf : Leaf} :
    leaf ∈ plan.leaves ↔ ∃ a ∈ plan.assignments, plan.HasLeaf a leaf := by
  have hall : ∀ assignments, leaf ∈ leavesAll plan assignments ↔
      ∃ a ∈ assignments, plan.HasLeaf a leaf := by
    intro assignments
    induction assignments with
    | nil => simp [leavesAll]
    | cons assignment rest ih => simp [ih]
  obtain ⟨source, target, depth, assignments⟩ := plan
  rw [leaves]
  exact hall assignments

/-- **The columns of a plan are those of its leaves.** -/
theorem resultColumns_eq (plan : Plan) (object : ObjectRef) (path : String) (guards : List Expr) :
    plan.resultColumns object path guards = plan.leaves.map (Leaf.column object path guards) := by
  induction plan using Plan.induction generalizing object path guards with
  | step plan ih =>
    have hall : ∀ assignments, (∀ a ∈ assignments, a ∈ plan.assignments) →
        resultColumnsAll object path guards assignments =
          (leavesAll plan assignments).map (Leaf.column object path guards) := by
      intro assignments hmem
      induction assignments with
      | nil => rfl
      | cons assignment rest ihRest =>
        obtain ⟨hhead, htail⟩ := List.forall_mem_cons.1 hmem
        have hrest := ihRest htail
        obtain ⟨target, origin, ⟨path', conversion⟩ | ⟨- | - | -, field, child⟩⟩ := assignment
        · rw [resultColumnsAll, leavesAll, List.map_cons, hrest]
          rfl
        · rw [resultColumnsAll, leavesAll, List.map_append, List.map_map, hrest,
            ih _ hhead child rfl]
          rfl
        · rw [resultColumnsAll, leavesAll, List.map_append, List.map_map, hrest,
            ih _ hhead child rfl]
          rfl
        · rw [resultColumnsAll, leavesAll, List.map_cons, hrest]
          rfl
    obtain ⟨source, target, depth, assignments⟩ := plan
    rw [resultColumns, leaves]
    exact hall assignments fun _ h ↦ h

/-- **A plan has a select list exactly when its source is valid and it is not empty**, the alias
being a word and the table, if there is one, the name of a table. -/
theorem toSelect_eq_ok_iff {plan : Plan} {source : SelectSource} {select : Select} :
    plan.toSelect source = .ok select ↔
      Text.isWord source.tableAlias = true ∧
      (∀ name, source.table = some name → isTableName name = true) ∧ plan.isEmpty = false ∧
      select = ⟨plan.resultColumns (.row source.tableAlias) "" [], source⟩ := by
  obtain ⟨table, tableAlias⟩ := source
  unfold toSelect
  rcases table with - | name
  · simp only [guard_eq_ok_iff]
    simp [@eq_comm _ select]
  · simp only [guard_eq_ok_iff]
    simp [@eq_comm _ select]

/-- A plan that is not empty has a select list for every valid source. -/
theorem toSelect_eq {plan : Plan} {source : SelectSource} (hplan : plan.isEmpty = false)
    (halias : Text.isWord source.tableAlias = true)
    (htable : ∀ name, source.table = some name → isTableName name = true) :
    plan.toSelect source = .ok ⟨plan.resultColumns (.row source.tableAlias) "" [], source⟩ :=
  toSelect_eq_ok_iff.2 ⟨halias, htable, hplan, rfl⟩

end Plan

end Recast
