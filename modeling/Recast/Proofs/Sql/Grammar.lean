import Recast.Proofs.Plan.Nodes
import Recast.Proofs.Sql.Lowered

/-!
# The form of lowered expressions

Lowering uses the constructors of expressions in a few ways only. `Expr.Lowered` lists them, with
what is known of the names in each: the one table is that of the query, conditionals are guards,
parameters and maps are named by depths, casts are to the types of enum columns. It also keeps track
of the parameter that stands for the item, or none outside of all maps.

Every column of a select list has this form (`Plan.lowered_of_toSelect`). The lowering is followed
once, here; what else is to be known of its expressions is an induction on the form.
-/

namespace Recast

/-- **An expression in the form that lowering gives it**, where the innermost map around it has the
parameter `scope`, if there is one. Columns are those of the table, and the names of columns and
members have the property `member`. -/
inductive Expr.Lowered (table : String) (member : String → Prop) : Option String → Expr → Prop
  | column {name : String} (hname : member name) : Lowered table member none (.column table name)
  | parameter (depth : Nat) :
      Lowered table member (some (itemParameter depth)) (.parameter (itemParameter depth))
  | tupleElement {scope : Option String} {operand : Expr} {name : String}
      (hoperand : Lowered table member scope operand) (hname : member name) :
      Lowered table member scope (.tupleElement operand name)
  | guardedBy {scope : Option String} {expr guard : Expr} (hexpr : Lowered table member scope expr)
      (hguard : Lowered table member scope guard) :
      Lowered table member scope (expr.guardedBy guard)
  | cast {scope : Option String} {operand : Expr} (hoperand : Lowered table member scope operand)
      (mayBeNull : Bool) :
      Lowered table member scope (.cast operand (enumColumnType mayBeNull))
  | arrayMap {scope : Option String} {depth : Nat} {body array : Expr}
      (hbody : Lowered table member (some (itemParameter depth)) body)
      (harray : Lowered table member scope array) :
      Lowered table member scope (.arrayMap (itemParameter depth) body array)
  | tuple {scope : Option String} {items : List Expr}
      (hitems : ∀ item ∈ items, Lowered table member scope item) :
      Lowered table member scope (.tuple items)
  | null {scope : Option String} : Lowered table member scope .null

variable {table : String} {member : String → Prop} {scope : Option String} {object : ObjectRef}
  {mayBeNull : Bool}

theorem Expr.Lowered.guardedByAll {expr : Expr} {guards : List Expr}
    (hexpr : expr.Lowered table member scope)
    (hguards : ∀ guard ∈ guards, guard.Lowered table member scope) :
    (guardedByAll guards expr).Lowered table member scope := by
  induction guards with
  | nil => exact hexpr
  | cons guard rest ih =>
    obtain ⟨hguard, hrest⟩ := List.forall_mem_cons.1 hguards
    exact (ih hrest).guardedBy hguard

/-! ### Objects and paths -/

/-- The fields of the object may be read in this scope: those of the row outside of all maps. -/
def ObjectRef.Lowered (table : String) (member : String → Prop) (scope : Option String) :
    ObjectRef → Prop
  | .row name => name = table ∧ scope = none
  | .value expr => expr.Lowered table member scope

theorem ObjectRef.lowered_row : (ObjectRef.row table).Lowered table member none := ⟨rfl, rfl⟩

theorem ObjectRef.Lowered.field (h : object.Lowered table member scope) {name : String}
    (hname : member name) : (object.field name).Lowered table member scope := by
  cases object with
  | row =>
    obtain ⟨rfl, rfl⟩ := h
    exact .column hname
  | value expr => exact .tupleElement h hname

theorem lowered_itemRef (depth : Nat) :
    (itemRef depth).Lowered table member (some (itemParameter depth)) :=
  Expr.Lowered.parameter depth

theorem lowered_stepsExpr {expr : Expr} (hexpr : expr.Lowered table member scope)
    {steps : List Step} (hsteps : ∀ step ∈ steps, member step.field) (nullable : Bool) :
    (stepsExpr expr nullable steps).Lowered table member scope := by
  induction steps generalizing expr nullable with
  | nil => exact hexpr
  | cons step rest ih =>
    obtain ⟨hstep, hrest⟩ := List.forall_mem_cons.1 hsteps
    have hinner := ih (hexpr.tupleElement hstep) hrest step.nullable
    rw [stepsExpr]
    split
    · exact hinner.guardedBy hexpr
    · exact hinner

theorem lowered_toExpr {path : Path} (hobject : object.Lowered table member scope)
    (hsteps : ∀ step ∈ path.steps, member step.field) :
    (path.toExpr object).Lowered table member scope := by
  obtain ⟨- | ⟨step, rest⟩⟩ := path
  · exact .null
  · obtain ⟨hstep, hrest⟩ := List.forall_mem_cons.1 hsteps
    exact lowered_stepsExpr (hobject.field hstep) hrest step.nullable

/-! ### Plans -/

/-- The source fields that a feed names. -/
def Feed.sourceNames {P : Type} : Feed P → List String
  | .value path _ => path.steps.map (·.field)
  | .child _ field _ => [field]

/-- What feeds a target field is lowered in the scope of the object, if the tuple of a plan below is
lowered in the scope of whatever it is made of. -/
theorem Feed.lowered_toExpr {feed : Feed Plan} (hobject : object.Lowered table member scope)
    (hnames : ∀ name ∈ feed.sourceNames, member name)
    (hchild : ∀ child, feed.child? = some child → ∀ scope object mayBeNull,
      ObjectRef.Lowered table member scope object →
      (child.toTuple object mayBeNull).Lowered table member scope) :
    (feed.toExpr object mayBeNull).Lowered table member scope := by
  rcases feed with ⟨path, conversion⟩ | ⟨link, field, child⟩
  · have hpath := Recast.lowered_toExpr hobject fun step hstep ↦
      hnames _ (List.mem_map_of_mem hstep)
    cases conversion with
    | copy => exact hpath
    | enumeration => exact .cast hpath _
  · have hfield := hobject.field (hnames field List.mem_cons_self)
    have htuple := hchild child rfl
    cases link with
    | object => exact htuple _ (.value _) _ hfield
    | optionalObject => exact (htuple _ (.value _) _ hfield).guardedBy hfield
    | collection => exact .arrayMap (htuple _ _ _ (lowered_itemRef child.depth)) hfield

namespace Plan

variable {plan child : Plan}

/-- The plan names the source field, at some node. -/
def NamesSource (plan : Plan) (name : String) : Prop :=
  ∃ node, plan.HasNode node ∧ ∃ a ∈ node.assignments, name ∈ a.feed.sourceNames

theorem NamesSource.of_child {name : String} (h : child.NamesSource name)
    (hchild : plan.HasChild child) : plan.NamesSource name := by
  obtain ⟨node, hnode, hname⟩ := h
  exact ⟨node, .head hchild hnode, hname⟩

/-- **The tuple of a plan is lowered in the scope of the object that it is made of**, whatever the
depths in the plan are. -/
theorem lowered_toTuple (hnames : ∀ name, plan.NamesSource name → member name)
    (scope : Option String) (object : ObjectRef) (mayBeNull : Bool)
    (hobject : object.Lowered table member scope) :
    (plan.toTuple object mayBeNull).Lowered table member scope := by
  induction plan using Plan.induction generalizing scope object mayBeNull with
  | step plan ih =>
    rw [toTuple_eq]
    refine .tuple (List.forall_mem_map.2 fun a ha ↦ ?_)
    refine Feed.lowered_toExpr hobject (fun name hname ↦ hnames name ⟨plan, .refl, a, ha, hname⟩) ?_
    intro child hchild
    exact ih a ha child hchild fun name hname ↦ hnames name (hname.of_child ⟨a, ha, hchild⟩)

/-- The columns of a plan are lowered outside of all maps. -/
theorem lowered_column (hnames : ∀ name, plan.NamesSource name → member name)
    (hobject : object.Lowered table member none) {guards : List Expr}
    (hguards : ∀ guard ∈ guards, guard.Lowered table member none) {leaf : Leaf}
    (hleaf : leaf ∈ plan.leaves) (path : String) :
    (leaf.column object path guards).expression.Lowered table member none := by
  induction plan using Plan.induction generalizing object guards leaf path with
  | step plan ih =>
    obtain ⟨a, ha, hleaf⟩ := mem_leaves_iff.1 hleaf
    have hown : ∀ name ∈ a.feed.sourceNames, member name := fun name hname ↦
      hnames name ⟨plan, .refl, a, ha, hname⟩
    have hbelow : ∀ child, a.feed.child? = some child →
        ∀ name, child.NamesSource name → member name := fun child hchild name hname ↦
      hnames name (hname.of_child ⟨a, ha, hchild⟩)
    cases hleaf with
    | own =>
      refine (Feed.lowered_toExpr hobject hown ?_).guardedByAll hguards
      exact fun child hchild ↦ lowered_toTuple (hbelow child hchild)
    | @below link field child inner hfeed hlink hinner =>
      have hchild : a.feed.child? = some child := by
        rw [hfeed]
        rfl
      have hfield := hobject.field (hown field (by simp [hfeed, Feed.sourceNames]))
      have hguards' : ∀ guard ∈ if link = .optionalObject then guards ++ [object.field field]
          else guards, guard.Lowered table member none := by
        split
        · exact List.forall_mem_append.2 ⟨hguards, List.forall_mem_singleton.2 hfield⟩
        · exact hguards
      have hvalue : (ObjectRef.value (object.field field)).Lowered table member none := hfield
      exact ih a ha child hchild (hbelow child hchild) hvalue hguards' hinner
        (path ++ a.target ++ ".")

/-- **The columns of a select list have the form of lowered expressions**, outside of all maps: they
read the table of the query, and columns and members are source fields that the plan names. -/
theorem lowered_of_toSelect {query : SelectSource} {select : Select} {column : ResultColumn}
    (h : plan.toSelect query = .ok select) (hcolumn : column ∈ select.columns) :
    column.expression.Lowered query.tableAlias plan.NamesSource none := by
  obtain ⟨-, -, -, rfl⟩ := toSelect_eq_ok_iff.1 h
  rw [resultColumns_eq] at hcolumn
  obtain ⟨leaf, hleaf, rfl⟩ := List.mem_map.1 hcolumn
  exact lowered_column (fun _ ↦ id) ObjectRef.lowered_row (List.forall_mem_nil _) hleaf ""

end Plan

end Recast
