import Recast.Proofs.Sql.Grammar

/-!
# Parameters in scope

A map over a collection has a parameter that stands for the item, and it is named by the depth of
the plan for the items. Nothing keeps depths apart, so maps inside one another may share a name, and
a table may be named like a parameter. Whether an item, or the row, is what is read is therefore a
matter of where a name stands.

`Expr.Occurs` says where: below which maps an expression is part of another. In a select list every
parameter is that of the innermost map around it, and columns stand outside of all maps
(`Plan.parameters_innermost`). The proof gives each expression the parameter of the innermost map
around it as its scope (`Expr.Scoped`). Lowered expressions keep track of this parameter, so they are
in scope, and the names of the members that they read are source fields that the plan names
(`Plan.scoped_of_toSelect`).
-/

namespace Recast

/-! ### Parts of an expression -/

namespace Expr

/-- The expression is part of another, in the bodies of maps with these parameters, the outermost
first. -/
inductive Occurs (part : Expr) : List String → Expr → Prop
  | self : Occurs part [] part
  | tupleElement {binders : List String} {operand : Expr} {name : String}
      (h : Occurs part binders operand) : Occurs part binders (.tupleElement operand name)
  | isNull {binders : List String} {operand : Expr} (h : Occurs part binders operand) :
      Occurs part binders (.isNull operand)
  | condition {binders : List String} {condition consequence alternative : Expr}
      (h : Occurs part binders condition) :
      Occurs part binders (.ifThenElse condition consequence alternative)
  | consequence {binders : List String} {condition consequence alternative : Expr}
      (h : Occurs part binders consequence) :
      Occurs part binders (.ifThenElse condition consequence alternative)
  | alternative {binders : List String} {condition consequence alternative : Expr}
      (h : Occurs part binders alternative) :
      Occurs part binders (.ifThenElse condition consequence alternative)
  | cast {binders : List String} {operand : Expr} {type : String}
      (h : Occurs part binders operand) : Occurs part binders (.cast operand type)
  | body {binders : List String} {binder : String} {body array : Expr}
      (h : Occurs part binders body) :
      Occurs part (binder :: binders) (.arrayMap binder body array)
  | array {binders : List String} {binder : String} {body array : Expr}
      (h : Occurs part binders array) : Occurs part binders (.arrayMap binder body array)
  | item {binders : List String} {items : List Expr} {item : Expr} (hitem : item ∈ items)
      (h : Occurs part binders item) : Occurs part binders (.tuple items)

/-- **The expression is in scope** where the innermost map around it has the parameter `scope`, if
there is one: parameters are that of the innermost map, and columns are read outside of maps only.
The members that it reads have names with the property `member`. -/
inductive Scoped (member : String → Prop) : Option String → Expr → Prop
  | column {table name : String} : Scoped member none (.column table name)
  | parameter {name : String} : Scoped member (some name) (.parameter name)
  | tupleElement {scope : Option String} {operand : Expr} {name : String}
      (hoperand : Scoped member scope operand) (hname : member name) :
      Scoped member scope (.tupleElement operand name)
  | isNull {scope : Option String} {operand : Expr} (hoperand : Scoped member scope operand) :
      Scoped member scope (.isNull operand)
  | ifThenElse {scope : Option String} {condition consequence alternative : Expr}
      (hcondition : Scoped member scope condition) (hconsequence : Scoped member scope consequence)
      (halternative : Scoped member scope alternative) :
      Scoped member scope (.ifThenElse condition consequence alternative)
  | cast {scope : Option String} {operand : Expr} {type : String}
      (hoperand : Scoped member scope operand) : Scoped member scope (.cast operand type)
  | arrayMap {scope : Option String} {binder : String} {body array : Expr}
      (hbody : Scoped member (some binder) body) (harray : Scoped member scope array) :
      Scoped member scope (.arrayMap binder body array)
  | tuple {scope : Option String} {items : List Expr}
      (hitems : ∀ item ∈ items, Scoped member scope item) : Scoped member scope (.tuple items)
  | null {scope : Option String} : Scoped member scope .null

variable {member : String → Prop} {scope : Option String} {part expr : Expr}
  {binders : List String}

theorem scoped_parameter_iff {name : String} :
    (parameter name).Scoped member scope ↔ scope = some name :=
  ⟨fun h ↦ by cases h; rfl, fun h ↦ h ▸ .parameter⟩

theorem scoped_column_iff {table name : String} :
    (column table name).Scoped member scope ↔ scope = none :=
  ⟨fun h ↦ by cases h; rfl, fun h ↦ h ▸ .column⟩

theorem Scoped.member_name {operand : Expr} {name : String}
    (h : (Expr.tupleElement operand name).Scoped member scope) : member name := by
  cases h with
  | tupleElement _ hname => exact hname

/-- **The parts of an expression in scope are in scope**, each in that of the innermost map around
it. -/
theorem Occurs.scoped (h : part.Occurs binders expr) (hexpr : expr.Scoped member scope) :
    part.Scoped member (binders.getLast?.or scope) := by
  induction h generalizing scope with
  | self => exact hexpr
  | tupleElement _ ih =>
    cases hexpr with
    | tupleElement hoperand => exact ih hoperand
  | isNull _ ih =>
    cases hexpr with
    | isNull hoperand => exact ih hoperand
  | condition _ ih =>
    cases hexpr with
    | ifThenElse hcondition => exact ih hcondition
  | consequence _ ih =>
    cases hexpr with
    | ifThenElse _ hconsequence => exact ih hconsequence
  | alternative _ ih =>
    cases hexpr with
    | ifThenElse _ _ halternative => exact ih halternative
  | cast _ ih =>
    cases hexpr with
    | cast hoperand => exact ih hoperand
  | body _ ih =>
    cases hexpr with
    | arrayMap hbody =>
      -- The parameter of the map is the scope of the parts of its body that no map of theirs holds.
      simpa [List.getLast?_cons] using ih hbody
  | array _ ih =>
    cases hexpr with
    | arrayMap _ harray => exact ih harray
  | item hitem _ ih =>
    cases hexpr with
    | tuple hitems => exact ih (hitems _ hitem)

/-- **Lowered expressions are in scope**: they read the parameter that they keep track of, and no
other. -/
theorem Lowered.scoped {table : String} (h : expr.Lowered table member scope) :
    expr.Scoped member scope := by
  induction h with
  | column => exact .column
  | parameter => exact .parameter
  | tupleElement _ hname ih => exact .tupleElement ih hname
  | guardedBy _ _ ihexpr ihguard => exact .ifThenElse (.isNull ihguard) .null ihexpr
  | cast _ _ ih => exact .cast ih
  | arrayMap _ _ ihbody iharray => exact .arrayMap ihbody iharray
  | tuple _ ih => exact .tuple ih
  | null => exact .null

end Expr

/-! ### The scope of lowered expressions -/

namespace Plan

variable {plan : Plan} {query : SelectSource} {select : Select} {column : ResultColumn}

/-- **The columns of a select list are in scope outside of all maps**, and the members that they
read are source fields that the plan names. -/
theorem scoped_of_toSelect (h : plan.toSelect query = .ok select)
    (hcolumn : column ∈ select.columns) : column.expression.Scoped plan.NamesSource none :=
  (lowered_of_toSelect h hcolumn).scoped

/-- **Every parameter is that of the innermost map around it, and columns stand outside of all
maps.** This holds of the select list of any plan, even where maps inside one another have
parameters of one name, and of any table, even where it is named like a parameter. -/
theorem parameters_innermost (h : plan.toSelect query = .ok select)
    (hcolumn : column ∈ select.columns) :
    (∀ binders name, (Expr.parameter name).Occurs binders column.expression →
      binders.getLast? = some name) ∧
    ∀ binders table name, (Expr.column table name).Occurs binders column.expression →
      binders = [] := by
  have hscoped := scoped_of_toSelect h hcolumn
  refine ⟨fun binders name hoccurs ↦ ?_, fun binders table name hoccurs ↦ ?_⟩
  · have hparameter := Expr.scoped_parameter_iff.1 (hoccurs.scoped hscoped)
    rwa [Option.or_none] at hparameter
  · have hcolumn := Expr.scoped_column_iff.1 (hoccurs.scoped hscoped)
    rw [Option.or_none] at hcolumn
    exact List.getLast?_eq_none_iff.1 hcolumn

end Plan

/-! ### A grid -/

namespace Grid

/-- The cells of a row, at the depth of the rows themselves. -/
def cellPlan : Plan := ⟨"Cell", "Cell", 3, [
  ⟨"Text", .structural, .value (.single "Text" false) .copy⟩]⟩

/-- The rows of a grid. -/
def rowPlan : Plan := ⟨"Row", "Row", 3, [
  ⟨"Cells", .structural, .child .collection "Cells" cellPlan⟩]⟩

/-- A grid is a collection of rows, and a row one of cells. -/
def plan : Plan := ⟨"Grid", "Grid", 1, [⟨"Rows", .structural, .child .collection "Rows" rowPlan⟩]⟩

/-- The map over the cells of the row for which a name stands. -/
def cellsOf (name : String) : Expr :=
  .arrayMap "x3" (.tuple [.tupleElement (.parameter "x3") "Text"])
    (.tupleElement (.parameter name) "Cells")

/-- The column of the rows, from a table that is named like the parameters. -/
def rows : Expr := .arrayMap "x3" (.tuple [cellsOf "x3"]) (.column "x3" "Rows")

/-- Rows and cells share a parameter with the table. The one whose cells are read is that of the
row, the one whose text is read is that of the cell, and the table is read outside. -/
theorem rows_in_scope :
    plan.toSelect { tableAlias := "x3" } = .ok ⟨[⟨rows, "Rows"⟩], { tableAlias := "x3" }⟩ ∧
    (Expr.parameter "x3").Occurs ["x3"] rows ∧ (Expr.parameter "x3").Occurs ["x3", "x3"] rows ∧
    (∀ binders name, (Expr.parameter name).Occurs binders rows → binders.getLast? = some name) ∧
    ∀ binders table name, (Expr.column table name).Occurs binders rows → binders = [] := by
  have hselect : plan.toSelect { tableAlias := "x3" } =
      .ok ⟨[⟨rows, "Rows"⟩], { tableAlias := "x3" }⟩ := by
    with_unfolding_all rfl
  have hcells : ∀ {binders : List String}, (Expr.parameter "x3").Occurs binders (cellsOf "x3") →
      (Expr.parameter "x3").Occurs ("x3" :: binders) rows := fun h ↦
    .body (.item List.mem_cons_self h)
  refine ⟨hselect, hcells (.array (.tupleElement .self)), ?_, ?_⟩
  · exact hcells (.body (.item List.mem_cons_self (.tupleElement .self)))
  · exact Plan.parameters_innermost hselect List.mem_cons_self

end Grid

end Recast
