import Recast.Log
import Recast.Plan.Basic
import Recast.Shape.Scalar
import Recast.Sql.Expr
import Recast.Text.Word

/-!
# Plans as select lists

The source shape is taken to live in one table, its nested objects in tuple columns and its collections in
columns of arrays of tuples. `Plan.toSelect` lowers a plan into a select list for that table:

* a value becomes one column, an enum value being cast to its integer;
* an object is flattened into a column for each of its fields, named by the path to it; below an object that
  may be null every column is guarded, the outermost object first;
* a collection becomes a map over the array that makes a tuple of every item, with objects inside the items
  as tuples in their turn.

Both branches of a guard are evaluated, so a cast that a guard protects has to take null.
-/

namespace Recast

/-- An object in a query: the row of a table, or the value of an expression. -/
inductive ObjectRef where
  | row (table : String)
  | value (expr : Expr)
deriving Repr

/-- A field of the object. -/
def ObjectRef.field : ObjectRef → String → Expr
  | .row table, field => .column table field
  | .value expr, field => expr.field field

/-- The expression under guards, the first of them outermost. -/
def Expr.guardedByAll (guards : List Expr) (expr : Expr) : Expr :=
  guards.foldr (fun guard inner ↦ inner.guardedBy guard) expr

/-! ### Paths and values -/

/-- The steps from an expression onwards; `nullable` tells whether it may be null itself. -/
def stepsExpr (expr : Expr) (nullable : Bool) : List Step → Expr
  | [] => expr
  | step :: rest =>
    let inner := stepsExpr (expr.field step.field) step.nullable rest
    if nullable then inner.guardedBy expr else inner

/-- The value at the end of a path, guarded at every step on the way that may be null; null for the path
without steps. -/
def Path.toExpr (path : Path) (object : ObjectRef) : Expr :=
  match path.steps with
  | [] => .null
  | step :: rest => stepsExpr (object.field step.field) step.nullable rest

/-- The column type of enum values, which may have to take null. -/
def enumColumnType (mayBeNull : Bool) : String :=
  if mayBeNull then "Nullable(" ++ Scalar.int64.columnType ++ ")" else Scalar.int64.columnType

/-- The value that an assignment reads; `mayBeNull` tells whether the object may be null. -/
def readExpr (object : ObjectRef) (mayBeNull : Bool) (path : Path) : Conversion → Expr
  | .copy => path.toExpr object
  | .enumeration _ _ => .cast (path.toExpr object) (enumColumnType (mayBeNull || path.isNullable))

/-- The parameter that stands for an item when a plan of this depth is mapped over a collection. -/
def itemParameter (depth : Nat) : String := "x" ++ toString depth

/-- The item to which a plan of this depth is applied when it is mapped over a collection. -/
def itemRef (depth : Nat) : ObjectRef := .value (.parameter (itemParameter depth))

/-- The map over a collection field that makes `body` of every item. -/
def ObjectRef.mapField (object : ObjectRef) (field : String) (depth : Nat) (body : Expr) : Expr :=
  .arrayMap (itemParameter depth) body (object.field field)

namespace Plan

/-! ### Tuples -/

mutual

/-- The tuple of what a plan assigns, in order. -/
def toTuple (object : ObjectRef) (mayBeNull : Bool) : Plan → Expr
  | ⟨_, _, _, assignments⟩ => .tuple (tupleItems object mayBeNull assignments)

/-- The members of the tuple, one for each assignment. -/
def tupleItems (object : ObjectRef) (mayBeNull : Bool) : List (Assignment Plan) → List Expr
  | [] => []
  | ⟨_, _, .value path conversion⟩ :: rest =>
    readExpr object mayBeNull path conversion :: tupleItems object mayBeNull rest
  | ⟨_, _, .child .object field plan⟩ :: rest =>
    plan.toTuple (.value (object.field field)) mayBeNull :: tupleItems object mayBeNull rest
  | ⟨_, _, .child .optionalObject field plan⟩ :: rest =>
    (plan.toTuple (.value (object.field field)) true).guardedBy (object.field field) ::
      tupleItems object mayBeNull rest
  | ⟨_, _, .child .collection field plan⟩ :: rest =>
    object.mapField field plan.depth (plan.toTuple (itemRef plan.depth) false) ::
      tupleItems object mayBeNull rest

end

end Plan

/-! ### Result columns -/

/-- An expression with the name of the column that it gives. -/
structure ResultColumn where
  expression : Expr
  name : String
deriving Repr

/-- The column as it stands in a select list. -/
def ResultColumn.toSql (column : ResultColumn) : String :=
  column.expression.toSql ++ " AS " ++ Expr.quoteName column.name

namespace Plan

mutual

/-- The result columns of a plan. Their names start with `path`, and `guards` are the objects above the plan
that may be null, the outermost first. -/
def resultColumns (object : ObjectRef) (path : String) (guards : List Expr) : Plan → List ResultColumn
  | ⟨_, _, _, assignments⟩ => resultColumnsAll object path guards assignments

/-- The result columns of assignments. -/
def resultColumnsAll (object : ObjectRef) (path : String) (guards : List Expr) :
    List (Assignment Plan) → List ResultColumn
  | [] => []
  | ⟨target, _, .value source conversion⟩ :: rest =>
    ⟨(readExpr object (!guards.isEmpty) source conversion).guardedByAll guards, path ++ target⟩ ::
      resultColumnsAll object path guards rest
  | ⟨target, _, .child .collection field plan⟩ :: rest =>
    ⟨(object.mapField field plan.depth (plan.toTuple (itemRef plan.depth) false)).guardedByAll guards,
        path ++ target⟩ ::
      resultColumnsAll object path guards rest
  | ⟨target, _, .child .object field plan⟩ :: rest =>
    plan.resultColumns (.value (object.field field)) (path ++ target ++ ".") guards ++
      resultColumnsAll object path guards rest
  | ⟨target, _, .child .optionalObject field plan⟩ :: rest =>
    plan.resultColumns (.value (object.field field)) (path ++ target ++ ".") (guards ++ [object.field field]) ++
      resultColumnsAll object path guards rest

end

end Plan

/-! ### Queries -/

/-- Where a select list is read from. -/
structure SelectSource where
  /-- The table; without one only the select list is written. -/
  table : Option String := none
  tableAlias : String := "src"
deriving DecidableEq, Repr

/-- A select list with what it is read from. -/
structure Select where
  columns : List ResultColumn
  source : SelectSource
deriving Repr

namespace Select

/-- The names of the result columns. -/
def names (select : Select) : List String := select.columns.map (·.name)

/-- The select list by itself. -/
def columnList (select : Select) : String := ", ".intercalate (select.columns.map ResultColumn.toSql)

/-- The query, or the select list if there is no table. -/
def toSql (select : Select) : String :=
  match select.source.table with
  | none => select.columnList
  | some table => "SELECT " ++ select.columnList ++ " FROM " ++ table ++ " AS " ++ select.source.tableAlias

/-- The query with its columns, its table and the alias. -/
def toJson (select : Select) : Json :=
  .obj [("items", .arr (select.columns.map fun column ↦
      .obj [("expression", column.expression.toJson), ("col_alias", .str column.name)])),
    ("from", .ofString? select.source.table), ("table_alias", .str select.source.tableAlias)]

end Select

/-- Why a plan has no query. -/
inductive SelectError where
  | invalidAlias (tableAlias : String)
  | invalidTable (table : String)
  | emptyPlan (source target : String)
deriving DecidableEq, Repr

/-- The message of an error. -/
def SelectError.message : SelectError → String
  | .invalidAlias tableAlias => s!"Invalid table alias '{tableAlias}' (must be a plain identifier)"
  | .invalidTable table => s!"Invalid table name '{table}' (expected `table` or `database.table`)"
  | .emptyPlan source target =>
    s!"Projection {source} -> {target} has no assignments (nothing to select)"

/-- The name is a word, or two words with a dot between them. -/
def isTableName (name : String) : Bool :=
  let first := String.ofList (name.toList.takeWhile (· ≠ '.'))
  match name.toList.dropWhile (· ≠ '.') with
  | [] => Text.isWord first
  | _ :: second => Text.isWord first && Text.isWord (String.ofList second)

namespace Plan

/-- The query of a plan. -/
def toSelect (plan : Plan) (source : SelectSource) : Except SelectError Select := do
  -- The source is looked at before the plan.
  if !Text.isWord source.tableAlias then throw (.invalidAlias source.tableAlias)
  match source.table with
  | none => pure ()
  | some table => if !isTableName table then throw (.invalidTable table)
  if plan.isEmpty then throw (.emptyPlan plan.source plan.target)
  return ⟨plan.resultColumns (.row source.tableAlias) "" [], source⟩

/-- The record of a plan that was lowered. -/
def loweringRecord (plan : Plan) (select : Select) : LogRecord :=
  ⟨.debug, s!"Lowered projection {plan.source} -> {plan.target} into {select.columns.length} select items"⟩

end Plan

end Recast
