import Recast.Json.Printer
import Recast.Json.Record

/-!
# Query expressions

The ClickHouse expressions that a plan is lowered into: columns, members of tuples, guards against null,
casts, and a map over an array whose parameter stands for an item. `Expr.toSql` writes them; as data they
are also written and read as JSON.
-/

namespace Recast

/-- A query expression. -/
inductive Expr where
  | column (table name : String)
  /-- The parameter of a map over an array. -/
  | parameter (name : String)
  | tupleElement (operand : Expr) (name : String)
  | isNull (operand : Expr)
  | ifThenElse (condition consequence alternative : Expr)
  | cast (operand : Expr) (type : String)
  | arrayMap (binder : String) (body array : Expr)
  | tuple (items : List Expr)
  | null
deriving Repr, Inhabited

namespace Expr

/-- The member of a tuple. -/
def field (expr : Expr) (name : String) : Expr := .tupleElement expr name

/-- The expression where `guard` is not null, and null where it is. -/
def guardedBy (expr guard : Expr) : Expr := .ifThenElse (.isNull guard) .null expr

/-! ### Writing -/

/-- A name between backticks, a backtick in it written twice. -/
def quoteName (name : String) : String :=
  "`" ++ String.ofList (name.toList.flatMap fun c ↦ if c = '`' then ['`', '`'] else [c]) ++ "`"

/-- A text between apostrophes, an apostrophe in it behind a backslash. -/
def quoteText (text : String) : String :=
  "'" ++ String.ofList (text.toList.flatMap fun c ↦ if c = '\'' then ['\\', '\''] else [c]) ++ "'"

mutual

/-- The expression as it stands in a query. -/
def toSql : Expr → String
  | .column table name => table ++ "." ++ quoteName name
  | .parameter name => name
  | .tupleElement operand name => "tupleElement(" ++ operand.toSql ++ ", " ++ quoteText name ++ ")"
  | .isNull operand => "isNull(" ++ operand.toSql ++ ")"
  | .ifThenElse condition consequence alternative =>
    "if(" ++ condition.toSql ++ ", " ++ consequence.toSql ++ ", " ++ alternative.toSql ++ ")"
  | .cast operand type => "CAST(" ++ operand.toSql ++ " AS " ++ type ++ ")"
  | .arrayMap binder body array =>
    "arrayMap(" ++ binder ++ " -> " ++ body.toSql ++ ", " ++ array.toSql ++ ")"
  | .tuple items => "tuple(" ++ ", ".intercalate (toSqlAll items) ++ ")"
  | .null => "NULL"

/-- The expressions one by one. -/
def toSqlAll : List Expr → List String
  | [] => []
  | item :: rest => item.toSql :: toSqlAll rest

end

/-! ### As JSON -/

/-- A variant with its contents. -/
def variantJson (name : String) (contents : Json) : Json := .obj [(name, contents)]

mutual

/-- The expression as a variant named for its sort; null is the name alone. -/
def toJson : Expr → Json
  | .column table name =>
    variantJson "Column" (.obj [("table_alias", .str table), ("column", .str name)])
  | .parameter name => variantJson "LambdaParam" (.str name)
  | .tupleElement operand name =>
    variantJson "TupleElement" (.obj [("tuple", operand.toJson), ("name", .str name)])
  | .isNull operand => variantJson "IsNull" operand.toJson
  | .ifThenElse condition consequence alternative =>
    variantJson "If" (.obj [("condition", condition.toJson), ("then", consequence.toJson),
      ("otherwise", alternative.toJson)])
  | .cast operand type => variantJson "Cast" (.obj [("expr", operand.toJson), ("to_type", .str type)])
  | .arrayMap binder body array =>
    variantJson "ArrayMap" (.obj [("param", .str binder), ("body", body.toJson),
      ("array", array.toJson)])
  | .tuple items => variantJson "Tuple" (.arr (toJsonAll items))
  | .null => .str "Null"

/-- The expressions one by one. -/
def toJsonAll : List Expr → List Json
  | [] => []
  | item :: rest => item.toJson :: toJsonAll rest

end

/-- An expression from a variant; null is written as its name, or as a variant with nothing in it. -/
def ofJson? (value : Json) : Option Expr := do
  if value.name? = some "Null" then return .null
  else
    let (name, contents) ← value.variant?
    match name with
    | "LambdaParam" => return .parameter (← contents.1.string?)
    | "IsNull" => return .isNull (← ofJson? contents.1)
    | "Tuple" =>
      let items ← contents.1.items?
      return .tuple (← items.mapM fun item ↦ ofJson? item.1)
    | "Column" =>
      let record ← contents.1.object?
      return .column (← record.required "table_alias" Json.string?)
        (← record.required "column" Json.string?)
    | "TupleElement" =>
      let record ← contents.1.object?
      let operand ← record.lookup "tuple"
      return .tupleElement (← ofJson? operand.1) (← record.required "name" Json.string?)
    | "If" =>
      let record ← contents.1.object?
      let condition ← record.lookup "condition"
      let consequence ← record.lookup "then"
      let alternative ← record.lookup "otherwise"
      return .ifThenElse (← ofJson? condition.1) (← ofJson? consequence.1) (← ofJson? alternative.1)
    | "Cast" =>
      let record ← contents.1.object?
      let operand ← record.lookup "expr"
      return .cast (← ofJson? operand.1) (← record.required "to_type" Json.string?)
    | "ArrayMap" =>
      let record ← contents.1.object?
      let body ← record.lookup "body"
      let array ← record.lookup "array"
      return .arrayMap (← record.required "param" Json.string?) (← ofJson? body.1)
        (← ofJson? array.1)
    | _ => none
termination_by sizeOf value
decreasing_by
  · exact contents.2
  · exact Nat.lt_trans item.2 contents.2
  · exact Nat.lt_trans operand.2 contents.2
  · exact Nat.lt_trans condition.2 contents.2
  · exact Nat.lt_trans consequence.2 contents.2
  · exact Nat.lt_trans alternative.2 contents.2
  · exact Nat.lt_trans operand.2 contents.2
  · exact Nat.lt_trans body.2 contents.2
  · exact Nat.lt_trans array.2 contents.2

end Expr

end Recast
