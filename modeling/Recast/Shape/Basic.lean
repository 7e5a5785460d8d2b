import Recast.Shape.Scalar

/-!
# Shapes

A *shape* is a named, ordered list of typed fields: the layout of the objects that are projected from or
onto it. Fields refer to other shapes and to enums by name, so shapes may be recursive. A target field may
declare an override, the path of the source field that feeds it.
-/

namespace Recast

/-- What a field holds. -/
inductive FieldKind where
  | scalar (type : Scalar)
  | enumeration (name : String)
  /-- One object of the given shape. -/
  | nested (shape : String)
  /-- A list of objects of the given shape. -/
  | collection (shape : String)
deriving DecidableEq, Repr, Inhabited

/-- The kind as messages speak of it. -/
def FieldKind.describe : FieldKind → String
  | .scalar type => "scalar " ++ type.name
  | .enumeration name => "enum " ++ name
  | .nested shape => "shape " ++ shape
  | .collection shape => "collection of " ++ shape

/-- The path that a target field declares for its source. Without a subfield it names a field of the source
shape; if that field is nested, the member of the target field's own name is meant. -/
structure Override where
  field : String
  subfield : Option String := none
deriving DecidableEq, Repr

/-- The path with a dot between its steps. -/
def Override.render (override : Override) : String :=
  match override.subfield with
  | none => override.field
  | some subfield => override.field ++ "." ++ subfield

/-- A field of a shape. -/
structure Field where
  name : String
  kind : FieldKind
  nullable : Bool := false
  override : Option Override := none
deriving DecidableEq, Repr

/-- What a target field holds when nothing is assigned to it, or when its source is null. -/
def Field.defaultValue (field : Field) : Json :=
  if field.nullable then .null
  else
    match field.kind with
    | .scalar type => type.defaultValue
    | .enumeration _ => .int 0
    | .nested _ => .null
    | .collection _ => .arr []

/-- A named, ordered list of fields. -/
structure Shape where
  name : String
  fields : List Field
deriving DecidableEq, Repr

/-- The field of a name. -/
def findField? (fields : List Field) (name : String) : Option Field :=
  fields.find? fun field ↦ field.name = name

/-- The field of a name. -/
def Shape.field? (shape : Shape) (name : String) : Option Field := findField? shape.fields name

/-- A named integer of an enum. -/
structure EnumMember where
  name : String
  value : Int
deriving DecidableEq, Repr

/-- An enum: named integers, several of which may be equal. -/
structure EnumType where
  name : String
  members : List EnumMember
deriving DecidableEq, Repr

/-- The integer of a member. -/
def EnumType.valueOf? (type : EnumType) (member : String) : Option Int :=
  (type.members.find? fun m ↦ m.name = member).map (·.value)

/-- The first member with an integer. -/
def EnumType.nameOf? (type : EnumType) (value : Int) : Option String :=
  (type.members.find? fun m ↦ m.value = value).map (·.name)

end Recast
