import Recast.Json.Printer
import Recast.Number.Width
import Recast.Plan.Basic
import Recast.Shape.Registry

/-!
# Applying plans to instances

`Plan.apply` turns an object of the source shape into one of the target shape. The result has the
fields of the target shape in the order of declaration. A field without an assignment, or whose source is
null or absent, holds its default; a nested object or collection that is absent is null.

Enum values are carried as integers. A source may also give the name of a member of the source enum, and the
result may ask for the names of the target enum.
-/

namespace Recast

/-- How enum values are written. -/
inductive EnumForm where
  /-- As integers. -/
  | integer
  /-- As the first member of the target enum with the integer, or the integer if it has none. -/
  | name
deriving DecidableEq, Repr

/-- How an instance fails to fit a plan. -/
inductive ApplyError where
  | notAnObject (shape : String) (found : JsonType)
  | notAnArray (field : String) (found : JsonType)
  | unexpectedNull (shape field : String)
  | unknownMember (enumeration member : String)
  | invalidEnumValue (path : String) (found : Json)
  | catalogue (error : CatalogueError)
deriving Repr

/-- The message of an error. -/
def ApplyError.message : ApplyError → String
  | .notAnObject shape found => s!"Expected an object for shape `{shape}`, found {found.describe}"
  | .notAnArray field found => s!"Expected an array for collection `{field}`, found {found.describe}"
  | .unexpectedNull shape field =>
    s!"Field `{shape}.{field}` is not nullable but the source value is null"
  | .unknownMember enumeration member => s!"`{member}` is not a member of enum `{enumeration}`"
  | .invalidEnumValue path found => s!"Field `{path}` holds {found.compact}, which is not an enum value"
  | .catalogue error => s!"Shape catalog error: {error.message}"

/-! ### Reading along a path -/

/-- The value at the end of a path into an object, none if a step meets null or nothing. A value on the way
has to be an object; `shape` is the shape that the path starts from. -/
def followSteps (shape : String) (entries : List (String × Json)) :
    List Step → Except ApplyError (Option Json)
  | [] => .ok none
  | [step] => .ok (Json.present? entries step.field)
  | step :: rest =>
    match Json.present? entries step.field with
    | none => .ok none
    | some (.obj inner) => followSteps shape inner rest
    | some other => .error (.notAnObject (shape ++ "." ++ step.field) other.type)

/-! ### Converting enum values -/

/-- The integer of a number that is written as one and fits a signed word of sixty-four bits. -/
def Number.toInt64? : Number → Option Int
  | .int value => if fitsInt64 value then some value else none
  | .double _ => none

/-- The integer that a source value stands for, given the source enum if it is known. -/
def underlying (registry : Registry) (path : Path) (source : Option String) (value : Json) :
    Except ApplyError Int := do
  match value, source with
  | .num number, _ =>
    match number.toInt64? with
    | some integer => return integer
    | none => throw (.invalidEnumValue path.render value)
  | .str member, some name =>
    let type ← (registry.enumType name).mapError .catalogue
    match type.valueOf? member with
    | some integer => return integer
    | none => throw (.unknownMember name member)
  | _, _ => throw (.invalidEnumValue path.render value)

/-- An integer as a value of the target enum. -/
def enumValue (registry : Registry) (form : EnumForm) (target : String) (integer : Int) :
    Except ApplyError Json :=
  match form with
  | .integer => .ok (.int integer)
  | .name => do
    let type ← (registry.enumType target).mapError .catalogue
    return match type.nameOf? integer with
      | some name => .str name
      | none => .int integer

/-- What becomes of a source value that is present. -/
def convert (registry : Registry) (form : EnumForm) (path : Path) (conversion : Conversion)
    (value : Json) : Except ApplyError Json :=
  match conversion with
  | .copy => .ok value
  | .enumeration source target => do
    enumValue registry form target (← underlying registry path source value)

/-! ### The target object -/

/-- Every field of a shape with its default. -/
def defaultEntries (fields : List Field) : List (String × Json) :=
  fields.foldl (fun entries field ↦ insertEntry field.name field.defaultValue entries) []

namespace Plan

variable (registry : Registry) (form : EnumForm)

mutual

/-- The target object of a source object. -/
def apply : Plan → Json → Except ApplyError Json
  | ⟨sourceShape, targetShape, _, assignments⟩, source =>
    match source with
    | .obj entries => do
      let fields ← (registry.fields targetShape).mapError .catalogue
      return .obj (← assign sourceShape entries fields assignments (defaultEntries fields))
    | other => .error (.notAnObject sourceShape other.type)

/-- The target entries after the assignments. An assignment to a field that the target shape does not have
is left out. -/
def assign (sourceShape : String) (entries : List (String × Json)) (fields : List Field) :
    List (Assignment Plan) → List (String × Json) → Except ApplyError (List (String × Json))
  | [], result => .ok result
  | ⟨target, _, .value path conversion⟩ :: rest, result =>
    -- Nothing is read for a field that the target shape does not have.
    match findField? fields target with
    | none => assign sourceShape entries fields rest result
    | some field => do
      let value ← match ← followSteps sourceShape entries path.steps with
        | none => pure field.defaultValue
        | some value => convert registry form path conversion value
      assign sourceShape entries fields rest (insertEntry target value result)
  | ⟨target, _, .child link name plan⟩ :: rest, result =>
    match findField? fields target with
    | none => assign sourceShape entries fields rest result
    | some _ => do
      let value ← match link, Json.present? entries name with
        | .object, none => throw (.unexpectedNull sourceShape name)
        | .object, some value => apply plan value
        | .optionalObject, none => pure .null
        | .optionalObject, some value => apply plan value
        | .collection, none => pure .null
        | .collection, some (.arr items) => Json.arr <$> items.mapM fun item ↦ apply plan item
        | .collection, some other => throw (.notAnArray name other.type)
      assign sourceShape entries fields rest (insertEntry target value result)

end

/-- The target objects of several source objects, in order. -/
def applyAll (plan : Plan) (sources : List Json) : Except ApplyError (List Json) :=
  sources.mapM fun source ↦ plan.apply registry form source

end Plan

end Recast
