import Recast.Shape.Basic
import Recast.Text.Word
import Recast.Log

/-!
# The registry

A catalogue is a list of declared enums and shapes. `Catalogue.register` checks it as a whole: names are
words, no name is declared twice in its scope, and every reference leads to a declaration. Shapes may refer
to each other in any order and in cycles. What is registered never changes, so a lookup in a registry fails
only for a name that was never declared.
-/

namespace Recast

/-- What a dangling field refers to. -/
inductive Reference where
  | enumeration (name : String)
  | shape (name : String)
deriving DecidableEq, Repr

/-- The reference as messages speak of it. -/
def Reference.describe : Reference → String
  | .enumeration name => s!"enum `{name}`"
  | .shape name => s!"shape `{name}`"

/-- Why a declaration is refused or a lookup fails. -/
inductive CatalogueError where
  | unknownShape (shape : String)
  | unknownEnum (name : String)
  | duplicateShape (shape : String)
  | duplicateEnum (name : String)
  | duplicateField (shape field : String)
  | duplicateMember (enumeration member : String)
  | invalidIdentifier (name : String)
  | danglingReference (shape field : String) (reference : Reference)
  /-- A field that is declared with none or several of the four kinds. -/
  | kindCount (shape field : String) (count : Nat)
  | unknownScalar (text : String)
deriving DecidableEq, Repr

/-- The message of an error. -/
def CatalogueError.message : CatalogueError → String
  | .unknownShape shape => s!"No shape registered as `{shape}`"
  | .unknownEnum name => s!"No enum type registered as `{name}`"
  | .duplicateShape shape => s!"Shape `{shape}` is registered twice"
  | .duplicateEnum name => s!"Enum type `{name}` is registered twice"
  | .duplicateField shape field => s!"Shape `{shape}` declares field `{field}` more than once"
  | .duplicateMember enumeration member =>
    s!"Enum type `{enumeration}` declares member `{member}` more than once"
  | .invalidIdentifier name => s!"Invalid identifier '{name}': must match [A-Za-z_][A-Za-z0-9_]*"
  | .danglingReference shape field reference =>
    s!"Field `{shape}.{field}` references unknown {reference.describe}"
  | .kindCount shape field count =>
    s!"Invalid definition for field `{shape}.{field}`: " ++
      s!"expected exactly one of `type`, `enum`, `shape`, `collection` but found {count}"
  | .unknownScalar text => s!"Unknown scalar type '{text}'"

/-- Declarations in the order in which they were made. -/
structure Catalogue where
  name : String
  enums : List EnumType
  shapes : List Shape
deriving DecidableEq, Repr

/-- A catalogue that has been checked. -/
structure Registry where
  name : String
  enums : List EnumType
  shapes : List Shape
deriving DecidableEq, Repr

/-! ### Checks -/

/-- The name is a word. -/
def checkName (name : String) : Except CatalogueError Unit :=
  if Text.isWord name then pure () else throw (.invalidIdentifier name)

namespace EnumType

/-- Members after those with the names in `seen`: each name is a word and new. -/
def checkMembers (type : EnumType) (seen : List String) : List EnumMember → Except CatalogueError Unit
  | [] => pure ()
  | member :: rest => do
    checkName member.name
    if seen.contains member.name then throw (.duplicateMember type.name member.name)
    checkMembers type (member.name :: seen) rest

/-- The enum by itself is well formed. -/
def check (type : EnumType) : Except CatalogueError Unit := do
  checkName type.name
  type.checkMembers [] type.members

end EnumType

namespace Shape

/-- The steps of an override are words. -/
def checkOverride : Option Override → Except CatalogueError Unit
  | none => pure ()
  | some override => do
    checkName override.field
    match override.subfield with
    | none => pure ()
    | some subfield => checkName subfield

/-- Fields after those with the names in `seen`: each name is a word and new. -/
def checkFields (shape : Shape) (seen : List String) : List Field → Except CatalogueError Unit
  | [] => pure ()
  | field :: rest => do
    checkName field.name
    if seen.contains field.name then throw (.duplicateField shape.name field.name)
    checkOverride field.override
    checkFields shape (field.name :: seen) rest

/-- The shape by itself is well formed. -/
def check (shape : Shape) : Except CatalogueError Unit := do
  checkName shape.name
  shape.checkFields [] shape.fields

end Shape

namespace Catalogue

/-- Enums after those with the names in `seen`. -/
def checkEnums (seen : List String) : List EnumType → Except CatalogueError Unit
  | [] => pure ()
  | type :: rest => do
    type.check
    if seen.contains type.name then throw (.duplicateEnum type.name)
    checkEnums (type.name :: seen) rest

/-- Shapes after those with the names in `seen`. -/
def checkShapes (seen : List String) : List Shape → Except CatalogueError Unit
  | [] => pure ()
  | shape :: rest => do
    shape.check
    if seen.contains shape.name then throw (.duplicateShape shape.name)
    checkShapes (shape.name :: seen) rest

/-- The reference of a field that leads to no declaration. -/
def dangling? (catalogue : Catalogue) (kind : FieldKind) : Option Reference :=
  match kind with
  | .scalar _ => none
  | .enumeration name =>
    if catalogue.enums.any fun type ↦ type.name = name then none else some (.enumeration name)
  | .nested name | .collection name =>
    if catalogue.shapes.any fun shape ↦ shape.name = name then none else some (.shape name)

/-- Every field refers to something declared. -/
def checkReferences (catalogue : Catalogue) : Except CatalogueError Unit :=
  catalogue.shapes.forM fun shape ↦ shape.fields.forM fun field ↦
    match catalogue.dangling? field.kind with
    | none => pure ()
    | some reference => throw (.danglingReference shape.name field.name reference)

/-- The registry of a catalogue that passes the checks: its enums, its shapes, and then the references. -/
def register (catalogue : Catalogue) : Except CatalogueError Registry := do
  checkEnums [] catalogue.enums
  checkShapes [] catalogue.shapes
  catalogue.checkReferences
  return ⟨catalogue.name, catalogue.enums, catalogue.shapes⟩

end Catalogue

/-! ### Lookups -/

namespace Registry

/-- The shape of a name. -/
def shape (registry : Registry) (name : String) : Except CatalogueError Shape :=
  match registry.shapes.find? fun shape ↦ shape.name = name with
  | some shape => .ok shape
  | none => .error (.unknownShape name)

/-- The fields of a shape, in the order of declaration. -/
def fields (registry : Registry) (name : String) : Except CatalogueError (List Field) :=
  (registry.shape name).map (·.fields)

/-- The enum of a name. -/
def enumType (registry : Registry) (name : String) : Except CatalogueError EnumType :=
  match registry.enums.find? fun type ↦ type.name = name with
  | some type => .ok type
  | none => .error (.unknownEnum name)

/-- The name is that of a registered shape. -/
def hasShape (registry : Registry) (name : String) : Bool :=
  registry.shapes.any fun shape ↦ shape.name = name

/-- The names of the registered shapes, in the order of registration. -/
def shapeNames (registry : Registry) : List String := registry.shapes.map (·.name)

/-- The record that a registration leaves. -/
def registrationRecord (registry : Registry) : LogRecord :=
  ⟨.debug, s!"Registered shape catalogue '{registry.name}': {registry.shapes.length} shapes, " ++
    s!"{registry.enums.length} enums"⟩

end Registry

end Recast
