import Recast.Shape.Registry
import Recast.Json.Record

/-!
# Declared catalogues

A catalogue as people write it: each field names its kind by giving exactly one of a scalar type, an enum,
a shape or the element shape of a collection. `Declarations.resolve` turns the declarations one by one into
a catalogue, which is then registered. A field whose kind is not clear is found before any check of names
and references, however early the latter would stand in the file.
-/

namespace Recast

/-- A field as it is declared. -/
structure FieldDeclaration where
  name : String
  scalar : Option String := none
  enumeration : Option String := none
  shape : Option String := none
  collection : Option String := none
  nullable : Bool := false
  override : Option Override := none
deriving DecidableEq, Repr

/-- A shape as it is declared. -/
structure ShapeDeclaration where
  name : String
  fields : List FieldDeclaration := []
deriving DecidableEq, Repr

/-- A catalogue as it is declared. -/
structure Declarations where
  name : String
  enums : List EnumType := []
  shapes : List ShapeDeclaration := []
deriving DecidableEq, Repr

/-! ### From declarations to a catalogue -/

namespace FieldDeclaration

/-- The kinds that a field gives. The spelling of a scalar type is looked up even if others are given. -/
def kinds (field : FieldDeclaration) : Except CatalogueError (List FieldKind) := do
  -- An unknown spelling is an error of its own, whatever the number of kinds.
  let scalar ← match field.scalar with
    | none => pure []
    | some text =>
      match Scalar.ofSpelling? text with
      | some type => pure [FieldKind.scalar type]
      | none => throw (.unknownScalar text)
  return scalar ++ (field.enumeration.map FieldKind.enumeration).toList ++
    (field.shape.map FieldKind.nested).toList ++ (field.collection.map FieldKind.collection).toList

/-- The field of a declaration with exactly one kind. -/
def resolve (shape : String) (field : FieldDeclaration) : Except CatalogueError Field := do
  match ← field.kinds with
  | [kind] => return ⟨field.name, kind, field.nullable, field.override⟩
  | kinds => throw (.kindCount shape field.name kinds.length)

end FieldDeclaration

/-- The shape of a declaration. -/
def ShapeDeclaration.resolve (shape : ShapeDeclaration) : Except CatalogueError Shape := do
  return ⟨shape.name, ← shape.fields.mapM (FieldDeclaration.resolve shape.name)⟩

namespace Declarations

/-- The catalogue of the declarations. -/
def resolve (declarations : Declarations) : Except CatalogueError Catalogue := do
  return ⟨declarations.name, declarations.enums, ← declarations.shapes.mapM ShapeDeclaration.resolve⟩

/-- The registry of the declarations. -/
def register (declarations : Declarations) : Except CatalogueError Registry := do
  (← declarations.resolve).register

end Declarations

/-! ### Reading from JSON -/

/-- An override from `field` and `subfield`. -/
def Override.ofJson? (value : Json) : Option Override := do
  let record ← value.record? ["field", "subfield"]
  return ⟨← record.required "field" Json.string?, ← record.optional "subfield" Json.string?⟩

/-- A member from `name` and `value`. -/
def EnumMember.ofJson? (value : Json) : Option EnumMember := do
  let record ← value.record? ["name", "value"]
  return ⟨← record.required "name" Json.string?, ← record.required "value" Json.int64?⟩

/-- An enum from `name` and `members`. -/
def EnumType.ofJson? (value : Json) : Option EnumType := do
  let record ← value.record? ["name", "members"]
  return ⟨← record.required "name" Json.string?,
    ← record.required "members" (Json.list? EnumMember.ofJson?)⟩

/-- A field from its members; those of the kinds and of the override may be missing or null. -/
def FieldDeclaration.ofJson? (value : Json) : Option FieldDeclaration := do
  let record ← value.record? ["name", "type", "enum", "shape", "collection", "nullable", "mapping"]
  return {
    name := ← record.required "name" Json.string?
    scalar := ← record.optional "type" Json.string?
    enumeration := ← record.optional "enum" Json.string?
    shape := ← record.optional "shape" Json.string?
    collection := ← record.optional "collection" Json.string?
    nullable := ← record.withDefault "nullable" false Json.bool?
    override := ← record.optional "mapping" Override.ofJson? }

/-- A shape from `name` and `fields`; there are no fields if the latter is missing. -/
def ShapeDeclaration.ofJson? (value : Json) : Option ShapeDeclaration := do
  let record ← value.record? ["name", "fields"]
  return ⟨← record.required "name" Json.string?,
    ← record.withDefault "fields" [] (Json.list? FieldDeclaration.ofJson?)⟩

/-- Declarations from `name`, `enums` and `shapes`; either list may be missing. -/
def Declarations.ofJson? (value : Json) : Option Declarations := do
  let record ← value.record? ["name", "enums", "shapes"]
  return ⟨← record.required "name" Json.string?,
    ← record.withDefault "enums" [] (Json.list? EnumType.ofJson?),
    ← record.withDefault "shapes" [] (Json.list? ShapeDeclaration.ofJson?)⟩

end Recast
