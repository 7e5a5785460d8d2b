import Recast.Shape.Declaration
import Recast.Yaml.Decode

/-!
# Catalogue files

Declarations as a YAML file: a mapping with the name of the catalogue, its enums and its shapes. Loading a
file may fail at three points: its octets may not be a text, the text may not be such a mapping, and the
declarations may be refused.
-/

namespace Recast

open Yaml (Node Decoder)

/-- An override from `field` and `subfield`. -/
def Override.ofNode (node : Node) : Decoder Override := do
  let fields ← Decoder.record ["field", "subfield"] node
  return ⟨← Decoder.required fields "field" Decoder.text,
    ← Decoder.optionalField fields "subfield" Decoder.text⟩

/-- A member from `name` and `value`. -/
def EnumMember.ofNode (node : Node) : Decoder EnumMember := do
  let fields ← Decoder.record ["name", "value"] node
  return ⟨← Decoder.required fields "name" Decoder.text, ← Decoder.required fields "value" Decoder.int64⟩

/-- An enum from `name` and `members`. -/
def EnumType.ofNode (node : Node) : Decoder EnumType := do
  let fields ← Decoder.record ["name", "members"] node
  return ⟨← Decoder.required fields "name" Decoder.text,
    ← Decoder.required fields "members" (Decoder.list EnumMember.ofNode)⟩

/-- A field from its members. -/
def FieldDeclaration.ofNode (node : Node) : Decoder FieldDeclaration := do
  let fields ← Decoder.record
    ["name", "type", "enum", "shape", "collection", "nullable", "mapping"] node
  return {
    name := ← Decoder.required fields "name" Decoder.text
    scalar := ← Decoder.optionalField fields "type" Decoder.text
    enumeration := ← Decoder.optionalField fields "enum" Decoder.text
    shape := ← Decoder.optionalField fields "shape" Decoder.text
    collection := ← Decoder.optionalField fields "collection" Decoder.text
    nullable := ← Decoder.withDefault fields "nullable" false Decoder.bool
    override := ← Decoder.optionalField fields "mapping" Override.ofNode }

/-- A shape from `name` and `fields`. -/
def ShapeDeclaration.ofNode (node : Node) : Decoder ShapeDeclaration := do
  let fields ← Decoder.record ["name", "fields"] node
  return ⟨← Decoder.required fields "name" Decoder.text,
    ← Decoder.withDefault fields "fields" [] (Decoder.list FieldDeclaration.ofNode)⟩

/-- Declarations from `name`, `enums` and `shapes`. -/
def Declarations.ofNode (node : Node) : Decoder Declarations := do
  let fields ← Decoder.record ["name", "enums", "shapes"] node
  return ⟨← Decoder.required fields "name" Decoder.text,
    ← Decoder.withDefault fields "enums" [] (Decoder.list EnumType.ofNode),
    ← Decoder.withDefault fields "shapes" [] (Decoder.list ShapeDeclaration.ofNode)⟩

/-- The declarations that a YAML text writes. -/
def Declarations.ofYaml? (text : String) : Option Declarations :=
  Yaml.decode? Declarations.ofNode text

/-- Why a catalogue file gives no registry. -/
inductive LoadError where
  /-- There is no such file, or it is not a text. -/
  | unreadable
  /-- The text does not declare a catalogue. -/
  | malformed
  | refused (error : CatalogueError)
deriving DecidableEq, Repr

namespace Registry

/-- The registry of declarations, none being malformed. -/
def ofDeclarations? (declarations : Option Declarations) : Except LoadError Registry :=
  match declarations with
  | none => .error .malformed
  | some declarations => declarations.register.mapError .refused

/-- The registry of a YAML text. -/
def ofYaml (text : String) : Except LoadError Registry := ofDeclarations? (Declarations.ofYaml? text)

/-- The registry of the octets of a YAML file, none if there is no such file. -/
def ofFile (contents : Option ByteArray) : Except LoadError Registry :=
  match contents.bind String.fromUTF8? with
  | none => .error .unreadable
  | some text => ofYaml text

end Registry

end Recast
