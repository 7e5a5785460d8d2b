import Recast.Plan.Basic
import Recast.Plan.Error
import Recast.Shared

/-!
# Matching of fields

For every target field, in the order of declaration, the source field that feeds it: the one that its
override names, or else the one of its own name. A target field that finds none is dropped; an override that
finds none is an error.

A `Matcher` remembers the result of every pair of shapes that was matched before. Its key is the pair of
names alone, and only successes are kept, so the first success of a pair is the answer from then on.

All that matching asks for is the fields of shapes, and so it goes with any provider of these; a registry is
one.
-/

namespace Recast

/-- Where the fields of a shape are looked up by its name. -/
abbrev ShapeProvider := String → Except CatalogueError (List Field)

instance : Coe Registry ShapeProvider := ⟨Registry.fields⟩

/-- A target field with its source. -/
structure Pairing where
  target : Field
  /-- The field of the source shape. -/
  source : Field
  /-- The field inside `source` that an override of two steps leads to. -/
  subfield : Option Field
  origin : Origin
deriving DecidableEq, Repr

namespace Pairing

/-- The field whose value is read. -/
def leaf (pairing : Pairing) : Field := pairing.subfield.getD pairing.source

/-- The path to the value. -/
def path (pairing : Pairing) : Path :=
  let first := Path.single pairing.source.name pairing.source.nullable
  match pairing.subfield with
  | none => first
  | some field => first.push field.name field.nullable

end Pairing

/-! ### One pair of shapes -/

namespace Matching

/-- The field that an override leads to, given the fields of the source shape. Without a subfield, a nested
source field is read through the target field's own name. -/
def resolve (provider : ShapeProvider) (sourceFields : List Field) (targetShape : String) (target : Field)
    (override : Override) : Except PlanError Pairing := do
  let unresolved (path : String) : PlanError := .unresolvedOverride targetShape target.name path
  let source ← match findField? sourceFields override.field with
    | some source => pure source
    | none => throw (unresolved override.field)
  -- The step after the first, if there is one.
  let member := match override.subfield, source.kind with
    | some subfield, _ => some subfield
    | none, .nested _ => some target.name
    | none, _ => none
  match member with
  | none => return ⟨target, source, none, .explicitOverride⟩
  | some name =>
    let path := override.field ++ "." ++ name
    match source.kind with
    | .nested related =>
      match findField? (← (provider related).mapError .catalogue) name with
      | some field => return ⟨target, source, some field, .explicitOverride⟩
      | none => throw (unresolved path)
    | _ => throw (unresolved path)

/-- The record of a target field that is dropped. -/
def droppedRecord (source target : String) (field : Field) : LogRecord :=
  ⟨.debug, s!"{source} -> {target}: no source field for `{field.name}`, dropped"⟩

/-- The source of one target field, none if it is dropped. -/
def pairField (provider : ShapeProvider) (sourceFields : List Field) (targetShape : String) (target : Field) :
    Except PlanError (Option Pairing) :=
  match target.override with
  | some override => (resolve provider sourceFields targetShape target override).map some
  | none => .ok ((findField? sourceFields target.name).map fun source ↦
      ⟨target, source, none, .structural⟩)

/-- The pairings of target fields in order, with the records of those that are dropped before the first
error. -/
def pairAll (provider : ShapeProvider) (source target : String) (sourceFields : List Field) :
    List Field → Except PlanError (List Pairing) × Log
  | [] => (.ok [], [])
  | field :: rest =>
    match pairField provider sourceFields target field with
    | .error error => (.error error, [])
    | .ok none =>
      let (result, log) := pairAll provider source target sourceFields rest
      (result, droppedRecord source target field :: log)
    | .ok (some pairing) =>
      let (result, log) := pairAll provider source target sourceFields rest
      (result.map (pairing :: ·), log)

/-- The pairings of two shapes, with the records of the target fields that are dropped. -/
def ofShapes (provider : ShapeProvider) (source target : String) :
    Except PlanError (List Pairing) × Log :=
  match provider source, provider target with
  | .error error, _ => (.error (.catalogue error), [])
  | .ok _, .error error => (.error (.catalogue error), [])
  | .ok sourceFields, .ok targetFields =>
    pairAll provider source target sourceFields targetFields

end Matching

/-! ### Many pairs -/

/-- The results of the pairs that were matched before, the latest first. -/
structure Matcher where
  memo : List ((String × String) × Shared (List Pairing)) := []

namespace Matcher

/-- The number of pairs that were matched. -/
def size (matcher : Matcher) : Nat := matcher.memo.length

/-- The result of a pair: the remembered one, or else a new one, which is remembered if it is a success. -/
def match? (matcher : Matcher) (provider : ShapeProvider) (source target : String) :
    Except PlanError (Shared (List Pairing)) × Matcher × Log :=
  match matcher.memo.lookup (source, target) with
  | some found => (.ok found, matcher, [])
  | none =>
    match Matching.ofShapes provider source target with
    | (.error error, log) => (.error error, matcher, log)
    | (.ok pairings, log) =>
      let result : Shared (List Pairing) := ⟨matcher.size, pairings⟩
      (.ok result, ⟨((source, target), result) :: matcher.memo⟩, log)

end Matcher

end Recast
