import Recast.Plan.Basic
import Recast.Json.Printer
import Recast.Json.Record

/-!
# Plans as JSON

A plan is written with its shapes, its depth and its assignments; the feed of an assignment is an object
with one member, named for its sort. `Plan.toJson` writes and `Plan.ofJson?` reads: members of other names
are ignored, a depth is a natural number of thirty-two bits, and a source enum that is missing is none.
-/

namespace Recast

/-! ### Writing -/

/-- The path with its steps. -/
def Path.toJson (path : Path) : Json :=
  .obj [("hops", .arr (path.steps.map fun step ↦
    .obj [("field", .str step.field), ("nullable", .bool step.nullable)]))]

/-- The name of an origin. -/
def Origin.name : Origin → String
  | .structural => "Structural"
  | .explicitOverride => "ExplicitOverride"

/-- The member that holds the plan of a descent. -/
def Link.planKey : Link → String
  | .object | .optionalObject => "plan"
  | .collection => "element_plan"

/-- The contents of an assignment that reads a value. -/
def Conversion.members (path : Path) : Conversion → List (String × Json)
  | .copy => [("source", path.toJson)]
  | .enumeration source target =>
    [("source", path.toJson), ("source_enum", .ofString? source), ("target_enum", .str target)]

/-- An assignment around the written form of what feeds it. -/
def Assignment.memberJson {P : Type} (a : Assignment P) (contents : List (String × Json)) : Json :=
  .obj [("target_field", .str a.target), ("origin", .str a.origin.name),
    ("kind", .obj [(a.feed.kindName, .obj contents)])]

namespace Plan

mutual

/-- The plan with its shapes, depth and assignments. -/
def toJson : Plan → Json
  | ⟨source, target, depth, assignments⟩ =>
    .obj [("source_shape", .str source), ("target_shape", .str target), ("depth", .int depth),
      ("assignments", .arr (toJsonAll assignments))]

/-- The assignments one by one. -/
def toJsonAll : List (Assignment Plan) → List Json
  | [] => []
  | ⟨target, origin, .value path conversion⟩ :: rest =>
    (⟨target, origin, .value path conversion⟩ : Assignment Plan).memberJson (conversion.members path) ::
      toJsonAll rest
  | ⟨target, origin, .child link field plan⟩ :: rest =>
    (⟨target, origin, .child link field plan⟩ : Assignment Plan).memberJson
        [("source_field", .str field), (link.planKey, plan.toJson)] ::
      toJsonAll rest

end

/-- The plan as an indented JSON text. -/
def jsonText (plan : Plan) : String := plan.toJson.pretty

end Plan

/-! ### Reading -/

/-- A step from `field` and `nullable`. -/
def Step.ofJson? (value : Json) : Option Step := do
  let record ← value.record? ["field", "nullable"]
  return ⟨← record.required "field" Json.string?, ← record.required "nullable" Json.bool?⟩

/-- A path from the list of its steps. -/
def Path.ofJson? (value : Json) : Option Path := do
  let record ← value.record? ["hops"]
  return ⟨← record.required "hops" (Json.list? Step.ofJson?)⟩

/-- An origin from its name. -/
def Origin.ofJson? (value : Json) : Option Origin := do
  match ← value.name? with
  | "Structural" => some .structural
  | "ExplicitOverride" => some .explicitOverride
  | _ => none

/-- The link of a sort of assignment. -/
def Link.ofName? : String → Option Link
  | "Nested" => some .object
  | "ConditionalNested" => some .optionalObject
  | "Collection" => some .collection
  | _ => none

/-- An assignment that reads a value, from the name of its sort and its members. -/
def Feed.valueOfJson? {P : Type} (kind : String) (contents : Json) : Option (Feed P) := do
  let record ← contents.object?
  match kind with
  | "DirectCopy" => return .value (← record.required "source" Path.ofJson?) .copy
  | "EnumConvert" =>
    return .value (← record.required "source" Path.ofJson?)
      (.enumeration (← record.optional "source_enum" Json.string?)
        (← record.required "target_enum" Json.string?))
  | _ => none

namespace Plan

mutual

/-- A plan from its members. -/
def ofJson? (value : Json) : Option Plan := do
  let record ← value.record? ["source_shape", "target_shape", "depth", "assignments"]
  let source ← record.required "source_shape" Json.string?
  let target ← record.required "target_shape" Json.string?
  let depth ← record.required "depth" Json.nat32?
  let assignments ← record.lookup "assignments"
  let items ← assignments.1.items?
  return ⟨source, target, depth, ← items.mapM fun item ↦ assignmentOfJson? item.1⟩
termination_by (sizeOf value, 0)
decreasing_by
  have := item.2
  have := assignments.2
  exact Prod.Lex.left _ _ (by omega)

/-- An assignment from its members. -/
def assignmentOfJson? (value : Json) : Option (Assignment Plan) := do
  let record ← value.record? ["target_field", "origin", "kind"]
  let target ← record.required "target_field" Json.string?
  let origin ← record.required "origin" Origin.ofJson?
  let kind ← record.lookup "kind"
  return ⟨target, origin, ← feedOfJson? kind.1⟩
termination_by (sizeOf value, 0)
decreasing_by
  have := kind.2
  exact Prod.Lex.left _ _ (by omega)

/-- What feeds an assignment, from the only member of an object. -/
def feedOfJson? (value : Json) : Option (Feed Plan) := do
  let (kind, contents) ← value.variant?
  match Link.ofName? kind with
  | none => Feed.valueOfJson? kind contents.1
  | some link =>
    let record ← contents.1.object?
    let field ← record.required "source_field" Json.string?
    let plan ← record.lookup link.planKey
    return .child link field (← ofJson? plan.1)
termination_by (sizeOf value, 0)
decreasing_by
  have := plan.2
  have := contents.2
  exact Prod.Lex.left _ _ (by omega)

end

end Plan

end Recast
