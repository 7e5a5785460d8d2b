import Recast.Shape.Registry

/-!
# Why no plan is made

A plan fails only for an override that leads nowhere or to a field of the wrong kind, and for a shape that
was never registered.
-/

namespace Recast

/-- Why a pair of shapes has no plan. -/
inductive PlanError where
  | unresolvedOverride (shape field missing : String)
  | incompatibleOverride (shape field path : String) (expected found : FieldKind)
  | catalogue (error : CatalogueError)
deriving DecidableEq, Repr

/-- The message of an error. -/
def PlanError.message : PlanError → String
  | .unresolvedOverride shape field missing =>
    s!"Explicit mapping on `{shape}.{field}` cannot be resolved: source has no `{missing}`"
  | .incompatibleOverride shape field path expected found =>
    s!"Explicit mapping on `{shape}.{field}` reads `{path}`, which is {found.describe} " ++
      s!"(expected {expected.describe})"
  | .catalogue error => s!"Shape catalog error: {error.message}"

end Recast
