import Recast.Plan.Matching

/-!
# Building plans

A plan for a pair of shapes has an assignment for every pairing of their fields that can be assigned:

* a scalar from the same scalar, copied,
* an enum from an enum or from an integer, converted,
* a collection from a collection, by a plan for the items, near the top only,
* an object from an object, by a plan of its own, unless that plan would be empty.

A pairing by name that fits none of these is skipped. A pairing by an override has to fit one of the first
two, whatever the depth.

Shapes may be recursive, so the depth is bounded. The plan at the top has depth one. An object is one level
deeper than its owner; the items of a collection are at the element depth at least. No plan is deeper than
the hard limit, and that is why the construction ends (`Plan.atLevel`).

What a plan is built from is reached through an `Access`, in any monad with errors: `Plan.between` is the
construction by itself, and a planner adds a memory and a log to it.
-/

namespace Recast

/-- How deep plans may go. -/
structure Limits where
  /-- The deepest level at which collections are expanded. -/
  collectionDepth : Nat
  /-- The least level of a plan for items. -/
  elementDepth : Nat
  /-- The deepest level at which objects are expanded when children are not loaded. -/
  nestedDepth : Nat
  /-- The deepest level of any plan. -/
  hardDepth : Nat
deriving DecidableEq, Repr

/-- How plans are built. -/
structure BuildSettings where
  limits : Limits
  /-- Expand objects beyond the nested depth. -/
  loadChildren : Bool
deriving DecidableEq, Repr

/-- What becomes of a value of one kind that is assigned to a field of another: none if it cannot be. -/
def Conversion.between? (target source : FieldKind) : Option Conversion :=
  match target, source with
  | .scalar t, .scalar s => if t = s then some .copy else none
  | .enumeration t, .enumeration s => some (.enumeration (some s) t)
  | .enumeration t, .scalar s => if s.isInteger then some (.enumeration none t) else none
  | _, _ => none

namespace Pairing

/-- What feeds a target field that declares an override. -/
def overrideFeed (pairing : Pairing) (targetShape : String) : Except PlanError (Feed Plan) :=
  match Conversion.between? pairing.target.kind pairing.leaf.kind with
  | some conversion => .ok (.value pairing.path conversion)
  | none => .error (.incompatibleOverride targetShape pairing.target.name pairing.path.render
      pairing.target.kind pairing.leaf.kind)

/-- The record of a pairing whose kinds do not fit. -/
def mismatchRecord (pairing : Pairing) : LogRecord :=
  ⟨.debug, s!"`{pairing.target.name}`: {pairing.target.kind.describe} cannot be projected from " ++
    s!"{pairing.source.kind.describe}, skipped"⟩

/-- The record of a collection too deep to be expanded. -/
def unexpandedRecord (pairing : Pairing) (depth limit : Nat) : LogRecord :=
  ⟨.debug, s!"`{pairing.target.name}`: collection at depth {depth} not expanded (limit {limit})"⟩

/-- The record of items beyond the hard limit. -/
def truncatedItemsRecord (pairing : Pairing) (depth limit : Nat) : LogRecord :=
  ⟨.warn, s!"`{pairing.target.name}`: element plan depth {depth} exceeds hard limit {limit}, truncated"⟩

/-- The record of an object that is a child not to be loaded. -/
def unloadedRecord (pairing : Pairing) (depth : Nat) : LogRecord :=
  ⟨.debug, s!"`{pairing.target.name}`: nested object at depth {depth} omitted (children not loaded)"⟩

/-- The record of an object beyond the hard limit. -/
def truncatedObjectRecord (pairing : Pairing) (limit : Nat) : LogRecord :=
  ⟨.warn, s!"`{pairing.target.name}`: hard depth limit {limit} reached, nested object truncated"⟩

/-- The record of an object with nothing to assign. -/
def emptyRecord (pairing : Pairing) (source target : String) : LogRecord :=
  ⟨.debug, s!"`{pairing.target.name}`: nested plan {source} -> {target} is empty, omitted"⟩

end Pairing

namespace Plan

/-- What the construction asks of its surroundings. -/
structure Access (m : Type → Type) where
  /-- The pairings of the fields of two shapes. -/
  pairings (source target : String) : m (List Pairing)
  /-- Take note of a record. -/
  log (record : LogRecord) : m Unit

/-- A level below `depth` that the hard limit allows. -/
abbrev Deeper (settings : BuildSettings) (depth : Nat) :=
  { level : Nat // depth < level ∧ level ≤ settings.limits.hardDepth }

variable {m : Type → Type} [Monad m] (access : Access m) (settings : BuildSettings)

/-- What feeds a collection from a collection, `build` making the plans of deeper levels. -/
def collectionFeed (depth : Nat) (build : String → String → Deeper settings depth → m Plan)
    (pairing : Pairing) (source target : String) : m (Option (Feed Plan)) := do
  if settings.limits.collectionDepth < depth then
    access.log (pairing.unexpandedRecord depth settings.limits.collectionDepth)
    return none
  else
    -- Items are never shallower than the collection that holds them.
    let level := max settings.limits.elementDepth (depth + 1)
    if h : level ≤ settings.limits.hardDepth then
      let plan ← build source target ⟨level, Nat.lt_of_lt_of_le depth.lt_succ_self (Nat.le_max_right ..), h⟩
      return some (.child .collection pairing.source.name plan)
    else
      access.log (pairing.truncatedItemsRecord level settings.limits.hardDepth)
      return none

/-- What feeds an object from an object, `build` making the plans of deeper levels. -/
def nestedFeed (depth : Nat) (build : String → String → Deeper settings depth → m Plan)
    (pairing : Pairing) (source target : String) : m (Option (Feed Plan)) := do
  if settings.limits.nestedDepth < depth && !settings.loadChildren then
    access.log (pairing.unloadedRecord depth)
    return none
  else if h : depth < settings.limits.hardDepth then
    let plan ← build source target ⟨depth + 1, depth.lt_succ_self, h⟩
    if plan.isEmpty then
      access.log (pairing.emptyRecord source target)
      return none
    else
      let link := if pairing.source.nullable then Link.optionalObject else .object
      return some (.child link pairing.source.name plan)
  else
    access.log (pairing.truncatedObjectRecord settings.limits.hardDepth)
    return none

/-- What feeds a target field from the source field of its own name. -/
def structuralFeed (depth : Nat) (build : String → String → Deeper settings depth → m Plan)
    (pairing : Pairing) : m (Option (Feed Plan)) := do
  match Conversion.between? pairing.target.kind pairing.source.kind with
  | some conversion => return some (.value pairing.path conversion)
  | none =>
    match pairing.target.kind, pairing.source.kind with
    | .collection target, .collection source =>
      collectionFeed access settings depth build pairing source target
    | .nested target, .nested source => nestedFeed access settings depth build pairing source target
    | _, _ =>
      access.log pairing.mismatchRecord
      return none

variable [MonadExceptOf PlanError m]

/-- The assignment of a pairing, none if it is skipped. -/
def assignmentOf (targetShape : String) (depth : Nat)
    (build : String → String → Deeper settings depth → m Plan) (pairing : Pairing) :
    m (Option (Assignment Plan)) := do
  let feed ← match pairing.origin with
    | .explicitOverride =>
      match pairing.overrideFeed targetShape with
      | .ok feed => pure (some feed)
      | .error error => throw error
    | .structural => structuralFeed access settings depth build pairing
  return feed.map fun feed ↦ ⟨pairing.target.name, pairing.origin, feed⟩

/-- The plan of a pair of shapes at a level. Every plan below it is at a deeper level within the hard limit,
and of those there are finitely many. -/
def atLevel (source target : String) (depth : Nat) : m Plan := do
  let pairings ← access.pairings source target
  let assignments ← pairings.mapM (assignmentOf access settings target depth fun source target level ↦
    atLevel source target level.1)
  return ⟨source, target, depth, assignments.filterMap id⟩
termination_by settings.limits.hardDepth - depth
decreasing_by
  have := level.2
  omega

/-- Pairings computed anew each time, and no log. -/
def Access.direct (registry : Registry) : Access (Except PlanError) where
  pairings source target := (Matching.ofShapes registry source target).1
  log _ := pure ()

/-- The plan of a pair of shapes, at the top level. -/
def between (registry : Registry) (settings : BuildSettings) (source target : String) :
    Except PlanError Plan :=
  atLevel (.direct registry) settings source target 1

end Plan

end Recast
