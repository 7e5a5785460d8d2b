import Recast.Plan.Build
import Recast.Json.Record

/-!
# Configuration

The depth limits of a planner and whether it caches plans. `Config.check` refuses limits outside of their
ranges, all of them at once, and then a nested depth beyond the hard limit.
-/

namespace Recast

/-- How a planner is set up. -/
structure Config where
  collectionDepth : Nat := 1
  collectionElementDepth : Nat := 3
  maxNestedDepth : Nat := 2
  hardDepthLimit : Nat := 16
  planCacheEnabled : Bool := true
deriving DecidableEq, Repr

/-- What a configuration breaks: the field, the rule and the message. -/
structure Violation where
  field : String
  code : String
  message : String
deriving DecidableEq, Repr

/-- Why there is no configuration. -/
inductive ConfigError where
  /-- A value that cannot be read, with the reason if the value stands alone. -/
  | unreadable (field value : String) (reason : Option String)
  | invalid (violations : List Violation)
deriving DecidableEq, Repr

/-- The message of an error about a single value or field. -/
def ConfigError.message? : ConfigError → Option String
  | .unreadable field value (some reason) => some s!"Parse error for {field}: {value} - {reason}"
  | .invalid [violation] => some s!"Validation error: {violation.field}: {violation.message}"
  | _ => none

namespace Config

/-- The limits for plans. -/
def limits (config : Config) : Limits :=
  ⟨config.collectionDepth, config.collectionElementDepth, config.maxNestedDepth, config.hardDepthLimit⟩

/-- A limit outside of the range from one to `greatest`. -/
def rangeViolation (field title : String) (greatest value : Nat) : List Violation :=
  if 1 ≤ value && value ≤ greatest then []
  else [⟨field, "range", s!"{title} must be between 1 and {greatest}"⟩]

/-- The limits outside of their ranges. -/
def rangeViolations (config : Config) : List Violation :=
  rangeViolation "collection_depth" "Collection depth" 8 config.collectionDepth ++
  rangeViolation "collection_element_depth" "Collection element depth" 64
    config.collectionElementDepth ++
  rangeViolation "max_nested_depth" "Max nested depth" 64 config.maxNestedDepth ++
  rangeViolation "hard_depth_limit" "Hard depth limit" 256 config.hardDepthLimit

/-- The nested depth beyond the hard limit. -/
def orderViolation : Violation :=
  ⟨"max_nested_depth", "depth_order", "max_nested_depth cannot exceed hard_depth_limit"⟩

/-- The configuration, if it breaks no rule. -/
def check (config : Config) : Except ConfigError Config :=
  -- The order of the depths is looked at only when each is in its range.
  if !config.rangeViolations.isEmpty then .error (.invalid config.rangeViolations)
  else if config.hardDepthLimit < config.maxNestedDepth then .error (.invalid [orderViolation])
  else .ok config

/-- The default configuration with the members of an object in place of its own. -/
def ofJson? (value : Json) : Option Config := do
  let record ← value.object?
  let natural (name : String) (default : Nat) : Option Nat := do
    return (← record.optional name Json.nat32?).getD default
  let standard : Config := {}
  return {
    collectionDepth := ← natural "collection_depth" standard.collectionDepth
    collectionElementDepth := ← natural "collection_element_depth" standard.collectionElementDepth
    maxNestedDepth := ← natural "max_nested_depth" standard.maxNestedDepth
    hardDepthLimit := ← natural "hard_depth_limit" standard.hardDepthLimit
    planCacheEnabled :=
      (← record.optional "plan_cache_enabled" Json.bool?).getD standard.planCacheEnabled }

/-- The configuration with its five fields. -/
def toJson (config : Config) : Json :=
  .obj [("collection_depth", .int config.collectionDepth),
    ("collection_element_depth", .int config.collectionElementDepth),
    ("max_nested_depth", .int config.maxNestedDepth),
    ("hard_depth_limit", .int config.hardDepthLimit),
    ("plan_cache_enabled", .bool config.planCacheEnabled)]

end Config

end Recast
