import Recast.Config.Basic
import Recast.Plan.Build
import Recast.Plan.Cache

/-!
# The planner

A planner serves one registry. It remembers the pairings of every pair of shapes and the plan of every
request, so that each is worked out once. `Planner.compile` answers one request and gives the planner after
it together with the records of the work.
-/

namespace Recast

/-- What building works with: the matcher, and the records so far. -/
structure Workspace where
  matcher : Matcher
  log : Log

/-- Building with a workspace. What was remembered and logged stays when an error is met. -/
abbrev BuildM := ExceptT PlanError (StateM Workspace)

namespace Workspace

/-- The pairings of a pair, through the matcher. -/
def pairings (registry : Registry) (source target : String) : BuildM (List Pairing) :=
  fun workspace ↦
    let (result, matcher, log) := workspace.matcher.match? registry source target
    (result.map (·.value), ⟨matcher, workspace.log ++ log⟩)

/-- One more record. -/
def note (record : LogRecord) : BuildM Unit :=
  fun workspace ↦ (.ok (), { workspace with log := workspace.log ++ [record] })

/-- The surroundings of a construction with memory and log. -/
def access (registry : Registry) : Plan.Access BuildM where
  pairings := pairings registry
  log := note

end Workspace

/-- A registry with what was worked out for it. -/
structure Planner where
  registry : Registry
  limits : Limits
  matcher : Matcher := {}
  cache : PlanCache

namespace Planner

/-- A planner that has not worked yet. -/
def ofConfig (registry : Registry) (config : Config) : Planner :=
  { registry, limits := config.limits, cache := { enabled := config.planCacheEnabled } }

/-- The record of a plan that was built. -/
def compiledRecord (key : PlanKey) (plan : Plan) : LogRecord :=
  ⟨.info, s!"Compiled projection {key.render}: {plan.nodeCount} assignments, depth {plan.maxDepth}"⟩

/-- Build the plan of a request in a workspace, and tell of it. -/
def buildIn (planner : Planner) (key : PlanKey) (workspace : Workspace) :
    Except PlanError Plan × Workspace :=
  let work : BuildM Plan := do
    let plan ← Plan.atLevel (Workspace.access planner.registry) ⟨planner.limits, key.loadChildren⟩
      key.source key.target 1
    Workspace.note (compiledRecord key plan)
    return plan
  work.run workspace

/-- The plan of a request, from the cache or built; the planner after it, and the records. -/
def compile (planner : Planner) (key : PlanKey) : Except PlanError (Shared Plan) × Planner × Log :=
  let (result, provision, cache, workspace) :=
    planner.cache.getOrBuild key ⟨planner.matcher, []⟩ (planner.buildIn key)
  let log := match provision with
    | .cached => [PlanCache.hitRecord key]
    | .built => workspace.log
  (result, { planner with matcher := workspace.matcher, cache := cache }, log)

end Planner

end Recast
