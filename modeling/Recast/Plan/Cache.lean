import Recast.Plan.Basic
import Recast.Log
import Recast.Number.Binary64
import Recast.Shared

/-!
# The plan cache

A store of plans that is written once under each key: the first plan stored under a key is the answer from
then on. Plans are handed out as shared objects, so that two answers can be told to be the same object. A
cache that is disabled stores nothing and counts nothing.
-/

namespace Recast

/-- What a plan is stored under. -/
structure PlanKey where
  source : String
  target : String
  loadChildren : Bool
deriving DecidableEq, Repr

/-- The key as records name it. -/
def PlanKey.render (key : PlanKey) : String :=
  s!"{key.source} -> {key.target} (load_children={key.loadChildren})"

/-- The counters of a cache. -/
structure CacheCounts where
  hits : Nat
  misses : Nat
  size : Nat
deriving DecidableEq, Repr

/-- The share of lookups that were hits, zero before the first lookup. -/
def CacheCounts.hitRate (counts : CacheCounts) : Binary64 :=
  .ofQuotient counts.hits (counts.hits + counts.misses)

/-- Plans under their keys, the latest first, with the counts of lookups and of objects made. The counts
have no bound here; counters of sixty-four bits show them as long as there were fewer than 2 ^ 64 lookups. -/
structure PlanCache where
  enabled : Bool
  entries : List (PlanKey × Shared Plan) := []
  hits : Nat := 0
  misses : Nat := 0
  allocated : Nat := 0

namespace PlanCache

/-- The number of plans stored. -/
def size (cache : PlanCache) : Nat := cache.entries.length

/-- What the cache has counted, and its size. -/
def counts (cache : PlanCache) : CacheCounts := ⟨cache.hits, cache.misses, cache.size⟩

/-- The plan stored under a key; the lookup is counted. -/
def get? (cache : PlanCache) (key : PlanKey) : Option (Shared Plan) × PlanCache :=
  if cache.enabled then
    match cache.entries.lookup key with
    | some found => (some found, { cache with hits := cache.hits + 1 })
    | none => (none, { cache with misses := cache.misses + 1 })
  else (none, cache)

/-- Offer a plan, as a new object, and have the plan that is stored under the key afterwards. -/
def insert (cache : PlanCache) (key : PlanKey) (plan : Plan) : Shared Plan × PlanCache :=
  let offered : Shared Plan := ⟨cache.allocated, plan⟩
  let cache := { cache with allocated := cache.allocated + 1 }
  if cache.enabled then
    match cache.entries.lookup key with
    | some found => (found, cache)
    | none => (offered, { cache with entries := (key, offered) :: cache.entries })
  else (offered, cache)

/-- What an answer came from. -/
inductive Provision where
  | cached
  | built
deriving DecidableEq, Repr

/-- The stored plan, or else one that `build` makes in a state of its own and that is then stored. A failure
is passed on and stores nothing. -/
def getOrBuild {σ ε : Type} (cache : PlanCache) (key : PlanKey) (state : σ)
    (build : σ → Except ε Plan × σ) : Except ε (Shared Plan) × Provision × PlanCache × σ :=
  match cache.get? key with
  | (some found, cache) => (.ok found, .cached, cache, state)
  | (none, cache) =>
    match build state with
    | (.ok plan, state) =>
      let (stored, cache) := cache.insert key plan
      (.ok stored, .built, cache, state)
    | (.error error, state) => (.error error, .built, cache, state)

/-- The record of an answer from the cache. -/
def hitRecord (key : PlanKey) : LogRecord := ⟨.trace, s!"Plan cache hit: {key.render}"⟩

end PlanCache

end Recast
