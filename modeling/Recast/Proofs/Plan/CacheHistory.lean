import Recast.Proofs.Plan.Cache
import Recast.Proofs.Plan.Typing

/-!
# The history of a plan cache

Any operations on one cache, one after the other (`PlanCache.run`). What was done before decides what
comes of an operation (`PlanCache.history_decides`): the objects are those that were handed out first
(`CacheStep.stored`), and the counters are numbers of operations. On a disabled cache nothing that was
done before makes a difference.
-/

namespace Recast

variable {ε : Type}

namespace PlanCache

/-- The cache that operations leave behind. -/
def afterAll (cache : PlanCache) (operations : List (CacheOperation ε)) : PlanCache :=
  Run.final perform cache operations

/-- The operations with their replies, each on the cache that the one before has left. -/
def run (cache : PlanCache) (operations : List (CacheOperation ε)) : List (CacheStep ε) :=
  Run.outputs perform cache operations

variable {cache : PlanCache}

/-- Operations on a new cache are all accounted for. -/
theorem Recounts.afterAll (operations : List (CacheOperation ε)) :
    (PlanCache.afterAll { enabled := true } operations).Recounts operations
      (CacheStep.stored (run { enabled := true } operations)) := by
  refine Run.invariant perform
    (fun cache past steps ↦ cache.Recounts past (CacheStep.stored steps))
    (fun cache past steps operation h ↦ ?_) .nil operations
  rw [CacheStep.stored_append_singleton]
  exact h.performs (perform_performs h.enabled operation)

/-- Operations leave a disabled cache idle. -/
theorem Idle.afterAll (h : cache.Idle) (operations : List (CacheOperation ε)) :
    (cache.afterAll operations).Idle :=
  Run.invariant PlanCache.perform (fun cache _ _ ↦ cache.Idle)
    (fun _ _ _ operation h ↦ h.perform operation) h operations

/-! ### Both histories -/

/-- **What was done before decides what a cache replies.** In a run on an enabled cache an operation
replies with the object that was first stored under its key, and runs no builder; if nothing was
stored, it replies by itself, and runs the builder that it has. An operation without a plan to
store, such as a builder that fails, and one with a plan that comes too late leave the entries as
they are. What is stored under a key holds the plan that was first offered under it, and different
keys have different objects. The counters are those of the lookups whose key had been offered a
plan, of the other lookups, and of the keys that were.

On a disabled cache every operation replies by itself and runs the builder that it has, and nothing
is stored or counted; only the number of the objects that were made grows. -/
theorem history_decides (operations : List (CacheOperation ε)) (operation : CacheOperation ε) :
    (let new : PlanCache := { enabled := true }
    let cache := new.afterAll operations
    let stored := CacheStep.stored (new.run operations)
    let offered := CacheOperation.offeredKeys operations
    let step := (cache.perform operation).1
    let next := (cache.perform operation).2
    new.run (operations ++ [operation]) = new.run operations ++ [step] ∧
    step.reply = (stored.lookup operation.key).elim (operation.freshReply cache.allocated) .plan ∧
    step.runs = (if operation.key ∈ offered then 0 else operation.builders) ∧
    (operation.offer? = none ∨ operation.key ∈ offered → next.entries = cache.entries) ∧
    (∀ key, cache.entries.lookup key = stored.lookup key) ∧
    (∀ key, (stored.lookup key).map (·.value) = (CacheOperation.offers operations).lookup key) ∧
    (∀ key key' plan plan', stored.lookup key = some plan → stored.lookup key' = some plan' →
      (plan.serial = plan'.serial ↔ key = key')) ∧
    cache.counts = ⟨(CacheOperation.lookups true operations).length,
      (CacheOperation.lookups false operations).length, offered.toFinset.card⟩) ∧
    (let cache := ({ enabled := false } : PlanCache).afterAll operations
    let step := (cache.perform operation).1
    let next := (cache.perform operation).2
    step.reply = operation.freshReply cache.allocated ∧ step.runs = operation.builders ∧
    next = { cache with allocated := next.allocated } ∧ cache.counts = ⟨0, 0, 0⟩) := by
  constructor
  · have h := Recounts.afterAll operations
    intro new cache stored offered step next
    have hperforms : cache.Performs operation step next := perform_performs h.enabled operation
    refine ⟨Run.outputs_append .., h.reply_eq hperforms, h.runs_eq hperforms,
      h.entries_eq hperforms, h.objects.lookup_eq, ?_, ?_, h.counts_eq⟩
    · exact fun key ↦ by rw [← h.objects.lookup_eq, h.plans]
    · intro key key' plan plan' hplan hplan'
      rw [← h.objects.lookup_eq] at hplan hplan'
      exact h.numbered.serial_eq_iff hplan hplan'
  · intro cache step next
    have hidle : cache.Idle := Idle.afterAll ⟨rfl, rfl⟩ operations
    obtain ⟨hstep, hnext⟩ := perform_of_disabled hidle.disabled operation
    exact ⟨congrArg (·.reply) hstep, congrArg (·.runs) hstep, hnext, hidle.counts⟩

end PlanCache

namespace Blog

/-- The request for the plan for posts. -/
def posts : PlanKey := ⟨"Post", "PostView", false⟩

/-- The request for the plan with children. -/
def posts' : PlanKey := { posts with loadChildren := true }

/-- A lookup and a builder that fails, both before a plan for posts is stored; then another plan in
its place, which comes too late; and a plan under another key. -/
def operations : List (CacheOperation PlanError) :=
  [.get posts, .getOrBuild posts (.error (.catalogue (.unknownShape "Post"))),
    .insert posts postPlan, .insert posts sitePlan, .get posts, .insert posts' postPlan]

/-- A request for posts has the plan that was stored first and not the one that its builder would
make, which is not run. The other key has another object for the same plan. -/
theorem posts_stored :
    let new : PlanCache := { enabled := true }
    let cache := new.afterAll operations
    let stored := CacheStep.stored (new.run operations)
    let operation : CacheOperation PlanError := .getOrBuild posts (.ok sitePlan)
    let step := (cache.perform operation).1
    let next := (cache.perform operation).2
    stored.lookup posts = some ⟨0, postPlan⟩ ∧ stored.lookup posts' = some ⟨2, postPlan⟩ ∧
    (0 = 2 ↔ posts = posts') ∧
    posts ∈ CacheOperation.offeredKeys operations ∧
    step.reply = .plan ⟨0, postPlan⟩ ∧ step.runs = 0 ∧ next.entries = cache.entries ∧
    cache.counts = ⟨1, 2, 2⟩ := by
  have hposts :
      (CacheStep.stored (({ enabled := true } : PlanCache).run operations)).lookup posts =
        some ⟨0, postPlan⟩ := by with_unfolding_all rfl
  have hposts' :
      (CacheStep.stored (({ enabled := true } : PlanCache).run operations)).lookup posts' =
        some ⟨2, postPlan⟩ := by with_unfolding_all rfl
  have hoffered : posts ∈ CacheOperation.offeredKeys operations := by decide
  obtain ⟨⟨-, hreply, hruns, hentries, -, -, hserial, hcounts⟩, -⟩ :=
    PlanCache.history_decides operations (.getOrBuild posts (.ok sitePlan))
  rw [CacheOperation.key] at hreply hruns hentries
  rw [hposts] at hreply
  rw [if_pos hoffered] at hruns
  exact ⟨hposts, hposts', hserial _ _ _ _ hposts hposts', hoffered, hreply, hruns,
    hentries (.inr hoffered), hcounts⟩

end Blog

end Recast
