import Recast.Plan.Cache
import Recast.Plan.Error
import Recast.Proofs.WriteOnce

/-!
# Operations on the plan cache

Lookups, offers of a plan, and requests that build what is missing. An operation on an enabled cache
can do three things (`Performs`): it finds what is stored under its key, or stores what it offers under
a new key, or finds nothing and offers nothing. What each reply is and what the counters say is
therefore told by the operations before alone, as it is by `offers` and `lookups`, and by the objects
that were handed out. The invariant that ties the cache to them is `PlanCache.Recounts`, which every
operation keeps (`Recounts.performs`).

A disabled cache only makes objects, and answers every operation as a new cache does
(`perform_of_disabled`); it stays as it is (`Idle`).
-/

namespace Recast

variable {ε : Type}

/-! ### Operations and replies -/

/-- An operation on a plan cache. Of a builder only the outcome is given, which it has if it is
run. -/
inductive CacheOperation (ε : Type) where
  | get (key : PlanKey)
  | insert (key : PlanKey) (plan : Plan)
  | getOrBuild (key : PlanKey) (outcome : Except ε Plan)

/-- What an operation returns. -/
inductive CacheReply (ε : Type) where
  | plan (plan : Shared Plan)
  | missing
  | failed (error : ε)

/-- An operation, what it has returned, and how often it has run its builder. -/
structure CacheStep (ε : Type) where
  operation : CacheOperation ε
  reply : CacheReply ε
  runs : Nat

namespace CacheReply

/-- The reply for the answer to a request. -/
def ofAnswer : Except ε (Shared Plan) → CacheReply ε
  | .ok found => .plan found
  | .error error => .failed error

variable {answer : Except ε (Shared Plan)}

@[simp] theorem ofAnswer_eq_plan_iff {plan : Shared Plan} :
    ofAnswer answer = .plan plan ↔ answer = .ok plan := by
  cases answer <;> simp [ofAnswer]

end CacheReply

namespace CacheOperation

def key : CacheOperation ε → PlanKey
  | get key | insert key _ | getOrBuild key _ => key

/-- The plan that is stored if nothing is stored under the key. -/
def offer? : CacheOperation ε → Option Plan
  | get _ => none
  | insert _ plan => some plan
  | getOrBuild _ outcome => outcome.toOption

/-- Whether the operation counts as a lookup. -/
def looksUp : CacheOperation ε → Bool
  | insert _ _ => false
  | get _ | getOrBuild _ _ => true

/-- The number of builders that the operation has. -/
def builders : CacheOperation ε → Nat
  | getOrBuild _ _ => 1
  | get _ | insert _ _ => 0

/-- The reply if nothing is stored under the key; a plan is then a new object, with the given
number. -/
def freshReply (serial : Nat) : CacheOperation ε → CacheReply ε
  | get _ => .missing
  | insert _ plan => .plan ⟨serial, plan⟩
  | getOrBuild _ (.ok plan) => .plan ⟨serial, plan⟩
  | getOrBuild _ (.error error) => .failed error

/-- The plans that were offered, with their keys, in order. -/
def offers (operations : List (CacheOperation ε)) : List (PlanKey × Plan) :=
  operations.filterMap fun operation ↦ operation.offer?.map (operation.key, ·)

/-- The keys under which something was offered. -/
def offeredKeys (operations : List (CacheOperation ε)) : List PlanKey :=
  (offers operations).map (·.1)

/-- The lookups before which something, or nothing, was offered under their key. -/
def lookups (offered : Bool) (operations : List (CacheOperation ε)) : List (CacheOperation ε) :=
  filterPast (fun past operation ↦
    operation.looksUp && decide (operation.key ∈ offeredKeys past) == offered) operations

variable {operations : List (CacheOperation ε)} {operation : CacheOperation ε}

@[simp] theorem offers_append_singleton :
    offers (operations ++ [operation]) =
      offers operations ++ (operation.offer?.map (operation.key, ·)).toList :=
  filterMap_append_singleton ..

@[simp] theorem length_lookups_append_singleton {offered : Bool} :
    (lookups offered (operations ++ [operation])).length = (lookups offered operations).length +
      (operation.looksUp && decide (operation.key ∈ offeredKeys operations) == offered).toNat := by
  rw [lookups, filterPast_append_singleton, List.length_append]
  split <;> simp_all [lookups]

/-- **Every lookup comes after an offer under its key or before all of them.** -/
theorem length_lookups_add (operations : List (CacheOperation ε)) :
    (lookups true operations).length + (lookups false operations).length =
      operations.countP looksUp := by
  induction operations using List.reverseRecOn with
  | nil => rfl
  | append_singleton operations operation ih =>
    rw [List.countP_append, List.countP_singleton, ← ih]
    simp only [length_lookups_append_singleton]
    by_cases hkey : operation.key ∈ offeredKeys operations <;>
      cases operation.looksUp <;> simp [hkey] <;> omega

theorem freshReply_of_offer {plan : Plan}
    (h : operation.offer? = some plan) (serial : Nat) :
    operation.freshReply serial = .plan ⟨serial, plan⟩ := by
  rcases operation with key | ⟨key, plan'⟩ | ⟨key, error | plan'⟩ <;> cases h <;> rfl

/-- A request that finds nothing is answered with what its builder gives. -/
theorem map_value_of_freshReply {key : PlanKey} {outcome : Except ε Plan} {serial : Nat}
    {answer : Except ε (Shared Plan)}
    (h : (getOrBuild key outcome).freshReply serial = .ofAnswer answer) :
    answer.map (·.value) = outcome := by
  rcases outcome with error | plan <;> rcases answer with error' | found <;> cases h <;> rfl

end CacheOperation

namespace CacheStep

/-- The object that an operation with a plan to store was answered with, under its key. -/
def handed? (step : CacheStep ε) : Option (PlanKey × Shared Plan) :=
  match step.operation.offer?, step.reply with
  | some _, .plan plan => some (step.operation.key, plan)
  | _, _ => none

/-- What operations with a plan to store were answered with, in order. -/
def stored (steps : List (CacheStep ε)) : List (PlanKey × Shared Plan) :=
  steps.filterMap handed?

@[simp] theorem stored_append_singleton {steps : List (CacheStep ε)} {step : CacheStep ε} :
    stored (steps ++ [step]) = stored steps ++ step.handed?.toList :=
  filterMap_append_singleton ..

end CacheStep

namespace PlanCache

/-- Perform an operation on the cache. -/
def perform (cache : PlanCache) (operation : CacheOperation ε) : CacheStep ε × PlanCache :=
  match operation with
  | .get key =>
    let (found, cache) := cache.get? key
    (⟨operation, found.elim .missing .plan, 0⟩, cache)
  | .insert key plan =>
    let (stored, cache) := cache.insert key plan
    (⟨operation, .plan stored, 0⟩, cache)
  | .getOrBuild key outcome =>
    -- The state of the builder is how often it was run.
    let (answer, _, cache, runs) := cache.getOrBuild key 0 fun runs ↦ (outcome, runs + 1)
    (⟨operation, .ofAnswer answer, runs⟩, cache)

/-! ### One operation -/

variable {cache cache' : PlanCache} {key : PlanKey} {operation : CacheOperation ε}
  {step : CacheStep ε}

theorem get?_of_disabled (h : cache.enabled = false) : cache.get? key = (none, cache) := by
  simp [get?, h]

theorem get?_of_stored {found : Shared Plan} (h : cache.enabled = true)
    (hstored : cache.entries.lookup key = some found) :
    cache.get? key = (some found, { cache with hits := cache.hits + 1 }) := by
  simp [get?, h, hstored]

theorem get?_of_missing (h : cache.enabled = true) (hmissing : cache.entries.lookup key = none) :
    cache.get? key = (none, { cache with misses := cache.misses + 1 }) := by
  simp [get?, h, hmissing]

theorem insert_of_disabled (cache : PlanCache) (h : cache.enabled = false) (plan : Plan) :
    cache.insert key plan =
      (⟨cache.allocated, plan⟩, { cache with allocated := cache.allocated + 1 }) := by
  simp [insert, h]

theorem insert_of_missing (cache : PlanCache) (h : cache.enabled = true)
    (hmissing : cache.entries.lookup key = none) (plan : Plan) :
    cache.insert key plan = (⟨cache.allocated, plan⟩,
      { cache with
        entries := (key, ⟨cache.allocated, plan⟩) :: cache.entries
        allocated := cache.allocated + 1 }) := by
  simp [insert, h, hmissing]

theorem insert_of_stored (h : cache.enabled = true) {key : PlanKey} {found : Shared Plan}
    (hstored : cache.entries.lookup key = some found) (plan : Plan) :
    cache.insert key plan = (found, { cache with allocated := cache.allocated + 1 }) := by
  simp [insert, h, hstored]

@[simp] theorem perform_operation (cache : PlanCache) (operation : CacheOperation ε) :
    (cache.perform operation).1.operation = operation := by
  cases operation <;> rfl

/-- **A request is an operation on the cache**, whose builder has the outcome that building has where
the request begins. -/
theorem perform_getOrBuild {σ : Type} (cache : PlanCache) (key : PlanKey) (state : σ)
    (build : σ → Except ε Plan × σ) :
    (cache.perform (.getOrBuild key (build state).1)).1.reply =
        .ofAnswer (cache.getOrBuild key state build).1 ∧
      (cache.perform (.getOrBuild key (build state).1)).2 =
        (cache.getOrBuild key state build).2.2.1 := by
  simp only [perform, getOrBuild]
  rcases cache.get? key with ⟨- | found, cache'⟩
  · rcases build state with ⟨error | plan, state'⟩ <;> exact ⟨rfl, rfl⟩
  · exact ⟨rfl, rfl⟩

/-- Of its builder a request leaves the state in which it begins, or the one that building leaves. -/
theorem getOrBuild_state {σ : Type} (cache : PlanCache) (key : PlanKey) (state : σ)
    (build : σ → Except ε Plan × σ) :
    (cache.getOrBuild key state build).2.2.2 = state ∨
      (cache.getOrBuild key state build).2.2.2 = (build state).2 := by
  rw [getOrBuild]
  rcases cache.get? key with ⟨- | found, cache'⟩
  · rcases build state with ⟨error | plan, state'⟩ <;> exact .inr rfl
  · exact .inl rfl

/-- What an operation does to a cache that is enabled, by what is stored under its key. A plan that
is offered in vain was an object all the same. -/
inductive Performs (cache : PlanCache) (operation : CacheOperation ε) :
    CacheStep ε → PlanCache → Prop
  | found {plan : Shared Plan} {allocated : Nat}
      (hstored : cache.entries.lookup operation.key = some plan)
      (hallocated : cache.allocated ≤ allocated) :
      Performs cache operation ⟨operation, .plan plan, 0⟩
        { cache with hits := cache.hits + operation.looksUp.toNat, allocated := allocated }
  | stored {plan : Plan} (hmissing : cache.entries.lookup operation.key = none)
      (hoffer : operation.offer? = some plan) :
      Performs cache operation
        ⟨operation, operation.freshReply cache.allocated, operation.builders⟩
        { cache with
          entries := (operation.key, ⟨cache.allocated, plan⟩) :: cache.entries
          misses := cache.misses + operation.looksUp.toNat
          allocated := cache.allocated + 1 }
  | nothing (hmissing : cache.entries.lookup operation.key = none)
      (hoffer : operation.offer? = none) :
      Performs cache operation
        ⟨operation, operation.freshReply cache.allocated, operation.builders⟩
        { cache with misses := cache.misses + operation.looksUp.toNat }

/-- **An operation on an enabled cache has one of three outcomes.** -/
theorem perform_performs (h : cache.enabled = true) (operation : CacheOperation ε) :
    cache.Performs operation (cache.perform operation).1 (cache.perform operation).2 := by
  cases operation with
  | get key =>
    rcases hlookup : cache.entries.lookup key with - | found
    · simp only [perform, get?_of_missing h hlookup]
      exact .nothing hlookup rfl
    · simp only [perform, get?_of_stored h hlookup]
      exact .found hlookup le_rfl
  | insert key plan =>
    rcases hlookup : cache.entries.lookup key with - | found
    · simp only [perform, insert_of_missing cache h hlookup]
      exact .stored hlookup rfl
    · simp only [perform, insert_of_stored h hlookup]
      exact .found hlookup (Nat.le_succ _)
  | getOrBuild key outcome =>
    rcases hlookup : cache.entries.lookup key with - | found
    · rcases outcome with error | plan
      · simp only [perform, getOrBuild, get?_of_missing h hlookup]
        exact .nothing hlookup rfl
      · have hinsert :=
          insert_of_missing { cache with misses := cache.misses + 1 } h hlookup plan
        simp only [perform, getOrBuild, get?_of_missing h hlookup, hinsert]
        exact .stored hlookup rfl
    · simp only [perform, getOrBuild, get?_of_stored h hlookup]
      exact .found hlookup le_rfl

/-- **A disabled cache answers as a new one**, and stores and counts nothing. -/
theorem perform_of_disabled (h : cache.enabled = false) (operation : CacheOperation ε) :
    (cache.perform operation).1 =
        ⟨operation, operation.freshReply cache.allocated, operation.builders⟩ ∧
      (cache.perform operation).2 =
        { cache with allocated := (cache.perform operation).2.allocated } := by
  rcases operation with key | ⟨key, plan⟩ | ⟨key, error | plan⟩
  · simp [perform, get?_of_disabled h, CacheOperation.freshReply, CacheOperation.builders]
  · simp [perform, insert_of_disabled cache h, CacheOperation.freshReply, CacheOperation.builders]
  all_goals simp [perform, getOrBuild, get?_of_disabled h, insert_of_disabled cache h,
    CacheReply.ofAnswer, CacheOperation.freshReply, CacheOperation.builders]

/-! ### The account of an enabled cache -/

/-- The cache is enabled and holds what operations have made of it, of which those with a plan to store
were answered with the objects in `handed`. -/
structure Recounts (cache : PlanCache) (operations : List (CacheOperation ε))
    (handed : List (PlanKey × Shared Plan)) : Prop where
  enabled : cache.enabled = true
  numbered : Numbered cache.entries cache.allocated
  objects : HandsOut cache.entries handed
  plans : KeepsFirst Shared.value cache.entries (CacheOperation.offers operations)
  hits : cache.hits = (CacheOperation.lookups true operations).length
  misses : cache.misses = (CacheOperation.lookups false operations).length

namespace Recounts

variable {operations : List (CacheOperation ε)} {handed : List (PlanKey × Shared Plan)}

theorem nil : ({ enabled := true } : PlanCache).Recounts ([] : List (CacheOperation ε)) [] :=
  ⟨rfl, ⟨.nil, nofun, nofun⟩, .nil, .nil, rfl, rfl⟩

/-- Nothing is stored under a key exactly as long as nothing was offered under it. -/
theorem lookup_eq_none_iff (h : cache.Recounts operations handed) {key : PlanKey} :
    cache.entries.lookup key = none ↔ key ∉ CacheOperation.offeredKeys operations := by
  rw [CacheOperation.offeredKeys, notMem_keys_iff, ← h.plans, Option.map_eq_none_iff]

theorem mem_offeredKeys (h : cache.Recounts operations handed) {key : PlanKey} {plan : Shared Plan}
    (hstored : cache.entries.lookup key = some plan) :
    key ∈ CacheOperation.offeredKeys operations := by
  by_contra hkey
  cases hstored.symm.trans (h.lookup_eq_none_iff.2 hkey)

/-- **An operation keeps the account**, now with one step more. -/
theorem performs (h : cache.Recounts operations handed)
    (hperforms : cache.Performs operation step cache') :
    cache'.Recounts (operations ++ [operation]) (handed ++ step.handed?.toList) := by
  cases hperforms with
  | @found plan allocated hstored hallocated =>
    have hkey := h.mem_offeredKeys hstored
    refine ⟨h.enabled, h.numbered.mono hallocated, ?_, ?_, ?_, ?_⟩
    · rw [CacheStep.handed?]
      rcases operation.offer? with - | offered
      · simpa using h.objects
      · exact h.objects.again hstored
    · rw [CacheOperation.offers_append_singleton]
      rcases operation.offer? with - | offered
      · simpa using h.plans
      · exact h.plans.again hstored offered
    · simp [hkey, h.hits]
    · simp [hkey, h.misses]
  | @stored plan hmissing hoffer =>
    have hkey := h.lookup_eq_none_iff.1 hmissing
    refine ⟨h.enabled, h.numbered.cons hmissing plan, ?_, ?_, ?_, ?_⟩
    · rw [CacheStep.handed?, hoffer, CacheOperation.freshReply_of_offer hoffer]
      exact h.objects.store hmissing _
    · rw [CacheOperation.offers_append_singleton, hoffer]
      exact h.plans.store hmissing _
    · simp [hkey, h.hits]
    · simp [hkey, h.misses]
  | nothing hmissing hoffer =>
    have hkey := h.lookup_eq_none_iff.1 hmissing
    refine ⟨h.enabled, h.numbered, ?_, ?_, ?_, ?_⟩
    · simpa [CacheStep.handed?, hoffer] using h.objects
    · simpa [hoffer] using h.plans
    · simp [hkey, h.hits]
    · simp [hkey, h.misses]

/-- What was first stored under the key is the reply, or else the operation replies by itself. -/
theorem reply_eq (h : cache.Recounts operations handed)
    (hperforms : cache.Performs operation step cache') :
    step.reply = (handed.lookup operation.key).elim (operation.freshReply cache.allocated) .plan := by
  rw [← h.objects.lookup_eq]
  cases hperforms with
  | found hstored => rw [hstored]; rfl
  | stored hmissing | nothing hmissing => rw [hmissing]; rfl

/-- A builder is run exactly if nothing was offered under the key. -/
theorem runs_eq (h : cache.Recounts operations handed)
    (hperforms : cache.Performs operation step cache') :
    step.runs = if operation.key ∈ CacheOperation.offeredKeys operations then 0
      else operation.builders := by
  cases hperforms with
  | found hstored => rw [if_pos (h.mem_offeredKeys hstored)]
  | stored hmissing | nothing hmissing => rw [if_neg (h.lookup_eq_none_iff.1 hmissing)]

/-- Without a new plan for a new key the entries stay. -/
theorem entries_eq (h : cache.Recounts operations handed)
    (hperforms : cache.Performs operation step cache')
    (hidle : operation.offer? = none ∨ operation.key ∈ CacheOperation.offeredKeys operations) :
    cache'.entries = cache.entries := by
  cases hperforms with
  | found | nothing => rfl
  | stored hmissing hoffer =>
    rcases hidle with hnone | hkey
    · cases hoffer.symm.trans hnone
    · exact absurd hkey (h.lookup_eq_none_iff.1 hmissing)

theorem counts_eq (h : cache.Recounts operations handed) :
    cache.counts = ⟨(CacheOperation.lookups true operations).length,
      (CacheOperation.lookups false operations).length,
      (CacheOperation.offeredKeys operations).toFinset.card⟩ := by
  rw [counts, h.hits, h.misses, size, h.numbered.length_eq fun _ ↦ h.lookup_eq_none_iff]

end Recounts

/-! ### A disabled cache -/

/-- The cache is disabled, empty, and has counted nothing. -/
structure Idle (cache : PlanCache) : Prop where
  disabled : cache.enabled = false
  counts : cache.counts = ⟨0, 0, 0⟩

theorem Idle.perform (h : cache.Idle) (operation : CacheOperation ε) :
    (cache.perform operation).2.Idle := by
  rw [(perform_of_disabled h.disabled operation).2]
  exact ⟨h.disabled, h.counts⟩

end PlanCache

end Recast
