import Recast.Proofs.Plan.CacheHistory
import Recast.Proofs.Plan.Memory

/-!
# Sessions with a planner

A planner remembers pairings and plans from request to request, and requests that fail midway leave
what they have found out behind. None of that shows in the answers: in a session of any length every
request is answered as by a planner that has not worked yet (`session_transparent`). What does show
is which answers are one object, and the counters of the cache; both are told by the calls of the
session.

What the planner remembers is right (`Sound`), and a request keeps it so. To the cache of a sound
planner a request is an operation whose builder has the outcome of the construction
(`Sound.compile_perform`), so the account of a cache (`PlanCache.Recounts`) is also one of a session.
-/

namespace Recast

/-! ### Calls -/

/-- A request and its answer. -/
structure Call (ε : Type) where
  key : PlanKey
  answer : Except ε (Shared Plan)

namespace Call

variable {ε : Type}

/-- The operation on the cache that the call amounts to. -/
def operation (call : Call ε) : CacheOperation ε :=
  .getOrBuild call.key (call.answer.map (·.value))

/-- The object that the call was answered with, under its key. -/
def handed? (call : Call ε) : Option (PlanKey × Shared Plan) :=
  call.answer.toOption.map (call.key, ·)

/-- The keys of the calls that were answered with a plan, one for each such call. -/
def planned (calls : List (Call ε)) : List PlanKey :=
  calls.filterMap fun call ↦ if call.answer.isOk then some call.key else none

/-- The calls before which no call of their key was answered with a plan. -/
def firstTries (calls : List (Call ε)) : List (Call ε) :=
  filterPast (fun past call ↦ call.key ∉ planned past) calls

variable {calls : List (Call ε)}

@[simp] theorem offeredKeys_operation (calls : List (Call ε)) :
    CacheOperation.offeredKeys (calls.map operation) = planned calls := by
  rw [CacheOperation.offeredKeys, CacheOperation.offers, List.filterMap_map, List.map_filterMap]
  refine List.filterMap_congr fun call _ ↦ ?_
  rcases call with ⟨key, error | plan⟩ <;> rfl

theorem length_firstTries (calls : List (Call ε)) :
    (CacheOperation.lookups false (calls.map operation)).length = (firstTries calls).length := by
  rw [CacheOperation.lookups, filterPast_map, List.length_map, firstTries]
  simp [operation, CacheOperation.looksUp, CacheOperation.key]

/-- All calls are lookups. -/
theorem countP_looksUp_operation (calls : List (Call ε)) :
    (calls.map operation).countP CacheOperation.looksUp = calls.length := by
  rw [List.countP_map]
  exact List.countP_eq_length.2 fun _ _ ↦ rfl

/-- An operation with the reply for the answer of a call hands out what the call does. -/
theorem handed?_eq {call : Call ε} {step : CacheStep ε}
    (hoperation : step.operation = call.operation) (hreply : step.reply = .ofAnswer call.answer) :
    step.handed? = call.handed? := by
  rw [CacheStep.handed?, hoperation, hreply]
  rcases call with ⟨key, error | plan⟩ <;> rfl

theorem mem_handed {call : Call ε} {plan : Shared Plan} (hcall : call ∈ calls)
    (hplan : call.answer = .ok plan) : (call.key, plan) ∈ calls.filterMap handed? :=
  List.mem_filterMap.2 ⟨call, hcall, by simp [handed?, hplan]⟩

end Call

/-- The plan of a request, by the construction itself. -/
abbrev PlanKey.built (key : PlanKey) (registry : Registry) (limits : Limits) :
    Except PlanError Plan :=
  Plan.between registry ⟨limits, key.loadChildren⟩ key.source key.target

namespace Planner

/-- A request with its answer, and the planner that it leaves behind. -/
def step (planner : Planner) (key : PlanKey) : Call PlanError × Planner :=
  (⟨key, (planner.compile key).1⟩, (planner.compile key).2.1)

/-- The planner that requests leave behind. -/
def after (planner : Planner) (requests : List PlanKey) : Planner := Run.final step planner requests

/-- The calls of a session: each request goes to the planner that the one before has left. -/
def session (planner : Planner) (requests : List PlanKey) : List (Call PlanError) :=
  Run.outputs step planner requests

variable {registry : Registry} {limits : Limits} {planner : Planner}

/-- A request is an operation on the cache. -/
theorem compile_perform (planner : Planner) (key : PlanKey) :
    let outcome := (planner.buildIn key ⟨planner.matcher, []⟩).1
    (planner.cache.perform (.getOrBuild key outcome)).1.reply =
        .ofAnswer (planner.compile key).1 ∧
      (planner.cache.perform (.getOrBuild key outcome)).2 = (planner.compile key).2.1.cache :=
  planner.cache.perform_getOrBuild key ⟨planner.matcher, []⟩ (planner.buildIn key)

/-- A request leaves the memory as it is, or as building leaves it. -/
theorem compile_matcher (planner : Planner) (key : PlanKey) :
    (planner.compile key).2.1.matcher = planner.matcher ∨
      (planner.compile key).2.1.matcher =
        (planner.buildIn key ⟨planner.matcher, []⟩).2.matcher :=
  (planner.cache.getOrBuild_state key ⟨planner.matcher, []⟩ (planner.buildIn key)).imp
    (congrArg Workspace.matcher) (congrArg Workspace.matcher)

/-! ### What is remembered is right -/

/-- The planner is for the registry and the limits, and all that it remembers is what working it out
anew would give. -/
structure Sound (registry : Registry) (limits : Limits) (planner : Planner) : Prop where
  registry_eq : planner.registry = registry
  limits_eq : planner.limits = limits
  matcher : planner.matcher.Faithful registry
  cache : ∀ key plan, planner.cache.entries.lookup key = some plan →
    key.built registry limits = .ok plan.value

theorem sound_ofConfig (registry : Registry) (config : Config) :
    (ofConfig registry config).Sound registry config.limits :=
  ⟨rfl, rfl, nofun, nofun⟩

/-- Building in a sound planner has the outcome of the construction, and leaves a right memory. -/
theorem Sound.buildIn (h : planner.Sound registry limits) (key : PlanKey) :
    (planner.buildIn key ⟨planner.matcher, []⟩).1 = key.built registry limits ∧
      (planner.buildIn key ⟨planner.matcher, []⟩).2.matcher.Faithful registry := by
  obtain ⟨rfl, rfl, hmatcher, -⟩ := h
  exact planner.buildIn_computes key hmatcher

/-- **To the cache of a sound planner a request is an operation whose builder has the outcome of the
construction.** -/
theorem Sound.compile_perform (h : planner.Sound registry limits) (key : PlanKey) :
    (planner.cache.perform (.getOrBuild key (key.built registry limits))).1.reply =
        .ofAnswer (planner.compile key).1 ∧
      (planner.cache.perform (.getOrBuild key (key.built registry limits))).2 =
        (planner.compile key).2.1.cache := by
  rw [← (h.buildIn key).1]
  exact planner.compile_perform key

/-- What a right cache replies to a request is right, and so is what it holds then. -/
theorem perform_right {cache : PlanCache}
    (hcache : ∀ key plan, cache.entries.lookup key = some plan →
      key.built registry limits = .ok plan.value) (key : PlanKey)
    {answer : Except PlanError (Shared Plan)}
    (hreply : (cache.perform (.getOrBuild key (key.built registry limits))).1.reply =
      .ofAnswer answer) :
    answer.map (·.value) = key.built registry limits ∧
      ∀ key' plan, (cache.perform (.getOrBuild key (key.built registry limits))).2.entries.lookup
        key' = some plan → key'.built registry limits = .ok plan.value := by
  rcases henabled : cache.enabled with - | -
  · obtain ⟨hstep, hnext⟩ := PlanCache.perform_of_disabled henabled
      (.getOrBuild key (key.built registry limits))
    rw [hstep] at hreply
    rw [hnext]
    exact ⟨CacheOperation.map_value_of_freshReply hreply, hcache⟩
  · have hperforms := PlanCache.perform_performs henabled
      (.getOrBuild key (key.built registry limits))
    generalize (cache.perform (.getOrBuild key (key.built registry limits))).1 = step
      at hreply hperforms
    generalize (cache.perform (.getOrBuild key (key.built registry limits))).2 = next
      at hperforms
    cases hperforms with
    | found hstored =>
      cases CacheReply.ofAnswer_eq_plan_iff.1 hreply.symm
      exact ⟨(hcache _ _ hstored).symm, hcache⟩
    | @stored plan hmissing hoffer =>
      refine ⟨CacheOperation.map_value_of_freshReply hreply, fun key' plan' hlookup ↦ ?_⟩
      rcases lookup_cons_of_eq_some hlookup with ⟨rfl, rfl⟩ | hlookup
      · exact toOption_eq_some_iff.1 hoffer
      · exact hcache key' plan' hlookup
    | nothing => exact ⟨CacheOperation.map_value_of_freshReply hreply, hcache⟩

/-- **A request to a sound planner has the answer of the construction**, and it leaves the planner
sound, also when it fails. -/
theorem Sound.compile (h : planner.Sound registry limits) (key : PlanKey) :
    (planner.compile key).1.map (·.value) = key.built registry limits ∧
      (planner.compile key).2.1.Sound registry limits := by
  obtain ⟨hreply, hnext⟩ := h.compile_perform key
  obtain ⟨hanswer, hcache⟩ := perform_right h.cache key hreply
  rw [hnext] at hcache
  refine ⟨hanswer, h.registry_eq, h.limits_eq, ?_, hcache⟩
  rcases planner.compile_matcher key with hmatcher | hmatcher
  · rw [hmatcher]
    exact h.matcher
  · rw [hmatcher]
    exact (h.buildIn key).2

/-- **A sound planner answers every request of a session as the construction does.** -/
theorem Sound.session (h : planner.Sound registry limits) (requests : List PlanKey) :
    (planner.session requests).map (fun call ↦ (call.key, call.answer.map (·.value))) =
      requests.map fun key ↦ (key, key.built registry limits) := by
  refine (Run.invariant step (fun planner past calls ↦ planner.Sound registry limits ∧
    calls.map (fun call ↦ (call.key, call.answer.map (·.value))) =
      past.map fun key ↦ (key, key.built registry limits))
    (fun planner past calls key ⟨hsound, hcalls⟩ ↦ ?_) ⟨h, rfl⟩ requests).2
  obtain ⟨hanswer, hnext⟩ := hsound.compile key
  refine ⟨hnext, ?_⟩
  rw [List.map_append, List.map_append, hcalls, List.map_singleton, List.map_singleton, step,
    hanswer]

/-! ### The cache of a session -/

/-- **The calls of a session are all accounted for**, if the cache is enabled. -/
theorem recounts_after (h : planner.Sound registry limits)
    (hcache : planner.cache.Recounts ([] : List (CacheOperation PlanError)) [])
    (requests : List PlanKey) :
    (planner.after requests).cache.Recounts ((planner.session requests).map Call.operation)
      ((planner.session requests).filterMap Call.handed?) := by
  refine (Run.invariant step (fun planner _ calls ↦ planner.Sound registry limits ∧
    planner.cache.Recounts (calls.map Call.operation) (calls.filterMap Call.handed?))
    (fun planner _ calls key ⟨hsound, hrecounts⟩ ↦ ?_) ⟨h, hcache⟩ requests).2
  obtain ⟨hanswer, hnext⟩ := hsound.compile key
  obtain ⟨hreply, hcache⟩ := hsound.compile_perform key
  have hoperation : (step planner key).1.operation = .getOrBuild key (key.built registry limits) :=
    congrArg (CacheOperation.getOrBuild key) hanswer
  rw [← hoperation] at hreply hcache
  have hperforms := PlanCache.perform_performs hrecounts.enabled (step planner key).1.operation
  have hafter := hrecounts.performs hperforms
  rw [Call.handed?_eq (PlanCache.perform_operation ..) hreply, hcache] at hafter
  refine ⟨hnext, ?_⟩
  rw [List.map_append, List.map_singleton, filterMap_append_singleton]
  exact hafter

/-- A session leaves a disabled cache idle. -/
theorem idle_after (h : planner.cache.Idle) (requests : List PlanKey) :
    (planner.after requests).cache.Idle := by
  refine Run.invariant step (fun planner _ _ ↦ planner.cache.Idle) (fun planner _ _ key h ↦ ?_) h
    requests
  have hidle := h.perform (.getOrBuild key (planner.buildIn key ⟨planner.matcher, []⟩).1)
  rwa [(planner.compile_perform key).2] at hidle

/-! ### The session -/

/-- **What a planner remembers never shows in its answers.** In a session every request has the
answer that a new planner gives to it, be it a plan or an error. An enabled cache has stored the
plan of every call that had one, two such calls have had one object exactly if they were of one key,
and the counters are numbers of calls: a miss for each call before which none of its key had a plan,
a hit for each other one, and the size for the keys that have had a plan. A disabled cache counts
nothing. A session that goes on has its beginning as a session, so that all of this holds after every
call. -/
theorem session_transparent (registry : Registry) (config : Config) (requests : List PlanKey) :
    ((ofConfig registry config).session requests).map
        (fun call ↦ (call.key, call.answer.map (·.value))) =
      requests.map (fun key ↦
        (key, ((ofConfig registry config).compile key).1.map (·.value))) ∧
    (∀ more, (ofConfig registry config).session (requests ++ more) =
      (ofConfig registry config).session requests ++
        ((ofConfig registry config).after requests).session more) ∧
    (config.planCacheEnabled = true →
      let calls := (ofConfig registry config).session requests
      let cache := ((ofConfig registry config).after requests).cache
      (∀ call ∈ calls, ∀ plan, call.answer = .ok plan →
        cache.entries.lookup call.key = some plan) ∧
      (∀ call ∈ calls, ∀ call' ∈ calls, ∀ plan plan', call.answer = .ok plan →
        call'.answer = .ok plan' → (plan.serial = plan'.serial ↔ call.key = call'.key)) ∧
      cache.counts.hits + cache.counts.misses = requests.length ∧
      cache.counts.misses = (Call.firstTries calls).length ∧
      cache.counts.size = (Call.planned calls).toFinset.card) ∧
    (config.planCacheEnabled = false →
      ((ofConfig registry config).after requests).cache.counts = ⟨0, 0, 0⟩) := by
  have hsound := sound_ofConfig registry config
  refine ⟨?_, Run.outputs_append step _ requests, fun henabled ↦ ?_, fun hdisabled ↦ ?_⟩
  · rw [hsound.session]
    exact List.map_congr_left fun key _ ↦ by rw [(hsound.compile key).1]
  · have hnew : (ofConfig registry config).cache.Recounts
        ([] : List (CacheOperation PlanError)) [] := by
      rw [ofConfig, henabled]
      exact .nil
    have hrecounts := recounts_after hsound hnew requests
    have hcounts := hrecounts.counts_eq
    intro calls cache
    have hstored : ∀ call ∈ calls, ∀ plan, call.answer = .ok plan →
        cache.entries.lookup call.key = some plan := fun call hcall plan hplan ↦
      (hrecounts.objects _ _).2 (Call.mem_handed hcall hplan)
    refine ⟨hstored, fun call hcall call' hcall' plan plan' hplan hplan' ↦ ?_, ?_, ?_, ?_⟩
    · exact hrecounts.numbered.serial_eq_iff (hstored call hcall plan hplan)
        (hstored call' hcall' plan' hplan')
    · rw [hcounts, CacheOperation.length_lookups_add, Call.countP_looksUp_operation]
      exact Run.length_outputs step _ requests
    · rw [hcounts, Call.length_firstTries]
    · rw [hcounts, Call.offeredKeys_operation]
  · exact (idle_after ⟨hdisabled, rfl⟩ requests).counts

end Planner

namespace Blog

/-- A planner with the limits of `settings` and a cache. -/
def config : Config := ⟨1, 2, 1, 3, true⟩

/-- Posts twice, with a pair of shapes that has no plan in between, and then with children. -/
def requests : List PlanKey :=
  [posts, ⟨"Tag", "PostView", false⟩, posts, posts']

/-- Of the four calls three miss, and two plans are stored in the end; without a cache nothing is
counted. -/
theorem session_counts :
    config.planCacheEnabled = true ∧
    ⟨posts, .ok ⟨0, postPlan⟩⟩ ∈ (Planner.ofConfig registry config).session requests ∧
    ((Planner.ofConfig registry config).after requests).cache.entries.lookup posts =
      some ⟨0, postPlan⟩ ∧
    (Call.firstTries ((Planner.ofConfig registry config).session requests)).length = 3 ∧
    (Call.planned ((Planner.ofConfig registry config).session requests)).toFinset.card = 2 ∧
    ((Planner.ofConfig registry { config with planCacheEnabled := false }).after
      requests).cache.counts = ⟨0, 0, 0⟩ := by
  have hcounts : ((Planner.ofConfig registry config).after requests).cache.counts = ⟨1, 3, 2⟩ := by
    with_unfolding_all rfl
  have hposts : ((Planner.ofConfig registry config).compile posts).1 = .ok ⟨0, postPlan⟩ := by
    with_unfolding_all rfl
  have hfirst : ⟨posts, .ok ⟨0, postPlan⟩⟩ ∈ (Planner.ofConfig registry config).session requests :=
    List.mem_cons.2 (.inl (congrArg (Call.mk posts) hposts.symm))
  obtain ⟨-, -, henabled, -⟩ := Planner.session_transparent registry config requests
  obtain ⟨hstored, -, -, hmisses, hsize⟩ := henabled rfl
  obtain ⟨-, -, -, hdisabled⟩ :=
    Planner.session_transparent registry { config with planCacheEnabled := false } requests
  rw [hcounts] at hmisses hsize
  exact ⟨rfl, hfirst, hstored _ hfirst _ rfl, hmisses.symm, hsize.symm, hdisabled rfl⟩

end Blog

end Recast
