import Recast.Proofs.Plan.Matching
import Recast.Proofs.Plan.Typing
import Recast.Proofs.WriteOnce

/-!
# The history of a matcher

Any calls to one matcher, one after the other, each with a provider of its own. A call finds the
result of an earlier one, or fails and leaves the matcher as it is, or succeeds anew
(`Matcher.Answers`). So the memory holds the first success of every pair (`MatchCall.successes`),
which later providers do not change, and a failure is not held against the pair. The invariant is
`Matcher.Recalls`.
-/

namespace Recast

/-! ### Calls and answers -/

/-- A call to a matcher. -/
structure MatchCall where
  provider : ShapeProvider
  source : String
  target : String

namespace MatchCall

/-- What the result is remembered under. -/
def pair (call : MatchCall) : String × String := (call.source, call.target)

/-- The result without any memory. -/
def computed (call : MatchCall) : Except PlanError (List Pairing) :=
  (Matching.ofShapes call.provider call.source call.target).1

/-- The results of the calls that would succeed without any memory, under their pairs. -/
def successes (calls : List MatchCall) : List ((String × String) × List Pairing) :=
  calls.filterMap fun call ↦ call.computed.toOption.map (call.pair, ·)

@[simp] theorem successes_append_singleton {calls : List MatchCall} {call : MatchCall} :
    successes (calls ++ [call]) =
      successes calls ++ (call.computed.toOption.map (call.pair, ·)).toList :=
  filterMap_append_singleton ..

end MatchCall

/-- A call and its answer. -/
structure MatchStep where
  call : MatchCall
  answer : Except PlanError (Shared (List Pairing))

namespace MatchStep

/-- The answers that were results, under the pairs of their calls. -/
def matched (steps : List MatchStep) : List ((String × String) × Shared (List Pairing)) :=
  steps.filterMap fun step ↦ step.answer.toOption.map (step.call.pair, ·)

@[simp] theorem matched_append_singleton {steps : List MatchStep} {step : MatchStep} :
    matched (steps ++ [step]) =
      matched steps ++ (step.answer.toOption.map (step.call.pair, ·)).toList :=
  filterMap_append_singleton ..

end MatchStep

namespace Matcher

/-- What the matcher answers to a call. -/
def answer (matcher : Matcher) (call : MatchCall) : Except PlanError (Shared (List Pairing)) :=
  (matcher.match? call.provider call.source call.target).1

/-- The matcher that a call leaves behind. -/
def next (matcher : Matcher) (call : MatchCall) : Matcher :=
  (matcher.match? call.provider call.source call.target).2.1

/-- A call with its answer, and the matcher that it leaves behind. -/
def step (matcher : Matcher) (call : MatchCall) : MatchStep × Matcher :=
  (⟨call, matcher.answer call⟩, matcher.next call)

/-- The matcher that calls leave behind. -/
def afterAll (matcher : Matcher) (calls : List MatchCall) : Matcher := Run.final step matcher calls

/-- The calls with their answers, each to the matcher that the one before has left. -/
def run (matcher : Matcher) (calls : List MatchCall) : List MatchStep :=
  Run.outputs step matcher calls

/-! ### One call -/

variable {matcher matcher' : Matcher} {call : MatchCall}
  {result : Except PlanError (Shared (List Pairing))}

/-- What a call does to a matcher, and its answer. -/
inductive Answers (matcher : Matcher) (call : MatchCall) :
    Except PlanError (Shared (List Pairing)) → Matcher → Prop
  | found {found : Shared (List Pairing)} (hfound : matcher.memo.lookup call.pair = some found) :
      Answers matcher call (.ok found) matcher
  | failed {error : PlanError} (hmissing : matcher.memo.lookup call.pair = none)
      (hcomputed : call.computed = .error error) : Answers matcher call (.error error) matcher
  | matched {pairings : List Pairing} (hmissing : matcher.memo.lookup call.pair = none)
      (hcomputed : call.computed = .ok pairings) :
      Answers matcher call (.ok ⟨matcher.size, pairings⟩)
        ⟨(call.pair, ⟨matcher.size, pairings⟩) :: matcher.memo⟩

/-- **A call has one of three outcomes.** -/
theorem answers_next (matcher : Matcher) (call : MatchCall) :
    matcher.Answers call (matcher.answer call) (matcher.next call) := by
  rw [answer, next, match?]
  rcases hlookup : matcher.memo.lookup (call.source, call.target) with - | found
  · rcases hshapes : Matching.ofShapes call.provider call.source call.target with
      ⟨error | pairings, log⟩
    · exact .failed hlookup (congrArg Prod.fst hshapes)
    · exact .matched hlookup (congrArg Prod.fst hshapes)
  · exact .found hlookup

/-! ### The history -/

/-- The matcher holds what calls with their answers have made of it. -/
structure Recalls (matcher : Matcher) (calls : List MatchCall) (steps : List MatchStep) : Prop where
  numbered : Numbered matcher.memo matcher.size
  objects : HandsOut matcher.memo (MatchStep.matched steps)
  results : KeepsFirst Shared.value matcher.memo (MatchCall.successes calls)

namespace Recalls

variable {calls : List MatchCall} {steps : List MatchStep}

theorem nil : ({} : Matcher).Recalls [] [] := ⟨⟨.nil, nofun, nofun⟩, .nil, .nil⟩

/-- **A call keeps the memory true**, now with one step more. -/
theorem answers (h : matcher.Recalls calls steps)
    (hanswers : matcher.Answers call result matcher') :
    matcher'.Recalls (calls ++ [call]) (steps ++ [⟨call, result⟩]) := by
  cases hanswers with
  | @found found hfound =>
    refine ⟨h.numbered, ?_, ?_⟩
    · rw [MatchStep.matched_append_singleton]
      exact h.objects.again hfound
    · rw [MatchCall.successes_append_singleton]
      rcases call.computed.toOption with - | pairings
      · simpa using h.results
      · exact h.results.again hfound pairings
  | failed hmissing hcomputed =>
    refine ⟨h.numbered, ?_, ?_⟩
    · simpa using h.objects
    · simpa [hcomputed] using h.results
  | @matched pairings hmissing hcomputed =>
    refine ⟨h.numbered.cons hmissing pairings, ?_, ?_⟩
    · rw [MatchStep.matched_append_singleton]
      exact h.objects.store hmissing _
    · rw [MatchCall.successes_append_singleton, hcomputed]
      exact h.results.store hmissing _

/-- The answer is the result that was first handed out, or else the one that is computed. -/
theorem answer_eq (h : matcher.Recalls calls steps)
    (hanswers : matcher.Answers call result matcher') :
    (∀ found, (MatchStep.matched steps).lookup call.pair = some found → result = .ok found) ∧
      ((MatchStep.matched steps).lookup call.pair = none →
        result.map (·.value) = call.computed) := by
  rw [← h.objects.lookup_eq]
  cases hanswers with
  | found hfound => simp [hfound]
  | failed hmissing hcomputed | matched hmissing hcomputed => simp [hmissing, hcomputed]

/-- A failure leaves the matcher as it is, and with nothing for the pair. -/
theorem next_eq_of_error (h : matcher.Recalls calls steps) {error : PlanError}
    (hanswers : matcher.Answers call (.error error) matcher') :
    matcher' = matcher ∧ (MatchStep.matched steps).lookup call.pair = none := by
  rw [← h.objects.lookup_eq]
  cases hanswers with
  | failed hmissing hcomputed => exact ⟨rfl, hmissing⟩

theorem size_eq (h : matcher.Recalls calls steps) :
    matcher.size = ((MatchStep.matched steps).map (·.1)).toFinset.card :=
  h.numbered.length_eq fun pair ↦ by rw [notMem_keys_iff, h.objects.lookup_eq]

/-- Calls to a new matcher are all remembered. -/
theorem afterAll (calls : List MatchCall) :
    (Matcher.afterAll {} calls).Recalls calls (run {} calls) :=
  Run.invariant step Recalls (fun matcher _ _ call h ↦ h.answers (matcher.answers_next call)) nil
    calls

end Recalls

/-- **The first success of a pair is its answer from then on.** In a run a call for a pair that
succeeded before is answered with the same object, whatever its provider is, and any other call with
what the provider gives. The remembered result is the first that some provider gave. A failure
leaves the matcher as it is, so that the pair succeeds as soon as a provider resolves it. Different
pairs have different objects, and as many results are remembered as pairs have succeeded. What a
provider gives are pairings for the target fields that declare an override or have a source field of
their name, in the order of declaration. -/
theorem first_success_stays (calls : List MatchCall) (call : MatchCall) :
    let matcher := ({} : Matcher).afterAll calls
    let matched := MatchStep.matched (({} : Matcher).run calls)
    ({} : Matcher).run (calls ++ [call]) =
      ({} : Matcher).run calls ++ [⟨call, matcher.answer call⟩] ∧
    (∀ found, matched.lookup call.pair = some found → matcher.answer call = .ok found) ∧
    (matched.lookup call.pair = none → (matcher.answer call).map (·.value) = call.computed) ∧
    (∀ pair, (matched.lookup pair).map (·.value) = (MatchCall.successes calls).lookup pair) ∧
    (∀ error, matcher.answer call = .error error → matcher.next call = matcher ∧
      ∀ later : MatchCall, later.pair = call.pair →
        ((matcher.next call).answer later).map (·.value) = later.computed) ∧
    (∀ pair pair' found found', matched.lookup pair = some found →
      matched.lookup pair' = some found' → (found.serial = found'.serial ↔ pair = pair')) ∧
    matcher.size = (matched.map (·.1)).toFinset.card ∧
    (∀ pairings, call.computed = .ok pairings → ∃ sourceFields targetFields,
      call.provider call.source = .ok sourceFields ∧
      call.provider call.target = .ok targetFields ∧
      pairings.map (·.target) = targetFields.filter fun field ↦
        field.override.isSome ∨ field.name ∈ sourceFields.map (·.name)) := by
  intro matcher matched
  have h : matcher.Recalls calls (({} : Matcher).run calls) := Recalls.afterAll calls
  obtain ⟨hfound, hcomputed⟩ := h.answer_eq (matcher.answers_next call)
  refine ⟨Run.outputs_append .., hfound, hcomputed, fun pair ↦ ?_,
    fun error herror ↦ ?_, ?_, h.size_eq, fun _ ↦ Matching.map_target_of_ofShapes⟩
  · rw [← h.objects.lookup_eq, h.results]
  · obtain ⟨hnext, hmissing⟩ := h.next_eq_of_error (herror ▸ matcher.answers_next call)
    rw [hnext]
    refine ⟨rfl, fun later hpair ↦ ?_⟩
    exact (h.answer_eq (matcher.answers_next later)).2 (hpair ▸ hmissing)
  · intro pair pair' found found' hfound hfound'
    rw [← h.objects.lookup_eq] at hfound hfound'
    exact h.numbered.serial_eq_iff hfound hfound'

end Matcher

namespace Blog

/-- The pair of posts and their views, in the registry of the blog. -/
def postCall : MatchCall := ⟨registry, "Post", "PostView"⟩

/-- The same pair, with a provider that has no shape. -/
def bareCall : MatchCall := { postCall with provider := fun shape ↦ .error (.unknownShape shape) }

/-- Another pair. -/
def tagCall : MatchCall := ⟨registry, "Tag", "TagView"⟩

/-- The pair of posts fails with the bare provider at first and succeeds in the registry, and after
that it has its result with the bare provider too. The pair of tags has a result of its own. -/
theorem posts_matched :
    let calls := [bareCall, postCall, tagCall]
    let matcher := ({} : Matcher).afterAll calls
    let matched := MatchStep.matched (({} : Matcher).run calls)
    ({} : Matcher).answer bareCall = .error (.catalogue (.unknownShape "Post")) ∧
    ({} : Matcher).next bareCall = {} ∧
    ((({} : Matcher).next bareCall).answer postCall).map (·.value) = postCall.computed ∧
    ∃ found found', matched.lookup postCall.pair = some found ∧
      matched.lookup tagCall.pair = some found' ∧
      (found.serial = found'.serial ↔ postCall.pair = tagCall.pair) ∧
      matcher.answer bareCall = .ok found ∧
      found.value.map (·.target.name) =
        ["Id", "State", "AuthorName", "Site", "Tags", "Parent"] ∧
      matcher.size = 2 := by
  have herror : ({} : Matcher).answer bareCall = .error (.catalogue (.unknownShape "Post")) := by
    with_unfolding_all rfl
  obtain ⟨-, -, -, -, hfailed, -⟩ := Matcher.first_success_stays [] bareCall
  obtain ⟨hnext, hlater⟩ := hfailed _ herror
  obtain ⟨-, hfound, -, -, -, hserial, hsize, -⟩ :=
    Matcher.first_success_stays [bareCall, postCall, tagCall] bareCall
  obtain ⟨found, found', hlookup, hlookup', hnames⟩ : ∃ found found',
      (MatchStep.matched (({} : Matcher).run [bareCall, postCall, tagCall])).lookup
        postCall.pair = some found ∧
      (MatchStep.matched (({} : Matcher).run [bareCall, postCall, tagCall])).lookup
        tagCall.pair = some found' ∧
      found.value.map (·.target.name) =
        ["Id", "State", "AuthorName", "Site", "Tags", "Parent"] := by
    with_unfolding_all exact ⟨_, _, rfl, rfl, rfl⟩
  exact ⟨herror, hnext, hlater postCall rfl, found, found', hlookup, hlookup',
    hserial _ _ _ _ hlookup hlookup', hfound found hlookup, hnames, hsize⟩

end Blog

end Recast
