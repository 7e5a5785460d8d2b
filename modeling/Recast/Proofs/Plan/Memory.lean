import Recast.Plan.Planner
import Recast.Proofs.Plan.Building
import Recast.Proofs.WriteOnce

/-!
# Building with a memory

A planner builds in a workspace, with the pairings of earlier builds at hand and a log to write.
Neither changes what is built: from a memory that holds nothing wrong (`Matcher.Faithful`) a build
has the result of the construction by itself, and it leaves such a memory behind
(`buildIn_computes`). So whatever is proved of `Plan.between` holds of the plans that a planner
builds.

The statement is carried through the construction by `Computes`, which every step of it preserves.
-/

namespace Recast

/-- What is remembered for a pair of shapes is what matching them gives. -/
def Matcher.Faithful (registry : Registry) (matcher : Matcher) : Prop :=
  ∀ source target found, matcher.memo.lookup (source, target) = some found →
    (Matching.ofShapes registry source target).1 = .ok found.value

/-- In every workspace with a faithful memory the computation has the result, and the memory stays
faithful. -/
def Computes {α : Type} (registry : Registry) (work : BuildM α) (result : Except PlanError α) :
    Prop :=
  ∀ workspace : Workspace, workspace.matcher.Faithful registry →
    (work.run workspace).1 = result ∧ (work.run workspace).2.matcher.Faithful registry

namespace Computes

variable {α β : Type} {registry : Registry}

theorem pure (a : α) : Computes registry (pure a) (.ok a) := fun _ h ↦ ⟨rfl, h⟩

theorem throw (error : PlanError) : Computes registry (throw error : BuildM α) (.error error) :=
  fun _ h ↦ ⟨rfl, h⟩

theorem bind {work : BuildM α} {result : Except PlanError α} {next : α → BuildM β}
    {nextResult : α → Except PlanError β} (hwork : Computes registry work result)
    (hnext : ∀ a, Computes registry (next a) (nextResult a)) :
    Computes registry (work >>= next) (result >>= nextResult) := by
  intro workspace hfaithful
  obtain ⟨hresult, hfaithful'⟩ := hwork workspace hfaithful
  subst hresult
  show (ExceptT.bindCont next (work.run workspace).1 (work.run workspace).2).1 = _ ∧
    Matcher.Faithful registry
      (ExceptT.bindCont next (work.run workspace).1 (work.run workspace).2).2.matcher
  rcases (work.run workspace).1 with error | a
  · exact ⟨rfl, hfaithful'⟩
  · exact hnext a _ hfaithful'

theorem mapM {f : α → BuildM β} {g : α → Except PlanError β}
    (h : ∀ a, Computes registry (f a) (g a)) (l : List α) :
    Computes registry (l.mapM f) (l.mapM g) := by
  induction l with
  | nil => exact pure []
  | cons a l ih =>
    rw [List.mapM_cons, List.mapM_cons]
    exact (h a).bind fun b ↦ ih.bind fun bs ↦ pure (b :: bs)

theorem ite {c : Prop} [Decidable c] {work work' : BuildM α} {result result' : Except PlanError α}
    (h : c → Computes registry work result) (h' : ¬ c → Computes registry work' result') :
    Computes registry (if c then work else work') (if c then result else result') := by
  split
  · exact h ‹c›
  · exact h' ‹¬ c›

theorem dite {c : Prop} [Decidable c] {work : c → BuildM α} {work' : ¬ c → BuildM α}
    {result : c → Except PlanError α} {result' : ¬ c → Except PlanError α}
    (h : ∀ hc, Computes registry (work hc) (result hc))
    (h' : ∀ hc, Computes registry (work' hc) (result' hc)) :
    Computes registry (if hc : c then work hc else work' hc)
      (if hc : c then result hc else result' hc) := by
  split
  · exact h _
  · exact h' _

theorem note (record : LogRecord) : Computes registry (Workspace.note record) (.ok ()) :=
  fun _ h ↦ ⟨rfl, h⟩

/-- **The pairings of the matcher are those of the shapes.** -/
theorem pairings (source target : String) :
    Computes registry (Workspace.pairings registry source target)
      (Matching.ofShapes registry source target).1 := by
  intro workspace hfaithful
  obtain ⟨⟨memo⟩, log⟩ := workspace
  show ((Matcher.match? ⟨memo⟩ registry source target).1.map (·.value) = _) ∧
    Matcher.Faithful registry (Matcher.match? ⟨memo⟩ registry source target).2.1
  rw [Matcher.match?]
  rcases hmemo : memo.lookup (source, target) with - | found
  · rcases hpairs : Matching.ofShapes registry source target with ⟨error | pairs, records⟩
    · exact ⟨rfl, hfaithful⟩
    · refine ⟨rfl, fun s t found hfound ↦ ?_⟩
      dsimp only at hfound
      rcases lookup_cons_of_eq_some hfound with ⟨hkey, rfl⟩ | hfound
      · cases hkey
        rw [hpairs]
      · exact hfaithful s t found hfound
  · exact ⟨(hfaithful source target found hmemo).symm, hfaithful⟩

end Computes

/-! ### The construction -/

namespace Plan

variable {registry : Registry} {settings : BuildSettings} {depth : Nat}
  {build : String → String → Deeper settings depth → BuildM Plan}
  {direct : String → String → Deeper settings depth → Except PlanError Plan}

theorem collectionFeed_computes
    (hbuild : ∀ s t level, Computes registry (build s t level) (direct s t level))
    (pairing : Pairing) (source target : String) :
    Computes registry
      (collectionFeed (Workspace.access registry) settings depth build pairing source target)
      (collectionFeed (.direct registry) settings depth direct pairing source target) := by
  unfold collectionFeed
  refine .ite (fun _ ↦ (Computes.note _).bind fun _ ↦ .pure _) fun _ ↦ .dite (fun _ ↦ ?_) fun _ ↦ ?_
  · exact (hbuild _ _ _).bind fun _ ↦ .pure _
  · exact (Computes.note _).bind fun _ ↦ .pure _

theorem nestedFeed_computes
    (hbuild : ∀ s t level, Computes registry (build s t level) (direct s t level))
    (pairing : Pairing) (source target : String) :
    Computes registry
      (nestedFeed (Workspace.access registry) settings depth build pairing source target)
      (nestedFeed (.direct registry) settings depth direct pairing source target) := by
  unfold nestedFeed
  refine .ite (fun _ ↦ (Computes.note _).bind fun _ ↦ .pure _) fun _ ↦ .dite (fun _ ↦ ?_) fun _ ↦ ?_
  · refine (hbuild _ _ _).bind fun plan ↦ .ite (fun _ ↦ ?_) fun _ ↦ .pure _
    exact (Computes.note _).bind fun _ ↦ .pure _
  · exact (Computes.note _).bind fun _ ↦ .pure _

theorem structuralFeed_computes
    (hbuild : ∀ s t level, Computes registry (build s t level) (direct s t level))
    (pairing : Pairing) :
    Computes registry (structuralFeed (Workspace.access registry) settings depth build pairing)
      (structuralFeed (.direct registry) settings depth direct pairing) := by
  unfold structuralFeed
  split
  · exact .pure _
  · split
    · exact collectionFeed_computes hbuild _ _ _
    · exact nestedFeed_computes hbuild _ _ _
    · exact (Computes.note _).bind fun _ ↦ .pure _

theorem assignmentOf_computes
    (hbuild : ∀ s t level, Computes registry (build s t level) (direct s t level)) (target : String)
    (pairing : Pairing) :
    Computes registry (assignmentOf (Workspace.access registry) settings target depth build pairing)
      (assignmentOf (.direct registry) settings target depth direct pairing) := by
  unfold assignmentOf
  split
  · split
    · exact (Computes.pure _).bind fun _ ↦ .pure _
    · exact (Computes.throw _).bind fun _ ↦ .pure _
  · exact (structuralFeed_computes hbuild _).bind fun _ ↦ .pure _

/-- **With a memory and a log the construction computes the same plan.** -/
theorem atLevel_computes (registry : Registry) (settings : BuildSettings) (source target : String)
    (depth : Nat) :
    Computes registry (atLevel (Workspace.access registry) settings source target depth)
      (atLevel (.direct registry) settings source target depth) := by
  induction depth using level_induction settings generalizing source target with
  | _ depth ih =>
    rw [atLevel, atLevel]
    refine (Computes.pairings source target).bind fun pairings ↦ ?_
    refine (Computes.mapM (fun pairing ↦ ?_) pairings).bind fun _ ↦ .pure _
    exact assignmentOf_computes (fun s t level ↦ ih level level.2.1 level.2.2 s t) target pairing

end Plan

namespace Planner

/-- **A planner builds the plan that the construction gives by itself**, whatever it has
remembered. -/
theorem buildIn_computes (planner : Planner) (key : PlanKey) {workspace : Workspace}
    (h : workspace.matcher.Faithful planner.registry) :
    (planner.buildIn key workspace).1 =
        Plan.between planner.registry ⟨planner.limits, key.loadChildren⟩ key.source key.target ∧
      (planner.buildIn key workspace).2.matcher.Faithful planner.registry := by
  have hwork := (Plan.atLevel_computes planner.registry ⟨planner.limits, key.loadChildren⟩
    key.source key.target 1).bind fun plan ↦
      (Computes.note (compiledRecord key plan)).bind fun _ ↦ Computes.pure plan
  have hbind : ∀ x : Except PlanError Plan, (x >>= fun plan ↦ .ok () >>= fun _ ↦ .ok plan) = x := by
    rintro (error | plan) <;> rfl
  rw [hbind] at hwork
  exact hwork workspace h

end Planner

end Recast
