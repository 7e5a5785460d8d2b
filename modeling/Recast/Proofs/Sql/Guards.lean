import Mathlib.Data.List.Infix
import Recast.Proofs.Sql.Evaluation
import Recast.Proofs.Sql.Scope

/-!
# The guards of a path

A path is read by the walker, which stops at the first step that meets null, and lowered into an
expression, which has a guard in the place of each such stop. Both are recursions on the steps, of
paths of any length, and they are compared here in two ways.

What the expression computes is what the walker reads (`eval_toExpr`). What the expression looks like
is said without the recursion: it is the bare access along all the steps (`ObjectRef.along`) under one
guard for each beginning of the path that ends before the last step at a step that may be null, the
shortest beginning outermost (`Path.toExpr_eq`). The accesses have no conditional of their own, so
the expression has one exactly if the path is guarded.
-/

namespace Recast

/-! ### Where a path is guarded -/

/-- The last of the steps may meet null. -/
def endsNullable (steps : List Step) : Bool := steps.getLast?.any (·.nullable)

/-- A beginning that is longer by a first step ends where it did, or at that step. -/
theorem filter_inits_cons (step : Step) (steps : List Step) :
    (step :: steps).inits.filter endsNullable =
      (if step.nullable then [[step]] else []) ++
        (steps.inits.filter endsNullable).map (step :: ·) := by
  have hnil : ¬ endsNullable [] = true := Bool.false_ne_true
  have hrest : steps.inits.filter (endsNullable ∘ (step :: ·)) =
      (if step.nullable then [[]] else []) ++ steps.inits.filter endsNullable := by
    cases steps with
    | nil => cases h : step.nullable <;> simp [endsNullable, h]
    | cons next rest =>
      have hlonger : (rest.inits.map (next :: ·)).filter (endsNullable ∘ (step :: ·)) =
          (rest.inits.map (next :: ·)).filter endsNullable := by
        refine List.filter_congr (List.forall_mem_map.2 fun steps _ ↦ ?_)
        rw [Function.comp_apply, endsNullable, List.getLast?_cons_cons, endsNullable]
      rw [List.inits_cons, List.filter_cons, List.filter_cons_of_neg hnil, hlonger]
      cases h : step.nullable <;> simp [endsNullable, h]
  rw [List.inits_cons, List.filter_cons_of_neg hnil, List.filter_map, hrest, List.map_append]
  cases step.nullable <;> rfl

namespace Path

/-- The beginnings of a path that end before its last step, at a step that may meet null; the
shortest first. -/
def guardedPrefixes (path : Path) : List (List Step) :=
  path.steps.dropLast.inits.filter endsNullable

/-- **There is one for each step before the last that may meet null.** -/
theorem length_guardedPrefixes (path : Path) :
    path.guardedPrefixes.length = path.steps.dropLast.countP (·.nullable) := by
  rw [guardedPrefixes]
  induction path.steps.dropLast with
  | nil => rfl
  | cons step steps ih =>
    rw [filter_inits_cons, List.length_append, List.length_map, ih, List.countP_cons, Nat.add_comm]
    cases step.nullable <;> rfl

theorem guardedPrefixes_ne_nil_iff {path : Path} :
    path.guardedPrefixes ≠ [] ↔ path.isGuarded = true := by
  rw [← List.length_pos_iff, length_guardedPrefixes, List.countP_pos_iff, isGuarded, List.any_eq_true]

end Path

/-! ### The expression of a path -/

/-- The value at the end of steps from an object, without guards; null for no steps. -/
def ObjectRef.along (object : ObjectRef) : List Step → Expr
  | [] => .null
  | step :: rest => rest.foldl (fun expr next ↦ expr.field next.field) (object.field step.field)

/-- **A path is lowered into the access along its steps under one guard for each step before the
last that may meet null**: the access up to this step, the shortest outermost. -/
theorem Path.toExpr_eq (path : Path) (object : ObjectRef) :
    path.toExpr object =
      Expr.guardedByAll (path.guardedPrefixes.map object.along) (object.along path.steps) := by
  obtain ⟨- | ⟨step, rest⟩⟩ := path
  · rfl
  show stepsExpr (object.field step.field) step.nullable rest = _
  induction rest generalizing object step with
  | nil => rfl
  | cons next rest ih =>
    have hprefixes : guardedPrefixes ⟨step :: next :: rest⟩ =
        (if step.nullable then [[step]] else []) ++
          (guardedPrefixes ⟨next :: rest⟩).map (step :: ·) := by
      simp only [guardedPrefixes, List.dropLast_cons_cons]
      exact filter_inits_cons step _
    -- Behind the first step, the value of that step is the object.
    have halong : (guardedPrefixes ⟨next :: rest⟩).map (object.along ∘ (step :: ·)) =
        (guardedPrefixes ⟨next :: rest⟩).map (ObjectRef.value (object.field step.field)).along := by
      refine List.map_congr_left fun steps hsteps ↦ ?_
      cases steps with
      | nil => cases (List.mem_filter.1 hsteps).2
      | cons => rfl
    have hinner : stepsExpr ((object.field step.field).field next.field) next.nullable rest = _ :=
      ih (.value (object.field step.field)) next
    rw [stepsExpr, hprefixes, List.map_append, List.map_map, halong]
    cases step.nullable with
    | false => exact hinner
    | true => exact congrArg (Expr.guardedBy · (object.field step.field)) hinner

namespace Expr

variable {expr : Expr}

/-- Some part of the expression is a conditional. -/
def HasConditional (expr : Expr) : Prop :=
  ∃ binders condition consequence alternative,
    (ifThenElse condition consequence alternative).Occurs binders expr

theorem hasConditional_field_iff {name : String} :
    (expr.field name).HasConditional ↔ expr.HasConditional := by
  constructor
  · rintro ⟨binders, condition, consequence, alternative, - | h⟩
    exact ⟨binders, condition, consequence, alternative, h⟩
  · rintro ⟨binders, condition, consequence, alternative, h⟩
    exact ⟨binders, condition, consequence, alternative, .tupleElement h⟩

/-- Where there is a guard there is a conditional. -/
theorem hasConditional_guardedByAll_iff {guards : List Expr} (h : ¬ expr.HasConditional) :
    (guardedByAll guards expr).HasConditional ↔ guards ≠ [] := by
  cases guards with
  | nil => simpa [guardedByAll] using h
  | cons guard rest => exact iff_of_true ⟨[], _, _, _, .self⟩ (List.cons_ne_nil _ _)

end Expr

/-- A part of the expression that stands for the object is a conditional. -/
def ObjectRef.HasConditional : ObjectRef → Prop
  | .row _ => False
  | .value expr => expr.HasConditional

/-- Access along steps has no conditional that the object does not have. -/
theorem ObjectRef.not_hasConditional_along {object : ObjectRef} (h : ¬ object.HasConditional)
    (steps : List Step) : ¬ (object.along steps).HasConditional := by
  have hfields : ∀ (steps : List Step) (expr : Expr), ¬ expr.HasConditional →
      ¬ (steps.foldl (fun expr next ↦ expr.field next.field) expr).HasConditional := by
    intro steps
    induction steps with
    | nil => exact fun expr ↦ id
    | cons step rest ih => exact fun expr h ↦ ih _ (mt Expr.hasConditional_field_iff.1 h)
  cases steps with
  | nil => rintro ⟨_, _, _, _, ⟨⟩⟩
  | cons step rest =>
    refine hfields rest _ ?_
    cases object with
    | row => rintro ⟨_, _, _, _, ⟨⟩⟩
    | value => exact mt Expr.hasConditional_field_iff.1 h

/-! ### Both readings -/

/-- The object of a query is the one with these entries: the row itself, or the value of the
expression. -/
def ObjectRef.IsObject (table : String) (row : List (String × Json))
    (env : List (String × SqlValue)) : ObjectRef → List (String × Json) → Prop
  | .row name, entries => name = table ∧ entries = row
  | .value expr, entries => expr.eval table row env = some (.json (.obj entries))

theorem ObjectRef.IsObject.denotes {table : String} {row entries : List (String × Json)}
    {env : List (String × SqlValue)} {object : ObjectRef}
    (h : object.IsObject table row env entries) : object.Denotes table row env entries := by
  cases object with
  | row name =>
    obtain ⟨rfl, rfl⟩ := h
    exact denotes_row
  | value expr => exact denotes_value h

/-- **A path computes what the walker reads, and is guarded where the walker may stop.** Where each
step before the last meets an object, or null if it is declared nullable, the walker does not fail,
and the expression is not stuck: its value is what the walker has read, and null if it has read
nothing. The expression is the access along the path under one guard for each step before the last
that is declared nullable, in the order of the steps from the outside; it has a conditional exactly
if there is such a step. -/
theorem Path.guarded_reading (path : Path) (object : ObjectRef) :
    (∀ table row env entries shape, object.IsObject table row env entries →
      StepsPass entries path.steps →
      ∃ value?, followSteps shape entries path.steps = .ok value? ∧
        (path.toExpr object).eval table row env = some (.json (value?.getD .null))) ∧
    path.toExpr object =
      Expr.guardedByAll (path.guardedPrefixes.map object.along) (object.along path.steps) ∧
    path.guardedPrefixes.length = path.steps.dropLast.countP (·.nullable) ∧
    (¬ object.HasConditional → (∀ steps, ¬ (object.along steps).HasConditional) ∧
      ((path.toExpr object).HasConditional ↔ path.isGuarded = true)) := by
  refine ⟨fun table row env entries shape hobject hpass ↦ eval_toExpr shape hobject.denotes hpass,
    path.toExpr_eq object, path.length_guardedPrefixes, fun h ↦ ?_⟩
  have halong := ObjectRef.not_hasConditional_along h
  refine ⟨halong, ?_⟩
  rw [path.toExpr_eq, Expr.hasConditional_guardedByAll_iff (halong _), ne_eq, List.map_eq_nil_iff]
  exact guardedPrefixes_ne_nil_iff

namespace Blog

/-- The path from a post to the address of the site of its parent's parent. -/
def grandparentUrl : Path :=
  ⟨[⟨"Parent", true⟩, ⟨"Parent", true⟩, ⟨"Site", false⟩, ⟨"Url", false⟩]⟩

/-- What is read of a post whose parent has a parent. -/
def grandchild : List (String × Json) :=
  [("Parent", .obj [("Parent", .obj [("Site", .obj [("Url", .str "blog.example")])])])]

/-- What is read of a post whose parent has none. -/
def child : List (String × Json) := [("Parent", .obj [("Parent", .null)])]

/-- The address is read where there is a grandparent; where there is none, the second of two guards
is null. -/
theorem grandparentUrl_read :
    (grandparentUrl.toExpr (.row "src")).eval "src" grandchild [] =
      some (.json (.str "blog.example")) ∧
    (grandparentUrl.toExpr (.row "src")).eval "src" child [] = some .null ∧
    grandparentUrl.guardedPrefixes.length = 2 ∧
    (grandparentUrl.toExpr (.row "src")).HasConditional := by
  obtain ⟨hread, -, hguards, hconditional⟩ := grandparentUrl.guarded_reading (.row "src")
  have hgrandchild : StepsPass grandchild grandparentUrl.steps :=
    .some rfl (.some rfl (.some rfl .last))
  have hchild : StepsPass child grandparentUrl.steps := .some rfl (.none rfl rfl)
  obtain ⟨_, ⟨⟩, hsome⟩ := hread "src" grandchild [] _ "Post" ⟨rfl, rfl⟩ hgrandchild
  obtain ⟨_, ⟨⟩, hnone⟩ := hread "src" child [] _ "Post" ⟨rfl, rfl⟩ hchild
  exact ⟨hsome, hnone, hguards, (hconditional nofun).2.2 rfl⟩

end Blog

end Recast
