import Recast.Instance.Apply
import Recast.Sql.Select

/-!
# What a query computes

The value of an expression on a row (`Expr.eval`), and what it is for the pieces that a plan is
lowered into: guards, casts and paths. A row is an object of the source shape, so its nested objects
are tuples with named members and its collections are arrays. A key that is absent reads as null.

Evaluation is lazy and may be stuck. Only the branch of a guard that is chosen is evaluated; a
member of null and a cast of null to a type without null have no value. That nothing is stuck is
therefore a statement about the guards. A path has the value that the walker reads along it, null
where the walker reads nothing, if no step on the way that is declared not nullable meets null
(`eval_toExpr`).
-/

namespace Recast

/-! ### Values -/

/-- A value in a query: one of the row, a tuple by position, or an array that was computed. -/
inductive SqlValue where
  | json (value : Json)
  | tuple (members : List SqlValue)
  | array (items : List SqlValue)

namespace SqlValue

/-- The null of a query is that of the row. -/
def null : SqlValue := .json .null

/-- The value is null. -/
def isNull : SqlValue → Bool
  | .json .null => true
  | _ => false

/-- The member of a name, null if the tuple of the row has none. Null has no members. -/
def member? (name : String) : SqlValue → Option SqlValue
  | .json (.obj entries) => some (.json ((entries.lookup name).getD .null))
  | _ => none

/-- The items of an array. -/
def items? : SqlValue → Option (List SqlValue)
  | .json (.arr items) => some (items.map .json)
  | .array items => some items
  | _ => none

/-- The value as one of a type: an integer stays what it is, and null has to be allowed by the
type. -/
def cast? (type : String) : SqlValue → Option SqlValue
  | .json .null => if type = "Nullable(Int64)" then some null else none
  | .json (.num (.int value)) =>
    if (type = "Int64" ∨ type = "Nullable(Int64)") ∧ fitsInt64 value = true then
      some (.json (.int value))
    else none
  | _ => none

theorem isNull_iff {value : SqlValue} : value.isNull = true ↔ value = null := by
  unfold isNull null
  split
  · simp
  · rename_i hvalue
    simpa using hvalue

end SqlValue

/-! ### Expressions -/

namespace Expr

mutual

/-- The value of an expression on a row of the table, `env` giving those of the parameters; none if
it is stuck. -/
def eval (table : String) (row : List (String × Json)) :
    List (String × SqlValue) → Expr → Option SqlValue
  | _, .column name key => if name = table then some (.json ((row.lookup key).getD .null)) else none
  | env, .parameter name => env.lookup name
  | env, .tupleElement operand name => (eval table row env operand).bind (SqlValue.member? name)
  | env, .isNull operand =>
    (eval table row env operand).map fun value ↦ .json (.bool value.isNull)
  | env, .ifThenElse condition consequence alternative =>
    match eval table row env condition with
    | some (.json (.bool true)) => eval table row env consequence
    | some (.json (.bool false)) => eval table row env alternative
    | _ => none
  | env, .cast operand type => (eval table row env operand).bind (SqlValue.cast? type)
  | env, .arrayMap binder body array =>
    (eval table row env array).bind fun value ↦
      if value.isNull then some .null
      else value.items?.bind fun items ↦
        (items.mapM fun item ↦ eval table row ((binder, item) :: env) body).map .array
  | env, .tuple items => (evalAll table row env items).map .tuple
  | _, .null => some .null

/-- The values of expressions one by one. -/
def evalAll (table : String) (row : List (String × Json)) :
    List (String × SqlValue) → List Expr → Option (List SqlValue)
  | _, [] => some []
  | env, item :: rest =>
    (eval table row env item).bind fun value ↦ (evalAll table row env rest).map (value :: ·)

end

variable {table : String} {row : List (String × Json)} {env : List (String × SqlValue)}

/-! ### Guards -/

/-- **A guard chooses**: null where it is null, and otherwise the expression. -/
theorem eval_guardedBy {expr guard : Expr} {value : SqlValue}
    (hguard : eval table row env guard = some value) :
    eval table row env (expr.guardedBy guard) =
      if value.isNull then some .null else eval table row env expr := by
  simp only [guardedBy, eval, hguard, Option.map_some]
  cases value.isNull <;> rfl

/-- Guards that are not null change nothing. -/
theorem eval_guardedByAll {guards : List Expr} {expr : Expr}
    (hguards : ∀ guard ∈ guards, ∃ value, eval table row env guard = some value ∧ value ≠ .null) :
    eval table row env (guardedByAll guards expr) = eval table row env expr := by
  induction guards with
  | nil => rfl
  | cons guard rest ih =>
    obtain ⟨⟨value, hvalue, hnull⟩, hrest⟩ := List.forall_mem_cons.1 hguards
    rw [guardedByAll, List.foldr_cons, eval_guardedBy hvalue,
      if_neg fun h ↦ hnull (SqlValue.isNull_iff.1 h)]
    exact ih hrest

/-- **The first guard that is null decides**, and nothing behind it is evaluated. -/
theorem eval_guardedByAll_of_null {guards more : List Expr} {guard expr : Expr}
    (hguards : ∀ guard ∈ guards, ∃ value, eval table row env guard = some value ∧ value ≠ .null)
    (hnull : eval table row env guard = some .null) :
    eval table row env (guardedByAll (guards ++ guard :: more) expr) = some .null := by
  rw [guardedByAll, List.foldr_append, ← guardedByAll, eval_guardedByAll hguards, List.foldr_cons,
    eval_guardedBy hnull]
  rfl

end Expr

/-! ### Objects and paths -/

theorem Json.getD_lookup (entries : List (String × Json)) (key : String) :
    (entries.lookup key).getD .null = (Json.present? entries key).getD .null := by
  unfold present?
  rcases entries.lookup key with - | (_ | _ | _ | _ | _ | _) <;> rfl

variable {table : String} {row : List (String × Json)} {env : List (String × SqlValue)}
  {entries : List (String × Json)}

/-- The object of a query stands for the entries: each of its fields has the value of the entry. -/
def ObjectRef.Denotes (table : String) (row : List (String × Json)) (env : List (String × SqlValue))
    (object : ObjectRef) (entries : List (String × Json)) : Prop :=
  ∀ name, (object.field name).eval table row env =
    some (.json ((Json.present? entries name).getD .null))

theorem ObjectRef.denotes_row : (ObjectRef.row table).Denotes table row env row := by
  intro name
  rw [← Json.getD_lookup]
  exact if_pos rfl

theorem ObjectRef.denotes_value {expr : Expr}
    (h : expr.eval table row env = some (.json (.obj entries))) :
    (ObjectRef.value expr).Denotes table row env entries := by
  intro name
  rw [← Json.getD_lookup]
  simp [ObjectRef.field, Expr.field, Expr.eval, h, SqlValue.member?]

/-- Nothing on the way is in the way: where a step before the last one meets null it is declared
nullable, and where it does not it meets an object. -/
inductive StepsPass : List (String × Json) → List Step → Prop
  | nil {entries : List (String × Json)} : StepsPass entries []
  | last {entries : List (String × Json)} {step : Step} : StepsPass entries [step]
  | none {entries : List (String × Json)} {step : Step} {rest : List Step}
      (hnone : Json.present? entries step.field = none) (hnullable : step.nullable = true) :
      StepsPass entries (step :: rest)
  | some {entries inner : List (String × Json)} {step : Step} {rest : List Step}
      (hsome : Json.present? entries step.field = some (.obj inner))
      (hrest : StepsPass inner rest) :
      StepsPass entries (step :: rest)

/-- **The steps of a path compute what the walker reads**, null where it reads nothing. -/
theorem eval_stepsExpr {expr : Expr} (step : Step) {rest : List Step} (shape : String)
    (hpass : StepsPass entries (step :: rest))
    (hexpr : expr.eval table row env =
      some (.json ((Json.present? entries step.field).getD .null))) :
    ∃ value?, followSteps shape entries (step :: rest) = .ok value? ∧
      (stepsExpr expr step.nullable rest).eval table row env =
        some (.json (value?.getD .null)) := by
  induction rest generalizing entries expr step shape with
  | nil => exact ⟨_, rfl, hexpr⟩
  | cons next rest ih =>
    rw [stepsExpr]
    cases hpass with
    | none hnone hnullable =>
      rw [hnone] at hexpr
      refine ⟨.none, by simp [followSteps, hnone], ?_⟩
      simp only [hnullable, if_true]
      rw [Expr.eval_guardedBy hexpr]
      rfl
    | @some _ inner _ _ hsome hrest =>
      rw [hsome] at hexpr
      have hinner : ObjectRef.Denotes table row env (.value expr) inner :=
        ObjectRef.denotes_value hexpr
      obtain ⟨value?, hread, hvalue⟩ := ih next shape hrest (hinner next.field)
      refine ⟨value?, by simpa [followSteps, hsome] using hread, ?_⟩
      -- The value of the step is an object, so a guard lets the rest through.
      have hguard : ∀ {inside : Expr}, (inside.guardedBy expr).eval table row env =
          inside.eval table row env := fun {inside} ↦ by
        rw [Expr.eval_guardedBy hexpr]
        rfl
      split
      · rw [hguard]
        exact hvalue
      · exact hvalue

/-- **A path computes what the walker reads along it.** -/
theorem eval_toExpr {path : Path} {object : ObjectRef} (shape : String)
    (hobject : object.Denotes table row env entries) (hpass : StepsPass entries path.steps) :
    ∃ value?, followSteps shape entries path.steps = .ok value? ∧
      (path.toExpr object).eval table row env = some (.json (value?.getD .null)) := by
  obtain ⟨- | ⟨step, rest⟩⟩ := path
  · exact ⟨none, rfl, rfl⟩
  · exact eval_stepsExpr step shape hpass (hobject step.field)

end Recast
