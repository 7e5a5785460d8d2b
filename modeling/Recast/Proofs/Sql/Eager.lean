import Recast.Proofs.Instance.Conforming
import Recast.Proofs.Sql.Evaluation
import Recast.Proofs.Sql.Lowered

/-!
# Casts in branches that are not chosen

A guard does not keep its expression from being evaluated: a query may evaluate both branches and
choose afterwards. `Expr.evalEager` evaluates that way. A member of null is null, and a map over
null does not evaluate its body, but a cast of null to a type without null fails, wherever it
stands. So a cast below an object that may be null needs a type that has null, even where a guard
protects it.

`Plan.casts_spare_null` says that no cast of a compiled plan fails on a row that conforms to the
source shape. What carries the proof is `ObjectOrNull`: wherever the lowering reads fields, the
object is an instance of its shape, or it is null and the flag that is handed down allows that. The
flag starts anew in the body of a map, because items are never null.
-/

namespace Recast

/-! ### Eager evaluation -/

namespace SqlValue

/-- The member of a name. Null has null for every member. -/
def memberOrNull? (name : String) (value : SqlValue) : Option SqlValue :=
  if value.isNull then some null else value.member? name

/-- A cast, of which only one thing matters here: null has to be allowed by the type. -/
def castEager? (type : String) (value : SqlValue) : Option SqlValue :=
  if value.isNull ∧ type = "Int64" then none else some value

/-- The branch that a condition chooses, both branches being evaluated. -/
def choose? (test consequence alternative : SqlValue) : Option SqlValue :=
  match test with
  | .json (.bool true) => some consequence
  | .json (.bool false) => some alternative
  | _ => none

end SqlValue

namespace Expr

mutual

/-- The value of an expression on a row of the table, `env` giving those of the parameters, where
both branches of a guard are evaluated; none if any part fails. -/
def evalEager (table : String) (row : List (String × Json)) :
    List (String × SqlValue) → Expr → Option SqlValue
  | _, .column name key => if name = table then some (.json ((row.lookup key).getD .null)) else none
  | env, .parameter name => env.lookup name
  | env, .tupleElement operand name =>
    (evalEager table row env operand).bind (SqlValue.memberOrNull? name)
  | env, .isNull operand =>
    (evalEager table row env operand).map fun value ↦ .json (.bool value.isNull)
  | env, .ifThenElse condition consequence alternative =>
    (evalEager table row env condition).bind fun test ↦
      (evalEager table row env consequence).bind fun yes ↦
        (evalEager table row env alternative).bind fun no ↦ test.choose? yes no
  | env, .cast operand type => (evalEager table row env operand).bind (SqlValue.castEager? type)
  | env, .arrayMap binder body array =>
    (evalEager table row env array).bind fun value ↦
      if value.isNull then some .null
      else value.items?.bind fun items ↦
        (items.mapM fun item ↦ evalEager table row ((binder, item) :: env) body).map .array
  | env, .tuple items => (evalEagerAll table row env items).map .tuple
  | _, .null => some .null

/-- The values of expressions one by one. -/
def evalEagerAll (table : String) (row : List (String × Json)) :
    List (String × SqlValue) → List Expr → Option (List SqlValue)
  | _, [] => some []
  | env, item :: rest =>
    (evalEager table row env item).bind fun value ↦
      (evalEagerAll table row env rest).map (value :: ·)

end

/-- While an expression is evaluated eagerly, `part` is evaluated, with the values `inner` of the
parameters: in both branches of a guard, and in the body of a map for every item of the array. -/
inductive Evaluates (table : String) (row : List (String × Json)) (part : Expr)
    (inner : List (String × SqlValue)) : List (String × SqlValue) → Expr → Prop
  | self : Evaluates table row part inner inner part
  | tupleElement {env : List (String × SqlValue)} {operand : Expr} {name : String}
      (h : Evaluates table row part inner env operand) :
      Evaluates table row part inner env (.tupleElement operand name)
  | isNull {env : List (String × SqlValue)} {operand : Expr}
      (h : Evaluates table row part inner env operand) :
      Evaluates table row part inner env (.isNull operand)
  | condition {env : List (String × SqlValue)} {condition consequence alternative : Expr}
      (h : Evaluates table row part inner env condition) :
      Evaluates table row part inner env (.ifThenElse condition consequence alternative)
  | consequence {env : List (String × SqlValue)} {condition consequence alternative : Expr}
      (h : Evaluates table row part inner env consequence) :
      Evaluates table row part inner env (.ifThenElse condition consequence alternative)
  | alternative {env : List (String × SqlValue)} {condition consequence alternative : Expr}
      (h : Evaluates table row part inner env alternative) :
      Evaluates table row part inner env (.ifThenElse condition consequence alternative)
  | cast {env : List (String × SqlValue)} {operand : Expr} {type : String}
      (h : Evaluates table row part inner env operand) :
      Evaluates table row part inner env (.cast operand type)
  | body {env : List (String × SqlValue)} {binder : String} {body array : Expr}
      {value item : SqlValue} {items : List SqlValue}
      (harray : evalEager table row env array = some value) (hitems : value.items? = some items)
      (hitem : item ∈ items) (h : Evaluates table row part inner ((binder, item) :: env) body) :
      Evaluates table row part inner env (.arrayMap binder body array)
  | array {env : List (String × SqlValue)} {binder : String} {body array : Expr}
      (h : Evaluates table row part inner env array) :
      Evaluates table row part inner env (.arrayMap binder body array)
  | item {env : List (String × SqlValue)} {items : List Expr} {item : Expr} (hitem : item ∈ items)
      (h : Evaluates table row part inner env item) :
      Evaluates table row part inner env (.tuple items)

variable {table : String} {row : List (String × Json)} {env inner : List (String × SqlValue)}
  {part expr guard : Expr}

theorem evalEagerAll_eq_mapM (items : List Expr) :
    evalEagerAll table row env items = items.mapM (evalEager table row env) := by
  induction items with
  | nil => rfl
  | cons item rest ih =>
    rw [evalEagerAll, ih, List.mapM_cons]
    simp only [Option.map_eq_bind]
    rfl

/-- **What has a value was evaluated without a failure**: every part that is evaluated has a value
too. -/
theorem Evaluates.exists_eq_some (h : part.Evaluates table row inner env expr)
    (hexpr : ∃ value, evalEager table row env expr = some value) :
    ∃ value, evalEager table row inner part = some value := by
  induction h with
  | self => exact hexpr
  | tupleElement _ ih | cast _ ih =>
    obtain ⟨value, hvalue⟩ := hexpr
    obtain ⟨operand, hoperand, -⟩ := Option.bind_eq_some_iff.1 hvalue
    exact ih ⟨operand, hoperand⟩
  | isNull _ ih =>
    obtain ⟨value, hvalue⟩ := hexpr
    obtain ⟨operand, hoperand, -⟩ := Option.map_eq_some_iff.1 hvalue
    exact ih ⟨operand, hoperand⟩
  | condition _ ih =>
    obtain ⟨value, hvalue⟩ := hexpr
    obtain ⟨test, htest, -⟩ := Option.bind_eq_some_iff.1 hvalue
    exact ih ⟨test, htest⟩
  | consequence _ ih =>
    obtain ⟨value, hvalue⟩ := hexpr
    obtain ⟨test, -, hbranches⟩ := Option.bind_eq_some_iff.1 hvalue
    obtain ⟨yes, hyes, -⟩ := Option.bind_eq_some_iff.1 hbranches
    exact ih ⟨yes, hyes⟩
  | alternative _ ih =>
    obtain ⟨value, hvalue⟩ := hexpr
    obtain ⟨test, -, hbranches⟩ := Option.bind_eq_some_iff.1 hvalue
    obtain ⟨yes, -, hbranch⟩ := Option.bind_eq_some_iff.1 hbranches
    obtain ⟨no, hno, -⟩ := Option.bind_eq_some_iff.1 hbranch
    exact ih ⟨no, hno⟩
  | array _ ih =>
    obtain ⟨value, hvalue⟩ := hexpr
    obtain ⟨array, harray, -⟩ := Option.bind_eq_some_iff.1 hvalue
    exact ih ⟨array, harray⟩
  | @body env binder body array value item items harray hitems hitem _ ih =>
    obtain ⟨out, hout⟩ := hexpr
    -- What has items is not null, so the body was evaluated for each of them.
    have hnull : value.isNull = false := by
      rw [← Bool.not_eq_true]
      intro hnull
      rw [SqlValue.isNull_iff.1 hnull] at hitems
      cases hitems
    rw [evalEager, harray, Option.bind_some, hnull, hitems] at hout
    obtain ⟨values, hvalues, -⟩ := Option.map_eq_some_iff.1 hout
    exact ih (exists_mapM_eq_some.1 ⟨values, hvalues⟩ item hitem)
  | item hitem _ ih =>
    obtain ⟨value, hvalue⟩ := hexpr
    obtain ⟨values, hvalues, -⟩ := Option.map_eq_some_iff.1 hvalue
    rw [evalEagerAll_eq_mapM] at hvalues
    exact ih (exists_mapM_eq_some.1 ⟨values, hvalues⟩ _ hitem)

/-- A cast that has a value was applied to one, and to no null if its type has none. -/
theorem exists_operand_of_cast {operand : Expr}
    (h : ∃ value, evalEager table row env (.cast operand "Int64") = some value) :
    ∃ value, evalEager table row env operand = some value ∧ value ≠ .null := by
  obtain ⟨out, hout⟩ := h
  obtain ⟨value, hvalue, hcast⟩ := Option.bind_eq_some_iff.1 hout
  refine ⟨value, hvalue, ?_⟩
  rintro rfl
  cases hcast

theorem evalEager_guardedBy {value out : SqlValue}
    (hguard : evalEager table row env guard = some value)
    (hexpr : evalEager table row env expr = some out) :
    evalEager table row env (expr.guardedBy guard) =
      some (if value.isNull then .null else out) := by
  simp only [guardedBy, evalEager, hguard, hexpr, Option.map_some, Option.bind_some]
  cases value.isNull <;> rfl

/-- Guards that have values, and an expression that does, have one together. -/
theorem exists_evalEager_guardedByAll {guards : List Expr}
    (hguards : ∀ guard ∈ guards, ∃ value, evalEager table row env guard = some value)
    (hexpr : ∃ value, evalEager table row env expr = some value) :
    ∃ value, evalEager table row env (guardedByAll guards expr) = some value := by
  induction guards with
  | nil => exact hexpr
  | cons guard rest ih =>
    obtain ⟨⟨value, hvalue⟩, hrest⟩ := List.forall_mem_cons.1 hguards
    obtain ⟨out, hout⟩ := ih hrest
    exact ⟨_, evalEager_guardedBy hvalue hout⟩

end Expr

/-! ### Objects that may be null -/

theorem Json.ne_null_of_present? {entries : List (String × Json)} {name : String} {value : Json}
    (h : Json.present? entries name = some value) : value ≠ .null := by
  rw [Json.present?, Option.filter_eq_some_iff] at h
  rintro rfl
  cases h.2

section Objects

variable {registry : Registry} {enums : String → Json → Prop} {table : String}
  {row : List (String × Json)} {env : List (String × SqlValue)} {object : ObjectRef}
  {shape : String} {mayBeNull : Bool} {source? : Option (List (String × Json))}
  {fields : List Field}

/-- **An instance of the shape, or null if that is allowed**: what the entries of an object are. -/
inductive ObjectOrNull (registry : Registry) (enums : String → Json → Prop) (shape : String) :
    Bool → Option (List (String × Json)) → Prop
  | null : ObjectOrNull registry enums shape true none
  | object {mayBeNull : Bool} {entries : List (String × Json)}
      (hentries : Conforms registry enums (.nested shape) (.obj entries)) :
      ObjectOrNull registry enums shape mayBeNull (some entries)

/-- The field of an object, null if the object is. -/
def fieldOf (source? : Option (List (String × Json))) (name : String) : Option Json :=
  source?.bind (Json.present? · name)

/-- The object of a query stands for the entries, or for null, when everything is evaluated. -/
def ObjectRef.EagerlyDenotes (table : String) (row : List (String × Json))
    (env : List (String × SqlValue)) (object : ObjectRef)
    (source? : Option (List (String × Json))) : Prop :=
  ∀ name, (object.field name).evalEager table row env =
    some (.json ((fieldOf source? name).getD .null))

theorem ObjectRef.eagerlyDenotes_row :
    (ObjectRef.row table).EagerlyDenotes table row env (some row) := by
  intro name
  rw [fieldOf, Option.bind_some, ← Json.getD_lookup]
  exact if_pos rfl

theorem ObjectRef.eagerlyDenotes_value {expr : Expr}
    (h : expr.evalEager table row env = some (.json (source?.elim .null .obj))) :
    (ObjectRef.value expr).EagerlyDenotes table row env source? := by
  intro name
  rcases source? with - | entries
  · simp [ObjectRef.field, Expr.field, Expr.evalEager, h, SqlValue.memberOrNull?, SqlValue.isNull,
      SqlValue.null, fieldOf]
  · rw [fieldOf, Option.bind_some, ← Json.getD_lookup]
    simp [ObjectRef.field, Expr.field, Expr.evalEager, h, SqlValue.memberOrNull?, SqlValue.isNull,
      SqlValue.member?]

/-- **A field of an instance, or of null**: it has a value that conforms, or none, and then the
object may be null or the field is nullable. -/
theorem ObjectOrNull.fieldOf_cases (h : ObjectOrNull registry enums shape mayBeNull source?)
    (hfields : registry.fields shape = .ok fields) {field : Field} (hfield : field ∈ fields) :
    (fieldOf source? field.name = none ∧ (mayBeNull || field.nullable) = true) ∨
      ∃ value, fieldOf source? field.name = some value ∧ value ≠ .null ∧
        Conforms registry enums field.kind value := by
  cases h with
  | null => exact .inl ⟨rfl, rfl⟩
  | object hentries =>
    obtain ⟨_, ⟨⟩, hentries⟩ := hentries.exists_entries hfields
    rcases hentries field hfield with ⟨hnone, hnullable⟩ | ⟨value, hsome, hvalue⟩
    · exact .inl ⟨hnone, by rw [hnullable, Bool.or_true]⟩
    · exact .inr ⟨value, hsome, Json.ne_null_of_present? hsome, hvalue⟩

/-- A field is null only if the object may be null or the field is nullable. -/
theorem ObjectOrNull.exists_evalEager_field
    (h : ObjectOrNull registry enums shape mayBeNull source?)
    (hfields : registry.fields shape = .ok fields) {field : Field} (hfield : field ∈ fields)
    (hobject : object.EagerlyDenotes table row env source?) :
    ∃ value, (object.field field.name).evalEager table row env = some value ∧
      ((mayBeNull || field.nullable) = false → value ≠ .null) := by
  refine ⟨_, hobject field.name, fun hstrict ↦ ?_⟩
  rcases h.fieldOf_cases hfields hfield with ⟨-, hnullable⟩ | ⟨value, hsome, hnull, -⟩
  · rw [hstrict] at hnullable
    cases hnullable
  · rw [hsome]
    exact fun heq ↦ hnull (SqlValue.json.inj heq)

/-- **A nested field is an instance of its shape, or null** if the object may be null or the field
is nullable. -/
theorem ObjectOrNull.nested (hclosed : registry.Closed)
    (h : ObjectOrNull registry enums shape mayBeNull source?)
    (hobject : object.EagerlyDenotes table row env source?)
    (hfields : registry.fields shape = .ok fields) {field : Field} (hfield : field ∈ fields)
    {inner : String} (hkind : field.kind = .nested inner) :
    ∃ inner?, ObjectOrNull registry enums inner (mayBeNull || field.nullable) inner? ∧
      (object.field field.name).evalEager table row env =
        some (.json (inner?.elim .null .obj)) := by
  rcases h.fieldOf_cases hfields hfield with ⟨hnone, hnullable⟩ | ⟨value, hsome, -, hvalue⟩
  · exact ⟨none, hnullable ▸ .null, by rw [hobject, hnone]; rfl⟩
  · rw [hkind] at hvalue
    obtain ⟨innerFields, hinner⟩ := hclosed.exists_fields hfields hfield (.inl hkind)
    obtain ⟨entries, rfl, -⟩ := hvalue.exists_entries hinner
    exact ⟨some entries, .object hvalue, by rw [hobject, hsome]; rfl⟩

/-! ### Paths and tuples -/

/-- **What a typed path reads is null only if the object may be null or a step is nullable.** -/
theorem exists_evalEager_toExpr (hclosed : registry.Closed) {path : Path} {leaf : Field}
    (hpath : path.Leads registry fields leaf) (hfields : registry.fields shape = .ok fields)
    (h : ObjectOrNull registry enums shape mayBeNull source?)
    (hobject : object.EagerlyDenotes table row env source?) :
    ∃ value, (path.toExpr object).evalEager table row env = some value ∧
      ((mayBeNull || path.isNullable) = false → value ≠ .null) := by
  cases hpath with
  | single hsource =>
    rw [Path.isNullable_single]
    exact h.exists_evalEager_field hfields hsource hobject
  | @member source _ inner innerFields hsource hkind hinner hmember =>
    obtain ⟨inner?, hinner?, hvalue⟩ := h.nested hclosed hobject hfields hsource hkind
    obtain ⟨value, heval, hnull⟩ :=
      hinner?.exists_evalEager_field hinner hmember (ObjectRef.eagerlyDenotes_value hvalue)
    rw [Path.isNullable_push, Path.isNullable_single, ← Bool.or_assoc]
    have hexpr : ((Path.single source.name source.nullable).push leaf.name
        leaf.nullable).toExpr object =
          let inner := (ObjectRef.value (object.field source.name)).field leaf.name
          if source.nullable then inner.guardedBy (object.field source.name) else inner := rfl
    rw [hexpr]
    -- The guard is there only if the first step is nullable, and then null may be read.
    rcases hfirst : source.nullable with - | -
    · exact ⟨value, heval, by rwa [hfirst] at hnull⟩
    · exact ⟨_, Expr.evalEager_guardedBy hvalue heval, by simp⟩

/-- **No cast of a value that is read fails**: its type has null wherever null may be read. -/
theorem exists_evalEager_readExpr (hclosed : registry.Closed) {path : Path} {leaf : Field}
    (hpath : path.Leads registry fields leaf) (hfields : registry.fields shape = .ok fields)
    (h : ObjectOrNull registry enums shape mayBeNull source?)
    (hobject : object.EagerlyDenotes table row env source?) (conversion : Conversion) :
    ∃ value, (readExpr object mayBeNull path conversion).evalEager table row env = some value := by
  obtain ⟨value, heval, hnull⟩ := exists_evalEager_toExpr hclosed hpath hfields h hobject
  cases conversion with
  | copy => exact ⟨value, heval⟩
  | enumeration =>
    refine ⟨value, ?_⟩
    rw [readExpr, Expr.evalEager, heval]
    refine if_neg fun ⟨hvalue, htype⟩ ↦ ?_
    rcases hstrict : (mayBeNull || path.isNullable) with - | -
    · exact hnull hstrict (SqlValue.isNull_iff.1 hvalue)
    · rw [hstrict] at htype
      exact absurd htype (by decide)

/-- What feeds a target field has a value, if the tuple of a plan below has one wherever it is
made. -/
theorem Feed.Typed.exists_evalEager (hclosed : registry.Closed) {field : Field} {feed : Feed Plan}
    (htyped : feed.Typed registry fields field) (hfields : registry.fields shape = .ok fields)
    (h : ObjectOrNull registry enums shape mayBeNull source?)
    (hobject : object.EagerlyDenotes table row env source?)
    (hbelow : ∀ child, feed.child? = some child → ∀ env object mayBeNull source?,
      ObjectOrNull registry enums child.source mayBeNull source? →
      ObjectRef.EagerlyDenotes table row env object source? →
      ∃ value, (child.toTuple object mayBeNull).evalEager table row env = some value) :
    ∃ value, (feed.toExpr object mayBeNull).evalEager table row env = some value := by
  cases htyped with
  | value hpath => exact exists_evalEager_readExpr hclosed hpath hfields h hobject _
  | @object source plan hsource _ _ hkind hnullable =>
    obtain ⟨inner?, hinner?, hvalue⟩ := h.nested hclosed hobject hfields hsource hkind
    rw [hnullable, Bool.or_false] at hinner?
    exact hbelow plan rfl env _ mayBeNull inner? hinner? (ObjectRef.eagerlyDenotes_value hvalue)
  | @optionalObject source plan hsource _ _ hkind hnullable =>
    obtain ⟨inner?, hinner?, hvalue⟩ := h.nested hclosed hobject hfields hsource hkind
    rw [hnullable, Bool.or_true] at hinner?
    obtain ⟨out, hout⟩ := hbelow plan rfl env _ true inner? hinner?
      (ObjectRef.eagerlyDenotes_value hvalue)
    exact ⟨_, Expr.evalEager_guardedBy hvalue hout⟩
  | @collection source plan hsource _ _ hkind =>
    have hvalue := hobject source.name
    rcases h.fieldOf_cases hfields hsource with ⟨hnone, -⟩ | ⟨list, hsome, -, hlist⟩
    · rw [hnone] at hvalue
      exact ⟨.null, by simp [toExpr, ObjectRef.mapField, Expr.evalEager, hvalue, SqlValue.isNull]⟩
    · rw [hkind] at hlist
      obtain - | - | - | @⟨_, items, hitems⟩ := hlist
      rw [hsome] at hvalue
      obtain ⟨itemFields, hitemFields⟩ := hclosed.exists_fields hfields hsource (.inr hkind)
      -- An item is never null, so in the body the flag starts anew.
      have hbody : ∀ item ∈ items.map SqlValue.json, ∃ value,
          (plan.toTuple (itemRef plan.depth) false).evalEager table row
            ((itemParameter plan.depth, item) :: env) = some value := by
        refine List.forall_mem_map.2 fun item hitem ↦ ?_
        obtain ⟨entries, rfl, -⟩ := (hitems item hitem).exists_entries hitemFields
        refine hbelow plan rfl _ _ false (some entries) (.object (hitems _ hitem)) ?_
        exact ObjectRef.eagerlyDenotes_value (by simp [Expr.evalEager])
      obtain ⟨values, hvalues⟩ := exists_mapM_eq_some.2 hbody
      refine ⟨.array values, ?_⟩
      simp [toExpr, ObjectRef.mapField, Expr.evalEager, hvalue, SqlValue.isNull, SqlValue.items?,
        hvalues]

namespace Plan

variable {plan : Plan}

/-- **The tuple of a well-typed plan has a value**, at any level, for an instance and for null. -/
theorem exists_evalEager_toTuple (hclosed : registry.Closed) (htyped : plan.WellTyped registry)
    (env : List (String × SqlValue)) (object : ObjectRef) (mayBeNull : Bool)
    (source? : Option (List (String × Json)))
    (h : ObjectOrNull registry enums plan.source mayBeNull source?)
    (hobject : object.EagerlyDenotes table row env source?) :
    ∃ value, (plan.toTuple object mayBeNull).evalEager table row env = some value := by
  induction plan using Plan.induction generalizing env object mayBeNull source? with
  | step plan ih =>
    obtain ⟨sourceFields, targetFields, hsource, -, -, hlevel⟩ := htyped.level hclosed
    have hmembers : ∀ a ∈ plan.assignments, ∃ value,
        (a.feed.toExpr object mayBeNull).evalEager table row env = some value := by
      intro a ha
      obtain ⟨field, -, -, hassignment⟩ := hlevel a ha
      exact hassignment.feed.exists_evalEager hclosed hsource h hobject fun child hchild ↦
        ih a ha child hchild (htyped.child ha hchild)
    obtain ⟨members, hmembers⟩ := exists_mapM_eq_some.2 (List.forall_mem_map.2 hmembers)
    refine ⟨.tuple members, ?_⟩
    rw [toTuple_eq, Expr.evalEager, Expr.evalEagerAll_eq_mapM, hmembers]
    rfl

/-- **Every column of a well-typed plan has a value**, if its guards have: without guards the object
is an instance of the source shape. -/
theorem exists_evalEager_column (hclosed : registry.Closed) (htyped : plan.WellTyped registry)
    {guards : List Expr}
    (hguards : ∀ guard ∈ guards, ∃ value, guard.evalEager table row env = some value)
    (h : ObjectOrNull registry enums plan.source (!guards.isEmpty) source?)
    (hobject : object.EagerlyDenotes table row env source?) {leaf : Leaf}
    (hleaf : leaf ∈ plan.leaves) (path : String) :
    ∃ value, (leaf.column object path guards).expression.evalEager table row env = some value := by
  induction plan using Plan.induction generalizing object source? guards leaf path with
  | step plan ih =>
    obtain ⟨a, ha, hleaf⟩ := mem_leaves_iff.1 hleaf
    obtain ⟨sourceFields, targetFields, hsource, -, -, hlevel⟩ := htyped.level hclosed
    obtain ⟨field, -, -, hassignment⟩ := hlevel a ha
    cases hleaf with
    | own =>
      refine Expr.exists_evalEager_guardedByAll hguards ?_
      exact hassignment.feed.exists_evalEager hclosed hsource h hobject fun child hchild ↦
        exists_evalEager_toTuple hclosed (htyped.child ha hchild)
    | @below link name child inner hfeed hlink hinner =>
      have hchild : a.feed.child? = some child := by
        rw [hfeed]
        rfl
      have hfeedTyped := hassignment.feed
      rw [hfeed] at hfeedTyped
      have hchildTyped := htyped.child ha hchild
      cases hfeedTyped with
      | @object source _ hmem _ _ hkind hnullable =>
        obtain ⟨inner?, hinner?, hvalue⟩ := h.nested hclosed hobject hsource hmem hkind
        rw [hnullable, Bool.or_false] at hinner?
        exact ih a ha child hchild hchildTyped hguards hinner?
          (ObjectRef.eagerlyDenotes_value hvalue) hinner _
      | @optionalObject source _ hmem _ _ hkind hnullable =>
        obtain ⟨inner?, hinner?, hvalue⟩ := h.nested hclosed hobject hsource hmem hkind
        rw [hnullable, Bool.or_true] at hinner?
        have hguards' : ∀ guard ∈ guards ++ [object.field source.name],
            ∃ value, guard.evalEager table row env = some value :=
          List.forall_mem_append.2 ⟨hguards, List.forall_mem_singleton.2 ⟨_, hvalue⟩⟩
        have hsome : (!(guards ++ [object.field source.name]).isEmpty) = true := by simp
        exact ih a ha child hchild hchildTyped hguards' (hsome ▸ hinner?)
          (ObjectRef.eagerlyDenotes_value hvalue) hinner _
      | collection => exact absurd rfl hlink

/-- **No cast to a type without null meets null**, in either branch of any guard and for any item of
any collection. On a row that conforms to the source shape, whatever stands for the values of enums,
every column of a compiled plan has a value when everything in it is evaluated, and every cast to
`Int64` that is evaluated on the way is applied to a value other than null. -/
theorem casts_spare_null {catalogue : Catalogue} (hregister : catalogue.register = .ok registry)
    {settings : BuildSettings} {source target : String}
    (hbuild : between registry settings source target = .ok plan) {query : SelectSource}
    {select : Select} (hselect : plan.toSelect query = .ok select)
    {row : List (String × Json)} (hrow : Conforms registry enums (.nested source) (.obj row)) :
    ∀ column ∈ select.columns,
      (∃ value, column.expression.evalEager query.tableAlias row [] = some value) ∧
      ∀ operand env,
        (Expr.cast operand "Int64").Evaluates query.tableAlias row env [] column.expression →
        ∃ value, operand.evalEager query.tableAlias row env = some value ∧ value ≠ .null := by
  have hclosed := Registry.closed_of_register hregister
  have htyped := ofPair_wellTyped hclosed hbuild
  obtain ⟨rfl, -, -⟩ := labels_of_ofPair hbuild
  obtain ⟨-, -, -, rfl⟩ := toSelect_eq_ok_iff.1 hselect
  intro column hcolumn
  rw [resultColumns_eq] at hcolumn
  obtain ⟨leaf, hleaf, rfl⟩ := List.mem_map.1 hcolumn
  have hvalue : ∃ value, (leaf.column (.row query.tableAlias) "" []).expression.evalEager
      query.tableAlias row [] = some value :=
    exists_evalEager_column hclosed htyped (List.forall_mem_nil _) (.object hrow)
      ObjectRef.eagerlyDenotes_row hleaf ""
  exact ⟨hvalue, fun operand env hcast ↦
    Expr.exists_operand_of_cast (hcast.exists_eq_some hvalue)⟩

end Plan

end Objects

namespace Blog

/-- The rank of the tag of a post is cast to `Int64` in the body of a map, and it is not null. -/
theorem rank_spared :
    ∃ row select env, post (.int 0) = .obj row ∧ postPlan.toSelect {} = .ok select ∧
      ∃ column ∈ select.columns,
        (Expr.cast (.tupleElement (.parameter "x2") "Rank") "Int64").Evaluates "src" row env []
          column.expression ∧
        ∃ value, Expr.evalEager "src" row env (.tupleElement (.parameter "x2") "Rank") =
          some value ∧ value ≠ .null := by
  have hselect : postPlan.toSelect {} = .ok ⟨postPlan.resultColumns (.row "src") "" [], {}⟩ := by
    with_unfolding_all rfl
  have hcolumn : ⟨.arrayMap "x2" (.tuple [.cast (.tupleElement (.parameter "x2") "Rank") "Int64",
        .tupleElement (.parameter "x2") "Label"]) (.column "src" "Tags"), "Tags"⟩ ∈
      postPlan.resultColumns (.row "src") "" [] :=
    .tail _ (.tail _ (.tail _ (.tail _ List.mem_cons_self)))
  obtain ⟨row, hpost⟩ : ∃ row, post (.int 0) = .obj row := ⟨_, rfl⟩
  have hrow : Conforms registry (fun _ value ↦ ∃ n : Int, value = .int n) (.nested "Post")
      (.obj row) := hpost ▸ post_conforms rfl ⟨0, rfl⟩
  -- The tag is the only item of the array that is mapped.
  have hevaluates : (Expr.cast (.tupleElement (.parameter "x2") "Rank") "Int64").Evaluates "src" row
      [("x2", .json (.obj [("Label", .null), ("Rank", .int 1)]))] []
      (.arrayMap "x2" (.tuple [.cast (.tupleElement (.parameter "x2") "Rank") "Int64",
        .tupleElement (.parameter "x2") "Label"]) (.column "src" "Tags")) := by
    obtain rfl := Json.obj.inj hpost
    exact .body (by with_unfolding_all rfl) rfl List.mem_cons_self (.item List.mem_cons_self .self)
  obtain ⟨-, hcasts⟩ := Plan.casts_spare_null register_eq between_eq hselect hrow _ hcolumn
  exact ⟨row, _, _, hpost, hselect, _, hcolumn, hevaluates, hcasts _ _ hevaluates⟩

end Blog

end Recast
