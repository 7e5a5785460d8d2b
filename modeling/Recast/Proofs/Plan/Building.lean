import Recast.Plan.Build
import Recast.Proofs.Plan.Matching

/-!
# One level of a plan

What the construction does at one level, said once. For a target field there are four questions:
does it declare an override, is there a source field of its name, is the value of that field
convertible, and does the plan descend into it (`descent?`). `fieldOutcome` asks them in this order
and says what becomes of the field. A plan then is the outcomes of the target fields in the order of
declaration (`ofPair_eq_ok_iff`), and a failure is the failure of some target field or of a lookup
(`exists_of_ofPair_eq_error`).

What holds of plans is proved from these statements and `level_induction`, the induction on what the
hard limit leaves below a level. The construction itself is opened again only where it is compared
with itself, in other surroundings or with other plans below.
-/

namespace Recast

/-! ### Kinds that fit

The table of conversions: a scalar from the same scalar, an enum from an enum or from an integer. -/

/-- A value of the second kind can be assigned to a field of the first, by the conversion. -/
inductive Conversion.Fits : FieldKind → FieldKind → Conversion → Prop
  | copy {type : Scalar} : Fits (.scalar type) (.scalar type) .copy
  | enumeration {target source : String} :
      Fits (.enumeration target) (.enumeration source) (.enumeration (some source) target)
  | integer {target : String} {type : Scalar} (hinteger : type.isInteger = true) :
      Fits (.enumeration target) (.scalar type) (.enumeration none target)

theorem Conversion.between?_eq_some_iff {target source : FieldKind} {conversion : Conversion} :
    between? target source = some conversion ↔ Fits target source conversion := by
  constructor
  · intro h
    unfold between? at h
    split at h
    · split at h
      · rename_i heq
        cases h
        exact heq ▸ .copy
      · cases h
    · cases h
      exact .enumeration
    · split at h
      · rename_i hinteger
        cases h
        exact .integer hinteger
      · cases h
    · cases h
  · rintro (_ | _ | hinteger)
    · simp [between?]
    · rfl
    · simp [between?, hinteger]

theorem Conversion.between?_eq_none_iff {target source : FieldKind} :
    between? target source = none ↔ ∀ conversion, ¬ Fits target source conversion := by
  simp only [← between?_eq_some_iff]
  exact Option.eq_none_iff_forall_ne_some

/-! ### Descending -/

/-- A plan that another one has below itself: how it is linked, the shapes it joins and its
level. -/
structure Descent where
  link : Link
  source : String
  target : String
  level : Nat
deriving DecidableEq, Repr

/-- What a plan feeds to the field from which it was descended into: nothing, if it is an empty plan
of an object. -/
def Descent.feed? (descent : Descent) (field : String) (plan : Plan) : Option (Feed Plan) :=
  if descent.link ≠ .collection ∧ plan.isEmpty then none else some (.child descent.link field plan)

theorem Descent.feed?_eq_some_iff {descent : Descent} {field : String} {plan : Plan}
    {feed : Feed Plan} :
    descent.feed? field plan = some feed ↔
      feed = .child descent.link field plan ∧
        (descent.link = .collection ∨ plan.isEmpty = false) := by
  obtain ⟨link, source, target, level⟩ := descent
  rcases h : plan.isEmpty with - | - <;> cases link <;> simp [feed?, h, eq_comm]

namespace Plan

variable {registry : Registry} {settings : BuildSettings}

/-- Where a pair of fields leads from a level, if the limits allow it. -/
def descent? (settings : BuildSettings) (depth : Nat) (target source : Field) : Option Descent :=
  match target.kind, source.kind with
  | .collection targetItems, .collection sourceItems =>
    if depth ≤ settings.limits.collectionDepth ∧
        max settings.limits.elementDepth (depth + 1) ≤ settings.limits.hardDepth then
      some ⟨.collection, sourceItems, targetItems, max settings.limits.elementDepth (depth + 1)⟩
    else none
  | .nested targetShape, .nested sourceShape =>
    if (depth ≤ settings.limits.nestedDepth ∨ settings.loadChildren = true) ∧
        depth < settings.limits.hardDepth then
      some ⟨if source.nullable then .optionalObject else .object, sourceShape, targetShape,
        depth + 1⟩
    else none
  | _, _ => none

/-- **The two ways down.** -/
theorem descent?_eq_some_iff {depth : Nat} {target source : Field} {descent : Descent} :
    descent? settings depth target source = some descent ↔
      (descent.link = .collection ∧ target.kind = .collection descent.target ∧
        source.kind = .collection descent.source ∧ depth ≤ settings.limits.collectionDepth ∧
        descent.level = max settings.limits.elementDepth (depth + 1) ∧
        descent.level ≤ settings.limits.hardDepth) ∨
      (descent.link = (if source.nullable then .optionalObject else .object) ∧
        target.kind = .nested descent.target ∧ source.kind = .nested descent.source ∧
        (depth ≤ settings.limits.nestedDepth ∨ settings.loadChildren = true) ∧
        descent.level = depth + 1 ∧ descent.level ≤ settings.limits.hardDepth) := by
  obtain ⟨link, sourceShape, targetShape, level⟩ := descent
  unfold descent?
  rcases target.kind with _ | _ | t | t <;> rcases source.kind with _ | _ | s | s <;>
    simp only [reduceCtorEq, and_false, false_and, or_false, false_or, FieldKind.nested.injEq,
      FieldKind.collection.injEq]
  all_goals
    split
    · grind
    · grind

/-- Every descent goes deeper and stays within the hard limit. -/
theorem level_of_descent? {depth : Nat} {target source : Field} {descent : Descent}
    (h : descent? settings depth target source = some descent) :
    depth < descent.level ∧ descent.level ≤ settings.limits.hardDepth := by
  rcases descent?_eq_some_iff.1 h with ⟨-, -, -, -, hlevel, hle⟩ | ⟨-, -, -, -, hlevel, hle⟩ <;>
    omega

/-- Where fields descend, no value is converted. -/
theorem between?_eq_none_of_descent? {depth : Nat} {target source : Field} {descent : Descent}
    (h : descent? settings depth target source = some descent) :
    Conversion.between? target.kind source.kind = none := by
  rcases descent?_eq_some_iff.1 h with ⟨-, ht, hs, -⟩ | ⟨-, ht, hs, -⟩ <;>
    rw [ht, hs] <;> rfl

/-- **Induction on levels.** A property of all levels holds if it holds of each level below which it
holds within the hard limit. -/
theorem level_induction (settings : BuildSettings) {motive : Nat → Prop}
    (step : ∀ depth, (∀ level, depth < level → level ≤ settings.limits.hardDepth → motive level) →
      motive depth) (depth : Nat) : motive depth := by
  induction h : settings.limits.hardDepth - depth using Nat.strongRecOn generalizing depth with
  | ind n ih =>
    exact step depth fun level hlt hle ↦ ih (settings.limits.hardDepth - level) (by omega) level rfl

/-! ### One target field -/

/-- The plan of a pair of shapes at a level, with nothing remembered and nothing logged. -/
abbrev ofPair (registry : Registry) (settings : BuildSettings) (source target : String)
    (depth : Nat) : Except PlanError Plan :=
  atLevel (.direct registry) settings source target depth

theorem between_eq_ofPair {source target : String} :
    between registry settings source target = ofPair registry settings source target 1 :=
  rfl

/-- What becomes of a target field: its assignment, none if it has none. -/
def fieldOutcome (registry : Registry) (settings : BuildSettings) (sourceFields : List Field)
    (targetShape : String) (depth : Nat) (field : Field) :
    Except PlanError (Option (Assignment Plan)) :=
  match field.override with
  | some override => do
    let pairing ← Matching.resolve registry sourceFields targetShape field override
    let feed ← pairing.overrideFeed targetShape
    return some ⟨field.name, .explicitOverride, feed⟩
  | none =>
    match findField? sourceFields field.name with
    | none => .ok none
    | some source =>
      match Conversion.between? field.kind source.kind with
      | some conversion =>
        .ok (some ⟨field.name, .structural,
          .value (.single source.name source.nullable) conversion⟩)
      | none =>
        match descent? settings depth field source with
        | none => .ok none
        | some descent =>
          (ofPair registry settings descent.source descent.target descent.level).map fun plan ↦
            (descent.feed? source.name plan).map (⟨field.name, .structural, ·⟩)

section Direct

variable {depth : Nat} {build : String → String → Nat → Except PlanError Plan} {pairing : Pairing}

theorem collectionFeed_direct {source target : String} :
    collectionFeed (.direct registry) settings depth (fun s t level ↦ build s t level.1) pairing
        source target =
      if depth ≤ settings.limits.collectionDepth ∧
          max settings.limits.elementDepth (depth + 1) ≤ settings.limits.hardDepth then
        (build source target (max settings.limits.elementDepth (depth + 1))).map fun plan ↦
          some (.child .collection pairing.source.name plan)
      else .ok none := by
  rw [collectionFeed]
  by_cases hdepth : settings.limits.collectionDepth < depth
  · rw [if_pos hdepth, if_neg (by omega)]
    rfl
  · rw [if_neg hdepth]
    by_cases hlevel : max settings.limits.elementDepth (depth + 1) ≤ settings.limits.hardDepth
    · simp only [dif_pos hlevel, if_pos (And.intro (Nat.le_of_not_lt hdepth) hlevel)]
      rcases build source target (max settings.limits.elementDepth (depth + 1)) <;> rfl
    · simp only [dif_neg hlevel]
      rw [if_neg (fun h ↦ hlevel h.2)]
      rfl

theorem nestedFeed_direct {source target : String} :
    nestedFeed (.direct registry) settings depth (fun s t level ↦ build s t level.1) pairing
        source target =
      if (depth ≤ settings.limits.nestedDepth ∨ settings.loadChildren = true) ∧
          depth < settings.limits.hardDepth then
        (build source target (depth + 1)).map fun plan ↦
          if plan.isEmpty then none
          else some (.child (if pairing.source.nullable then .optionalObject else .object)
            pairing.source.name plan)
      else .ok none := by
  rw [nestedFeed]
  by_cases hload : depth ≤ settings.limits.nestedDepth ∨ settings.loadChildren = true
  · have hcond :
        ¬ (decide (settings.limits.nestedDepth < depth) && !settings.loadChildren) = true := by
      rcases hload with h | h
      · simp [Nat.not_lt.2 h]
      · simp [h]
    rw [if_neg hcond]
    by_cases hlevel : depth < settings.limits.hardDepth
    · simp only [dif_pos hlevel, if_pos (And.intro hload hlevel)]
      rcases build source target (depth + 1) with error | plan
      · rfl
      · rcases h : plan.isEmpty <;> simp [h, Access.direct]
    · simp only [dif_neg hlevel]
      rw [if_neg (fun h ↦ hlevel h.2)]
      rfl
  · rw [if_pos (by simpa using hload), if_neg (fun h ↦ hload h.1)]
    rfl

/-- The feed of a pairing by name asks the last two questions. -/
theorem structuralFeed_direct :
    structuralFeed (.direct registry) settings depth (fun s t level ↦ build s t level.1) pairing =
      match Conversion.between? pairing.target.kind pairing.source.kind with
      | some conversion => .ok (some (.value pairing.path conversion))
      | none =>
        match descent? settings depth pairing.target pairing.source with
        | none => .ok none
        | some descent =>
          (build descent.source descent.target descent.level).map
            (descent.feed? pairing.source.name) := by
  rw [structuralFeed]
  rcases Conversion.between? pairing.target.kind pairing.source.kind with - | conversion
  · simp only [descent?]
    rcases pairing.target.kind with _ | _ | t | t <;>
      rcases pairing.source.kind with _ | _ | s | s <;>
      try rfl
    · -- an object from an object
      simp only [nestedFeed_direct]
      split
      · congr 1
        funext plan
        rcases h : plan.isEmpty <;> cases pairing.source.nullable <;> simp [Descent.feed?, h]
      · rfl
    · -- a collection from a collection
      simp only [collectionFeed_direct]
      split <;> rfl
  · rfl

end Direct

/-! ### One level -/

variable {sourceFields targetFields : List Field} {source target : String} {depth : Nat}

/-- The outcome of a field is its pairing followed by the assignment of the pairing. -/
theorem fieldOutcome_eq {field : Field} :
    fieldOutcome registry settings sourceFields target depth field =
      (Matching.pairField registry sourceFields target field).bind fun pairing? ↦
        pairing?.elim (.ok none) (assignmentOf (.direct registry) settings target depth
          fun s t level ↦ ofPair registry settings s t level.1) := by
  rw [fieldOutcome, Matching.pairField]
  rcases field.override with - | override
  · rcases findField? sourceFields field.name with - | sourceField
    · rfl
    · simp only [Option.map_some, except_bind_eq, ok_bind, Option.elim_some, assignmentOf,
        structuralFeed_direct]
      rcases Conversion.between? field.kind sourceField.kind with - | conversion
      · rcases descent? settings depth field sourceField with - | descent
        · rfl
        · dsimp only
          rcases ofPair registry settings descent.source descent.target descent.level <;> rfl
      · rfl
  · dsimp only
    rcases h : Matching.resolve registry sourceFields target field override with error | pairing
    · rfl
    · obtain ⟨sourceField, member, -, rfl⟩ := (Matching.resolve_eq_ok_iff _).1 h
      simp only [ok_map, except_bind_eq, ok_bind, Option.elim_some, assignmentOf]
      rcases Pairing.overrideFeed ⟨field, sourceField, member, .explicitOverride⟩ target with
        error | feed <;> rfl

/-- The plan of two registered shapes, as one traversal of the pairings after another. -/
theorem ofPair_eq (hsource : registry.fields source = .ok sourceFields)
    (htarget : registry.fields target = .ok targetFields) :
    ofPair registry settings source target depth =
      (targetFields.mapM (Matching.pairField registry sourceFields target)).bind fun pairings ↦
        ((pairings.filterMap id).mapM
          (assignmentOf (.direct registry) settings target depth
            fun s t level ↦ ofPair registry settings s t level.1)).bind fun assignments ↦
          .ok ⟨source, target, depth, assignments.filterMap id⟩ := by
  rw [ofPair, atLevel]
  simp only [Access.direct, Matching.ofShapes_eq hsource htarget]
  rcases targetFields.mapM (Matching.pairField registry sourceFields target) with error | pairings
  · rfl
  · rfl

/-- **A plan is the outcomes of the target fields**, in the order of declaration, without those that
have no assignment. -/
theorem ofPair_eq_ok_iff (hsource : registry.fields source = .ok sourceFields)
    (htarget : registry.fields target = .ok targetFields) {plan : Plan} :
    ofPair registry settings source target depth = .ok plan ↔
      ∃ outcomes, List.Forall₂ (fun field outcome ↦
          fieldOutcome registry settings sourceFields target depth field = .ok outcome)
          targetFields outcomes ∧
        plan = ⟨source, target, depth, outcomes.filterMap id⟩ := by
  rw [ofPair_eq hsource htarget]
  simp only [← mapM_eq_ok_iff, fieldOutcome_eq]
  constructor
  · intro h
    obtain ⟨pairings, hpairings, h⟩ := bind_eq_ok_iff.1 h
    obtain ⟨assignments, hassignments, h⟩ := bind_eq_ok_iff.1 h
    obtain ⟨outcomes, houtcomes, heq⟩ :=
      exists_mapM_filterMap_iff.1 ⟨pairings, assignments, hpairings, hassignments, rfl⟩
    exact ⟨outcomes, houtcomes, by rw [heq]; exact (Except.ok.inj h).symm⟩
  · rintro ⟨outcomes, houtcomes, rfl⟩
    obtain ⟨pairings, assignments, hpairings, hassignments, heq⟩ :=
      exists_mapM_filterMap_iff.2 ⟨outcomes, houtcomes, rfl⟩
    refine bind_eq_ok_iff.2 ⟨pairings, hpairings, bind_eq_ok_iff.2 ⟨assignments, hassignments, ?_⟩⟩
    rw [heq]

/-- **A failure below registered shapes is the failure of a target field.** -/
theorem exists_of_ofPair_eq_error (hsource : registry.fields source = .ok sourceFields)
    (htarget : registry.fields target = .ok targetFields) {error : PlanError}
    (h : ofPair registry settings source target depth = .error error) :
    ∃ field ∈ targetFields,
      fieldOutcome registry settings sourceFields target depth field = .error error := by
  simp only [fieldOutcome_eq]
  rw [ofPair_eq hsource htarget] at h
  rcases bind_eq_error_iff.1 h with h | ⟨pairings, hpairings, h⟩
  · obtain ⟨field, hfield, h⟩ := exists_of_mapM_eq_error h
    exact ⟨field, hfield, by rw [h]; rfl⟩
  · rcases bind_eq_error_iff.1 h with h | ⟨assignments, -, h⟩
    · obtain ⟨pairing, hpairing, h⟩ := exists_of_mapM_eq_error h
      -- The pairing is that of some target field.
      obtain ⟨field, hfield, hpair⟩ :=
        exists_of_mem_of_forall₂ (mapM_eq_ok_iff.1 hpairings) (by simpa using hpairing)
      exact ⟨field, hfield, by rw [hpair]; exact h⟩
    · cases h

/-- An unregistered shape has no plan, and the source shape is looked up first. -/
theorem ofPair_eq_of_unregistered
    (h : registry.hasShape source = false ∨ registry.hasShape target = false) :
    ofPair registry settings source target depth = .error (.catalogue (.unknownShape
      (if registry.hasShape source then target else source))) := by
  rw [ofPair, atLevel]
  simp only [Access.direct, Matching.ofShapes_eq_of_unregistered h]
  rfl

/-- A pair of shapes that has a plan is registered. -/
theorem exists_fields_of_ofPair {plan : Plan}
    (h : ofPair registry settings source target depth = .ok plan) :
    ∃ sourceFields targetFields, registry.fields source = .ok sourceFields ∧
      registry.fields target = .ok targetFields := by
  have hregistered : registry.hasShape source = true ∧ registry.hasShape target = true := by
    by_contra hnot
    rw [not_and_or, Bool.not_eq_true, Bool.not_eq_true] at hnot
    rw [ofPair_eq_of_unregistered hnot] at h
    cases h
  obtain ⟨sourceFields, hsource⟩ := Registry.exists_fields_iff.2 hregistered.1
  obtain ⟨targetFields, htarget⟩ := Registry.exists_fields_iff.2 hregistered.2
  exact ⟨sourceFields, targetFields, hsource, htarget⟩

/-! ### The outcomes, case by case -/

/-- How a target field comes to an assignment: by its override, by a value that is converted, or by
a plan for what it holds. -/
inductive Assigns (registry : Registry) (settings : BuildSettings) (sourceFields : List Field)
    (depth : Nat) (field : Field) : Assignment Plan → Prop
  | override {override : Override} {source : Field} {member : Option Field}
      {conversion : Conversion} (hoverride : field.override = some override)
      (hleads : override.Leads registry sourceFields field source member)
      (hfits : Conversion.between? field.kind (member.getD source).kind = some conversion) :
      Assigns registry settings sourceFields depth field ⟨field.name, .explicitOverride,
        .value (Pairing.path ⟨field, source, member, .explicitOverride⟩) conversion⟩
  | value {source : Field} {conversion : Conversion} (hoverride : field.override = none)
      (hsource : findField? sourceFields field.name = some source)
      (hfits : Conversion.between? field.kind source.kind = some conversion) :
      Assigns registry settings sourceFields depth field
        ⟨field.name, .structural, .value (.single source.name source.nullable) conversion⟩
  | child {source : Field} {descent : Descent} {plan : Plan} (hoverride : field.override = none)
      (hsource : findField? sourceFields field.name = some source)
      (hdescent : descent? settings depth field source = some descent)
      (hplan : ofPair registry settings descent.source descent.target descent.level = .ok plan)
      (hkept : descent.link = .collection ∨ plan.isEmpty = false) :
      Assigns registry settings sourceFields depth field
        ⟨field.name, .structural, .child descent.link source.name plan⟩

/-- How a target field makes the construction fail: its override misses a path or leads to a field
of the wrong kind, or the plan for what it holds fails. -/
inductive Fails (registry : Registry) (settings : BuildSettings) (sourceFields : List Field)
    (targetShape : String) (depth : Nat) (field : Field) : PlanError → Prop
  | misses {override : Override} {missing : String} (hoverride : field.override = some override)
      (hmisses : override.Misses registry sourceFields field missing) :
      Fails registry settings sourceFields targetShape depth field
        (.unresolvedOverride targetShape field.name missing)
  | unfit {override : Override} {source : Field} {member : Option Field}
      (hoverride : field.override = some override)
      (hleads : override.Leads registry sourceFields field source member)
      (hfits : Conversion.between? field.kind (member.getD source).kind = none) :
      Fails registry settings sourceFields targetShape depth field
        (.incompatibleOverride targetShape field.name
          (Pairing.path ⟨field, source, member, .explicitOverride⟩).render field.kind
          (member.getD source).kind)
  | child {source : Field} {descent : Descent} {error : PlanError}
      (hoverride : field.override = none)
      (hsource : findField? sourceFields field.name = some source)
      (hdescent : descent? settings depth field source = some descent)
      (hplan : ofPair registry settings descent.source descent.target descent.level =
        .error error) :
      Fails registry settings sourceFields targetShape depth field error

/-- A field that a plan descends into stands or falls with the plan below. -/
theorem fieldOutcome_of_descent? {field sourceField : Field} {descent : Descent}
    (hoverride : field.override = none)
    (hsource : findField? sourceFields field.name = some sourceField)
    (hdescent : descent? settings depth field sourceField = some descent) :
    fieldOutcome registry settings sourceFields target depth field =
      (ofPair registry settings descent.source descent.target descent.level).map fun plan ↦
        (descent.feed? sourceField.name plan).map (⟨field.name, .structural, ·⟩) := by
  simp [fieldOutcome, hoverride, hsource, between?_eq_none_of_descent? hdescent, hdescent]

/-- A field with an override is fed from where that leads. -/
theorem fieldOutcome_of_override {field : Field} {override : Override}
    (hoverride : field.override = some override) :
    fieldOutcome registry settings sourceFields target depth field =
      (Matching.resolve registry sourceFields target field override).bind fun pairing ↦
        (pairing.overrideFeed target).map fun feed ↦
          some ⟨field.name, .explicitOverride, feed⟩ := by
  simp only [fieldOutcome, hoverride]
  rcases Matching.resolve registry sourceFields target field override with error | pairing
  · rfl
  · simp only [except_bind_eq, ok_bind]
    rcases pairing.overrideFeed target with error | feed <;> rfl

/-- **What a field without an override comes to**: nothing, a value that is converted, or what the
plan for the field that it is paired with comes to. -/
theorem fieldOutcome_cases {field : Field} (hoverride : field.override = none) :
    fieldOutcome registry settings sourceFields target depth field = .ok none ∨
    (∃ source conversion, findField? sourceFields field.name = some source ∧
      Conversion.between? field.kind source.kind = some conversion ∧
      fieldOutcome registry settings sourceFields target depth field = .ok (some
        ⟨field.name, .structural, .value (.single source.name source.nullable) conversion⟩)) ∨
    ∃ source descent, findField? sourceFields field.name = some source ∧
      descent? settings depth field source = some descent := by
  rcases hsource : findField? sourceFields field.name with - | source
  · exact .inl (by simp [fieldOutcome, hoverride, hsource])
  · rcases hfits : Conversion.between? field.kind source.kind with - | conversion
    · rcases hdescent : descent? settings depth field source with - | descent
      · exact .inl (by simp [fieldOutcome, hoverride, hsource, hfits, hdescent])
      · exact .inr (.inr ⟨source, descent, rfl, hdescent⟩)
    · refine .inr (.inl ⟨source, conversion, rfl, hfits, ?_⟩)
      simp [fieldOutcome, hoverride, hsource, hfits]

/-- The feed of an override that leads to a field is that of the kinds. -/
theorem overrideFeed_eq_ok_iff {source : Field} {member : Option Field} {field : Field}
    {feed : Feed Plan} :
    Pairing.overrideFeed ⟨field, source, member, .explicitOverride⟩ target = .ok feed ↔
      ∃ conversion, Conversion.between? field.kind (member.getD source).kind = some conversion ∧
        feed = .value (Pairing.path ⟨field, source, member, .explicitOverride⟩) conversion := by
  rw [Pairing.overrideFeed]
  rcases hfits : Conversion.between? field.kind (member.getD source).kind with - | conversion <;>
    simp [Pairing.leaf, hfits, eq_comm]

/-- An override that leads to a field of a kind that does not fit is refused. -/
theorem overrideFeed_eq_error_iff {source : Field} {member : Option Field} {field : Field}
    {error : PlanError} :
    Pairing.overrideFeed ⟨field, source, member, .explicitOverride⟩ target = .error error ↔
      Conversion.between? field.kind (member.getD source).kind = none ∧
        error = .incompatibleOverride target field.name
          (Pairing.path ⟨field, source, member, .explicitOverride⟩).render field.kind
          (member.getD source).kind := by
  rw [Pairing.overrideFeed]
  rcases hfits : Conversion.between? field.kind (member.getD source).kind with - | conversion <;>
    simp [Pairing.leaf, hfits, eq_comm]

/-- **The assignments of a target field are those that the three cases give.** -/
theorem fieldOutcome_eq_ok_some_iff {field : Field} {assignment : Assignment Plan} :
    fieldOutcome registry settings sourceFields target depth field = .ok (some assignment) ↔
      Assigns registry settings sourceFields depth field assignment := by
  constructor
  · intro h
    rcases hoverride : field.override with - | override
    · rcases fieldOutcome_cases hoverride with
        hnone | ⟨source, conversion, hsource, hfits, hvalue⟩ | ⟨source, descent, hsource, hdescent⟩
      · cases hnone.symm.trans h
      · cases hvalue.symm.trans h
        exact .value hoverride hsource hfits
      · rw [fieldOutcome_of_descent? hoverride hsource hdescent, map_eq_ok_iff] at h
        obtain ⟨plan, hplan, hmap⟩ := h
        obtain ⟨feed, hfeed, rfl⟩ := Option.map_eq_some_iff.1 hmap
        obtain ⟨rfl, hkept⟩ := Descent.feed?_eq_some_iff.1 hfeed
        exact .child hoverride hsource hdescent hplan hkept
    · rw [fieldOutcome_of_override hoverride] at h
      obtain ⟨pairing, hresolve, h⟩ := bind_eq_ok_iff.1 h
      obtain ⟨source, member, hleads, rfl⟩ := (Matching.resolve_eq_ok_iff target).1 hresolve
      obtain ⟨feed, hfeed, heq⟩ := map_eq_ok_iff.1 h
      obtain ⟨conversion, hfits, rfl⟩ := overrideFeed_eq_ok_iff.1 hfeed
      cases heq
      exact .override hoverride hleads hfits
  · intro h
    cases h with
    | override hoverride hleads hfits =>
      rw [fieldOutcome_of_override hoverride,
        (Matching.resolve_eq_ok_iff target).2 ⟨_, _, hleads, rfl⟩]
      exact map_eq_ok_iff.2 ⟨_, overrideFeed_eq_ok_iff.2 ⟨_, hfits, rfl⟩, rfl⟩
    | value hoverride hsource hfits => simp [fieldOutcome, hoverride, hsource, hfits]
    | child hoverride hsource hdescent hplan hkept =>
      simp [fieldOutcome_of_descent? hoverride hsource hdescent, hplan,
        Descent.feed?_eq_some_iff.2 ⟨rfl, hkept⟩]

/-- **The failures of a target field are those that the three cases give**, below registered shapes
of a closed registry. -/
theorem fieldOutcome_eq_error_iff (hresolves : ∀ field ∈ sourceFields, registry.Resolves field.kind)
    {field : Field} {error : PlanError} :
    fieldOutcome registry settings sourceFields target depth field = .error error ↔
      Fails registry settings sourceFields target depth field error := by
  constructor
  · intro h
    rcases hoverride : field.override with - | override
    · rcases fieldOutcome_cases hoverride with
        hnone | ⟨source, conversion, -, -, hvalue⟩ | ⟨source, descent, hsource, hdescent⟩
      · cases hnone.symm.trans h
      · cases hvalue.symm.trans h
      · rw [fieldOutcome_of_descent? hoverride hsource hdescent, map_eq_error_iff] at h
        exact .child hoverride hsource hdescent h
    · rw [fieldOutcome_of_override hoverride] at h
      rcases bind_eq_error_iff.1 h with h | ⟨pairing, hresolve, h⟩
      · obtain ⟨missing, hmisses, rfl⟩ := (Matching.resolve_eq_error_iff target hresolves).1 h
        exact .misses hoverride hmisses
      · obtain ⟨source, member, hleads, rfl⟩ := (Matching.resolve_eq_ok_iff target).1 hresolve
        obtain ⟨hfits, rfl⟩ := overrideFeed_eq_error_iff.1 (map_eq_error_iff.1 h)
        exact .unfit hoverride hleads hfits
  · intro h
    cases h with
    | misses hoverride hmisses =>
      rw [fieldOutcome_of_override hoverride,
        (Matching.resolve_eq_error_iff target hresolves).2 ⟨_, hmisses, rfl⟩]
      rfl
    | unfit hoverride hleads hfits =>
      rw [fieldOutcome_of_override hoverride,
        (Matching.resolve_eq_ok_iff target).2 ⟨_, _, hleads, rfl⟩]
      exact map_eq_error_iff.2 (overrideFeed_eq_error_iff.2 ⟨hfits, rfl⟩)
    | child hoverride hsource hdescent hplan =>
      simp [fieldOutcome_of_descent? hoverride hsource hdescent, hplan]

end Plan

end Recast
