import Mathlib.Data.List.Nodup
import Recast.Instance.Apply
import Recast.Proofs.Outcome

/-!
# One level of an application

What applying a plan does at one level, said once. An assignment is fed by the value of its feed
(`Feed.valueFor`), and a field of the target holds what its last assignment gives
(`lookup_of_assign`), or what it began with if it has none (`lookup_of_assign_of_ne`); a failure is
that of an assignment (`exists_of_apply_eq_error`). The walk over the assignments is not opened again.
-/

namespace Recast

variable {registry : Registry} {form : EnumForm}

/-- The value of a target field that is fed, of an object of the shape with the entries. -/
def Feed.valueFor (registry : Registry) (form : EnumForm) (shape : String)
    (entries : List (String × Json)) (field : Field) : Feed Plan → Except ApplyError Json
  | .value path conversion =>
    (followSteps shape entries path.steps).bind fun value? ↦
      value?.elim (.ok field.defaultValue) (convert registry form path conversion)
  | .child .object name plan =>
    (Json.present? entries name).elim (.error (.unexpectedNull shape name))
      (plan.apply registry form)
  | .child .optionalObject name plan =>
    (Json.present? entries name).elim (.ok .null) (plan.apply registry form)
  | .child .collection name plan =>
    match Json.present? entries name with
    | none => .ok .null
    | some (.arr items) => (plan.applyAll registry form items).map .arr
    | some other => .error (.notAnArray name other.type)

/-- Where nothing is read the field has its default. -/
theorem Feed.valueFor_value_of_none {shape : String} {entries : List (String × Json)}
    (field : Field) {path : Path} {conversion : Conversion}
    (h : followSteps shape entries path.steps = .ok none) :
    (Feed.value path conversion).valueFor registry form shape entries field =
      .ok field.defaultValue := by
  simp [valueFor, h]

/-- A value that is read is converted. -/
theorem Feed.valueFor_value_of_some {shape : String} {entries : List (String × Json)}
    (field : Field) {path : Path} {conversion : Conversion} {value : Json}
    (h : followSteps shape entries path.steps = .ok (some value)) :
    (Feed.value path conversion).valueFor registry form shape entries field =
      convert registry form path conversion value := by
  simp [valueFor, h]

theorem Feed.valueFor_optionalObject_of_none {shape : String} {entries : List (String × Json)}
    {field : Field} {name : String} {plan : Plan} (h : Json.present? entries name = none) :
    (Feed.child .optionalObject name plan).valueFor registry form shape entries field =
      .ok .null := by
  rw [valueFor, h, Option.elim_none]

/-- An object that is there is turned into one of the target shape. -/
theorem Feed.valueFor_child_of_some {shape : String} {entries : List (String × Json)}
    {field : Field} {link : Link} {name : String} {plan : Plan} {value : Json}
    (hlink : link ≠ .collection)
    (h : Json.present? entries name = some value) :
    (Feed.child link name plan).valueFor registry form shape entries field =
      plan.apply registry form value := by
  cases link with
  | object | optionalObject => rw [valueFor, h, Option.elim_some]
  | collection => exact absurd rfl hlink

theorem Feed.valueFor_collection_of_none {shape : String} {entries : List (String × Json)}
    {field : Field} {name : String} {plan : Plan} (h : Json.present? entries name = none) :
    (Feed.child .collection name plan).valueFor registry form shape entries field = .ok .null := by
  rw [valueFor, h]

theorem Feed.valueFor_collection_of_arr {shape : String} {entries : List (String × Json)}
    {field : Field} {name : String} {plan : Plan} {items : List Json}
    (h : Json.present? entries name = some (.arr items)) :
    (Feed.child .collection name plan).valueFor registry form shape entries field =
      (plan.applyAll registry form items).map .arr := by
  rw [valueFor, h]

/-- What a link to one object gives is made of the object, or it is null. -/
theorem Feed.valueFor_child_eq_ok {shape : String} {entries : List (String × Json)} {field : Field}
    {link : Link} {name : String} {plan : Plan} {value : Json} (hlink : link ≠ .collection)
    (h : (Feed.child link name plan).valueFor registry form shape entries field = .ok value) :
    (∃ source, Json.present? entries name = some source ∧
      plan.apply registry form source = .ok value) ∨ value = .null := by
  rcases hsource : Json.present? entries name with - | source
  · cases link with
    | object =>
      rw [valueFor, hsource, Option.elim_none] at h
      cases h
    | optionalObject =>
      rw [valueFor_optionalObject_of_none hsource, Except.ok.injEq] at h
      exact .inr h.symm
    | collection => exact absurd rfl hlink
  · rw [valueFor_child_of_some hlink hsource] at h
    exact .inl ⟨source, rfl, h⟩

/-- The items of a collection that is there are turned into objects, one by one. -/
theorem Feed.valueFor_collection_eq_ok {shape : String} {entries : List (String × Json)}
    {field : Field} {name : String} {plan : Plan} {source value : Json}
    (hsource : Json.present? entries name = some source)
    (h : (Feed.child .collection name plan).valueFor registry form shape entries field =
      .ok value) :
    ∃ items results, source = .arr items ∧ value = .arr results ∧
      List.Forall₂ (fun item result ↦ plan.apply registry form item = .ok result) items results := by
  rw [valueFor, hsource] at h
  cases source with
  | arr items =>
    obtain ⟨results, hresults, rfl⟩ := map_eq_ok_iff.1 h
    exact ⟨items, results, rfl, rfl, mapM_eq_ok_iff.1 hresults⟩
  | _ => cases h

namespace Plan

/-- One assignment and then the others. -/
theorem assign_cons {shape : String} {entries result : List (String × Json)} {fields : List Field}
    {assignment : Assignment Plan} {rest : List (Assignment Plan)} :
    assign registry form shape entries fields (assignment :: rest) result =
      (findField? fields assignment.target).elim
        (assign registry form shape entries fields rest result)
        fun field ↦ (assignment.feed.valueFor registry form shape entries field).bind fun value ↦
          assign registry form shape entries fields rest
            (insertEntry assignment.target value result) := by
  obtain ⟨target, origin, ⟨path, conversion⟩ | ⟨link, name, plan⟩⟩ := assignment
  · rw [assign]
    rcases findField? fields target with - | field
    · rfl
    · simp only [Feed.valueFor, Option.elim_some]
      rcases followSteps shape entries path.steps with error | - | value <;> rfl
  · rw [assign]
    rcases findField? fields target with - | field
    · rfl
    · rcases link <;> simp only [Feed.valueFor, Option.elim_some] <;>
        rcases Json.present? entries name with - | value <;> try rfl
      · cases value <;> rfl

/-- Two walks over the same assignments agree if the values of the assignments do. -/
theorem assign_congr {registry' : Registry} {form' : EnumForm} {shape shape' : String}
    {entries entries' : List (String × Json)} {fields : List Field}
    {assignments : List (Assignment Plan)} {result : List (String × Json)}
    (h : ∀ a ∈ assignments, ∀ field, findField? fields a.target = some field →
      a.feed.valueFor registry form shape entries field =
        a.feed.valueFor registry' form' shape' entries' field) :
    assign registry form shape entries fields assignments result =
      assign registry' form' shape' entries' fields assignments result := by
  induction assignments generalizing result with
  | nil => simp only [assign]
  | cons assignment rest ih =>
    have hrest : ∀ result, assign registry form shape entries fields rest result =
        assign registry' form' shape' entries' fields rest result :=
      fun result ↦ ih fun a ha ↦ h a (List.mem_cons_of_mem _ ha)
    rw [assign_cons, assign_cons]
    rcases hfield : findField? fields assignment.target with - | field
    · exact hrest result
    · simp only [Option.elim_some, h assignment List.mem_cons_self field hfield, hrest]

variable {shape : String} {entries : List (String × Json)} {fields : List Field}

/-- **What one step of a walk does** that comes to its end: the assignment is for no field and is left
out, or its value is put in. -/
theorem assign_cons_cases {assignment : Assignment Plan} {rest : List (Assignment Plan)}
    {result out : List (String × Json)}
    (h : assign registry form shape entries fields (assignment :: rest) result = .ok out) :
    (findField? fields assignment.target = none ∧
      assign registry form shape entries fields rest result = .ok out) ∨
    ∃ field value, findField? fields assignment.target = some field ∧
      assignment.feed.valueFor registry form shape entries field = .ok value ∧
      assign registry form shape entries fields rest
        (insertEntry assignment.target value result) = .ok out := by
  rw [assign_cons] at h
  rcases hfield : findField? fields assignment.target with - | field
  · rw [hfield, Option.elim_none] at h
    exact .inl ⟨rfl, h⟩
  · rw [hfield, Option.elim_some] at h
    obtain ⟨value, hvalue, h⟩ := bind_eq_ok_iff.1 h
    exact .inr ⟨field, value, rfl, hvalue, h⟩

/-- A field that no assignment is for stays as it is. -/
theorem lookup_of_assign_of_ne {assignments : List (Assignment Plan)}
    {result out : List (String × Json)} {key : String} (hne : ∀ a ∈ assignments, a.target ≠ key)
    (h : assign registry form shape entries fields assignments result = .ok out) :
    out.lookup key = result.lookup key := by
  induction assignments generalizing result with
  | nil =>
    rw [assign, Except.ok.injEq] at h
    rw [h]
  | cons assignment rest ih =>
    obtain ⟨hhead, hrest⟩ := List.forall_mem_cons.1 hne
    rcases assign_cons_cases h with ⟨-, h⟩ | ⟨field, value, -, -, h⟩
    · exact ih hrest h
    · simp [ih hrest h, Ne.symm hhead]

/-- **A field holds what the last assignment for it gives.** -/
theorem lookup_of_assign {before after : List (Assignment Plan)} {assignment : Assignment Plan}
    {result out : List (String × Json)} (hafter : ∀ a ∈ after, a.target ≠ assignment.target)
    {field : Field} (hfield : findField? fields assignment.target = some field)
    (h : assign registry form shape entries fields (before ++ assignment :: after) result =
      .ok out) :
    ∃ value, assignment.feed.valueFor registry form shape entries field = .ok value ∧
      out.lookup assignment.target = some value := by
  induction before generalizing result with
  | nil =>
    rw [List.nil_append] at h
    rcases assign_cons_cases h with ⟨hnone, -⟩ | ⟨field', value, hfield', hvalue, h⟩
    · cases hfield.symm.trans hnone
    · cases hfield.symm.trans hfield'
      exact ⟨value, hvalue, by simp [lookup_of_assign_of_ne hafter h]⟩
  | cons first rest ih =>
    rw [List.cons_append] at h
    obtain ⟨-, hrest⟩ | ⟨_, _, -, -, hrest⟩ := assign_cons_cases h
    · exact ih hrest
    · exact ih hrest

theorem exists_of_assign_eq_error {assignments : List (Assignment Plan)}
    {result : List (String × Json)} {error : ApplyError}
    (h : assign registry form shape entries fields assignments result = .error error) :
    ∃ a ∈ assignments, ∃ field, findField? fields a.target = some field ∧
      a.feed.valueFor registry form shape entries field = .error error := by
  induction assignments generalizing result with
  | nil => simp [assign] at h
  | cons assignment rest ih =>
    rw [assign_cons] at h
    rcases hfield : findField? fields assignment.target with - | field
    · rw [hfield, Option.elim_none] at h
      obtain ⟨a, ha, hrest⟩ := ih h
      exact ⟨a, List.mem_cons_of_mem _ ha, hrest⟩
    · rw [hfield, Option.elim_some] at h
      rcases bind_eq_error_iff.1 h with h | ⟨value, -, h⟩
      · exact ⟨assignment, List.mem_cons_self, field, hfield, h⟩
      · obtain ⟨a, ha, hrest⟩ := ih h
        exact ⟨a, List.mem_cons_of_mem _ ha, hrest⟩

/-! ### The whole plan -/

variable {plan : Plan}

theorem apply_obj (htarget : registry.fields plan.target = .ok fields) :
    plan.apply registry form (.obj entries) =
      (assign registry form plan.source entries fields plan.assignments (defaultEntries fields)).map
        .obj := by
  obtain ⟨source, target, depth, assignments⟩ := plan
  rw [apply]
  dsimp only at htarget ⊢
  simp only [htarget, ok_mapError, ok_bind]
  rcases assign registry form source entries fields assignments (defaultEntries fields) <;> rfl

/-- Without the target shape there is nothing to fill. -/
theorem apply_obj_of_unregistered {error : CatalogueError}
    (htarget : registry.fields plan.target = .error error) :
    plan.apply registry form (.obj entries) = .error (.catalogue error) := by
  obtain ⟨source, target, depth, assignments⟩ := plan
  rw [apply]
  dsimp only at htarget ⊢
  simp only [htarget, error_mapError, error_bind]

/-- **A failure on an object is the failure of an assignment.** -/
theorem exists_of_apply_eq_error (htarget : registry.fields plan.target = .ok fields)
    {error : ApplyError} (h : plan.apply registry form (.obj entries) = .error error) :
    ∃ a ∈ plan.assignments, ∃ field, findField? fields a.target = some field ∧
      a.feed.valueFor registry form plan.source entries field = .error error := by
  rw [apply_obj htarget, map_eq_error_iff] at h
  exact exists_of_assign_eq_error h

/-- A plan has a result on an object if every assignment has a value. -/
theorem exists_apply_of_valueFor (htarget : registry.fields plan.target = .ok fields)
    (h : ∀ a ∈ plan.assignments, ∀ field, findField? fields a.target = some field →
      ∃ value, a.feed.valueFor registry form plan.source entries field = .ok value) :
    ∃ result, plan.apply registry form (.obj entries) = .ok result := by
  rcases hresult : plan.apply registry form (.obj entries) with error | result
  · obtain ⟨a, ha, field, hfield, herror⟩ := exists_of_apply_eq_error htarget hresult
    obtain ⟨value, hvalue⟩ := h a ha field hfield
    cases hvalue.symm.trans herror
  · exact ⟨result, rfl⟩

/-- A plan is applied only to objects. -/
theorem apply_eq_error_of_notObject {value : Json} (h : ∀ entries, value ≠ .obj entries) :
    plan.apply registry form value = .error (.notAnObject plan.source value.type) := by
  obtain ⟨source, target, depth, assignments⟩ := plan
  rw [apply]
  exact h

/-- Whatever has a result is an object, and its target shape is registered. -/
theorem exists_fields_of_apply {source value : Json}
    (h : plan.apply registry form source = .ok value) :
    ∃ entries fields, source = .obj entries ∧ registry.fields plan.target = .ok fields := by
  by_cases hobject : ∃ entries, source = .obj entries
  · obtain ⟨entries, rfl⟩ := hobject
    rcases htarget : registry.fields plan.target with error | fields
    · cases (apply_obj_of_unregistered htarget).symm.trans h
    · exact ⟨entries, fields, rfl, rfl⟩
  · cases (apply_eq_error_of_notObject (not_exists.1 hobject)).symm.trans h

/-- The assignment is the last one of the plan for its target field. -/
def AssignsLast (plan : Plan) (assignment : Assignment Plan) : Prop :=
  ∃ before after, plan.assignments = before ++ assignment :: after ∧
    ∀ a ∈ after, a.target ≠ assignment.target

theorem AssignsLast.mem {assignment : Assignment Plan} (h : plan.AssignsLast assignment) :
    assignment ∈ plan.assignments := by
  obtain ⟨before, after, hassignments, -⟩ := h
  rw [hassignments]
  exact List.mem_append_right _ List.mem_cons_self

/-- Where no field is assigned twice, every assignment is the last one. -/
theorem assignsLast_of_nodup (hnodup : plan.targetFields.Nodup) {assignment : Assignment Plan}
    (h : assignment ∈ plan.assignments) : plan.AssignsLast assignment := by
  obtain ⟨before, after, hassignments⟩ := List.append_of_mem h
  refine ⟨before, after, hassignments, fun a ha heq ↦ ?_⟩
  rw [targetFields, hassignments, List.map_append, List.map_cons] at hnodup
  exact (List.nodup_cons.1 hnodup.of_append_right).1 (List.mem_map.2 ⟨a, ha, heq⟩)

/-- **What an assignment gives is found in the result** under its target, if no target is assigned
twice. -/
theorem exists_value_of_apply (htarget : registry.fields plan.target = .ok fields)
    (hfields : ∀ a ∈ plan.assignments, ∃ field, findField? fields a.target = some field)
    (hnodup : plan.targetFields.Nodup) {result : Json}
    (h : plan.apply registry form (.obj entries) = .ok result) :
    ∃ results, result = .obj results ∧ ∀ a ∈ plan.assignments, ∃ field value,
      findField? fields a.target = some field ∧
        a.feed.valueFor registry form plan.source entries field = .ok value ∧
        results.lookup a.target = some value := by
  rw [apply_obj htarget] at h
  obtain ⟨results, hassign, rfl⟩ := map_eq_ok_iff.1 h
  refine ⟨results, rfl, fun a ha ↦ ?_⟩
  obtain ⟨field, hfield⟩ := hfields a ha
  obtain ⟨before, after, hassignments, hafter⟩ := assignsLast_of_nodup hnodup ha
  obtain ⟨value, hvalue, hlookup⟩ := lookup_of_assign hafter hfield (hassignments ▸ hassign)
  exact ⟨field, value, hfield, hvalue, hlookup⟩

end Plan

end Recast
