import Recast.Proofs.Instance.Conforming

/-!
# The layout of a result

A result has the fields of the target shape, in the order of declaration and each of them once,
whatever the plan assigns: fields that do not exist, the same field several times, or objects of
other shapes than the field declares (`Plan.apply_laidOut`). The walk begins with the defaults of all
fields and only ever writes over a field that is there, so the keys never change
(`Plan.map_fst_of_assign`). What a field holds in the end is what its last assignment wrote
(`Plan.lookup_of_assign`), or its default if it has none (`Plan.lookup_of_assign_of_ne`).
-/

namespace Recast

section Layout

variable {registry : Registry} {form : EnumForm} {shape : String}
  {entries result out : List (String × Json)} {fields : List Field}
  {assignments : List (Assignment Plan)} {plan : Plan}

/-! ### Defaults -/

/-- A name that is listed is found. -/
theorem exists_findField?_of_mem {name : String} (h : name ∈ fields.map (·.name)) :
    ∃ field, findField? fields name = some field := by
  rw [← Option.isSome_iff_exists, findField?, List.find?_isSome]
  simpa using h

/-- A key that has a value is listed. -/
theorem mem_map_fst_of_lookup {key : String} {value : Json}
    (h : entries.lookup key = some value) : key ∈ entries.map (·.1) := by
  obtain ⟨before, after, rfl, -⟩ := List.lookup_eq_some_iff.1 h
  simp

/-- Where names are distinct, the defaults are listed in the order of the fields. -/
theorem defaultEntries_eq_map (hnodup : (fields.map (·.name)).Nodup) :
    defaultEntries fields = fields.map fun field ↦ (field.name, field.defaultValue) := by
  -- The entries so far have none of the names to come.
  suffices h : ∀ entries : List (String × Json),
      (∀ field ∈ fields, field.name ∉ entries.map (·.1)) →
      fields.foldl (fun entries field ↦ insertEntry field.name field.defaultValue entries) entries =
        entries ++ fields.map fun field ↦ (field.name, field.defaultValue) by
    exact h [] (by simp)
  intro entries hnew
  induction fields generalizing entries with
  | nil => simp
  | cons field rest ih =>
    rw [List.map_cons, List.nodup_cons] at hnodup
    obtain ⟨hhead, hrest⟩ := List.forall_mem_cons.1 hnew
    rw [List.foldl_cons, insertEntry_of_notMem hhead, ih hnodup.2, List.map_cons, List.append_assoc,
      List.singleton_append]
    intro other hother
    rw [List.map_append, List.mem_append, not_or, List.map_singleton, List.mem_singleton]
    refine ⟨hrest other hother, fun h ↦ hnodup.1 ?_⟩
    exact List.mem_map.2 ⟨other, hother, h⟩

/-! ### The walk over the assignments -/

namespace Plan

/-- **The walk keeps the keys and their order**, if it begins with all fields of the shape. -/
theorem map_fst_of_assign (hfields : ∀ field ∈ fields, field.name ∈ result.map (·.1))
    (h : assign registry form shape entries fields assignments result = .ok out) :
    out.map (·.1) = result.map (·.1) := by
  induction assignments generalizing result with
  | nil =>
    rw [assign, Except.ok.injEq] at h
    rw [h]
  | cons assignment rest ih =>
    rcases assign_cons_cases h with ⟨-, h⟩ | ⟨field, value, hfield, -, h⟩
    · exact ih hfields h
    · obtain ⟨hmem, hname⟩ := mem_of_findField? hfield
      have hkeys : (insertEntry assignment.target value result).map (·.1) = result.map (·.1) := by
        rw [keys_insertEntry, if_pos (hname ▸ hfields field hmem)]
      rw [ih (fun field hfield ↦ hkeys ▸ hfields field hfield) h, hkeys]

/-! ### One level of a result -/

/-- **One level of a result**: the fields of the target shape in their order, those without an
assignment with their defaults, the others with what their last assignment gives. -/
theorem exists_level_of_apply (hclosed : registry.Closed) {source value : Json}
    (h : plan.apply registry form source = .ok value) :
    ∃ entries fields results, source = .obj entries ∧
      registry.fields plan.target = .ok fields ∧ value = .obj results ∧
      results.map (·.1) = fields.map (·.name) ∧
      (∀ field ∈ fields, (∀ a ∈ plan.assignments, a.target ≠ field.name) →
        results.lookup field.name = some field.defaultValue) ∧
      ∀ a, plan.AssignsLast a → ∀ field, findField? fields a.target = some field →
        ∃ value, a.feed.valueFor registry form plan.source entries field = .ok value ∧
          results.lookup a.target = some value := by
  obtain ⟨entries, fields, rfl, hfields⟩ := exists_fields_of_apply h
  rw [apply_obj hfields] at h
  obtain ⟨results, hassign, rfl⟩ := map_eq_ok_iff.1 h
  have hnodup := hclosed.nodup hfields
  have hkeys : (defaultEntries fields).map (·.1) = fields.map (·.name) := by
    rw [defaultEntries_eq_map hnodup, List.map_map]
    rfl
  refine ⟨entries, fields, results, rfl, hfields, rfl, ?_, fun field hfield hne ↦ ?_,
    fun a ha field hfield ↦ ?_⟩
  · rw [map_fst_of_assign (fun field hfield ↦ ?_) hassign, hkeys]
    rw [hkeys]
    exact List.mem_map_of_mem hfield
  · have hfound : fields.find? (·.name = field.name) = some field :=
      (findField?_eq_some_iff hnodup).2 ⟨hfield, rfl⟩
    simp [lookup_of_assign_of_ne hne hassign, defaultEntries_eq_map hnodup, hfound]
  · obtain ⟨before, after, hassignments, hafter⟩ := ha
    exact lookup_of_assign hafter hfield (hassignments ▸ hassign)

/-! ### The layout at every level -/

/-- **The value has the layout of the target shape**: its fields in their order, each once, with the
default where nothing is assigned. An object that was made of a source has the layout of its plan in
its turn, and a collection has one result for each item of its source. -/
inductive LaidOut (registry : Registry) (form : EnumForm) : Plan → Json → Json → Prop
  | obj {plan : Plan} {fields : List Field} {entries results : List (String × Json)}
      (hfields : registry.fields plan.target = .ok fields)
      (hkeys : results.map (·.1) = fields.map (·.name)) (hnodup : (results.map (·.1)).Nodup)
      (hdefault : ∀ field ∈ fields, (∀ a ∈ plan.assignments, a.target ≠ field.name) →
        results.lookup field.name = some field.defaultValue)
      (hobject : ∀ a, plan.AssignsLast a → ∀ link name child, a.feed = .child link name child →
        link ≠ .collection → ∀ source, Json.present? entries name = some source →
        ∀ result, results.lookup a.target = some result → LaidOut registry form child source result)
      (hcollection : ∀ a, plan.AssignsLast a → ∀ name child,
        a.feed = .child .collection name child →
        ∀ source, Json.present? entries name = some source →
        ∀ result, results.lookup a.target = some result →
          ∃ items parts, source = .arr items ∧ result = .arr parts ∧
            List.Forall₂ (fun item part ↦ child.apply registry form item = .ok part) items parts) :
      LaidOut registry form plan (.obj entries) (.obj results)

/-- **Every result has the layout of the target shape**, whatever plan it was made by: the induction
is on the plan, and the walk at one level does not depend on what the assignments are. -/
theorem apply_laidOut {catalogue : Catalogue} (hregister : catalogue.register = .ok registry)
    {source value : Json} (h : plan.apply registry form source = .ok value) :
    plan.LaidOut registry form source value := by
  have hclosed := Registry.closed_of_register hregister
  induction plan using Plan.induction generalizing source value with
  | step plan ih =>
    obtain ⟨entries, fields, results, rfl, hfields, rfl, hkeys, hdefault, hlast⟩ :=
      exists_level_of_apply hclosed h
    -- What stands in the result under the target of a last assignment is what that one gives.
    have hgiven : ∀ a, plan.AssignsLast a → ∀ result, results.lookup a.target = some result →
        ∃ field, a.feed.valueFor registry form plan.source entries field = .ok result := by
      intro a ha result hresult
      obtain ⟨field, hfield⟩ : ∃ field, findField? fields a.target = some field := by
        refine exists_findField?_of_mem (hkeys ▸ ?_)
        exact mem_map_fst_of_lookup hresult
      obtain ⟨value, hvalue, hlookup⟩ := hlast a ha field hfield
      cases hlookup.symm.trans hresult
      exact ⟨field, hvalue⟩
    refine .obj hfields hkeys (hkeys ▸ hclosed.nodup hfields) hdefault ?_ ?_
    · intro a ha link name child hfeed hlink source hsource result hresult
      obtain ⟨field, hvalue⟩ := hgiven a ha result hresult
      rw [hfeed, Feed.valueFor_child_of_some hlink hsource] at hvalue
      exact ih a ha.mem child (by rw [hfeed]; rfl) hvalue
    · intro a ha name child hfeed source hsource result hresult
      obtain ⟨field, hvalue⟩ := hgiven a ha result hresult
      rw [hfeed] at hvalue
      exact Feed.valueFor_collection_eq_ok hsource hvalue

end Plan

end Layout

namespace Blog

/-- A plan that the construction would not make: it writes to a field that views do not have, twice
to the note, and gives a number and a text what they do not hold. -/
def strayPlan : Plan := ⟨"Post", "PostView", 1, [
  ⟨"Note", .structural, .value (.single "Status" false) .copy⟩,
  ⟨"Colour", .structural, .value (.single "Id" false) .copy⟩,
  ⟨"Note", .structural, .child .collection "Tags" tagPlan⟩,
  ⟨"Id", .structural, .child .object "Site" sitePlan⟩]⟩

/-- What the stray plan makes of a post is laid out as a view. -/
theorem strayPlan_laidOut :
    strayPlan.LaidOut registry .integer (post (.int 1)) (.obj [
      ("Id", .obj [("Url", .str "blog.example")]),
      ("State", .int 0),
      ("AuthorName", .str ""),
      ("Site", .null),
      ("Tags", .arr []),
      ("Parent", .null),
      ("Note", .arr [.obj [("Rank", .int 1), ("Label", .str "")]])]) :=
  Plan.apply_laidOut register_eq (by with_unfolding_all rfl)

end Blog

end Recast
