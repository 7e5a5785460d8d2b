import Recast.Proofs.Instance.Conforming

/-!
# What a plan does not name does not matter

A plan reads its source along the paths that it names and nowhere else. Two objects are the *same for
a plan* (`Plan.SameFor`) if every assignment finds the same in both: its path comes to the same end,
and what the plans below are applied to is the same for them. Then the plan makes the same of both,
or fails with the same error, whatever it is and whatever is registered.

Keys that the plan does not name may be added, removed, changed or moved, at any level and inside the
items of collections. This is said by `Json.SameWhere`: the two values are compared only at the
trails that the plan names (`Plan.Names`), and as a whole where it takes a value as it is
(`Plan.Takes`). One object may be read by a plan below and by the paths of overrides as well, so the
trails are those of the whole plan, and values that are the same there are the same for each of its
parts (`Json.SameWhere.partSame`).
-/

namespace Recast

section Unread

/-! ### The same along a path -/

/-- Along the steps the two objects come to the same end: null or nothing at the same step, the same
value at the last one, or values of the same type before it that are no objects. -/
inductive SameAlong : List Step → List (String × Json) → List (String × Json) → Prop
  | nil {entries entries' : List (String × Json)} : SameAlong [] entries entries'
  | missing {step : Step} {rest : List Step} {entries entries' : List (String × Json)}
      (hnone : Json.present? entries step.field = none)
      (hnone' : Json.present? entries' step.field = none) :
      SameAlong (step :: rest) entries entries'
  | last {step : Step} {entries entries' : List (String × Json)} {value : Json}
      (hsome : Json.present? entries step.field = some value)
      (hsome' : Json.present? entries' step.field = some value) :
      SameAlong [step] entries entries'
  | through {step : Step} {rest : List Step} {entries entries' inner inner' : List (String × Json)}
      (hsome : Json.present? entries step.field = some (.obj inner))
      (hsome' : Json.present? entries' step.field = some (.obj inner'))
      (hne : rest ≠ []) (hrest : SameAlong rest inner inner') :
      SameAlong (step :: rest) entries entries'
  | blocked {step : Step} {rest : List Step} {entries entries' : List (String × Json)}
      {value value' : Json} (hsome : Json.present? entries step.field = some value)
      (hsome' : Json.present? entries' step.field = some value') (hne : rest ≠ [])
      (hvalue : value.type ≠ .object) (htype : value.type = value'.type) :
      SameAlong (step :: rest) entries entries'

/-! ### The same for a plan -/

mutual

/-- **The two objects are the same for the plan**: each assignment finds the same in both. -/
inductive Plan.SameFor : Plan → Json → Json → Prop
  | obj {plan : Plan} {entries entries' : List (String × Json)}
      (hfeeds : ∀ a ∈ plan.assignments, Feed.SameFor a.feed entries entries') :
      Plan.SameFor plan (.obj entries) (.obj entries')

/-- What feeds a field finds the same in both objects. -/
inductive Feed.SameFor : Feed Plan → List (String × Json) → List (String × Json) → Prop
  | value {path : Path} {conversion : Conversion} {entries entries' : List (String × Json)}
      (hsteps : SameAlong path.steps entries entries') :
      Feed.SameFor (.value path conversion) entries entries'
  | missing {link : Link} {name : String} {plan : Plan} {entries entries' : List (String × Json)}
      (hnone : Json.present? entries name = none) (hnone' : Json.present? entries' name = none) :
      Feed.SameFor (.child link name plan) entries entries'
  | object {link : Link} {name : String} {plan : Plan} {entries entries' : List (String × Json)}
      {value value' : Json} (hlink : link ≠ .collection)
      (hsome : Json.present? entries name = some value)
      (hsome' : Json.present? entries' name = some value')
      (hpart : Plan.PartSame plan value value') :
      Feed.SameFor (.child link name plan) entries entries'
  | items {name : String} {plan : Plan} {entries entries' : List (String × Json)}
      {items items' : List Json} (hsome : Json.present? entries name = some (.arr items))
      (hsome' : Json.present? entries' name = some (.arr items'))
      (hitems : Plan.ItemsSame plan items items') :
      Feed.SameFor (.child .collection name plan) entries entries'
  | notArray {name : String} {plan : Plan} {entries entries' : List (String × Json)}
      {value value' : Json} (hsome : Json.present? entries name = some value)
      (hsome' : Json.present? entries' name = some value') (hvalue : value.type ≠ .array)
      (htype : value.type = value'.type) :
      Feed.SameFor (.child .collection name plan) entries entries'

/-- The two values are the same for a plan below: objects that are, or no objects, and of one
type. -/
inductive Plan.PartSame : Plan → Json → Json → Prop
  | object {plan : Plan} {value value' : Json} (hobject : Plan.SameFor plan value value') :
      Plan.PartSame plan value value'
  | other {plan : Plan} {value value' : Json} (hvalue : value.type ≠ .object)
      (htype : value.type = value'.type) : Plan.PartSame plan value value'

/-- There are as many items on both sides, and one by one they are the same for the plan. -/
inductive Plan.ItemsSame : Plan → List Json → List Json → Prop
  | nil {plan : Plan} : Plan.ItemsSame plan [] []
  | cons {plan : Plan} {item item' : Json} {items items' : List Json}
      (hitem : Plan.PartSame plan item item') (hrest : Plan.ItemsSame plan items items') :
      Plan.ItemsSame plan (item :: items) (item' :: items')

end

variable {registry : Registry} {form : EnumForm} {entries entries' : List (String × Json)}

/-- No step leads on from a value that is no object. -/
theorem followSteps_of_blocked {step : Step} {rest : List Step} {value : Json}
    (hsome : Json.present? entries step.field = some value) (hne : rest ≠ [])
    (hvalue : value.type ≠ .object) (shape : String) :
    followSteps shape entries (step :: rest) =
      .error (.notAnObject (shape ++ "." ++ step.field) value.type) := by
  rw [followSteps, hsome]
  · cases value <;> first | rfl | exact absurd rfl hvalue
  · exact hne

theorem Feed.valueFor_collection_of_notArray {name : String} {plan : Plan} {value : Json}
    (hsome : Json.present? entries name = some value) (hvalue : value.type ≠ .array)
    (shape : String) (field : Field) :
    (Feed.child .collection name plan).valueFor registry form shape entries field =
      .error (.notAnArray name value.type) := by
  rw [valueFor, hsome]
  cases value <;> first | rfl | exact absurd rfl hvalue

/-- **A path reads the same, or fails the same, where it finds the same.** -/
theorem SameAlong.followSteps_eq {steps : List Step} (h : SameAlong steps entries entries')
    (shape : String) : followSteps shape entries steps = followSteps shape entries' steps := by
  induction h with
  | nil => rfl
  | @missing step rest _ _ hnone hnone' =>
    cases rest <;> simp [followSteps, hnone, hnone']
  | last hsome hsome' => rw [followSteps, followSteps, hsome, hsome']
  | @through step rest _ _ inner inner' hsome hsome' hne _ ih =>
    rw [followSteps, followSteps, hsome, hsome']
    · exact ih
    · exact hne
    · exact hne
  | blocked hsome hsome' hne hvalue htype =>
    rw [followSteps_of_blocked hsome hne hvalue,
      followSteps_of_blocked hsome' hne (htype ▸ hvalue), htype]

theorem Plan.ItemsSame.forall₂ {plan : Plan} {items items' : List Json}
    (h : plan.ItemsSame items items') : List.Forall₂ plan.PartSame items items' := by
  induction items generalizing items' with
  | nil =>
    cases h
    exact .nil
  | cons item items ih =>
    obtain - | ⟨hitem, hrest⟩ := h
    exact .cons hitem (ih hrest)

theorem Plan.itemsSame_of_forall₂ {plan : Plan} {items items' : List Json}
    (h : List.Forall₂ plan.PartSame items items') : plan.ItemsSame items items' := by
  induction h with
  | nil => exact .nil
  | cons hitem _ ih => exact .cons hitem ih

/-- A feed gives the same in both objects, if the plans below make the same of what is the same for
them. -/
theorem Feed.SameFor.valueFor_eq {feed : Feed Plan} (h : feed.SameFor entries entries')
    (hbelow : ∀ child, feed.child? = some child → ∀ value value', child.PartSame value value' →
      child.apply registry form value = child.apply registry form value')
    (shape : String) (field : Field) :
    feed.valueFor registry form shape entries field =
      feed.valueFor registry form shape entries' field := by
  cases h with
  | value hsteps => rw [valueFor, valueFor, hsteps.followSteps_eq]
  | @missing link name plan _ _ hnone hnone' =>
    cases link <;> simp only [valueFor, hnone, hnone']
  | object hlink hsome hsome' hpart =>
    rw [valueFor_child_of_some hlink hsome, valueFor_child_of_some hlink hsome']
    exact hbelow _ rfl _ _ hpart
  | @items name plan _ _ items items' hsome hsome' hitems =>
    have hall : plan.applyAll registry form items = plan.applyAll registry form items' :=
      mapM_eq_of_forall₂ (hitems.forall₂.imp fun _ _ hpart ↦ hbelow plan rfl _ _ hpart)
    rw [valueFor_collection_of_arr hsome, valueFor_collection_of_arr hsome', hall]
  | notArray hsome hsome' hvalue htype =>
    rw [valueFor_collection_of_notArray hsome hvalue,
      valueFor_collection_of_notArray hsome' (htype ▸ hvalue), htype]

/-- **A plan makes the same of values that are the same for it.** The induction is on the plan. -/
theorem Plan.PartSame.apply_eq {plan : Plan} {value value' : Json} (h : plan.PartSame value value') :
    plan.apply registry form value = plan.apply registry form value' := by
  induction plan using Plan.induction generalizing value value' with
  | step plan ih =>
    rcases h with hobject | ⟨hvalue, htype⟩
    · obtain ⟨hfeeds⟩ := hobject
      rcases htarget : registry.fields plan.target with error | fields
      · rw [apply_obj_of_unregistered htarget, apply_obj_of_unregistered htarget]
      · rw [apply_obj htarget, apply_obj htarget]
        congr 1
        refine assign_congr fun a ha field _ ↦ ?_
        exact (hfeeds a ha).valueFor_eq (fun child hchild _ _ ↦ ih a ha child hchild) _ field
    · have hvalue' : value'.type ≠ .object := htype ▸ hvalue
      rw [apply_eq_error_of_notObject, apply_eq_error_of_notObject, htype]
      · rintro entries rfl
        exact hvalue' rfl
      · rintro entries rfl
        exact hvalue rfl

/-! ### The trails of a plan

A trail is the list of the names on the way from the source object down. A list is passed through: its
items are at the trail of the list. -/

/-- The plan names what is at the trail: a path of it leads there or on from there, or a plan below
is applied to it or names it. -/
inductive Plan.Names : Plan → List String → Prop
  | value {plan : Plan} {a : Assignment Plan} {path : Path} {conversion : Conversion}
      {trail : List String} (ha : a ∈ plan.assignments) (hfeed : a.feed = .value path conversion)
      (htrail : trail <+: path.steps.map (·.field)) : Names plan trail
  | child {plan child : Plan} {a : Assignment Plan} {link : Link} {name : String}
      (ha : a ∈ plan.assignments) (hfeed : a.feed = .child link name child) : Names plan [name]
  | inside {plan child : Plan} {a : Assignment Plan} {link : Link} {name : String}
      {trail : List String} (ha : a ∈ plan.assignments) (hfeed : a.feed = .child link name child)
      (hinside : Names child trail) : Names plan (name :: trail)

/-- The plan takes what is at the trail as it is: a path ends there. -/
inductive Plan.Takes : Plan → List String → Prop
  | value {plan : Plan} {a : Assignment Plan} {path : Path} {conversion : Conversion}
      (ha : a ∈ plan.assignments) (hfeed : a.feed = .value path conversion)
      (hne : path.steps ≠ []) : Takes plan (path.steps.map (·.field))
  | inside {plan child : Plan} {a : Assignment Plan} {link : Link} {name : String}
      {trail : List String} (ha : a ∈ plan.assignments) (hfeed : a.feed = .child link name child)
      (hinside : Takes child trail) : Takes plan (name :: trail)

theorem Plan.not_takes_nil (plan : Plan) : ¬ plan.Takes [] := by
  intro h
  generalize htrail : [] = trail at h
  cases h with
  | value _ _ hne => exact hne (List.map_eq_nil_iff.1 htrail.symm)
  | inside => cases htrail

/-- **The two values differ at most in keys that are not named.** Objects are compared key by key,
null being nothing, and so neither the order of the keys nor what stands under the others counts.
What is taken as it is has to be equal. -/
inductive Json.SameWhere : (List String → Prop) → (List String → Prop) → Json → Json → Prop
  | refl {named taken : List String → Prop} {value : Json} : SameWhere named taken value value
  | obj {named taken : List String → Prop} {entries entries' : List (String × Json)}
      (htaken : ¬ taken [])
      (hmissing : ∀ key, named [key] →
        (Json.present? entries key = none ↔ Json.present? entries' key = none))
      (hpresent : ∀ key, named [key] → ∀ value value', Json.present? entries key = some value →
        Json.present? entries' key = some value' →
        SameWhere (fun trail ↦ named (key :: trail)) (fun trail ↦ taken (key :: trail)) value
          value') :
      SameWhere named taken (.obj entries) (.obj entries')
  | arr {named taken : List String → Prop} {items items' : List Json} (htaken : ¬ taken [])
      (hlength : items.length = items'.length)
      (hitems : ∀ pair ∈ items.zip items', SameWhere named taken pair.1 pair.2) :
      SameWhere named taken (.arr items) (.arr items')

theorem Json.exists_entries_of_type {value : Json} (h : value.type = .object) :
    ∃ entries, value = .obj entries := by
  cases value with
  | obj entries => exact ⟨entries, rfl⟩
  | _ => cases h

theorem Json.exists_items_of_type {value : Json} (h : value.type = .array) :
    ∃ items, value = .arr items := by
  cases value with
  | arr items => exact ⟨items, rfl⟩
  | _ => cases h

namespace Json.SameWhere

variable {named taken : List String → Prop} {value value' : Json}

theorem type_eq (h : value.SameWhere named taken value') : value.type = value'.type := by
  cases h <;> rfl

/-- What is taken as it is is equal. -/
theorem eq_of_taken (h : value.SameWhere named taken value') (htaken : taken []) :
    value = value' := by
  cases h with
  | refl => rfl
  | obj hnot => exact absurd htaken hnot
  | arr hnot => exact absurd htaken hnot

/-- Under a named key there is nothing in both objects, or there are values that are the same in
their turn. -/
theorem under_key (h : (Json.obj entries).SameWhere named taken (.obj entries')) {key : String}
    (hkey : named [key]) :
    (Json.present? entries key = none ∧ Json.present? entries' key = none) ∨
      ∃ part part', Json.present? entries key = some part ∧
        Json.present? entries' key = some part' ∧
        part.SameWhere (fun trail ↦ named (key :: trail)) (fun trail ↦ taken (key :: trail))
          part' := by
  cases h with
  | refl =>
    rcases hpart : Json.present? entries key with - | part
    · exact .inl ⟨rfl, rfl⟩
    · exact .inr ⟨part, part, rfl, rfl, .refl⟩
  | obj _ hmissing hpresent =>
    rcases hpart : Json.present? entries key with - | part
    · exact .inl ⟨rfl, (hmissing key hkey).1 hpart⟩
    · rcases hpart' : Json.present? entries' key with - | part'
      · cases hpart.symm.trans ((hmissing key hkey).2 hpart')
      · exact .inr ⟨part, part', rfl, rfl, hpresent key hkey part part' hpart hpart'⟩

/-- The items of lists are the same, one by one. -/
theorem forall₂_items {items items' : List Json}
    (h : (Json.arr items).SameWhere named taken (.arr items')) :
    List.Forall₂ (SameWhere named taken) items items' := by
  cases h with
  | refl => exact List.forall₂_same.2 fun _ _ ↦ .refl
  | arr _ hlength hitems =>
    exact List.forall₂_iff_zip.2 ⟨hlength, fun hpair ↦ hitems _ hpair⟩

/-- **A path that is named, and whose end is taken, comes to the same end in both objects.** -/
theorem sameAlong {steps : List Step} (h : (Json.obj entries).SameWhere named taken (.obj entries'))
    (hnamed : ∀ trail, trail <+: steps.map (·.field) → named trail)
    (htaken : steps ≠ [] → taken (steps.map (·.field))) : SameAlong steps entries entries' := by
  induction steps generalizing entries entries' named taken with
  | nil => exact .nil
  | cons step rest ih =>
    have hstep : named [step.field] := hnamed _ ⟨rest.map (·.field), rfl⟩
    rcases h.under_key hstep with ⟨hnone, hnone'⟩ | ⟨part, part', hsome, hsome', hpart⟩
    · exact .missing hnone hnone'
    rcases eq_or_ne rest [] with rfl | hne
    · cases hpart.eq_of_taken (htaken (by simp))
      exact .last hsome hsome'
    by_cases hobject : part.type = .object
    · obtain ⟨inner, rfl⟩ := exists_entries_of_type hobject
      obtain ⟨inner', rfl⟩ := exists_entries_of_type (hpart.type_eq ▸ hobject)
      refine .through hsome hsome' hne (ih hpart (fun trail htrail ↦ ?_) fun _ ↦ ?_)
      · exact hnamed _ (List.cons_prefix_cons.2 ⟨rfl, htrail⟩)
      · exact htaken (by simp)
    · exact .blocked hsome hsome' hne hobject hpart.type_eq

/-- **Values that differ at most in keys that the plan does not name are the same for it.** The
trails may be those of a larger plan. -/
theorem partSame {plan : Plan} (h : value.SameWhere named taken value')
    (hnamed : ∀ trail, plan.Names trail → named trail)
    (htaken : ∀ trail, plan.Takes trail → taken trail) : plan.PartSame value value' := by
  induction plan using Plan.induction generalizing value value' named taken with
  | step plan ih =>
    by_cases hobject : value.type = .object
    swap
    · exact .other hobject h.type_eq
    obtain ⟨entries, rfl⟩ := exists_entries_of_type hobject
    obtain ⟨entries', rfl⟩ := exists_entries_of_type (h.type_eq ▸ hobject)
    refine .object (.obj fun a ha ↦ ?_)
    rcases hfeed : a.feed with ⟨path, conversion⟩ | ⟨link, name, child⟩
    · exact .value (h.sameAlong (fun trail htrail ↦ hnamed trail (.value ha hfeed htrail))
        fun hne ↦ htaken _ (.value ha hfeed hne))
    rcases h.under_key (hnamed _ (.child ha hfeed)) with
      ⟨hnone, hnone'⟩ | ⟨part, part', hsome, hsome', hpart⟩
    · exact .missing hnone hnone'
    -- What the plan below names and takes lies below the name of its source.
    have hbelow : ∀ {item item'}, item.SameWhere (fun trail ↦ named (name :: trail))
        (fun trail ↦ taken (name :: trail)) item' → child.PartSame item item' := fun hitem ↦
      ih a ha child (by rw [hfeed]; rfl) hitem
        (fun trail htrail ↦ hnamed _ (.inside ha hfeed htrail))
        fun trail htrail ↦ htaken _ (.inside ha hfeed htrail)
    rcases eq_or_ne link .collection with rfl | hlink
    · by_cases harray : part.type = .array
      · obtain ⟨items, rfl⟩ := exists_items_of_type harray
        obtain ⟨items', rfl⟩ := exists_items_of_type (hpart.type_eq ▸ harray)
        exact .items hsome hsome'
          (Plan.itemsSame_of_forall₂ (hpart.forall₂_items.imp fun _ _ ↦ hbelow))
      · exact .notArray hsome hsome' harray hpart.type_eq
    · exact .object hlink hsome hsome' (hbelow hpart)

end Json.SameWhere

/-- **A plan reads nothing but what it names.** Of two sources that are the same for it, it makes the
same result, or it fails on both with the same error; and so it does if they differ at most in keys
that it does not name, at any level. -/
theorem Plan.reads_named (registry : Registry) (form : EnumForm) (plan : Plan)
    {source source' : Json} :
    (plan.SameFor source source' →
      plan.apply registry form source = plan.apply registry form source') ∧
    (source.SameWhere plan.Names plan.Takes source' →
      plan.apply registry form source = plan.apply registry form source') :=
  ⟨fun h ↦ (PartSame.object h).apply_eq,
    fun h ↦ (h.partSame (fun _ ↦ id) fun _ ↦ id).apply_eq⟩

end Unread

namespace Blog

/-- A plan that shows the tags of a post and nothing else. -/
def tagsPlan : Plan :=
  ⟨"Post", "PostView", 1, [⟨"Tags", .structural, .child .collection "Tags" tagPlan⟩]⟩

/-- Something with the tag of a post, whose other keys are not those of a post. -/
def tagged : Json := .obj [
  ("Draft", .bool true),
  ("Tags", .arr [.obj [("Rank", .int 1), ("Colour", .str "red")]]),
  ("Status", .str "Gone")]

/-- The plan for tags shows a post as it shows anything with the same tag. -/
theorem tagged_shown :
    tagsPlan.SameFor (post (.int 0)) tagged ∧
    (post (.int 0)).SameWhere tagsPlan.Names tagsPlan.Takes tagged ∧
    tagsPlan.apply registry .integer (post (.int 0)) = tagsPlan.apply registry .integer tagged ∧
    tagsPlan.apply registry .name (post (.int 0)) = tagsPlan.apply registry .name tagged := by
  have hsame : tagsPlan.SameFor (post (.int 0)) tagged := by
    refine .obj (List.forall_mem_singleton.2 (.items rfl rfl (.cons (.object (.obj ?_)) .nil)))
    refine List.forall_mem_cons.2 ⟨.value (.last rfl rfl), List.forall_mem_singleton.2 ?_⟩
    exact .value (.missing rfl rfl)
  have hwhere : (post (.int 0)).SameWhere tagsPlan.Names tagsPlan.Takes tagged := by
    have hkeys : ∀ key, tagsPlan.Names [key] → key = "Tags" := by
      rintro key (⟨ha, hfeed, -⟩ | ⟨ha, hfeed⟩ | ⟨ha, hfeed, -⟩) <;>
        cases List.mem_singleton.1 ha <;> cases hfeed <;> rfl
    have hitemKeys : ∀ key, tagPlan.Names [key] → key = "Rank" ∨ key = "Label" := by
      rintro key (⟨ha, hfeed, htrail⟩ | ⟨ha, hfeed⟩ | ⟨ha, hfeed, -⟩) <;>
        rcases List.mem_pair.1 ha with rfl | rfl <;> cases hfeed
      · exact .inl (by simpa using htrail)
      · exact .inr (by simpa using htrail)
    have hbelow : ∀ key, tagsPlan.Names ["Tags", key] → tagPlan.Names [key] := by
      rintro key (⟨ha, hfeed, -⟩ | - | ⟨ha, hfeed, hinside⟩) <;>
        cases List.mem_singleton.1 ha <;> cases hfeed
      exact hinside
    have htaken : ¬ tagsPlan.Takes ["Tags"] := fun h ↦ by
      generalize htrail : ["Tags"] = trail at h
      obtain ⟨ha, hfeed, -⟩ | ⟨ha, hfeed, hinside⟩ := h <;>
        cases List.mem_singleton.1 ha <;> cases hfeed
      cases htrail
      exact tagPlan.not_takes_nil hinside
    refine .obj tagsPlan.not_takes_nil (fun key hkey ↦ ?_) fun key hkey _ _ hpart hpart' ↦ ?_
    · cases hkeys key hkey
      constructor <;> rintro ⟨⟩
    cases hkeys key hkey
    cases hpart
    cases hpart'
    refine .arr htaken rfl (List.forall_mem_singleton.2 ?_)
    refine .obj htaken (fun key hkey ↦ ?_) fun key hkey _ _ hpart hpart' ↦ ?_
    · rcases hitemKeys key (hbelow key hkey) with rfl | rfl
      · constructor <;> rintro ⟨⟩
      · exact ⟨fun _ ↦ rfl, fun _ ↦ rfl⟩
    · rcases hitemKeys key (hbelow key hkey) with rfl | rfl
      · cases hpart
        cases hpart'
        exact .refl
      · cases hpart
  exact ⟨hsame, hwhere, (Plan.reads_named registry .integer tagsPlan).1 hsame,
    (Plan.reads_named registry .name tagsPlan).2 hwhere⟩

end Blog

end Recast
