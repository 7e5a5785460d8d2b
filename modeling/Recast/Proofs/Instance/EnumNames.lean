import Recast.Proofs.Instance.Layout
import Recast.Proofs.Shape.Lookup

/-!
# Names and integers of enums are the same data

A plan can write enum values as integers or by name. The two results are the same data: wherever the
plan converts an enum value that is there, the integer is what the name stands for in the target
enum, or there is no name for it and both results hold the integer; everywhere else the results are
equal (`Plan.SameData`). And the plan has a result in one form exactly if it has one in the other,
failing with the same error otherwise (`Plan.enum_forms_agree`).

An integer is written as the first member that has it, and members may share one. A name stands for
one integer only, because the names of an enum are distinct (`EnumType.valueOf?_of_nameOf?`). The
lookup of the target enum, which only the form by name makes, does not fail, because that enum is the
kind of a registered field.
-/

namespace Recast

section EnumNames

/-! ### The members of an enum -/

/-- **The name that an integer is written as stands for that integer**, where names are distinct. -/
theorem EnumType.valueOf?_of_nameOf? {type : EnumType} (hnodup : (type.members.map (·.name)).Nodup)
    {integer : Int} {name : String} (h : type.nameOf? integer = some name) :
    type.valueOf? name = some integer := by
  obtain ⟨member, hmember, rfl⟩ := Option.map_eq_some_iff.1 h
  have hmem : member ∈ type.members := List.mem_of_find?_eq_some hmember
  have hvalue : member.value = integer := by simpa using List.find?_some hmember
  rw [valueOf?, (find?_key_eq_some_iff hnodup).2 ⟨hmem, rfl⟩, Option.map_some, hvalue]

/-- No registered enum has two members of one name. -/
def Registry.NamesMembersOnce (registry : Registry) : Prop :=
  ∀ name type, registry.enumType name = .ok type → (type.members.map (·.name)).Nodup

theorem Registry.namesMembersOnce_of_register {catalogue : Catalogue} {registry : Registry}
    (hregister : catalogue.register = .ok registry) : registry.NamesMembersOnce := by
  obtain ⟨hwf, -⟩ := register_eq_ok_iff.1 hregister
  intro name type htype
  exact (hwf.enums type (mem_enums_of_register hregister htype)).member_nodup

/-! ### When two results are the same data -/

mutual

/-- **The second object has integers for the names in the first**, both being made by the plan of one
source. They have the same keys, and what is not assigned is equal. -/
inductive Plan.SameData (registry : Registry) : Plan → Json → Json → Json → Prop
  | obj {plan : Plan} {entries named valued : List (String × Json)}
      (hkeys : named.map (·.1) = valued.map (·.1))
      (hrest : ∀ key value, (∀ a ∈ plan.assignments, a.target ≠ key) →
        named.lookup key = some value → valued.lookup key = some value)
      (hfeeds : ∀ a ∈ plan.assignments, ∀ name value, named.lookup a.target = some name →
        valued.lookup a.target = some value →
        Feed.SameData registry plan.source entries a.feed name value) :
      Plan.SameData registry plan (.obj entries) (.obj named) (.obj valued)

/-- The same of the two values that a feed gives. They differ only where it converts an enum value
that is there, and has a name for it. -/
inductive Feed.SameData (registry : Registry) : String → List (String × Json) → Feed Plan → Json →
    Json → Prop
  | copied {shape : String} {entries : List (String × Json)} {path : Path} {value : Json} :
      Feed.SameData registry shape entries (.value path .copy) value value
  | unread {shape : String} {entries : List (String × Json)} {path : Path}
      {conversion : Conversion} {value : Json}
      (hread : followSteps shape entries path.steps = .ok none) :
      Feed.SameData registry shape entries (.value path conversion) value value
  | name {shape : String} {entries : List (String × Json)} {path : Path} {source : Option String}
      {target : String} {read : Json} {type : EnumType} {text : String} {integer : Int}
      (hread : followSteps shape entries path.steps = .ok (some read))
      (htype : registry.enumType target = .ok type) (hvalue : type.valueOf? text = some integer) :
      Feed.SameData registry shape entries (.value path (.enumeration source target)) (.str text)
        (.int integer)
  | nameless {shape : String} {entries : List (String × Json)} {path : Path}
      {source : Option String} {target : String} {read : Json} {type : EnumType} {integer : Int}
      (hread : followSteps shape entries path.steps = .ok (some read))
      (htype : registry.enumType target = .ok type) (hnone : type.nameOf? integer = none) :
      Feed.SameData registry shape entries (.value path (.enumeration source target))
        (.int integer) (.int integer)
  | missing {shape : String} {entries : List (String × Json)} {link : Link} {name : String}
      {plan : Plan} (hnone : Json.present? entries name = none) :
      Feed.SameData registry shape entries (.child link name plan) .null .null
  | object {shape : String} {entries : List (String × Json)} {link : Link} {name : String}
      {plan : Plan} {source named valued : Json} (hlink : link ≠ .collection)
      (hsome : Json.present? entries name = some source)
      (hobject : Plan.SameData registry plan source named valued) :
      Feed.SameData registry shape entries (.child link name plan) named valued
  | items {shape : String} {entries : List (String × Json)} {name : String} {plan : Plan}
      {items named valued : List Json} (hsome : Json.present? entries name = some (.arr items))
      (hitems : ItemsSameData registry plan items named valued) :
      Feed.SameData registry shape entries (.child .collection name plan) (.arr named) (.arr valued)

/-- The same of the results for the items of a list, one by one. -/
inductive ItemsSameData (registry : Registry) : Plan → List Json → List Json → List Json → Prop
  | nil {plan : Plan} : ItemsSameData registry plan [] [] []
  | cons {plan : Plan} {item name value : Json} {items named valued : List Json}
      (hitem : Plan.SameData registry plan item name value)
      (hrest : ItemsSameData registry plan items named valued) :
      ItemsSameData registry plan (item :: items) (name :: named) (value :: valued)

end

variable {registry : Registry} {shape : String} {entries : List (String × Json)}

/-! ### One assignment in both forms -/

theorem enumValue_name {target : String} {type : EnumType}
    (htype : registry.enumType target = .ok type) (integer : Int) :
    enumValue registry .name target integer =
      .ok ((type.nameOf? integer).elim (Json.int integer) Json.str) := by
  rcases h : type.nameOf? integer with - | text <;> simp [enumValue, htype, h]

/-- An enum value in both forms, its enum being registered. -/
theorem sameData_convert (hnames : registry.NamesMembersOnce) {path : Path} {source : Option String}
    {target : String} (hresolves : registry.Resolves (.enumeration target)) {read : Json}
    (hread : followSteps shape entries path.steps = .ok (some read)) :
    SameOutcome
      (Feed.SameData registry shape entries (.value path (.enumeration source target)))
      (convert registry .name path (.enumeration source target) read)
      (convert registry .integer path (.enumeration source target) read) := by
  obtain ⟨type, htype⟩ := hresolves
  rw [convert, convert]
  rcases underlying registry path source read with error | integer
  · exact .error error
  · change SameOutcome _ (enumValue registry .name target integer) (.ok (Json.int integer))
    rw [enumValue_name htype]
    rcases h : type.nameOf? integer with - | text
    · exact .ok (.nameless hread htype h)
    · exact .ok (.name hread htype (EnumType.valueOf?_of_nameOf? (hnames target type htype) h))

/-- The results for the items of a list in both forms, if the plan has the same data for each. -/
theorem sameData_applyAll {plan : Plan}
    (h : ∀ source, SameOutcome (plan.SameData registry source) (plan.apply registry .name source)
      (plan.apply registry .integer source)) (items : List Json) :
    SameOutcome (ItemsSameData registry plan items) (plan.applyAll registry .name items)
      (plan.applyAll registry .integer items) := by
  induction items with
  | nil => exact .ok .nil
  | cons item items ih =>
    simp only [Plan.applyAll, List.mapM_cons] at ih ⊢
    exact (h item).bind fun _ _ hitem ↦ ih.bind fun _ _ hrest ↦ .ok (.cons hitem hrest)

/-- An object that is there, in both forms. -/
theorem Feed.sameData_child_of_some {field : Field} {link : Link} {name : String} {plan : Plan}
    {source : Json} (hlink : link ≠ .collection) (hsome : Json.present? entries name = some source)
    (h : SameOutcome (plan.SameData registry source) (plan.apply registry .name source)
      (plan.apply registry .integer source)) :
    SameOutcome (Feed.SameData registry shape entries (.child link name plan))
      ((Feed.child link name plan).valueFor registry .name shape entries field)
      ((Feed.child link name plan).valueFor registry .integer shape entries field) := by
  rw [valueFor_child_of_some hlink hsome, valueFor_child_of_some hlink hsome]
  exact h.imp fun _ _ hnamed hvalued ↦ .object hlink hsome (h.rel_of_ok hnamed hvalued)

/-- **A typed feed gives the same data in both forms**, if the plans below do. -/
theorem Feed.Typed.sameData {sourceFields : List Field} {field : Field} {feed : Feed Plan}
    (h : feed.Typed registry sourceFields field) (hnames : registry.NamesMembersOnce)
    (hresolves : registry.Resolves field.kind)
    (hbelow : ∀ child, feed.child? = some child → ∀ source,
      SameOutcome (child.SameData registry source) (child.apply registry .name source)
        (child.apply registry .integer source)) :
    SameOutcome (feed.SameData registry shape entries)
      (feed.valueFor registry .name shape entries field)
      (feed.valueFor registry .integer shape entries field) := by
  cases h with
  | @value path leaf conversion hpath hfits =>
    rw [valueFor, valueFor]
    rcases hread : followSteps shape entries path.steps with error | - | read
    · exact .error error
    · exact .ok (.unread hread)
    · change SameOutcome _ (convert registry .name path conversion read)
        (convert registry .integer path conversion read)
      generalize field.kind = targetKind at hfits hresolves
      generalize leaf.kind = sourceKind at hfits
      cases hfits with
      | copy => exact .ok .copied
      | enumeration | integer => exact sameData_convert hnames hresolves hread
  | @object source plan =>
    rcases hsome : Json.present? entries source.name with - | part
    · simp only [valueFor, hsome, Option.elim_none]
      exact .error _
    · exact sameData_child_of_some (by decide) hsome (hbelow plan rfl part)
  | @optionalObject source plan =>
    rcases hsome : Json.present? entries source.name with - | part
    · rw [valueFor_optionalObject_of_none hsome, valueFor_optionalObject_of_none hsome]
      exact .ok (.missing hsome)
    · exact sameData_child_of_some (by decide) hsome (hbelow plan rfl part)
  | @collection source plan =>
    simp only [valueFor]
    rcases hsome : Json.present? entries source.name with - | part
    · exact .ok (.missing hsome)
    · cases part with
      | arr items =>
        exact (sameData_applyAll (hbelow plan rfl) items).map fun _ _ hitems ↦ .items hsome hitems
      | _ => exact .error _

/-! ### The whole plan in both forms -/

namespace Plan

/-- The walk over the assignments comes to an end in both forms, or fails with the same error, if
every assignment does. -/
theorem assign_sameOutcome {form form' : EnumForm} {fields : List Field}
    {assignments : List (Assignment Plan)} {R : Feed Plan → Json → Json → Prop}
    (h : ∀ a ∈ assignments, ∀ field, findField? fields a.target = some field →
      SameOutcome (R a.feed) (a.feed.valueFor registry form shape entries field)
        (a.feed.valueFor registry form' shape entries field))
    (result result' : List (String × Json)) :
    SameOutcome (fun _ _ ↦ True)
      (assign registry form shape entries fields assignments result)
      (assign registry form' shape entries fields assignments result') := by
  induction assignments generalizing result result' with
  | nil =>
    rw [assign, assign]
    exact .ok trivial
  | cons assignment rest ih =>
    obtain ⟨hhead, hrest⟩ := List.forall_mem_cons.1 h
    rw [assign_cons, assign_cons]
    rcases hfield : findField? fields assignment.target with - | field
    · exact ih hrest result result'
    · exact (hhead field hfield).bind fun _ _ _ ↦ ih hrest _ _

/-- **A well-typed plan makes the same data in both forms**, of any value. -/
theorem WellTyped.sameData {plan : Plan} (hclosed : registry.Closed)
    (hnames : registry.NamesMembersOnce) (h : plan.WellTyped registry) (source : Json) :
    SameOutcome (plan.SameData registry source) (plan.apply registry .name source)
      (plan.apply registry .integer source) := by
  induction plan using Plan.induction generalizing source with
  | step plan ih =>
    obtain ⟨sourceFields, targetFields, -, htarget, hnodup, hlevel⟩ := h.level hclosed
    by_cases hobject : ∃ entries, source = .obj entries
    swap
    · rw [apply_eq_error_of_notObject (not_exists.1 hobject),
        apply_eq_error_of_notObject (not_exists.1 hobject)]
      exact .error _
    obtain ⟨entries, rfl⟩ := hobject
    have hfeed : ∀ a ∈ plan.assignments, ∀ field, findField? targetFields a.target = some field →
        SameOutcome (a.feed.SameData registry plan.source entries)
          (a.feed.valueFor registry .name plan.source entries field)
          (a.feed.valueFor registry .integer plan.source entries field) := by
      intro a ha field hfield
      obtain ⟨field', hmem, hfield', htyped⟩ := hlevel a ha
      cases hfield.symm.trans hfield'
      exact htyped.feed.sameData hnames (hclosed.resolves htarget field hmem)
        fun child hchild ↦ ih a ha child hchild (h.child ha hchild)
    have hsame : SameOutcome (fun _ _ ↦ True) (plan.apply registry .name (.obj entries))
        (plan.apply registry .integer (.obj entries)) := by
      rw [apply_obj htarget, apply_obj htarget]
      exact (assign_sameOutcome hfeed _ _).map fun _ _ _ ↦ trivial
    -- Both results are known level by level, so that they are compared field by field.
    refine hsame.imp fun named valued hnamed hvalued ↦ ?_
    obtain ⟨_, fields, named, ⟨⟩, hfields, rfl, hkeys, hdefault, hlast⟩ :=
      exists_level_of_apply hclosed hnamed
    obtain ⟨_, fields', valued, ⟨⟩, hfields', rfl, hkeys', hdefault', hlast'⟩ :=
      exists_level_of_apply hclosed hvalued
    cases htarget.symm.trans hfields
    cases htarget.symm.trans hfields'
    refine .obj (hkeys.trans hkeys'.symm) (fun key value hne hlookup ↦ ?_)
      fun a ha name value hname hvalue ↦ ?_
    · obtain ⟨field, hfield, rfl⟩ := List.mem_map.1 (hkeys ▸ mem_map_fst_of_lookup hlookup)
      rw [hdefault' field hfield hne, ← hlookup, hdefault field hfield hne]
    · obtain ⟨field, -, hfield, -⟩ := hlevel a ha
      have ha' : plan.AssignsLast a := assignsLast_of_nodup hnodup ha
      obtain ⟨_, hgiven, hlookup⟩ := hlast a ha' field hfield
      obtain ⟨_, hgiven', hlookup'⟩ := hlast' a ha' field hfield
      cases hname.symm.trans hlookup
      cases hvalue.symm.trans hlookup'
      exact (hfeed a ha field hfield).rel_of_ok hgiven hgiven'

/-- **Names and integers of enums are the same data.** A compiled plan has a result by name of a
source exactly if it has one in integers, and fails with the same error otherwise; and the integers
are those that the names stand for in the target enums. -/
theorem enum_forms_agree {catalogue : Catalogue} (hregister : catalogue.register = .ok registry)
    {settings : BuildSettings} {source target : String} {plan : Plan}
    (hbuild : between registry settings source target = .ok plan) (value : Json) :
    SameOutcome (plan.SameData registry value) (plan.apply registry .name value)
      (plan.apply registry .integer value) :=
  have hclosed := Registry.closed_of_register hregister
  (ofPair_wellTyped hclosed hbuild).sameData hclosed
    (Registry.namesMembersOnce_of_register hregister) value

end Plan

end EnumNames

namespace Lamp

/-- Lamps, and views of lamps. There are two names for a lamp without light. -/
def catalogue : Catalogue := ⟨"lamps", [⟨"Light", [⟨"Off", 0⟩, ⟨"Dark", 0⟩, ⟨"On", 1⟩]⟩], [
  ⟨"Lamp", [{ name := "Light", kind := .enumeration "Light" }]⟩,
  ⟨"LampView", [{ name := "Light", kind := .enumeration "Light" }]⟩]⟩

/-- The registry of the declarations. -/
def registry : Registry := ⟨catalogue.name, catalogue.enums, catalogue.shapes⟩

/-- The plan for lamps. -/
def plan : Plan := ⟨"Lamp", "LampView", 1, [
  ⟨"Light", .structural, .value (.single "Light" false) (.enumeration (some "Light") "Light")⟩]⟩

/-- A dark lamp is shown as off: by another name, which stands for the same integer. -/
theorem dark_shown :
    catalogue.register = .ok registry ∧
    Plan.between registry ⟨⟨1, 3, 2, 16⟩, false⟩ "Lamp" "LampView" = .ok plan ∧
    plan.apply registry .name (.obj [("Light", .str "Dark")]) =
      .ok (.obj [("Light", .str "Off")]) ∧
    plan.apply registry .integer (.obj [("Light", .str "Dark")]) =
      .ok (.obj [("Light", .int 0)]) ∧
    plan.SameData registry (.obj [("Light", .str "Dark")]) (.obj [("Light", .str "Off")])
      (.obj [("Light", .int 0)]) := by
  have hregister : catalogue.register = .ok registry := by with_unfolding_all rfl
  have hbuild : Plan.between registry ⟨⟨1, 3, 2, 16⟩, false⟩ "Lamp" "LampView" = .ok plan := by
    with_unfolding_all rfl
  have hnamed : plan.apply registry .name (.obj [("Light", .str "Dark")]) =
      .ok (.obj [("Light", .str "Off")]) := by
    with_unfolding_all rfl
  have hvalued : plan.apply registry .integer (.obj [("Light", .str "Dark")]) =
      .ok (.obj [("Light", .int 0)]) := by
    with_unfolding_all rfl
  exact ⟨hregister, hbuild, hnamed, hvalued,
    (Plan.enum_forms_agree hregister hbuild _).rel_of_ok hnamed hvalued⟩

end Lamp

end Recast
