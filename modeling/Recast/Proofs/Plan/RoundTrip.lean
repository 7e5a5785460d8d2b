import Recast.Plan.Json
import Recast.Proofs.Json.Reading
import Recast.Proofs.Plan.Nodes

/-!
# Plans come back from their JSON text

Nothing of a plan is lost in its JSON text, whatever its names are and however deep it is
(`Plan.ofJson?_jsonText`). The text is read back as the value that it was printed from, since no
object of a plan has a key twice and all numbers in it are depths of thirty-two bits
(`Plan.lossless_toJson`); and that value is read as the plan (`Plan.ofJson?_toJson`). Both are
inductions over the plan, with a lemma for each part that is written by itself.
-/

namespace Recast

/-- Values that are written one by one are read back one by one. -/
theorem mapM_map_eq_some {α β : Type} {write : α → β} {read : β → Option α} {l : List α}
    (h : ∀ a ∈ l, read (write a) = some a) : (l.map write).mapM read = some l := by
  induction l with
  | nil => rfl
  | cons a rest ih =>
    obtain ⟨ha, hrest⟩ := List.forall_mem_cons.1 h
    rw [List.map_cons, List.mapM_cons, ha, Option.bind_eq_bind, Option.bind_some, ih hrest]
    rfl

/-! ### Parts of an assignment -/

theorem Step.ofJson?_obj (step : Step) :
    Step.ofJson? (.obj [("field", .str step.field), ("nullable", .bool step.nullable)]) =
      some step :=
  rfl

theorem Path.ofJson?_toJson (path : Path) : Path.ofJson? path.toJson = some path := by
  obtain ⟨steps⟩ := path
  have hread := mapM_map_eq_some fun step (_ : step ∈ steps) ↦ step.ofJson?_obj
  obtain ⟨record, hrecord, hlookup⟩ := Json.exists_record?_obj ["hops"] _
  rw [Path.ofJson?, toJson, hrecord, Option.bind_eq_bind, Option.bind_some,
    Json.Record.required_eq _ (hlookup "hops"), Json.list?_arr, hread]
  rfl

theorem Origin.ofJson?_name (origin : Origin) :
    Origin.ofJson? (.str origin.name) = some origin := by
  cases origin <;> rfl

/-- What is read by value is read back under the name of its sort. -/
theorem Feed.valueOfJson?_members {P : Type} (path : Path) (conversion : Conversion) :
    valueOfJson? (value (P := P) path conversion).kindName (.obj (conversion.members path)) =
      some (value (P := P) path conversion) := by
  cases conversion with
  | copy =>
    obtain ⟨record, hrecord, hlookup⟩ := Json.exists_record?_obj [] (Conversion.copy.members path)
    have hsource : record.required "source" Path.ofJson? = some path :=
      (Json.Record.required_eq _ (hlookup "source")).trans path.ofJson?_toJson
    simp [Feed.valueOfJson?, Feed.kindName, Json.object?, hrecord, hsource]
  | enumeration source target =>
    obtain ⟨record, hrecord, hlookup⟩ :=
      Json.exists_record?_obj [] ((Conversion.enumeration source target).members path)
    have hpath : record.required "source" Path.ofJson? = some path :=
      (Json.Record.required_eq _ (hlookup "source")).trans path.ofJson?_toJson
    have hsource : record.optional "source_enum" Json.string? = some source := by
      cases source with
      | none => exact Json.Record.optional_eq_none _ (hlookup "source_enum")
      | some name => exact Json.Record.optional_eq _ (hlookup "source_enum") rfl
    have htarget : record.required "target_enum" Json.string? = some target :=
      Json.Record.required_eq _ (hlookup "target_enum")
    simp [Feed.valueOfJson?, Feed.kindName, Json.object?, hrecord, hpath, hsource, htarget]

namespace Plan

/-- The members that a feed is written with. -/
def feedMembers : Feed Plan → List (String × Json)
  | .value path conversion => conversion.members path
  | .child link field plan => [("source_field", .str field), (link.planKey, plan.toJson)]

/-- An assignment with what feeds it. -/
def assignmentJson (a : Assignment Plan) : Json := a.memberJson (feedMembers a.feed)

theorem toJsonAll_eq_map (assignments : List (Assignment Plan)) :
    toJsonAll assignments = assignments.map assignmentJson := by
  induction assignments with
  | nil => rfl
  | cons a rest ih =>
    obtain ⟨target, origin, feed⟩ := a
    cases feed <;> rw [toJsonAll, ih] <;> rfl

/-- The members of a plan. -/
def members (plan : Plan) : List (String × Json) :=
  [("source_shape", .str plan.source), ("target_shape", .str plan.target),
    ("depth", .int plan.depth), ("assignments", .arr (plan.assignments.map assignmentJson))]

theorem toJson_eq (plan : Plan) : plan.toJson = .obj plan.members := by
  obtain ⟨source, target, depth, assignments⟩ := plan
  rw [toJson, toJsonAll_eq_map]
  rfl

/-! ### Reading -/

/-- A feed is read back if the plan below it is. -/
theorem feedOfJson?_members (feed : Feed Plan)
    (hchild : ∀ child, feed.child? = some child → ofJson? child.toJson = some child) :
    feedOfJson? (.obj [(feed.kindName, .obj (feedMembers feed))]) = some feed := by
  cases feed with
  | value path conversion =>
    have hread := Feed.valueOfJson?_members (P := Plan) path conversion
    rw [feedOfJson?]
    cases conversion <;> exact hread
  | child link field plan =>
    have hplan := hchild plan rfl
    obtain ⟨record, hrecord, hlookup⟩ :=
      Json.exists_record?_obj [] (feedMembers (.child link field plan))
    have hfield : record.required "source_field" Json.string? = some field :=
      Json.Record.required_eq _ (hlookup "source_field")
    obtain ⟨part, hpart, hvalue⟩ : ∃ part, record.lookup link.planKey = some part ∧
        part.1 = plan.toJson :=
      Option.map_eq_some_iff.1 ((hlookup link.planKey).trans (by cases link <;> rfl))
    have hlink : Link.ofName? (Feed.child link field plan).kindName = some link := by
      cases link <;> rfl
    rw [feedOfJson?]
    simp [Json.variant?, hlink, Json.object?, hrecord, hfield, hpart, hvalue, hplan]

theorem assignmentOfJson?_assignmentJson (a : Assignment Plan)
    (hchild : ∀ child, a.feed.child? = some child → ofJson? child.toJson = some child) :
    assignmentOfJson? (assignmentJson a) = some a := by
  obtain ⟨record, hrecord, hlookup⟩ :=
    Json.exists_record?_obj ["target_field", "origin", "kind"] [("target_field", .str a.target),
      ("origin", .str a.origin.name), ("kind", .obj [(a.feed.kindName, .obj (feedMembers a.feed))])]
  have htarget : record.required "target_field" Json.string? = some a.target :=
    Json.Record.required_eq _ (hlookup "target_field")
  have horigin : record.required "origin" Origin.ofJson? = some a.origin :=
    (Json.Record.required_eq _ (hlookup "origin")).trans a.origin.ofJson?_name
  obtain ⟨part, hpart, hvalue⟩ := Option.map_eq_some_iff.1 (hlookup "kind")
  have hfeed : feedOfJson? part.1 = some a.feed := by
    rw [hvalue]
    exact feedOfJson?_members a.feed hchild
  rw [assignmentOfJson?, assignmentJson, Assignment.memberJson, hrecord]
  simp [htarget, horigin, hpart, hfeed]

theorem nat32?_int {n : Nat} (h : fitsNat32 n = true) : (Json.int n).nat32? = some n := by
  show (some n).filter fitsNat32 = some n
  rw [Option.filter_some, if_pos h]

/-- **A plan is read back from its JSON form** if its depths are numbers of thirty-two bits. -/
theorem ofJson?_toJson (plan : Plan)
    (hdepth : ∀ node, plan.HasNode node → fitsNat32 node.depth = true) :
    ofJson? plan.toJson = some plan := by
  refine node_induction (motive := fun plan ↦ ofJson? plan.toJson = some plan)
    (fun plan hfits ih ↦ ?_) plan hdepth
  obtain ⟨record, hrecord, hlookup⟩ := Json.exists_record?_obj
    ["source_shape", "target_shape", "depth", "assignments"] plan.members
  have hsource : record.required "source_shape" Json.string? = some plan.source :=
    Json.Record.required_eq _ (hlookup "source_shape")
  have htarget : record.required "target_shape" Json.string? = some plan.target :=
    Json.Record.required_eq _ (hlookup "target_shape")
  have hlevel : record.required "depth" Json.nat32? = some plan.depth :=
    (Json.Record.required_eq _ (hlookup "depth")).trans (nat32?_int hfits)
  obtain ⟨⟨value, hlt⟩, hpart, rfl⟩ := Option.map_eq_some_iff.1 (hlookup "assignments")
  obtain ⟨parts, hparts, hread⟩ := Json.exists_items?_arr (plan.assignments.map assignmentJson)
  have hassignments : (parts.mapM fun part ↦ assignmentOfJson? part.1) = some plan.assignments :=
    (hread _).trans (mapM_map_eq_some fun a ha ↦ assignmentOfJson?_assignmentJson a (ih a ha))
  rw [toJson_eq, ofJson?, hrecord]
  simp only [Option.bind_eq_bind, Option.bind_some, hsource, htarget, hlevel, hpart, hparts,
    hassignments]
  cases plan
  rfl

/-! ### Writing -/

@[simp] theorem lossless_path (path : Path) : path.toJson.Lossless := by
  simp [Path.toJson]

theorem lossless_conversion (path : Path) (conversion : Conversion) :
    (Json.obj (conversion.members path)).Lossless := by
  rcases conversion with - | ⟨- | source, target⟩ <;> simp [Conversion.members, Json.ofString?]

theorem lossless_memberJson (a : Assignment Plan) {contents : List (String × Json)}
    (h : (Json.obj contents).Lossless) : (a.memberJson contents).Lossless := by
  simpa [Assignment.memberJson] using h

theorem lossless_feed (feed : Feed Plan)
    (hchild : ∀ child, feed.child? = some child → child.toJson.Lossless) :
    (Json.obj (feedMembers feed)).Lossless := by
  cases feed with
  | value path conversion => exact lossless_conversion path conversion
  | child link field plan => cases link <;> simp [feedMembers, Link.planKey, hchild plan rfl]

/-- **No reading can change the JSON form of a plan** with depths of thirty-two bits. -/
theorem lossless_toJson (plan : Plan)
    (hdepth : ∀ node, plan.HasNode node → fitsNat32 node.depth = true) :
    plan.toJson.Lossless := by
  refine node_induction (motive := fun plan ↦ plan.toJson.Lossless) (fun plan hfits ih ↦ ?_)
    plan hdepth
  have hassignments : ∀ a ∈ plan.assignments, (assignmentJson a).Lossless := fun a ha ↦
    lossless_memberJson a (lossless_feed a.feed (ih a ha))
  have hlevel : (Json.int plan.depth).Lossless := by
    have hlt := fitsNat32_iff.1 hfits
    exact .int (by omega) (by omega)
  rw [toJson_eq]
  simpa [members, hlevel] using hassignments

/-- **A plan comes back from its JSON text**, whatever its names are, as long as its depths are
numbers of thirty-two bits. Of the reader of JSON it is only needed that it reads what `Json.parse?`
reads, and as the same value; it may read other texts as it likes. -/
theorem ofJson?_jsonText (plan : Plan)
    (hdepth : ∀ node, plan.HasNode node → fitsNat32 node.depth = true) :
    (Json.parse? plan.jsonText).bind ofJson? = some plan ∧
    ∀ read : String → Option Json,
      (∀ text value, Json.parse? text = some value → read text = some value) →
      (read plan.jsonText).bind ofJson? = some plan := by
  have hparse : Json.parse? plan.jsonText = some plan.toJson :=
    Json.parse?_pretty (lossless_toJson plan hdepth)
  have hplan := ofJson?_toJson plan hdepth
  refine ⟨?_, fun read hread ↦ ?_⟩
  · rw [hparse, Option.bind_some, hplan]
  · rw [hread _ _ hparse, Option.bind_some, hplan]

end Plan

namespace Blog

/-- A name with quotes, a backslash, control characters and characters beyond the first 128. -/
def oddName : String := "\"\\/\x00\n\x1f\x7f\u00e9𝄞"

/-- The plan for posts under odd names, with a value that no step leads to. -/
def oddPlan : Plan := ⟨oddName, "", 1,
  ⟨oddName, .explicitOverride, .value ⟨[]⟩ (.enumeration (some "") oddName)⟩ ::
    postPlan.assignments⟩

/-- A reader that takes whatever is not JSON for null. -/
def lenientRead (text : String) : Option Json := some ((Json.parse? text).getD .null)

/-- The plan under odd names comes back from its JSON text, through either reader. -/
theorem oddPlan_read :
    (∀ node, oddPlan.HasNode node → fitsNat32 node.depth = true) ∧
    (Json.parse? oddPlan.jsonText).bind Plan.ofJson? = some oddPlan ∧
    (lenientRead oddPlan.jsonText).bind Plan.ofJson? = some oddPlan := by
  have hdepth : ∀ node, oddPlan.HasNode node → fitsNat32 node.depth = true := fun node hnode ↦ by
    have hle : node.depth ≤ 2 := hnode.depth_le_maxDepth
    rw [fitsNat32_iff]
    omega
  have hlenient : ∀ text value, Json.parse? text = some value → lenientRead text = some value := by
    intro text value h
    rw [lenientRead, h, Option.getD_some]
  obtain ⟨hread, hany⟩ := Plan.ofJson?_jsonText oddPlan hdepth
  exact ⟨hdepth, hread, hany lenientRead hlenient⟩

end Blog

end Recast
