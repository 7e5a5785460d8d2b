import Recast.Proofs.Instance.Conforming
import Recast.Proofs.Sql.Evaluation
import Recast.Proofs.Sql.Lowered

/-!
# A query computes what the walker makes

A plan has two readings: applied to a row it gives an object, lowered into a query it gives columns.
On every row that conforms to the source shape they agree. No column is stuck. A column is null
exactly where an object above its leaf that may be null is missing, or where the source of the leaf
itself is (`Leaf.IsAbsent`), and otherwise it holds what stands at the leaf in the object
(`Leaf.Agrees`): a value as it is, and a collection as an array of tuples with a member for each
assignment (`Plan.Agrees`).

Two recursions are put side by side. Tuples follow the plan, so the agreement of a tuple is proved
by induction on the plan, for any object and any parameters. Columns follow the leaves: the guards
above a leaf either all let it through or the first that is null decides.
-/

namespace Recast

section Agreement

/-! ### When a tuple shows an object -/

mutual

/-- The value is a tuple that shows the object which the plan makes of the source. -/
inductive Plan.Agrees (registry : Registry) : Plan → Json → SqlValue → Json → Prop
  | intro {plan : Plan} {entries results : List (String × Json)} {fields : List Field}
      {members : List SqlValue} (hfields : registry.fields plan.target = .ok fields)
      (hmembers : MembersAgree registry plan.source entries fields results plan.assignments
        members) :
      Plan.Agrees registry plan (.obj entries) (.tuple members) (.obj results)

/-- The members of a tuple show the fields that are assigned, one by one. -/
inductive MembersAgree (registry : Registry) : String → List (String × Json) → List Field →
    List (String × Json) → List (Assignment Plan) → List SqlValue → Prop
  | nil {shape : String} {entries : List (String × Json)} {fields : List Field}
      {results : List (String × Json)} : MembersAgree registry shape entries fields results [] []
  | cons {shape : String} {entries : List (String × Json)} {fields : List Field}
      {results : List (String × Json)} {assignment : Assignment Plan}
      {rest : List (Assignment Plan)} {field : Field} {member : SqlValue}
      {members : List SqlValue} {result : Json}
      (hfield : findField? fields assignment.target = some field)
      (hresult : results.lookup assignment.target = some result)
      (hmember : Feed.Agrees registry shape entries field assignment.feed member result)
      (hrest : MembersAgree registry shape entries fields results rest members) :
      MembersAgree registry shape entries fields results (assignment :: rest) (member :: members)

/-- The value shows what the feed gives a target field. Where nothing is read it is null, and the
field holds its default; where an object or a collection is missing both are null. -/
inductive Feed.Agrees (registry : Registry) : String → List (String × Json) → Field → Feed Plan →
    SqlValue → Json → Prop
  | unread {shape : String} {entries : List (String × Json)} {field : Field} {path : Path}
      {conversion : Conversion} (hread : followSteps shape entries path.steps = .ok none) :
      Feed.Agrees registry shape entries field (.value path conversion) .null field.defaultValue
  | value {shape : String} {entries : List (String × Json)} {field : Field} {path : Path}
      {conversion : Conversion} {read result : Json}
      (hread : followSteps shape entries path.steps = .ok (some read)) (hresult : result ≠ .null) :
      Feed.Agrees registry shape entries field (.value path conversion) (.json result) result
  | missing {shape : String} {entries : List (String × Json)} {field : Field} {link : Link}
      {name : String} {plan : Plan} (hnone : Json.present? entries name = none) :
      Feed.Agrees registry shape entries field (.child link name plan) .null .null
  | object {shape : String} {entries : List (String × Json)} {field : Field} {link : Link}
      {name : String} {plan : Plan} {source result : Json} {value : SqlValue}
      (hlink : link ≠ .collection) (hsome : Json.present? entries name = some source)
      (hvalue : Plan.Agrees registry plan source value result) :
      Feed.Agrees registry shape entries field (.child link name plan) value result
  | collection {shape : String} {entries : List (String × Json)} {field : Field} {name : String}
      {plan : Plan} {items results : List Json} {values : List SqlValue}
      (hsome : Json.present? entries name = some (.arr items))
      (hitems : ItemsAgree registry plan items values results) :
      Feed.Agrees registry shape entries field (.child .collection name plan) (.array values)
        (.arr results)

/-- The values show what the plan makes of the items, in order. -/
inductive ItemsAgree (registry : Registry) : Plan → List Json → List SqlValue → List Json → Prop
  | nil {plan : Plan} : ItemsAgree registry plan [] [] []
  | cons {plan : Plan} {item result : Json} {value : SqlValue} {items results : List Json}
      {values : List SqlValue} (hitem : Plan.Agrees registry plan item value result)
      (hrest : ItemsAgree registry plan items values results) :
      ItemsAgree registry plan (item :: items) (value :: values) (result :: results)

end

/-! ### When a column shows a leaf -/

/-- The source of an assignment is missing: its path reads nothing, or its collection is null or
absent. -/
def Feed.IsAbsent (shape : String) (entries : List (String × Json)) : Feed Plan → Prop
  | .value path _ => followSteps shape entries path.steps = .ok none
  | .child _ name _ => Json.present? entries name = none

namespace Leaf

/-- **The leaf is missing in the row**: an object above it that may be null is null or absent, or
its own source is. -/
inductive IsAbsent : Leaf → List (String × Json) → Prop
  | own {plan : Plan} {assignment : Assignment Plan} {entries : List (String × Json)}
      (habsent : assignment.feed.IsAbsent plan.source entries) :
      IsAbsent ⟨[], plan, assignment⟩ entries
  | missing {owner : Owner} {owners : List Owner} {plan : Plan} {assignment : Assignment Plan}
      {entries : List (String × Json)} (hlink : owner.link = .optionalObject)
      (hnone : Json.present? entries owner.field = none) :
      IsAbsent ⟨owner :: owners, plan, assignment⟩ entries
  | within {owner : Owner} {owners : List Owner} {plan : Plan} {assignment : Assignment Plan}
      {entries inner : List (String × Json)}
      (hsome : Json.present? entries owner.field = some (.obj inner))
      (hleaf : IsAbsent ⟨owners, plan, assignment⟩ inner) :
      IsAbsent ⟨owner :: owners, plan, assignment⟩ entries

/-- **The value shows what stands at the leaf in the object** that was made of the row. Below an
object that is missing it is null, and null stands in the place of that object. -/
inductive Agrees (registry : Registry) : Leaf → List (String × Json) → SqlValue → Json → Prop
  | own {plan : Plan} {assignment : Assignment Plan} {entries results : List (String × Json)}
      {fields : List Field} {field : Field} {value : SqlValue} {result : Json}
      (hfields : registry.fields plan.target = .ok fields)
      (hfield : findField? fields assignment.target = some field)
      (hresult : results.lookup assignment.target = some result)
      (hvalue : assignment.feed.Agrees registry plan.source entries field value result) :
      Agrees registry ⟨[], plan, assignment⟩ entries value (.obj results)
  | missing {owner : Owner} {owners : List Owner} {plan : Plan} {assignment : Assignment Plan}
      {entries results : List (String × Json)} (hlink : owner.link = .optionalObject)
      (hnone : Json.present? entries owner.field = none)
      (hresult : results.lookup owner.target = some .null) :
      Agrees registry ⟨owner :: owners, plan, assignment⟩ entries .null (.obj results)
  | within {owner : Owner} {owners : List Owner} {plan : Plan} {assignment : Assignment Plan}
      {entries inner results : List (String × Json)} {value : SqlValue} {result : Json}
      (hsome : Json.present? entries owner.field = some (.obj inner))
      (hresult : results.lookup owner.target = some result)
      (hleaf : Agrees registry ⟨owners, plan, assignment⟩ inner value result) :
      Agrees registry ⟨owner :: owners, plan, assignment⟩ entries value (.obj results)

/-- An assignment that gives a column is no object. -/
theorem eq_collection_of_mem_leaves {plan : Plan} {leaf : Leaf} (h : leaf ∈ plan.leaves)
    {link : Link} {field : String} {child : Plan}
    (hfeed : leaf.assignment.feed = .child link field child) :
    link = .collection := by
  induction plan using Plan.induction generalizing leaf with
  | step plan ih =>
    obtain ⟨a, ha, hleaf⟩ := Plan.mem_leaves_iff.1 h
    cases hleaf with
    | own hown => exact hown _ _ _ hfeed
    | below hfeed' _ hinner => exact ih a ha _ (by rw [hfeed']; rfl) hinner hfeed

end Leaf

variable {registry : Registry} {shape : String} {entries : List (String × Json)}

theorem Feed.Agrees.null_iff {field : Field} {feed : Feed Plan} {value : SqlValue} {result : Json}
    (h : feed.Agrees registry shape entries field value result)
    (hcolumn : ∀ link name child, feed = .child link name child → link = .collection) :
    value = .null ↔ feed.IsAbsent shape entries := by
  cases h with
  | unread hread => exact iff_of_true rfl hread
  | value hread hresult =>
    refine iff_of_false (fun h ↦ hresult (SqlValue.json.inj h)) fun h ↦ ?_
    cases hread.symm.trans h
  | missing hnone => exact iff_of_true rfl hnone
  | object hlink => exact absurd (hcolumn _ _ _ rfl) hlink
  | collection hsome =>
    refine iff_of_false nofun fun h ↦ ?_
    cases hsome.symm.trans h

/-- **A column is null exactly where its leaf is missing.** -/
theorem Leaf.Agrees.null_iff {leaf : Leaf} {value : SqlValue} {result : Json}
    (h : leaf.Agrees registry entries value result)
    (hcolumn : ∀ link name child, leaf.assignment.feed = .child link name child →
      link = .collection) :
    value = .null ↔ leaf.IsAbsent entries := by
  induction h with
  | own _ _ _ hvalue =>
    refine (hvalue.null_iff hcolumn).trans ⟨.own, ?_⟩
    rintro (habsent | - | -)
    exact habsent
  | missing hlink hnone => exact iff_of_true rfl (.missing hlink hnone)
  | within hsome _ _ ih =>
    refine (ih hcolumn).trans ⟨.within hsome, ?_⟩
    rintro (- | ⟨-, hnone⟩ | ⟨hsome', hleaf⟩)
    · cases hsome.symm.trans hnone
    · cases hsome.symm.trans hsome'
      exact hleaf

/-! ### Tuples -/

section Tuples

variable {table : String} {row : List (String × Json)} {env : List (String × SqlValue)}
  {sourceFields : List Field} {object : ObjectRef}

/-- A path that leads somewhere passes on an instance. -/
theorem Path.Leads.stepsPass {enums : String → Json → Prop} {path : Path} {leaf : Field}
    (hpath : path.Leads registry sourceFields leaf)
    (hentries : FieldsConform registry enums sourceFields entries) :
    StepsPass entries path.steps := by
  cases hpath with
  | single => exact .last
  | @member source _ _ _ hsource hkind hfields =>
    rcases hentries source hsource with ⟨hnone, hnullable⟩ | ⟨part, hsome, hpart⟩
    · exact .none hnone hnullable
    · rw [hkind] at hpart
      obtain ⟨inner, rfl, -⟩ := hpart.exists_entries hfields
      exact .some hsome .last

theorem cast?_null : SqlValue.null.cast? (enumColumnType true) = some .null := rfl

theorem cast?_int {integer : Int} (h : fitsInt64 integer = true) (mayBeNull : Bool) :
    (SqlValue.json (.int integer)).cast? (enumColumnType mayBeNull) =
      some (.json (.int integer)) := by
  have htype : enumColumnType mayBeNull = "Int64" ∨
      enumColumnType mayBeNull = "Nullable(Int64)" := by
    cases mayBeNull
    · exact .inl rfl
    · exact .inr rfl
  exact if_pos ⟨htype, h⟩

/-- **A value that is read is the value of its expression**, a cast having a type with null wherever
nothing may be read. -/
theorem exists_readExpr_agrees {path : Path} {leaf field : Field} {conversion : Conversion}
    {result : Json} (mayBeNull : Bool) (hpath : path.Leads registry sourceFields leaf)
    (hfits : conversion.Fits field.kind leaf.kind)
    (hentries : FieldsConform registry IntegerOnly sourceFields entries)
    (hobject : object.Denotes table row env entries)
    (hread : ∀ target, conversion = .enumeration none target →
      ∀ value, followSteps shape entries path.steps = .ok (some value) → value.IsInt64)
    (hvalue : (Feed.value path conversion).valueFor registry .integer shape entries field =
      .ok result) :
    ∃ value, (readExpr object mayBeNull path conversion).eval table row env = some value ∧
      Feed.Agrees registry shape entries field (.value path conversion) value result := by
  obtain ⟨value?, hsteps, heval⟩ := eval_toExpr shape hobject (hpath.stepsPass hentries)
  have hleads := followSteps_of_leads hpath hentries shape
  generalize field.kind = target, leaf.kind = source at hfits hleads
  rcases hleads with ⟨hnone, hnullable⟩ | ⟨read, hsome, hconforms⟩
  · cases hsteps.symm.trans hnone
    rw [Feed.valueFor_value_of_none field hnone] at hvalue
    obtain rfl : field.defaultValue = result := Except.ok.inj hvalue
    refine ⟨.null, ?_, .unread hnone⟩
    cases hfits with
    | copy => exact heval
    | enumeration | integer =>
      simp only [readExpr, Expr.eval, hnullable, Bool.or_true]
      rw [heval]
      exact cast?_null
  · cases hsteps.symm.trans hsome
    have hresult : convert registry .integer path conversion read = .ok result := by
      rwa [Feed.valueFor_value_of_some field hsome] at hvalue
    -- An enum and an integer that becomes one are the same to a cast.
    have henum : ∀ {source? : Option String} {target : String}, read.IsInt64 →
        convert registry .integer path (.enumeration source? target) read = .ok result →
        result = read ∧ (readExpr object mayBeNull path (.enumeration source? target)).eval table
          row env = some (.json read) := by
      rintro source? target ⟨integer, rfl, hinteger⟩ hresult
      refine ⟨?_, ?_⟩
      · simpa [convert, hinteger, eq_comm] using hresult
      · simp only [readExpr, Expr.eval]
        rw [heval]
        exact cast?_int hinteger _
    have hnull := ne_null_of_followSteps hsome
    cases hfits with
    | copy =>
      cases hresult
      exact ⟨_, heval, .value hsome hnull⟩
    | enumeration =>
      obtain - | hinteger := hconforms
      obtain ⟨rfl, heval⟩ := henum hinteger hresult
      exact ⟨_, heval, .value hsome hnull⟩
    | integer =>
      obtain ⟨rfl, heval⟩ := henum (hread _ rfl read hsome) hresult
      exact ⟨_, heval, .value hsome hnull⟩

/-- A map over items gives what the plan makes of them, if its body does so for each. -/
theorem exists_itemsAgree {plan : Plan} (body : SqlValue → Option SqlValue)
    {items results : List Json}
    (hbody : ∀ item ∈ items, ∀ result, plan.apply registry .integer item = .ok result →
      ∃ value, body (.json item) = some value ∧ plan.Agrees registry item value result)
    (hitems : List.Forall₂ (fun item result ↦ plan.apply registry .integer item = .ok result)
      items results) :
    ∃ values, (items.map SqlValue.json).mapM body = some values ∧
      ItemsAgree registry plan items values results := by
  induction hitems with
  | nil => exact ⟨[], rfl, .nil⟩
  | @cons item result items results hresult _ ih =>
    obtain ⟨hhead, htail⟩ := List.forall_mem_cons.1 hbody
    obtain ⟨value, hvalue, hagrees⟩ := hhead result hresult
    obtain ⟨values, hvalues, hrest⟩ := ih htail
    exact ⟨value :: values, by simp [hvalue, hvalues], .cons hagrees hrest⟩

/-- **What a typed feed gives is the value of its expression**, if that is so for the plan below. -/
theorem Feed.Typed.exists_agrees {field : Field} {feed : Feed Plan} {result : Json}
    (mayBeNull : Bool) (h : feed.Typed registry sourceFields field)
    (hentries : FieldsConform registry IntegerOnly sourceFields entries)
    (hobject : object.Denotes table row env entries)
    (hread : ∀ path target, feed = .value path (.enumeration none target) →
      ∀ value, followSteps shape entries path.steps = .ok (some value) → value.IsInt64)
    (hbelow : ∀ child source, feed.Applies entries child source →
      ∃ inner, source = .obj inner ∧ ∀ env object mayBeNull result,
        ObjectRef.Denotes table row env object inner →
        child.apply registry .integer source = .ok result →
        ∃ value, (child.toTuple object mayBeNull).eval table row env = some value ∧
          child.Agrees registry source value result)
    (hvalue : feed.valueFor registry .integer shape entries field = .ok result) :
    ∃ value, (feed.toExpr object mayBeNull).eval table row env = some value ∧
      feed.Agrees registry shape entries field value result := by
  cases h with
  | value hpath hfits =>
    exact exists_readExpr_agrees mayBeNull hpath hfits hentries hobject
      (fun target htarget ↦ hread _ target (htarget ▸ rfl)) hvalue
  | @object source plan hsource _ _ _ hnullable =>
    rcases hsome : Json.present? entries source.name with - | part
    · simp [valueFor, hsome] at hvalue
    · obtain ⟨inner, rfl, hplan⟩ := hbelow plan part (.object (by decide) hsome)
      have hfield := hobject source.name
      rw [hsome] at hfield
      rw [valueFor_child_of_some (by decide) hsome] at hvalue
      obtain ⟨value, heval, hagrees⟩ := hplan env _ mayBeNull result
        (ObjectRef.denotes_value hfield) hvalue
      exact ⟨value, heval, .object (by decide) hsome hagrees⟩
  | @optionalObject source plan =>
    have hfield := hobject source.name
    rcases hsome : Json.present? entries source.name with - | part
    · rw [hsome] at hfield
      rw [valueFor_optionalObject_of_none hsome] at hvalue
      cases hvalue
      exact ⟨.null, (Expr.eval_guardedBy hfield).trans rfl, .missing hsome⟩
    · obtain ⟨inner, rfl, hplan⟩ := hbelow plan part (.object (by decide) hsome)
      rw [hsome] at hfield
      rw [valueFor_child_of_some (by decide) hsome] at hvalue
      obtain ⟨value, heval, hagrees⟩ := hplan env _ true result
        (ObjectRef.denotes_value hfield) hvalue
      exact ⟨value, (Expr.eval_guardedBy hfield).trans heval, .object (by decide) hsome hagrees⟩
  | @collection source plan hsource _ _ hkind =>
    have hfield := hobject source.name
    rcases hentries source hsource with ⟨hnone, -⟩ | ⟨part, hsome, hpart⟩
    · rw [hnone] at hfield
      rw [valueFor_collection_of_none hnone] at hvalue
      obtain rfl : Json.null = result := Except.ok.inj hvalue
      exact ⟨.null, by simp [toExpr, ObjectRef.mapField, Expr.eval, hfield, SqlValue.isNull],
        .missing hnone⟩
    · rw [hkind] at hpart
      obtain - | - | - | @⟨_, items, hpart⟩ := hpart
      rw [hsome] at hfield
      rw [valueFor_collection_of_arr hsome] at hvalue
      obtain ⟨results, hresults, rfl⟩ := map_eq_ok_iff.1 hvalue
      -- In the body the parameter stands for the item, whatever the parameters outside.
      have hbody : ∀ item ∈ items, ∀ result, plan.apply registry .integer item = .ok result →
          ∃ value, (plan.toTuple (itemRef plan.depth) false).eval table row
              ((itemParameter plan.depth, .json item) :: env) = some value ∧
            plan.Agrees registry item value result := by
        intro item hitem result hresult
        obtain ⟨inner, rfl, hplan⟩ := hbelow plan item (.item hsome hitem)
        refine hplan _ _ false result (ObjectRef.denotes_value ?_) hresult
        simp [Expr.eval]
      obtain ⟨values, hvalues, hagree⟩ := exists_itemsAgree
        (fun item ↦ (plan.toTuple (itemRef plan.depth) false).eval table row
          ((itemParameter plan.depth, item) :: env))
        hbody (mapM_eq_ok_iff.1 hresults)
      refine ⟨.array values, ?_, .collection hsome hagree⟩
      simp [toExpr, ObjectRef.mapField, Expr.eval, hfield, SqlValue.isNull, SqlValue.items?,
        hvalues]

/-- The members of a tuple agree if every assignment does. -/
theorem exists_membersAgree {fields : List Field} {results : List (String × Json)}
    {mayBeNull : Bool} {assignments : List (Assignment Plan)}
    (h : ∀ a ∈ assignments, ∃ field result member, findField? fields a.target = some field ∧
      results.lookup a.target = some result ∧
      (a.feed.toExpr object mayBeNull).eval table row env = some member ∧
      a.feed.Agrees registry shape entries field member result) :
    ∃ members, Expr.evalAll table row env (assignments.map fun a ↦ a.feed.toExpr object mayBeNull) =
      some members ∧ MembersAgree registry shape entries fields results assignments members := by
  induction assignments with
  | nil => exact ⟨[], rfl, .nil⟩
  | cons assignment rest ih =>
    obtain ⟨⟨field, result, member, hfield, hresult, hmember, hagrees⟩, hrest⟩ :=
      List.forall_mem_cons.1 h
    obtain ⟨members, hmembers, hagree⟩ := ih hrest
    exact ⟨member :: members, by simp [Expr.evalAll, hmember, hmembers],
      .cons hfield hresult hagrees hagree⟩

/-- **Below an object that is null a column is null**, if no object further out is. -/
theorem Leaf.eval_column_of_null {leaf : Leaf} {target name path : String} {guards : List Expr}
    (hguards : ∀ guard ∈ guards, ∃ value, guard.eval table row env = some value ∧ value ≠ .null)
    (hnull : (object.field name).eval table row env = some .null) :
    ((leaf.below ⟨target, .optionalObject, name⟩).column object path guards).expression.eval table
      row env = some .null := by
  obtain ⟨expr, more, hexpr⟩ := leaf.exists_column_expression (.value (object.field name))
    (path ++ target ++ ".") (guards ++ [object.field name])
  rw [List.append_assoc] at hexpr
  exact (congrArg _ hexpr).trans (Expr.eval_guardedByAll_of_null hguards hnull)

namespace Plan

/-- The tuple of the plan shows what the plan makes, for any object that conforms. -/
def TupleAgrees (registry : Registry) (table : String) (row : List (String × Json)) (plan : Plan) :
    Prop :=
  ∀ entries env object mayBeNull result,
    Conforms registry IntegerOnly (.nested plan.source) (.obj entries) →
    plan.IntegersFit (.obj entries) → ObjectRef.Denotes table row env object entries →
    plan.apply registry .integer (.obj entries) = .ok result →
    ∃ value, (plan.toTuple object mayBeNull).eval table row env = some value ∧
      plan.Agrees registry (.obj entries) value result

variable {plan : Plan} {result : Json}

/-- **The assignments of a plan agree** with their expressions, if the tuples of the plans below it
do. -/
theorem exists_assignment_agrees (hclosed : registry.Closed) (h : plan.WellTyped registry)
    (hchildren : ∀ a ∈ plan.assignments, ∀ child, a.feed.child? = some child →
      child.TupleAgrees registry table row)
    (hvalue : Conforms registry IntegerOnly (.nested plan.source) (.obj entries))
    (hintegers : plan.IntegersFit (.obj entries)) (hobject : object.Denotes table row env entries)
    (happly : plan.apply registry .integer (.obj entries) = .ok result) (mayBeNull : Bool) :
    ∃ fields results, registry.fields plan.target = .ok fields ∧ result = .obj results ∧
      ∀ a ∈ plan.assignments, ∃ field result member, findField? fields a.target = some field ∧
        results.lookup a.target = some result ∧
        (a.feed.toExpr object mayBeNull).eval table row env = some member ∧
        a.feed.Agrees registry plan.source entries field member result := by
  obtain ⟨sourceFields, -, hsource, -⟩ := h.level hclosed
  obtain ⟨_, ⟨⟩, hentries⟩ := hvalue.exists_entries hsource
  obtain ⟨hread, hbelow⟩ := hintegers
  obtain ⟨fields, results, hfields, rfl, hresults⟩ := h.exists_results hclosed hsource happly
  refine ⟨fields, results, hfields, rfl, fun a ha ↦ ?_⟩
  obtain ⟨field, out, hfield, htyped, hout, hlookup⟩ := hresults a ha
  have hsources : ∀ child source, a.feed.Applies entries child source →
      ∃ inner, source = .obj inner ∧ ∀ env object mayBeNull result,
        ObjectRef.Denotes table row env object inner →
        child.apply registry .integer source = .ok result →
        ∃ value, (child.toTuple object mayBeNull).eval table row env = some value ∧
          child.Agrees registry source value result := by
    intro child source happlies
    have hchild := happlies.child?_eq
    have hconforms := htyped.feed.conforms_of_applies hentries happlies
    obtain ⟨fields, -, hfields, -⟩ := (h.child ha hchild).level hclosed
    obtain ⟨inner, rfl, -⟩ := hconforms.exists_entries hfields
    refine ⟨inner, rfl, fun env object mayBeNull result ↦ ?_⟩
    exact hchildren a ha child hchild inner env object mayBeNull result hconforms
      (hbelow a ha child _ happlies)
  obtain ⟨member, hmember, hagrees⟩ := htyped.feed.exists_agrees mayBeNull hentries hobject
    (hread a ha) hsources hout
  exact ⟨field, out, member, hfield, hlookup, hmember, hagrees⟩

/-- **The tuple of a well-typed plan shows what the plan makes**, at any level. -/
theorem tupleAgrees (hclosed : registry.Closed) (h : plan.WellTyped registry) :
    plan.TupleAgrees registry table row := by
  induction plan using Plan.induction with
  | step plan ih =>
    intro entries env object mayBeNull result hvalue hintegers hobject happly
    obtain ⟨fields, results, hfields, rfl, hassignments⟩ := exists_assignment_agrees hclosed h
      (fun a ha child hchild ↦ ih a ha child hchild (h.child ha hchild)) hvalue hintegers hobject
      happly mayBeNull
    obtain ⟨members, hmembers, hagree⟩ := exists_membersAgree hassignments
    refine ⟨.tuple members, ?_, .intro hfields hagree⟩
    rw [toTuple_eq, Expr.eval, hmembers]
    rfl

/-! ### Columns -/

/-- **Every column of a well-typed plan shows its leaf**, if no guard of the object is null. -/
theorem exists_column_agrees (hclosed : registry.Closed) (h : plan.WellTyped registry)
    (hvalue : Conforms registry IntegerOnly (.nested plan.source) (.obj entries))
    (hintegers : plan.IntegersFit (.obj entries)) (hobject : object.Denotes table row env entries)
    (happly : plan.apply registry .integer (.obj entries) = .ok result) {guards : List Expr}
    (hguards : ∀ guard ∈ guards, ∃ value, guard.eval table row env = some value ∧ value ≠ .null)
    {leaf : Leaf} (hleaf : leaf ∈ plan.leaves) (path : String) :
    ∃ value, (leaf.column object path guards).expression.eval table row env = some value ∧
      leaf.Agrees registry entries value result := by
  induction plan using Plan.induction generalizing entries object result guards leaf path with
  | step plan ih =>
    obtain ⟨a, ha, hleaf⟩ := mem_leaves_iff.1 hleaf
    cases hleaf with
    | own =>
      obtain ⟨fields, results, hfields, rfl, hassignments⟩ := exists_assignment_agrees hclosed h
        (fun a ha child hchild ↦ tupleAgrees hclosed (h.child ha hchild)) hvalue hintegers hobject
        happly (!guards.isEmpty)
      obtain ⟨field, out, member, hfield, hout, hmember, hagrees⟩ := hassignments a ha
      exact ⟨member, (Expr.eval_guardedByAll hguards).trans hmember,
        .own hfields hfield hout hagrees⟩
    | @below link name child inner hfeed hlink hinner =>
      obtain ⟨sourceFields, -, hsource, -⟩ := h.level hclosed
      obtain ⟨_, ⟨⟩, hentries⟩ := hvalue.exists_entries hsource
      obtain ⟨_, results, -, rfl, hresults⟩ := h.exists_results hclosed hsource happly
      obtain ⟨field, out, -, htyped, hout, hlookup⟩ := hresults a ha
      have hfeedTyped := htyped.feed
      have hname := hobject name
      rw [hfeed] at hfeedTyped hout
      rcases hsome : Json.present? entries name with - | part
      · -- Only an object that may be null is missing, and its guard decides.
        obtain rfl := hfeedTyped.eq_optionalObject_of_none hentries hlink hsome
        rw [Feed.valueFor_optionalObject_of_none hsome] at hout
        cases hout
        rw [hsome] at hname
        exact ⟨.null, Leaf.eval_column_of_null hguards hname, .missing rfl hsome hlookup⟩
      · have happlies : a.feed.Applies entries child part := hfeed ▸ .object hlink hsome
        have hchild := happlies.child?_eq
        have hpart := htyped.feed.conforms_of_applies hentries happlies
        obtain ⟨fields, -, hfields, -⟩ := (h.child ha hchild).level hclosed
        obtain ⟨below, rfl, -⟩ := hpart.exists_entries hfields
        rw [Feed.valueFor_child_of_some hlink hsome] at hout
        rw [hsome] at hname
        have hguards' : ∀ guard ∈ (if link = .optionalObject then guards ++ [object.field name] else
            guards), ∃ value, guard.eval table row env = some value ∧ value ≠ .null := by
          split
          · refine List.forall_mem_append.2 ⟨hguards, List.forall_mem_singleton.2 ⟨_, hname, ?_⟩⟩
            intro hnull
            cases hnull
          · exact hguards
        obtain ⟨_, hfit⟩ := hintegers
        obtain ⟨value, heval, hagrees⟩ := ih a ha child hchild (h.child ha hchild) hpart
          (hfit a ha child _ happlies) (ObjectRef.denotes_value hname) hout hguards' hinner
          (path ++ a.target ++ ".")
        exact ⟨value, heval, .within hsome hlookup hagrees⟩

/-- **The two readings of a plan agree.** On every row that conforms to the source shape, enum
values being given as integers, the plan has a result and no column of its query is stuck. A column
is named by the path to its leaf; it is null exactly where the leaf is missing in the row, and it
shows what stands at the leaf in the result. -/
theorem readings_agree {catalogue : Catalogue} (hregister : catalogue.register = .ok registry)
    {settings : BuildSettings} {source target : String} {plan : Plan}
    (hbuild : between registry settings source target = .ok plan) (hplan : plan.isEmpty = false)
    (query : SelectSource) (halias : Text.isWord query.tableAlias = true)
    (htable : ∀ name, query.table = some name → isTableName name = true)
    {row : List (String × Json)}
    (hrow : Conforms registry IntegerOnly (.nested source) (.obj row))
    (hintegers : plan.IntegersFit (.obj row)) :
    ∃ result select, plan.apply registry .integer (.obj row) = .ok result ∧
      plan.toSelect query = .ok select ∧
      List.Forall₂ (fun (leaf : Leaf) (column : ResultColumn) ↦
          column.name = ".".intercalate leaf.path ∧
          ∃ value, column.expression.eval query.tableAlias row [] = some value ∧
            (value = .null ↔ leaf.IsAbsent row) ∧ leaf.Agrees registry row value result)
        plan.leaves select.columns := by
  have hclosed := Registry.closed_of_register hregister
  have htyped := ofPair_wellTyped hclosed hbuild
  obtain ⟨rfl, -, -⟩ := labels_of_ofPair hbuild
  obtain ⟨result, happly⟩ := exists_apply .integer hclosed htyped
    (hrow.mono fun _ _ ↦ .inl) hintegers
  refine ⟨result, _, happly, toSelect_eq hplan halias htable, ?_⟩
  rw [resultColumns_eq, List.forall₂_map_right_iff, List.forall₂_same]
  intro leaf hleaf
  obtain ⟨value, heval, hagrees⟩ := exists_column_agrees hclosed htyped hrow hintegers
    ObjectRef.denotes_row happly (List.forall_mem_nil _) hleaf ""
  refine ⟨by rw [leaf.column_name, String.empty_append], value, heval, ?_, hagrees⟩
  exact hagrees.null_iff fun link name child ↦ Leaf.eq_collection_of_mem_leaves hleaf

end Plan

end Tuples

end Agreement

/-- The post with its status given as an integer: the columns of the plan for posts all have a
value. -/
theorem Blog.post_readings_agree :
    ∃ result select, postPlan.apply registry .integer (post (.int 0)) = .ok result ∧
      postPlan.toSelect {} = .ok select ∧ select.columns.length = postPlan.leaves.length := by
  obtain ⟨result, select, happly, hselect, hcolumns⟩ := Plan.readings_agree register_eq between_eq
    rfl {} rfl nofun (post_conforms rfl ⟨0, rfl, rfl⟩) (post_integersFit _)
  exact ⟨result, select, happly, hselect, hcolumns.length_eq.symm⟩

end Recast
