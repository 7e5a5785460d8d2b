import Recast.Proofs.Instance.Conforming
import Recast.Proofs.Plan.Nodes

/-!
# Integers that become enum values

An enum value is written as the integer that was read. The construction lets an enum be fed from an
enum or from any integer field, and what is carried is a signed word of sixty-four bits. These two
widths meet in every integer type but one: the upper half of the unsigned integers of sixty-four
bits is admitted by the construction and refused by the application.

So an integer of the type that is read is written as it is exactly if it fits a signed word
(`Plan.enumeration_exact`), at every node of a compiled plan and along every path; and it fits
unless the field is of the widest unsigned type (`Scalar.fitsInt64_of_hasInteger`).
-/

namespace Recast

section EnumValue

/-! ### The integers of a type -/

/-- The integers that a scalar type has, by its width and its sign. -/
def Scalar.HasInteger : Scalar → Int → Prop
  | .int8, n => -0x80 ≤ n ∧ n < 0x80
  | .int16, n => -0x8000 ≤ n ∧ n < 0x8000
  | .int32, n => -0x80000000 ≤ n ∧ n < 0x80000000
  | .int64, n => -0x8000000000000000 ≤ n ∧ n < 0x8000000000000000
  | .uint8, n => 0 ≤ n ∧ n < 0x100
  | .uint16, n => 0 ≤ n ∧ n < 0x10000
  | .uint32, n => 0 ≤ n ∧ n < 0x100000000
  | .uint64, n => 0 ≤ n ∧ n < 0x10000000000000000
  | _, _ => False

/-- The integers that stand for a value of a kind. Those of an enum are signed words. -/
def FieldKind.HasInteger : FieldKind → Int → Prop
  | .scalar type, n => type.HasInteger n
  | .enumeration _, n => -0x8000000000000000 ≤ n ∧ n < 0x8000000000000000
  | _, _ => False

/-- An integer of any type but the widest unsigned one fits a signed word. -/
theorem Scalar.fitsInt64_of_hasInteger {type : Scalar} {n : Int} (h : type.HasInteger n)
    (hne : type ≠ .uint64) : fitsInt64 n = true := by
  rw [fitsInt64_iff]
  cases type <;> simp only [HasInteger] at h <;> first | omega | exact absurd rfl hne

/-- An integer of a kind that does not fit a signed word is one of the widest unsigned type. -/
theorem FieldKind.eq_uint64_of_not_fitsInt64 {kind : FieldKind} {n : Int} (h : kind.HasInteger n)
    (hn : fitsInt64 n = false) : kind = .scalar .uint64 := by
  cases kind with
  | scalar type =>
    by_contra hne
    rw [Scalar.fitsInt64_of_hasInteger h fun htype ↦ hne (htype ▸ rfl)] at hn
    cases hn
  | enumeration name =>
    rw [fitsInt64_iff.2 h] at hn
    cases hn
  | nested => exact h.elim
  | collection => exact h.elim

/-! ### Reading an integer -/

variable {registry : Registry} {settings : BuildSettings} {source target : String}
  {plan node : Plan} {entries : List (String × Json)}

/-- An integer is converted as a signed word, whatever the enums are. -/
theorem convert_int (registry : Registry) (path : Path) (source? : Option String)
    (enumeration : String) (n : Int) :
    convert registry .integer path (.enumeration source? enumeration) (.int n) =
      if fitsInt64 n then .ok (.int n) else .error (.invalidEnumValue path.render (.int n)) := by
  rw [convert, underlying_int]
  split <;> rfl

namespace Plan

/-- What an enum is fed from, by the typing of its feed. -/
theorem exists_leaf_of_enumeration {sourceFields : List Field} {field : Field} {path : Path}
    {source? : Option String} {enumeration : String}
    (h : (Feed.value path (.enumeration source? enumeration)).Typed registry sourceFields field) :
    ∃ leaf, path.Leads registry sourceFields leaf ∧
      ((∃ name, leaf.kind = .enumeration name ∧ source? = some name) ∨
        ∃ type, leaf.kind = .scalar type ∧ type.isInteger = true ∧ source? = none) := by
  obtain @⟨_, leaf, _, hpath, hfits⟩ := h
  refine ⟨leaf, hpath, ?_⟩
  obtain ⟨name, kind, nullable, override⟩ := leaf
  dsimp only at hfits ⊢
  generalize field.kind = fieldKind at hfits
  cases hfits with
  | enumeration => exact .inl ⟨_, rfl, rfl⟩
  | integer hinteger => exact .inr ⟨_, rfl, hinteger, rfl⟩

/-- **An integer of the type that is read becomes an enum value exactly if it is a signed word.** At
every node of a compiled plan, an enum is fed from an enum or from an integer field. Of the integers
of that field's type, those that fit a signed word are written as they are, and the assignment never
fails on them; the others, which only the widest unsigned type has, are refused. -/
theorem enumeration_exact {catalogue : Catalogue} (hregister : catalogue.register = .ok registry)
    (hbuild : between registry settings source target = .ok plan) (hnode : plan.HasNode node)
    {assignment : Assignment Plan} (ha : assignment ∈ node.assignments) {path : Path}
    {source? : Option String} {enumeration : String}
    (hfeed : assignment.feed = .value path (.enumeration source? enumeration)) :
    ∃ sourceFields leaf, registry.fields node.source = .ok sourceFields ∧
      path.Leads registry sourceFields leaf ∧
      ((∃ name, leaf.kind = .enumeration name ∧ source? = some name) ∨
        ∃ type, leaf.kind = .scalar type ∧ type.isInteger = true ∧ source? = none) ∧
      ∀ entries n, followSteps node.source entries path.steps = .ok (some (.int n)) →
        leaf.kind.HasInteger n →
        (fitsInt64 n = true →
          (∀ field, assignment.feed.valueFor registry .integer node.source entries field =
            .ok (.int n)) ∧
          ∀ result, node.apply registry .integer (.obj entries) = .ok result →
            ∃ results, result = .obj results ∧ results.lookup assignment.target = some (.int n)) ∧
        (fitsInt64 n = false → leaf.kind = .scalar .uint64 ∧
          (∀ field, assignment.feed.valueFor registry .integer node.source entries field =
            .error (.invalidEnumValue path.render (.int n))) ∧
          ∀ result, node.apply registry .integer (.obj entries) ≠ .ok result) := by
  have hclosed := Registry.closed_of_register hregister
  have htyped := ofPair_wellTyped hclosed (ofPair_of_hasNode hbuild hnode)
  obtain ⟨sourceFields, targetFields, hsource, -, -, hlevel⟩ := htyped.level hclosed
  obtain ⟨field, -, -, hassignment⟩ := hlevel assignment ha
  obtain ⟨leaf, hpath, hkind⟩ := exists_leaf_of_enumeration (hfeed ▸ hassignment.feed)
  refine ⟨sourceFields, leaf, hsource, hpath, hkind, fun entries n hread hn ↦ ?_⟩
  have hvalue : ∀ field, assignment.feed.valueFor registry .integer node.source entries field =
      if fitsInt64 n then .ok (.int n) else .error (.invalidEnumValue path.render (.int n)) := by
    intro field
    rw [hfeed, Feed.valueFor_value_of_some field hread, convert_int]
  -- A result holds what the assignment gives, so there is none if it gives nothing.
  have hresult : ∀ result, node.apply registry .integer (.obj entries) = .ok result →
      ∃ results field value, result = .obj results ∧
        assignment.feed.valueFor registry .integer node.source entries field = .ok value ∧
        results.lookup assignment.target = some value := by
    intro result happly
    obtain ⟨fields, results, -, rfl, hresults⟩ := htyped.exists_results hclosed hsource happly
    obtain ⟨field, value, -, -, hgiven, hlookup⟩ := hresults assignment ha
    exact ⟨results, field, value, rfl, hgiven, hlookup⟩
  constructor
  · intro hfits
    simp only [hfits, if_true] at hvalue
    refine ⟨hvalue, fun result happly ↦ ?_⟩
    obtain ⟨results, field, value, rfl, hgiven, hlookup⟩ := hresult result happly
    cases (hvalue field).symm.trans hgiven
    exact ⟨results, rfl, hlookup⟩
  · intro hfits
    simp only [hfits, Bool.false_eq_true, if_false] at hvalue
    refine ⟨FieldKind.eq_uint64_of_not_fitsInt64 hn hfits, hvalue, fun result happly ↦ ?_⟩
    obtain ⟨-, field, value, -, hgiven, -⟩ := hresult result happly
    cases (hvalue field).symm.trans hgiven

end Plan

end EnumValue

namespace Blog

/-- A parent whose status is the greatest signed word. -/
def parentEntries : List (String × Json) := [("Id", .int 1), ("Status", .int 9223372036854775807)]

/-- The status of a parent is written as it is, up to the greatest signed word. -/
theorem parent_state_written :
    postPlan.HasNode ⟨"Post", "PostView", 2, postValues⟩ ∧
    followSteps "Post" parentEntries [⟨"Status", false⟩] =
      .ok (some (.int 9223372036854775807)) ∧
    ∃ results, (⟨"Post", "PostView", 2, postValues⟩ : Plan).apply registry .integer
        (.obj parentEntries) = .ok (.obj results) ∧
      results.lookup "State" = some (.int 9223372036854775807) := by
  have hnode : postPlan.HasNode ⟨"Post", "PostView", 2, postValues⟩ :=
    .single ⟨⟨"Parent", .structural, .child .optionalObject "Parent"
      ⟨"Post", "PostView", 2, postValues⟩⟩, by simp [postPlan], rfl⟩
  have hread : followSteps "Post" parentEntries [⟨"Status", false⟩] =
      .ok (some (.int 9223372036854775807)) := by
    with_unfolding_all rfl
  obtain ⟨result, happly⟩ : ∃ result, (⟨"Post", "PostView", 2, postValues⟩ : Plan).apply registry
      .integer (.obj parentEntries) = .ok result := ⟨_, by with_unfolding_all rfl⟩
  obtain ⟨-, leaf, -, -, hkind, hexact⟩ := Plan.enumeration_exact register_eq between_eq hnode
    (List.mem_cons_of_mem _ List.mem_cons_self) rfl
  obtain ⟨name, hname, -⟩ | ⟨-, -, -, ⟨⟩⟩ := hkind
  have hinteger : leaf.kind.HasInteger 9223372036854775807 := by
    rw [hname]
    exact ⟨by decide, by decide⟩
  obtain ⟨results, rfl, hlookup⟩ :=
    ((hexact parentEntries _ hread hinteger).1 (by decide)).2 result happly
  exact ⟨hnode, hread, results, happly, hlookup⟩

end Blog

namespace Meter

/-- Meters count in unsigned words of sixty-four bits, and a view shows the count as a level. -/
def catalogue : Catalogue := ⟨"meter", [⟨"Level", [⟨"Empty", 0⟩]⟩], [
  ⟨"Meter", [{ name := "Count", kind := .scalar .uint64 }]⟩,
  ⟨"MeterView", [{ name := "Count", kind := .enumeration "Level" }]⟩]⟩

/-- The plan for meters reads the count into the level. -/
def plan : Plan := ⟨"Meter", "MeterView", 1, [
  ⟨"Count", .structural, .value (.single "Count" false) (.enumeration none "Level")⟩]⟩

/-- A count in the upper half of its type is admitted by the construction and refused when the plan
is applied, although the meter has every field that its shape declares. -/
theorem count_refused :
    ∃ registry, catalogue.register = .ok registry ∧
      Plan.between registry ⟨⟨1, 3, 2, 16⟩, false⟩ "Meter" "MeterView" = .ok plan ∧
      (FieldKind.scalar .uint64).HasInteger 9223372036854775808 ∧
      Conforms registry IntegerOnly (.nested "Meter")
        (.obj [("Count", .int 9223372036854775808)]) ∧
      plan.apply registry .integer (.obj [("Count", .int 9223372036854775808)]) =
        .error (.invalidEnumValue "Count" (.int 9223372036854775808)) := by
  refine ⟨⟨"meter", catalogue.enums, catalogue.shapes⟩, ?_, ?_, ?_, ?_, ?_⟩
  · with_unfolding_all rfl
  · with_unfolding_all rfl
  · exact ⟨by decide, by decide⟩
  · exact .of_fields rfl (List.forall_mem_singleton.2 (.inr ⟨_, rfl, .scalar⟩))
  · with_unfolding_all rfl

end Meter

end Recast
