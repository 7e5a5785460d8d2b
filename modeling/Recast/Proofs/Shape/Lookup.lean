import Mathlib.Logic.Relation
import Recast.Proofs.Shape.Registered

/-!
# What is accepted, and what lookups answer

The conditions on a catalogue, said of what is written in it. It is *unambiguous* if every name
that is written in it is a word (`Text.Word`) and none is declared twice in its scope; it is
*closed* if every reference is to something declared. Registration accepts a catalogue exactly if it
is both, and the registry then answers for the catalogue and for nothing else
(`Catalogue.register_accepts`): what was declared is found as it was declared, every other name is
unknown, and whoever follows references from a registered shape is never lost.
-/

namespace Recast

/-! ### Words -/

namespace Text

/-- A letter of ASCII. -/
def IsLetter (c : Char) : Prop := ('A' ≤ c ∧ c ≤ 'Z') ∨ ('a' ≤ c ∧ c ≤ 'z')

/-- A digit of ASCII. -/
def IsDigit (c : Char) : Prop := '0' ≤ c ∧ c ≤ '9'

/-- The text matches `[A-Za-z_][A-Za-z0-9_]*`. -/
def Word (text : String) : Prop :=
  ∃ first rest, text.toList = first :: rest ∧ (IsLetter first ∨ first = '_') ∧
    ∀ c ∈ rest, IsLetter c ∨ IsDigit c ∨ c = '_'

theorem isAlpha_iff {c : Char} : c.isAlpha = true ↔ IsLetter c := by
  show (decide (c.val ≥ 'A'.val ∧ c.val ≤ 'Z'.val) ||
    (decide (c.val ≥ 'a'.val) && decide (c.val ≤ 'z'.val))) = true ↔ IsLetter c
  simp [IsLetter, Char.le_def]

theorem isDigit_iff {c : Char} : c.isDigit = true ↔ IsDigit c := by
  simp [Char.isDigit, IsDigit, Char.le_def]

theorem isWord_iff {text : String} : isWord text = true ↔ Word text := by
  rw [isWord, Word]
  rcases text.toList with - | ⟨first, rest⟩
  · simp
  · simp [isWordStart, isWordChar, Char.isAlphanum, isAlpha_iff, isDigit_iff, or_assoc]

end Text

/-! ### The conditions -/

/-- The names that an enum is declared with. -/
def EnumType.names (type : EnumType) : List String := type.name :: type.members.map (·.name)

/-- The steps that an override names. -/
def Override.names (override : Override) : List String :=
  override.field :: override.subfield.toList

/-- The names that a field is declared with. -/
def Field.names (field : Field) : List String :=
  field.name :: field.override.toList.flatMap Override.names

/-- The names that a shape is declared with. -/
def Shape.names (shape : Shape) : List String := shape.name :: shape.fields.flatMap Field.names

namespace Catalogue

/-- The names that are written in the declarations, apart from references. -/
def names (catalogue : Catalogue) : List String :=
  catalogue.enums.flatMap EnumType.names ++ catalogue.shapes.flatMap Shape.names

/-- All names are words, and none is declared twice in its scope. -/
structure Unambiguous (catalogue : Catalogue) : Prop where
  words : ∀ name ∈ catalogue.names, Text.Word name
  enums : (catalogue.enums.map (·.name)).Nodup
  members : ∀ type ∈ catalogue.enums, (type.members.map (·.name)).Nodup
  shapes : (catalogue.shapes.map (·.name)).Nodup
  fields : ∀ shape ∈ catalogue.shapes, (shape.fields.map (·.name)).Nodup

/-- Every field refers to something declared. -/
def Closed (catalogue : Catalogue) : Prop :=
  ∀ shape ∈ catalogue.shapes, ∀ field ∈ shape.fields, catalogue.Declares field.kind

end Catalogue

theorem Override.wellFormed_iff {override : Override} :
    override.WellFormed ↔ ∀ name ∈ override.names, Text.Word name := by
  simp [Override.WellFormed, Override.names, Text.isWord_iff]

theorem EnumType.wellFormed_iff {type : EnumType} :
    type.WellFormed ↔
      (∀ name ∈ type.names, Text.Word name) ∧ (type.members.map (·.name)).Nodup := by
  simp only [EnumType.names, List.forall_mem_cons, List.forall_mem_map, ← Text.isWord_iff]
  exact ⟨fun ⟨hname, hwords, hnodup⟩ ↦ ⟨⟨hname, hwords⟩, hnodup⟩,
    fun ⟨⟨hname, hwords⟩, hnodup⟩ ↦ ⟨hname, hwords, hnodup⟩⟩

theorem Shape.wellFormed_iff {shape : Shape} :
    shape.WellFormed ↔ (∀ name ∈ shape.names, Text.Word name) ∧
      (shape.fields.map (·.name)).Nodup := by
  have hfield : ∀ field : Field, (∀ name ∈ field.names, Text.Word name) ↔
      Text.Word field.name ∧ ∀ o, field.override = some o → o.WellFormed := by
    intro field
    rcases h : field.override with - | override <;> simp [Field.names, h, Override.wellFormed_iff]
  simp only [Shape.names, List.forall_mem_cons, List.forall_mem_flatMap, hfield]
  constructor
  · rintro ⟨hname, hfields, hoverrides, hnodup⟩
    exact ⟨⟨Text.isWord_iff.1 hname, fun field h ↦
      ⟨Text.isWord_iff.1 (hfields field h), hoverrides field h⟩⟩, hnodup⟩
  · rintro ⟨⟨hname, hfields⟩, hnodup⟩
    exact ⟨Text.isWord_iff.2 hname, fun field h ↦ Text.isWord_iff.2 (hfields field h).1,
      fun field h ↦ (hfields field h).2, hnodup⟩

/-- The passes of registration check that the catalogue is unambiguous, and then that it is
closed. -/
theorem Catalogue.wellFormed_iff {catalogue : Catalogue} :
    catalogue.WellFormed ↔ catalogue.Unambiguous ∧ catalogue.Closed := by
  constructor
  · rintro ⟨henums, henumNames, hshapes, hshapeNames, hreferences⟩
    have hwords : ∀ name ∈ catalogue.names, Text.Word name := by
      simp only [Catalogue.names, List.forall_mem_append, List.forall_mem_flatMap]
      exact ⟨fun type h ↦ (EnumType.wellFormed_iff.1 (henums type h)).1,
        fun shape h ↦ (Shape.wellFormed_iff.1 (hshapes shape h)).1⟩
    exact ⟨⟨hwords, henumNames, fun type h ↦ (henums type h).member_nodup, hshapeNames,
      fun shape h ↦ (hshapes shape h).field_nodup⟩, hreferences⟩
  · rintro ⟨⟨hwords, henums, hmembers, hshapes, hfields⟩, hclosed⟩
    simp only [Catalogue.names, List.forall_mem_append, List.forall_mem_flatMap] at hwords
    exact ⟨fun type h ↦ EnumType.wellFormed_iff.2 ⟨hwords.1 type h, hmembers type h⟩, henums,
      fun shape h ↦ Shape.wellFormed_iff.2 ⟨hwords.2 shape h, hfields shape h⟩, hshapes, hclosed⟩

/-! ### The answers -/

namespace Registry

variable {registry : Registry}

/-- A field of the first shape holds objects of the second. -/
def Refers (registry : Registry) (name other : String) : Prop :=
  ∃ shape, registry.shape name = .ok shape ∧
    ∃ field ∈ shape.fields, field.kind = .nested other ∨ field.kind = .collection other

/-- The registry answers for the declarations, and for nothing else. -/
structure AnswersFor (registry : Registry) (catalogue : Catalogue) : Prop where
  shape_declared : ∀ shape ∈ catalogue.shapes, registry.shape shape.name = .ok shape
  shape_unknown : ∀ name, name ∉ catalogue.shapes.map (·.name) →
    registry.shape name = .error (.unknownShape name)
  enum_declared : ∀ type ∈ catalogue.enums, registry.enumType type.name = .ok type
  enum_unknown : ∀ name, name ∉ catalogue.enums.map (·.name) →
    registry.enumType name = .error (.unknownEnum name)
  shapeNames : registry.shapeNames = catalogue.shapes.map (·.name)
  /-- Wherever references lead from a registered shape, a shape is found, and so is every enum that
  it refers to. -/
  followed : ∀ name ∈ registry.shapeNames, ∀ other,
    Relation.ReflTransGen registry.Refers name other →
      ∃ shape, registry.shape other = .ok shape ∧ ∀ field ∈ shape.fields, ∀ enumeration,
        field.kind = .enumeration enumeration → ∃ type, registry.enumType enumeration = .ok type

theorem shape_eq_ok_iff (hnodup : registry.shapeNames.Nodup) {name : String} {shape : Shape} :
    registry.shape name = .ok shape ↔ shape ∈ registry.shapes ∧ shape.name = name := by
  rw [← find?_key_eq_some_iff hnodup, Registry.shape]
  split <;> simp [*]

theorem shape_eq_of_notMem {name : String} (h : name ∉ registry.shapeNames) :
    registry.shape name = .error (.unknownShape name) := by
  have hnone : registry.shapes.find? (fun shape ↦ shape.name = name) = none := by
    simpa [shapeNames] using h
  simp [Registry.shape, hnone]

theorem enumType_eq_ok_iff (hnodup : (registry.enums.map (·.name)).Nodup) {name : String}
    {type : EnumType} :
    registry.enumType name = .ok type ↔ type ∈ registry.enums ∧ type.name = name := by
  rw [← find?_key_eq_some_iff hnodup, enumType]
  split <;> simp [*]

theorem enumType_eq_of_notMem {name : String} (h : name ∉ registry.enums.map (·.name)) :
    registry.enumType name = .error (.unknownEnum name) := by
  have hnone : registry.enums.find? (fun type ↦ type.name = name) = none := by simpa using h
  simp [enumType, hnone]

/-- Every enum that is found was declared. -/
theorem mem_enums_of_register {catalogue : Catalogue} (hregister : catalogue.register = .ok registry)
    {name : String} {type : EnumType} (h : registry.enumType name = .ok type) :
    type ∈ catalogue.enums := by
  obtain ⟨hwf, rfl⟩ := register_eq_ok_iff.1 hregister
  exact ((enumType_eq_ok_iff (by exact hwf.enum_nodup)).1 h).1

/-- A shape that is found has its fields, and the other way round. -/
theorem exists_shape_iff {name : String} :
    (∃ shape, registry.shape name = .ok shape) ↔ ∃ fields, registry.fields name = .ok fields := by
  simp [fields]

/-- **Whoever follows references from a registered shape arrives at registered shapes.** -/
theorem Closed.exists_shape_of_refers (hclosed : registry.Closed) {name other : String}
    (hname : ∃ shape, registry.shape name = .ok shape)
    (h : Relation.ReflTransGen registry.Refers name other) :
    ∃ shape, registry.shape other = .ok shape := by
  induction h with
  | refl => exact hname
  | tail _ hrefers _ =>
    obtain ⟨shape, hshape, field, hfield, hkind⟩ := hrefers
    rw [exists_shape_iff]
    exact hclosed.exists_fields (map_eq_ok_iff.2 ⟨shape, hshape, rfl⟩) hfield hkind

/-- The registry of a catalogue answers for it. -/
theorem answersFor_of_register {catalogue : Catalogue} (h : catalogue.register = .ok registry) :
    registry.AnswersFor catalogue := by
  have hclosed := closed_of_register h
  obtain ⟨hwf, heq⟩ := register_eq_ok_iff.1 h
  have hshapes : registry.shapes = catalogue.shapes := congrArg Registry.shapes heq
  have henums : registry.enums = catalogue.enums := congrArg Registry.enums heq
  have hshape : ∀ shape ∈ catalogue.shapes, registry.shape shape.name = .ok shape := by
    rw [← hshapes]
    exact fun shape h ↦ (shape_eq_ok_iff (by rw [shapeNames, hshapes]; exact hwf.shape_nodup)).2
      ⟨h, rfl⟩
  have henum : ∀ type ∈ catalogue.enums, registry.enumType type.name = .ok type := by
    rw [← henums]
    exact fun type h ↦ (enumType_eq_ok_iff (by rw [henums]; exact hwf.enum_nodup)).2 ⟨h, rfl⟩
  refine ⟨hshape, ?_, henum, ?_, by rw [shapeNames, hshapes], fun name hname other hother ↦ ?_⟩
  · rw [← hshapes]
    exact fun name ↦ shape_eq_of_notMem
  · rw [← henums]
    exact fun name ↦ enumType_eq_of_notMem
  · rw [shapeNames, hshapes] at hname
    obtain ⟨declared, hdeclared, rfl⟩ := List.mem_map.1 hname
    obtain ⟨shape, hfound⟩ :=
      hclosed.exists_shape_of_refers ⟨declared, hshape declared hdeclared⟩ hother
    refine ⟨shape, hfound, fun field hfield enumeration hkind ↦ ?_⟩
    have hresolves := hclosed.resolves (map_eq_ok_iff.2 ⟨shape, hfound, rfl⟩) field hfield
    simpa [hkind, Resolves] using hresolves

end Registry

/-- **Registration accepts exactly the closed, unambiguous catalogues**, and what is registered
answers for the declarations: they are found as they were declared, and listed in their order, no
other name is known, and references never lead astray. -/
theorem Catalogue.register_accepts (catalogue : Catalogue) :
    ((∃ registry, catalogue.register = .ok registry) ↔
      catalogue.Unambiguous ∧ catalogue.Closed) ∧
    ∀ registry, catalogue.register = .ok registry → registry.AnswersFor catalogue := by
  refine ⟨?_, fun registry ↦ Registry.answersFor_of_register⟩
  simp only [register_eq_ok_iff, exists_and_left, exists_eq, and_true]
  exact Catalogue.wellFormed_iff

/-! ### A list -/

namespace Chain

/-- A list: each node has a colour and perhaps a next node. -/
def node : Shape := ⟨"Node", [
  { name := "Colour", kind := .enumeration "Colour" },
  { name := "Next", kind := .nested "Node", nullable := true }]⟩

/-- The declarations of a list. -/
def catalogue : Catalogue := ⟨"chain", [⟨"Colour", [⟨"Red", 0⟩, ⟨"Black", 1⟩]⟩], [node]⟩

/-- A list is registered: its nodes are found, with their colours, and nothing else is. -/
theorem node_found :
    catalogue.Unambiguous ∧ catalogue.Closed ∧
    ∃ registry, catalogue.register = .ok registry ∧ registry.shape "Node" = .ok node ∧
      registry.shape "Edge" = .error (.unknownShape "Edge") ∧
      Relation.ReflTransGen registry.Refers "Node" "Node" ∧
      ∃ type, registry.enumType "Colour" = .ok type := by
  obtain ⟨haccepts, hanswers⟩ := Catalogue.register_accepts catalogue
  have hregister : catalogue.register = .ok ⟨"chain", catalogue.enums, [node]⟩ := by
    with_unfolding_all rfl
  obtain ⟨hunambiguous, hclosed⟩ := haccepts.1 ⟨_, hregister⟩
  have h := hanswers _ hregister
  have hshape := h.shape_declared node List.mem_cons_self
  have hrefers : Registry.Refers ⟨"chain", catalogue.enums, [node]⟩ "Node" "Node" :=
    ⟨node, hshape, _, List.mem_cons_of_mem _ List.mem_cons_self, .inl rfl⟩
  obtain ⟨shape, hfound, hcolour⟩ :=
    h.followed "Node" (by decide) "Node" (.single hrefers)
  cases hshape.symm.trans hfound
  exact ⟨hunambiguous, hclosed, _, hregister, hshape, h.shape_unknown "Edge" (by decide),
    .single hrefers, hcolour _ List.mem_cons_self "Colour" rfl⟩

end Chain

end Recast
