import Mathlib.Data.List.Pairwise
import Recast.Proofs.Shape.Lookup
import Recast.Shape.Declaration

/-!
# Declared and registered

A catalogue can be declared, with fields that name their kinds by texts, or it can be given as it is.
The two ways stay in step. A declared field is *sound* if it gives exactly one kind and its type
name, if it gives one, is a known spelling; then it stands for one field (`FieldDeclaration.Means`).
If all fields are sound the declarations stand for one catalogue, and registering them is
registering it. Otherwise the error is that of the first field in the file that is not sound, and
nothing is registered (`Declarations.register_iff`).

Each level is decided by the one below: a declared field has an outcome of its own
(`FieldDeclaration.resolve_eq_ok_iff`, `resolve_eq_error_iff`), and a traversal fails exactly at its
first element that does (`mapM_eq_error_iff`), which is used twice, for the fields of a shape and for
the shapes.
-/

namespace Recast

/-! ### Spellings -/

/-- The text names the type, once blanks at its ends and letter case are ignored. -/
def Scalar.SpelledBy (type : Scalar) (text : String) : Prop :=
  String.ofList ((Text.trim text.toList).map Char.toLower) ∈ type.spellings

instance (type : Scalar) (text : String) : Decidable (type.SpelledBy text) :=
  inferInstanceAs (Decidable (_ ∈ _))

theorem Scalar.mem_all (type : Scalar) : type ∈ all := by
  cases type <;> decide

/-- **No text names two types.** -/
theorem Scalar.SpelledBy.unique {text : String} {type other : Scalar} (h : type.SpelledBy text)
    (hother : other.SpelledBy text) : type = other := by
  by_contra hne
  have : Std.Symm (Function.onFun List.Disjoint spellings) := ⟨fun _ _ h _ ha hb ↦ h hb ha⟩
  have hdisjoint := (List.nodup_flatMap.1 spellings_nodup).2
  exact hdisjoint.forall type.mem_all other.mem_all hne h hother

theorem Scalar.ofSpelling?_eq_some_iff {text : String} {type : Scalar} :
    ofSpelling? text = some type ↔ type.SpelledBy text := by
  constructor
  · intro h
    simpa [SpelledBy] using List.find?_some h
  · intro h
    rcases hfound : ofSpelling? text with - | other
    · exact absurd h (by simpa [SpelledBy] using List.find?_eq_none.1 hfound type type.mem_all)
    · have hother : other.SpelledBy text := by simpa [SpelledBy] using List.find?_some hfound
      rw [hother.unique h]

/-! ### Fields -/

namespace FieldDeclaration

variable {field : FieldDeclaration} {shape : String} {error : CatalogueError}

/-- How many of the four kinds a field gives. -/
def kindCount (field : FieldDeclaration) : Nat :=
  [field.scalar, field.enumeration, field.shape, field.collection].countP (·.isSome)

/-- The type name of the field is known, if it gives one. -/
def KnowsScalar (field : FieldDeclaration) : Prop :=
  ∀ text, field.scalar = some text → ∃ type : Scalar, type.SpelledBy text

/-- The field gives the kind. -/
inductive Gives (field : FieldDeclaration) : FieldKind → Prop
  | scalar {text : String} {type : Scalar} (hgiven : field.scalar = some text)
      (htype : type.SpelledBy text) : Gives field (.scalar type)
  | enumeration {name : String} (hgiven : field.enumeration = some name) :
      Gives field (.enumeration name)
  | nested {name : String} (hgiven : field.shape = some name) : Gives field (.nested name)
  | collection {name : String} (hgiven : field.collection = some name) :
      Gives field (.collection name)

/-- The field gives exactly one kind, and a known one. -/
structure Sound (field : FieldDeclaration) : Prop where
  known : field.KnowsScalar
  one : field.kindCount = 1

/-- What is wrong with a field that is not sound. An unknown type name comes before the number of
kinds. -/
inductive Faults (shape : String) (field : FieldDeclaration) : CatalogueError → Prop
  | unknownScalar {text : String} (hgiven : field.scalar = some text)
      (hunknown : ∀ type : Scalar, ¬ type.SpelledBy text) :
      Faults shape field (.unknownScalar text)
  | kindCount (hknown : field.KnowsScalar) (hcount : field.kindCount ≠ 1) :
      Faults shape field (.kindCount shape field.name field.kindCount)

/-- The field is sound and stands for the other: it gives its kind, and has the same name, the same
nullability and the same override. -/
structure Means (field : FieldDeclaration) (result : Field) : Prop where
  sound : field.Sound
  kind : field.Gives result.kind
  name : result.name = field.name
  nullable : result.nullable = field.nullable
  override : result.override = field.override

/-- The kinds that a field gives, a type name being one only if it is known. -/
def given (field : FieldDeclaration) : List FieldKind :=
  ((field.scalar.bind Scalar.ofSpelling?).map FieldKind.scalar).toList ++
    (field.enumeration.map FieldKind.enumeration).toList ++
    (field.shape.map FieldKind.nested).toList ++ (field.collection.map FieldKind.collection).toList

theorem mem_given_iff {kind : FieldKind} : kind ∈ field.given ↔ field.Gives kind := by
  simp only [given, List.mem_append, Option.mem_toList, Option.map_eq_some_iff,
    Option.bind_eq_some_iff, Scalar.ofSpelling?_eq_some_iff]
  constructor
  · rintro (((⟨type, ⟨text, hgiven, htype⟩, rfl⟩ | ⟨name, hgiven, rfl⟩) | ⟨name, hgiven, rfl⟩) |
      ⟨name, hgiven, rfl⟩)
    · exact .scalar hgiven htype
    · exact .enumeration hgiven
    · exact .nested hgiven
    · exact .collection hgiven
  · rintro (⟨hgiven, htype⟩ | hgiven | hgiven | hgiven)
    · exact .inl (.inl (.inl ⟨_, ⟨_, hgiven, htype⟩, rfl⟩))
    · exact .inl (.inl (.inr ⟨_, hgiven, rfl⟩))
    · exact .inl (.inr ⟨_, hgiven, rfl⟩)
    · exact .inr ⟨_, hgiven, rfl⟩

/-- A known type name counts as a kind and is looked up as one. -/
theorem KnowsScalar.kinds_eq (h : field.KnowsScalar) :
    field.kinds = .ok field.given ∧ field.given.length = field.kindCount := by
  obtain ⟨name, scalar, enumeration, shape, collection, nullable, override⟩ := field
  have hlength : ∀ {α β : Type} (f : α → β) (x : Option α),
      (x.map f).toList.length = if x.isSome then 1 else 0 := by
    rintro α β f (- | a) <;> rfl
  cases scalar with
  | none =>
    refine ⟨rfl, ?_⟩
    simp [given, kindCount, List.countP_cons, hlength]
    omega
  | some text =>
    obtain ⟨type, htype⟩ := h text rfl
    have hfound := Scalar.ofSpelling?_eq_some_iff.2 htype
    constructor
    · simp [kinds, given, hfound]
    · simp [given, kindCount, List.countP_cons, hlength, hfound]
      omega

theorem kinds_eq_error {text : String} (hgiven : field.scalar = some text)
    (hunknown : ∀ type : Scalar, ¬ type.SpelledBy text) :
    field.kinds = .error (.unknownScalar text) := by
  have hnone : Scalar.ofSpelling? text = none :=
    Option.eq_none_iff_forall_ne_some.2 fun type htype ↦
      hunknown type (Scalar.ofSpelling?_eq_some_iff.1 htype)
  rw [kinds, hgiven]
  simp only [hnone]
  rfl

/-- The kind that a sound field gives is the only one. -/
theorem Sound.exists_given (h : field.Sound) :
    ∃ kind, field.kinds = .ok [kind] ∧ ∀ other, field.Gives other ↔ other = kind := by
  obtain ⟨hkinds, hlength⟩ := h.known.kinds_eq
  obtain ⟨kind, hkind⟩ := List.length_eq_one_iff.1 (hlength.trans h.one)
  refine ⟨kind, hkind ▸ hkinds, fun other ↦ ?_⟩
  rw [← mem_given_iff, hkind, List.mem_singleton]

/-- **A sound field stands for some field.** -/
theorem exists_means_iff : (∃ result, field.Means result) ↔ field.Sound := by
  constructor
  · exact fun ⟨_, h⟩ ↦ h.sound
  · intro h
    obtain ⟨kind, -, hkind⟩ := h.exists_given
    exact ⟨⟨field.name, kind, field.nullable, field.override⟩, h, (hkind kind).2 rfl, rfl, rfl, rfl⟩

theorem Means.resolve_eq {result : Field} (h : field.Means result) (shape : String) :
    field.resolve shape = .ok result := by
  obtain ⟨kind, hkinds, hkind⟩ := h.sound.exists_given
  obtain ⟨name, resultKind, nullable, override⟩ := result
  obtain ⟨-, hgives, rfl, rfl, rfl⟩ := h
  obtain rfl := (hkind _).1 hgives
  rw [resolve, hkinds]
  rfl

theorem Faults.resolve_eq (h : field.Faults shape error) : field.resolve shape = .error error := by
  cases h with
  | unknownScalar hgiven hunknown =>
    rw [resolve, kinds_eq_error hgiven hunknown]
    rfl
  | kindCount hknown hcount =>
    obtain ⟨hkinds, hlength⟩ := hknown.kinds_eq
    rw [← hlength] at hcount ⊢
    rw [resolve, hkinds]
    generalize field.given = kinds at hcount ⊢
    rcases kinds with - | ⟨kind, - | ⟨other, rest⟩⟩
    · rfl
    · exact absurd rfl hcount
    · rfl

/-- A field that is not sound is faulty. -/
theorem exists_faults (shape : String) (h : ¬ field.Sound) :
    ∃ error, field.Faults shape error := by
  by_cases hknown : field.KnowsScalar
  · exact ⟨_, .kindCount hknown fun hone ↦ h ⟨hknown, hone⟩⟩
  · simp only [KnowsScalar, not_forall, not_exists] at hknown
    obtain ⟨text, hgiven, hunknown⟩ := hknown
    exact ⟨_, .unknownScalar hgiven hunknown⟩

/-- **A declared field gives the field that it stands for**, if it is sound. -/
theorem resolve_eq_ok_iff {result : Field} :
    field.resolve shape = .ok result ↔ field.Means result := by
  refine ⟨fun h ↦ ?_, fun h ↦ h.resolve_eq shape⟩
  by_cases hsound : field.Sound
  · obtain ⟨other, hother⟩ := exists_means_iff.2 hsound
    cases (hother.resolve_eq shape).symm.trans h
    exact hother
  · obtain ⟨error, herror⟩ := exists_faults shape hsound
    cases herror.resolve_eq.symm.trans h

/-- **And otherwise it gives what is wrong with it.** -/
theorem resolve_eq_error_iff :
    field.resolve shape = .error error ↔ field.Faults shape error := by
  refine ⟨fun h ↦ ?_, Faults.resolve_eq⟩
  by_cases hsound : field.Sound
  · obtain ⟨other, hother⟩ := exists_means_iff.2 hsound
    cases (hother.resolve_eq shape).symm.trans h
  · obtain ⟨error, herror⟩ := exists_faults shape hsound
    cases herror.resolve_eq.symm.trans h
    exact herror

end FieldDeclaration

/-! ### Shapes -/

namespace ShapeDeclaration

variable {shape : ShapeDeclaration} {error : CatalogueError}

/-- All fields of the shape are sound. -/
def Sound (shape : ShapeDeclaration) : Prop := ∀ field ∈ shape.fields, field.Sound

/-- The shape stands for the other: it has the same name, and its fields stand for the other's, in
order. -/
structure Means (shape : ShapeDeclaration) (result : Shape) : Prop where
  name : result.name = shape.name
  fields : List.Forall₂ FieldDeclaration.Means shape.fields result.fields

/-- The error is that of the first field that is not sound. -/
def FirstFault (shape : ShapeDeclaration) (error : CatalogueError) : Prop :=
  ∃ earlier field later, shape.fields = earlier ++ field :: later ∧
    (∀ other ∈ earlier, FieldDeclaration.Sound other) ∧ field.Faults shape.name error

theorem exists_means_iff : (∃ result, shape.Means result) ↔ shape.Sound := by
  rw [Sound, ← forall₂_congr fun field _ ↦ FieldDeclaration.exists_means_iff, ← exists_forall₂_iff]
  exact ⟨fun ⟨result, h⟩ ↦ ⟨result.fields, h.fields⟩, fun ⟨fields, h⟩ ↦ ⟨⟨shape.name, fields⟩, rfl, h⟩⟩

theorem resolve_eq_map (shape : ShapeDeclaration) : shape.resolve =
    (shape.fields.mapM (FieldDeclaration.resolve shape.name)).map (Shape.mk shape.name) :=
  bind_pure_comp _ _

theorem resolve_eq_ok_iff {result : Shape} : shape.resolve = .ok result ↔ shape.Means result := by
  rw [resolve_eq_map, map_eq_ok_iff]
  simp only [mapM_eq_ok_iff, FieldDeclaration.resolve_eq_ok_iff]
  constructor
  · rintro ⟨fields, hfields, rfl⟩
    exact ⟨rfl, hfields⟩
  · obtain ⟨name, fields⟩ := result
    rintro ⟨rfl, hfields⟩
    exact ⟨fields, hfields, rfl⟩

theorem resolve_eq_error_iff : shape.resolve = .error error ↔ shape.FirstFault error := by
  rw [resolve_eq_map, map_eq_error_iff, mapM_eq_error_iff]
  simp only [FieldDeclaration.resolve_eq_ok_iff, FieldDeclaration.resolve_eq_error_iff,
    FieldDeclaration.exists_means_iff, FirstFault]

end ShapeDeclaration

/-! ### Catalogues -/

namespace Declarations

variable {declarations : Declarations} {error : CatalogueError}

/-- All fields of all shapes are sound. -/
def Sound (declarations : Declarations) : Prop := ∀ shape ∈ declarations.shapes, shape.Sound

/-- The declarations stand for the catalogue: name and enums are the same, and their shapes stand for
those of the catalogue, in order. -/
structure Means (declarations : Declarations) (catalogue : Catalogue) : Prop where
  name : catalogue.name = declarations.name
  enums : catalogue.enums = declarations.enums
  shapes : List.Forall₂ ShapeDeclaration.Means declarations.shapes catalogue.shapes

/-- The error is that of the first field that is not sound, the shapes being gone through in order
and the fields of each. -/
def FirstFault (declarations : Declarations) (error : CatalogueError) : Prop :=
  ∃ before shape after, declarations.shapes = before ++ shape :: after ∧
    (∀ other ∈ before, ShapeDeclaration.Sound other) ∧ shape.FirstFault error

theorem exists_means_iff : (∃ catalogue, declarations.Means catalogue) ↔ declarations.Sound := by
  rw [Sound, ← forall₂_congr fun shape _ ↦ ShapeDeclaration.exists_means_iff, ← exists_forall₂_iff]
  exact ⟨fun ⟨catalogue, h⟩ ↦ ⟨catalogue.shapes, h.shapes⟩,
    fun ⟨shapes, h⟩ ↦ ⟨⟨declarations.name, declarations.enums, shapes⟩, rfl, rfl, h⟩⟩

theorem resolve_eq_map (declarations : Declarations) : declarations.resolve =
    (declarations.shapes.mapM ShapeDeclaration.resolve).map
      (Catalogue.mk declarations.name declarations.enums) :=
  bind_pure_comp _ _

theorem resolve_eq_ok_iff {catalogue : Catalogue} :
    declarations.resolve = .ok catalogue ↔ declarations.Means catalogue := by
  rw [resolve_eq_map, map_eq_ok_iff]
  simp only [mapM_eq_ok_iff, ShapeDeclaration.resolve_eq_ok_iff]
  constructor
  · rintro ⟨shapes, hshapes, rfl⟩
    exact ⟨rfl, rfl, hshapes⟩
  · obtain ⟨name, enums, shapes⟩ := catalogue
    rintro ⟨rfl, rfl, hshapes⟩
    exact ⟨shapes, hshapes, rfl⟩

theorem resolve_eq_error_iff :
    declarations.resolve = .error error ↔ declarations.FirstFault error := by
  rw [resolve_eq_map, map_eq_error_iff, mapM_eq_error_iff]
  simp only [ShapeDeclaration.resolve_eq_ok_iff, ShapeDeclaration.resolve_eq_error_iff,
    ShapeDeclaration.exists_means_iff, FirstFault]

/-- Declarations stand for one catalogue at most. -/
theorem Means.unique {catalogue other : Catalogue} (h : declarations.Means catalogue)
    (hother : declarations.Means other) : catalogue = other :=
  Except.ok.inj ((resolve_eq_ok_iff.2 h).symm.trans (resolve_eq_ok_iff.2 hother))

/-- **Declarations are registered as the catalogue that they stand for.** They are accepted exactly
if every field gives one kind, with a known type name if it gives a type, and the catalogue is
accepted; the registry is that of the catalogue and answers for it. Otherwise the error is that of
the first field in the file that is not sound, its type name being looked at before the number of
its kinds; only if there is no such field, the error is that of the catalogue. -/
theorem register_iff (declarations : Declarations) :
    (∀ registry, declarations.register = .ok registry ↔ declarations.Sound ∧
      ∃ catalogue, declarations.Means catalogue ∧ catalogue.register = .ok registry) ∧
    (∀ error, declarations.register = .error error ↔ declarations.FirstFault error ∨
      declarations.Sound ∧
        ∃ catalogue, declarations.Means catalogue ∧ catalogue.register = .error error) ∧
    ∀ catalogue, declarations.Means catalogue →
      declarations.register = catalogue.register ∧
      ∀ registry, declarations.register = .ok registry → registry.AnswersFor catalogue := by
  have hsound : ∀ {P : Catalogue → Prop}, (∃ catalogue, declarations.Means catalogue ∧ P catalogue) ↔
      declarations.Sound ∧ ∃ catalogue, declarations.Means catalogue ∧ P catalogue :=
    fun {P} ↦ ⟨fun h ↦ ⟨exists_means_iff.1 ⟨h.choose, h.choose_spec.1⟩, h⟩, And.right⟩
  refine ⟨fun registry ↦ ?_, fun error ↦ ?_, fun catalogue h ↦ ?_⟩
  · rw [register, bind_eq_ok_iff, ← hsound]
    simp only [resolve_eq_ok_iff]
  · rw [register, bind_eq_error_iff, resolve_eq_error_iff, ← hsound]
    simp only [resolve_eq_ok_iff]
  · have heq : declarations.register = catalogue.register := by
      rw [register, resolve_eq_ok_iff.2 h]
      rfl
    exact ⟨heq, fun registry hregistry ↦ Registry.answersFor_of_register (heq ▸ hregistry)⟩

end Declarations

/-! ### Orders -/

namespace Orders

/-- Items with a status and perhaps a parent, and a view of them that renames a field. -/
def declarations : Declarations where
  name := "orders"
  enums := [⟨"Status", [⟨"Active", 0⟩, ⟨"Inactive", 1⟩]⟩]
  shapes := [
    ⟨"Item", [
      { name := "Id", scalar := some " Int " },
      { name := "Status", enumeration := some "Status" },
      { name := "Parent", shape := some "Item", nullable := true }]⟩,
    ⟨"ItemView", [
      { name := "ItemId", scalar := some "BIGINT", override := some ⟨"Parent", some "Id"⟩ }]⟩]

/-- The catalogue of the declarations. -/
def catalogue : Catalogue where
  name := "orders"
  enums := [⟨"Status", [⟨"Active", 0⟩, ⟨"Inactive", 1⟩]⟩]
  shapes := [
    ⟨"Item", [
      { name := "Id", kind := .scalar .int32 },
      { name := "Status", kind := .enumeration "Status" },
      { name := "Parent", kind := .nested "Item", nullable := true }]⟩,
    ⟨"ItemView", [
      { name := "ItemId", kind := .scalar .int64, override := some ⟨"Parent", some "Id"⟩ }]⟩]

/-- Declarations with several faults: a field is declared twice, the second time with two kinds and
an unknown type name, and a later field has no kind. -/
def misprint : Declarations where
  name := "orders"
  shapes := [
    ⟨"Item", [
      { name := "Id", scalar := some "int" },
      { name := "Id", scalar := some " Money ", shape := some "Item" },
      { name := "Note" }]⟩]

theorem declarations_means : declarations.Means catalogue := by
  refine ⟨rfl, rfl, .cons ⟨rfl, ?_⟩ (.cons ⟨rfl, ?_⟩ .nil)⟩
  · refine .cons ⟨⟨?_, rfl⟩, .scalar rfl (by decide), rfl, rfl, rfl⟩
      (.cons ⟨⟨nofun, rfl⟩, .enumeration rfl, rfl, rfl, rfl⟩
        (.cons ⟨⟨nofun, rfl⟩, .nested rfl, rfl, rfl, rfl⟩ .nil))
    rintro _ ⟨⟩
    exact ⟨.int32, by decide⟩
  · refine .cons ⟨⟨?_, rfl⟩, .scalar rfl (by decide), rfl, rfl, rfl⟩ .nil
    rintro _ ⟨⟩
    exact ⟨.int64, by decide⟩

/-- The items are registered as their catalogue is. Of the faults, that of the unknown type name is
reported. -/
theorem declarations_registered :
    (∃ registry, declarations.register = .ok registry ∧ catalogue.register = .ok registry ∧
      registry.shapeNames = ["Item", "ItemView"]) ∧
    misprint.register = .error (.unknownScalar " Money ") := by
  obtain ⟨haccepted, -, hsame⟩ := declarations.register_iff
  obtain ⟨-, hfailed, -⟩ := misprint.register_iff
  have hregister : catalogue.register = .ok ⟨"orders", catalogue.enums, catalogue.shapes⟩ := by
    with_unfolding_all rfl
  have hdeclared := (haccepted _).2
    ⟨Declarations.exists_means_iff.1 ⟨_, declarations_means⟩, catalogue, declarations_means, hregister⟩
  have hanswers := (hsame catalogue declarations_means).2 _ hdeclared
  refine ⟨⟨_, hdeclared, hregister, hanswers.shapeNames⟩, (hfailed _).2 (.inl ?_)⟩
  have hid : FieldDeclaration.Sound { name := "Id", scalar := some "int" } := by
    refine ⟨?_, rfl⟩
    rintro _ ⟨⟩
    exact ⟨.int32, by decide⟩
  refine ⟨[], _, [], rfl, List.forall_mem_nil _, [_], _, [_], rfl,
    List.forall_mem_singleton.2 hid, .unknownScalar rfl ?_⟩
  intro type
  cases type <;> decide

end Orders

end Recast
