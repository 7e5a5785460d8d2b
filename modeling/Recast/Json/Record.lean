import Recast.Json.Basic
import Recast.Number.Width

/-!
# Records in JSON

A record is written as an object with a member for each field, members of other names being ignored, or as
the array of its first fields in the order of their declaration. The parts of a value come with a proof that
they are smaller than it, so that a reader of a recursive type recurses on them.
-/

namespace Recast

namespace Json

/-- A value that stands inside `whole`. -/
abbrev Part (whole : Json) := { part : Json // sizeOf part < sizeOf whole }

theorem sizeOf_lt_of_mem_items {items : List Json} {item : Json} (h : item ∈ items) :
    sizeOf item < sizeOf (Json.arr items) := by
  have := List.sizeOf_lt_of_mem h
  simp only [arr.sizeOf_spec]
  omega

theorem sizeOf_lt_of_mem_entries {entries : List (String × Json)} {entry : String × Json}
    (h : entry ∈ entries) : sizeOf entry.2 < sizeOf (Json.obj entries) := by
  have := List.sizeOf_lt_of_mem h
  obtain ⟨key, value⟩ := entry
  simp only [Prod.mk.sizeOf_spec, obj.sizeOf_spec] at *
  omega

/-! ### Plain values -/

/-- The text of a string. -/
def string? : Json → Option String
  | .str text => some text
  | _ => none

/-- The truth value of a boolean. -/
def bool? : Json → Option Bool
  | .bool value => some value
  | _ => none

/-- The integer of a number that is written as one. -/
def int? : Json → Option Int
  | .num (.int value) => some value
  | _ => none

/-- A natural number of thirty-two bits. -/
def nat32? (value : Json) : Option Nat := (value.int?.bind Int.toNat?).filter fitsNat32

/-- A signed integer of sixty-four bits. -/
def int64? (value : Json) : Option Int := value.int?.filter fitsInt64

/-- The items of an array. -/
def items? : (value : Json) → Option (List value.Part)
  | .arr items => some (items.attach.map fun item ↦ ⟨item.1, sizeOf_lt_of_mem_items item.2⟩)
  | _ => none

/-- A list whose items are read one by one. -/
def list? {α : Type} (read : Json → Option α) (value : Json) : Option (List α) := do
  (← value.items?).mapM fun item ↦ read item.1

/-! ### Records -/

/-- The fields of a record that `whole` writes. -/
abbrev Record (whole : Json) := List (String × whole.Part)

/-- The record that a value writes, with fields of the given names in their order of declaration. -/
def record? (names : List String) : (value : Json) → Option value.Record
  | .obj entries => some (entries.attach.map fun e ↦ (e.1.1, ⟨e.1.2, sizeOf_lt_of_mem_entries e.2⟩))
  | .arr items =>
    if items.length ≤ names.length then
      some (names.zip (items.attach.map fun item ↦ ⟨item.1, sizeOf_lt_of_mem_items item.2⟩))
    else none
  | _ => none

/-- The only member of an object: how a variant with contents is written. -/
def variant? : (value : Json) → Option (String × value.Part)
  | .obj [(name, contents)] =>
    some (name, ⟨contents, sizeOf_lt_of_mem_entries (List.mem_singleton_self (name, contents))⟩)
  | _ => none

/-- The name of a variant without contents: a string, or an object whose only member is null. -/
def name? : Json → Option String
  | .str name => some name
  | .obj [(name, .null)] => some name
  | _ => none

/-- The members of an object. -/
def object? : (value : Json) → Option value.Record
  | .obj entries => record? [] (.obj entries)
  | _ => none

variable {whole : Json} {α : Type}

/-- A field that has to be there. -/
def Record.required (record : whole.Record) (name : String) (read : Json → Option α) : Option α := do
  read (← record.lookup name).1

/-- A field that may be missing, and then has a default. -/
def Record.withDefault (record : whole.Record) (name : String) (default : α) (read : Json → Option α) :
    Option α :=
  match record.lookup name with
  | none => some default
  | some part => read part.1

/-- A field that may be missing or null. -/
def Record.optional (record : whole.Record) (name : String) (read : Json → Option α) :
    Option (Option α) :=
  match record.lookup name with
  | none => some none
  | some ⟨.null, _⟩ => some none
  | some part => (read part.1).map some

/-! ### Reading what is written -/

/-- The fields of a record that an object writes are its members. -/
theorem exists_record?_obj (names : List String) (entries : List (String × Json)) :
    ∃ record, (obj entries).record? names = some record ∧
      ∀ name, (record.lookup name).map (·.1) = entries.lookup name := by
  refine ⟨_, rfl, fun name ↦ ?_⟩
  rw [lookup_map, Option.map_map]
  calc (entries.attach.find? fun e ↦ e.1.1 = name).map (·.1.2)
    _ = (entries.attach.map fun e ↦ (e.1.1, e.1.2)).lookup name := (lookup_map ..).symm
    _ = entries.lookup name := congrArg (List.lookup name) (List.attach_map_subtype_val entries)

/-- To read the items as parts of their array is to read them. -/
theorem exists_items?_arr (items : List Json) :
    ∃ parts, (arr items).items? = some parts ∧
      ∀ {β : Type} (read : Json → Option β),
        (parts.mapM fun part ↦ read part.1) = items.mapM read := by
  refine ⟨_, rfl, fun read ↦ ?_⟩
  rw [List.mapM_map]
  calc items.attach.mapM fun item ↦ read item.1
    _ = (items.attach.map (·.1)).mapM read := List.mapM_map.symm
    _ = items.mapM read := by rw [List.attach_map_subtype_val]

theorem list?_arr (read : Json → Option α) (items : List Json) :
    (arr items).list? read = items.mapM read := by
  obtain ⟨parts, hparts, hread⟩ := exists_items?_arr items
  rw [list?, hparts]
  exact hread read

section Record

variable {record : whole.Record} {name : String} {value : Json} (read : Json → Option α)

theorem Record.required_eq (h : (record.lookup name).map (·.1) = some value) :
    record.required name read = read value := by
  obtain ⟨part, hpart, rfl⟩ := Option.map_eq_some_iff.1 h
  rw [required, hpart]
  rfl

theorem Record.optional_eq_none (h : (record.lookup name).map (·.1) = some .null) :
    record.optional name read = some none := by
  obtain ⟨⟨part, hlt⟩, hpart, rfl⟩ := Option.map_eq_some_iff.1 h
  rw [optional, hpart]

theorem Record.optional_eq (h : (record.lookup name).map (·.1) = some value)
    (hvalue : value.isPresent = true) :
    record.optional name read = (read value).map some := by
  obtain ⟨part, hpart, rfl⟩ := Option.map_eq_some_iff.1 h
  rw [optional, hpart]
  split
  · next h => cases h
  · next h => cases h; cases hvalue
  · next h => cases h; rfl

end Record

end Json

end Recast
