import Recast.Number.Shortest

/-!
# JSON values

Instances, catalogues, plans and expressions all come and go as JSON. An object is the list of its
entries in the order of insertion, and its keys are distinct in every value that is read. A number
written as an integer that fits sixty-four bits, signed or unsigned, is that integer; all other numbers
are doubles.
-/

namespace Recast

/-- A number of a JSON text. -/
inductive Number where
  | int (value : Int)
  | double (value : Binary64)
deriving DecidableEq, Repr, Inhabited

/-- A JSON value; an object keeps the order of its entries. -/
inductive Json where
  | null
  | bool (value : Bool)
  | num (value : Number)
  | str (value : String)
  | arr (items : List Json)
  | obj (entries : List (String × Json))
deriving Repr, Inhabited

/-- The six sorts of JSON value. -/
inductive JsonType where
  | null
  | boolean
  | number
  | string
  | array
  | object
deriving DecidableEq, Repr

/-- The type as messages speak of it. -/
def JsonType.describe : JsonType → String
  | .null => "null"
  | .boolean => "a boolean"
  | .number => "a number"
  | .string => "a string"
  | .array => "an array"
  | .object => "an object"

/-- Entries with the value of `key` replaced, at its place, or put at the end if the key is new. -/
def insertEntry {α : Type} (key : String) (value : α) : List (String × α) → List (String × α)
  | [] => [(key, value)]
  | (k, v) :: rest => if k = key then (k, value) :: rest else (k, v) :: insertEntry key value rest

namespace Json

/-- The integer as a JSON value. -/
def int (value : Int) : Json := .num (.int value)

/-- The sort of a value. -/
def type : Json → JsonType
  | .null => .null
  | .bool _ => .boolean
  | .num _ => .number
  | .str _ => .string
  | .arr _ => .array
  | .obj _ => .object

/-- A text as a value, null where there is none. -/
def ofString? : Option String → Json
  | none => .null
  | some text => .str text

/-- The value is not null. -/
def isPresent : Json → Bool
  | .null => false
  | _ => true

/-- The value of an entry that is there and not null. -/
def present? (entries : List (String × Json)) (key : String) : Option Json :=
  (entries.lookup key).filter isPresent

end Json

/-! ### Entries -/

/-- **To look up a name among entries that were made of a list is to find the first element of that
name.** -/
@[simp] theorem lookup_map {α β : Type} (key : α → String) (f : α → β) (l : List α) (name : String) :
    (l.map fun a ↦ (key a, f a)).lookup name = (l.find? fun a ↦ key a = name).map f := by
  induction l with
  | nil => rfl
  | cons a l ih =>
    by_cases h : key a = name
    · simp [h]
    · have hname : (name == key a) = false := by simpa using Ne.symm h
      simpa [List.lookup_cons, h, hname] using ih

@[simp] theorem lookup_insertEntry_self {α : Type} (key : String) (value : α) (entries : List (String × α)) :
    (insertEntry key value entries).lookup key = some value := by
  induction entries with
  | nil => simp [insertEntry]
  | cons e rest ih =>
    obtain ⟨k, v⟩ := e
    by_cases h : k = key
    · simp [insertEntry, h]
    · have hk : (key == k) = false := by simpa using Ne.symm h
      simp [insertEntry, h, List.lookup_cons, hk, ih]

@[simp] theorem lookup_insertEntry_of_ne {α : Type} {key other : String} (h : other ≠ key) (value : α)
    (entries : List (String × α)) :
    (insertEntry key value entries).lookup other = entries.lookup other := by
  induction entries with
  | nil =>
    have ho : (other == key) = false := by simpa using h
    simp [insertEntry, List.lookup_cons, ho]
  | cons e rest ih =>
    obtain ⟨k, v⟩ := e
    by_cases hk : k = key
    · subst hk
      have ho : (other == k) = false := by simpa using h
      simp [insertEntry, List.lookup_cons, ho]
    · simp [insertEntry, hk, List.lookup_cons, ih]

/-- A key that is present keeps its place, and a new one goes to the end. -/
@[simp] theorem keys_insertEntry {α : Type} (key : String) (value : α) (entries : List (String × α)) :
    (insertEntry key value entries).map (·.1) =
      if key ∈ entries.map (·.1) then entries.map (·.1) else entries.map (·.1) ++ [key] := by
  induction entries with
  | nil => simp [insertEntry]
  | cons e rest ih =>
    obtain ⟨k, v⟩ := e
    by_cases h : k = key
    · simp [insertEntry, h]
    · simp only [insertEntry, h, if_false, List.map_cons, ih, List.mem_cons]
      have hk : ¬ key = k := fun h' ↦ h h'.symm
      by_cases hm : key ∈ rest.map (·.1) <;> simp [hk, hm]

/-- A new key goes to the end. -/
theorem insertEntry_of_notMem {α : Type} {key : String} {entries : List (String × α)}
    (h : key ∉ entries.map (·.1)) (value : α) :
    insertEntry key value entries = entries ++ [(key, value)] := by
  induction entries with
  | nil => rfl
  | cons entry rest ih =>
    obtain ⟨k, v⟩ := entry
    rw [List.map_cons, List.mem_cons, not_or] at h
    rw [insertEntry, if_neg (Ne.symm h.1), ih h.2, List.cons_append]

end Recast
