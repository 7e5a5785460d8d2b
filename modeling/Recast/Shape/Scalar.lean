import Recast.Json.Basic
import Recast.Text.Blank

/-!
# Scalar types

The closed set of types that a field without structure can have, the spellings under which a catalogue may
name them, the value that such a field holds when nothing is assigned to it, and the column type that stands
for it in a query.
-/

namespace Recast

/-- A type without structure. -/
inductive Scalar where
  | bool
  | int8
  | int16
  | int32
  | int64
  | uint8
  | uint16
  | uint32
  | uint64
  | float32
  | float64
  | decimal
  | char
  | string
  | date
  | dateTime
  | uuid
deriving DecidableEq, Repr, Inhabited

namespace Scalar

/-- All scalar types. -/
def all : List Scalar :=
  [bool, int8, int16, int32, int64, uint8, uint16, uint32, uint64, float32, float64, decimal, char, string,
    date, dateTime, uuid]

/-- The name of a type in messages and in serialized shapes. -/
def name : Scalar → String
  | bool => "Bool"
  | int8 => "Int8"
  | int16 => "Int16"
  | int32 => "Int32"
  | int64 => "Int64"
  | uint8 => "UInt8"
  | uint16 => "UInt16"
  | uint32 => "UInt32"
  | uint64 => "UInt64"
  | float32 => "Float32"
  | float64 => "Float64"
  | decimal => "Decimal"
  | char => "Char"
  | string => "String"
  | date => "Date"
  | dateTime => "DateTime"
  | uuid => "Uuid"

/-- The type of exactly this name. -/
def ofName? (text : String) : Option Scalar := all.find? fun type ↦ type.name = text

/-! ### Spellings -/

/-- The spellings of each type in a catalogue, in lower case. -/
def spellings : Scalar → List String
  | bool => ["bool", "boolean"]
  | int8 => ["sbyte", "int8", "i8"]
  | int16 => ["short", "int16", "i16"]
  | int32 => ["int", "int32", "integer", "i32"]
  | int64 => ["long", "int64", "bigint", "i64"]
  | uint8 => ["byte", "uint8", "u8"]
  | uint16 => ["ushort", "uint16", "u16"]
  | uint32 => ["uint", "uint32", "u32"]
  | uint64 => ["ulong", "uint64", "u64"]
  | float32 => ["float", "single", "float32", "f32"]
  | float64 => ["double", "float64", "f64"]
  | decimal => ["decimal"]
  | char => ["char"]
  | string => ["string", "str", "text"]
  | date => ["date"]
  | dateTime => ["datetime", "timestamp"]
  | uuid => ["guid", "uuid"]

/-- No spelling names two types. -/
theorem spellings_nodup : (all.flatMap spellings).Nodup := by decide

/-- The type that a text names once blanks at its ends and letter case are ignored. The only letter outside
ASCII whose lower case is an ASCII letter is the Kelvin sign, a `k`, and no spelling has that letter: so it
is enough to lower the ASCII letters. -/
def ofSpelling? (text : String) : Option Scalar :=
  let spelling := String.ofList ((Text.trim text.toList).map Char.toLower)
  all.find? fun type ↦ type.spellings.contains spelling

/-! ### Properties -/

/-- The integer types: what an enum value can be read from. -/
def isInteger : Scalar → Bool
  | int8 | int16 | int32 | int64 | uint8 | uint16 | uint32 | uint64 => true
  | _ => false

/-- What a field of the type holds, when it is not nullable and nothing is assigned to it. -/
def defaultValue : Scalar → Json
  | bool => .bool false
  | float32 | float64 => .num (.double ⟨0⟩)
  | decimal => .str "0"
  | char => .str "\x00"
  | string => .str ""
  | date => .str "1970-01-01"
  | dateTime => .str "1970-01-01T00:00:00Z"
  | uuid => .str "00000000-0000-0000-0000-000000000000"
  | _ => .int 0

/-- The ClickHouse type of a column with values of the type. -/
def columnType : Scalar → String
  | decimal => "Decimal128(10)"
  | char => "FixedString(1)"
  | dateTime => "DateTime64(3)"
  | uuid => "UUID"
  | type => type.name

end Scalar

end Recast
