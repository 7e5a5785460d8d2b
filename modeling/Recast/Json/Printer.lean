import Recast.Json.Basic

/-!
# Writing JSON

Two layouts of the same value: `Json.compact` on one line without any blank, and `Json.pretty` with an
entry or item a line, each level two blanks further in. Both write objects in the order of their entries.
-/

namespace Recast

namespace Json

/-! ### Strings -/

/-- Hexadecimal digits of a control character, at four places. -/
def controlEscape (c : Char) : List Char :=
  ['\\', 'u', '0', '0', Nat.digitChar (c.toNat / 16), Nat.digitChar (c.toNat % 16)]

/-- A character as it stands between the quotes. -/
def escapeChar (c : Char) : List Char :=
  if c = '"' then ['\\', '"']
  else if c = '\\' then ['\\', '\\']
  else if c = '\x08' then ['\\', 'b']
  else if c = '\x0c' then ['\\', 'f']
  else if c = '\n' then ['\\', 'n']
  else if c = '\r' then ['\\', 'r']
  else if c = '\t' then ['\\', 't']
  else if c.toNat < 0x20 then controlEscape c
  else [c]

/-- A text in quotes: the quote, the backslash and the control characters are escaped, and every other
character stands for itself. -/
def quote (text : String) : String :=
  "\"" ++ String.ofList (text.toList.flatMap escapeChar) ++ "\""

end Json

/-- A number as it is written. -/
def Number.render : Number → String
  | .int value => toString value
  | .double value => value.render

namespace Json

/-! ### One line -/

/-- Pieces with a separator between them. -/
def joinWith (separator : String) : List String → String
  | [] => ""
  | [piece] => piece
  | piece :: rest => piece ++ separator ++ joinWith separator rest

mutual

/-- The value on one line. -/
def compact : Json → String
  | .null => "null"
  | .bool value => if value then "true" else "false"
  | .num value => value.render
  | .str text => quote text
  | .arr items => "[" ++ joinWith "," (compactItems items) ++ "]"
  | .obj entries => "\x7b" ++ joinWith "," (compactEntries entries) ++ "\x7d"

/-- The items of an array, each on one line. -/
def compactItems : List Json → List String
  | [] => []
  | item :: rest => item.compact :: compactItems rest

/-- The entries of an object, each on one line. -/
def compactEntries : List (String × Json) → List String
  | [] => []
  | (key, value) :: rest => (quote key ++ ":" ++ value.compact) :: compactEntries rest

end

/-! ### Many lines -/

/-- The start of a line at a nesting level. -/
def lineStart (level : Nat) : String := "\n" ++ String.ofList (List.replicate (2 * level) ' ')

/-- Pieces between brackets, each on a line of its own; nothing at all between the brackets if there are
none. -/
def block (opening closing : String) (level : Nat) (pieces : List String) : String :=
  if pieces.isEmpty then opening ++ closing
  else opening ++ lineStart (level + 1) ++ joinWith ("," ++ lineStart (level + 1)) pieces ++
    lineStart level ++ closing

mutual

/-- The value over several lines, its first line standing at `level`. -/
def prettyAt (level : Nat) : Json → String
  | .null => "null"
  | .bool value => if value then "true" else "false"
  | .num value => value.render
  | .str text => quote text
  | .arr items => block "[" "]" level (prettyItems (level + 1) items)
  | .obj entries => block "\x7b" "\x7d" level (prettyEntries (level + 1) entries)

/-- The items of an array at `level`. -/
def prettyItems (level : Nat) : List Json → List String
  | [] => []
  | item :: rest => item.prettyAt level :: prettyItems level rest

/-- The entries of an object at `level`. -/
def prettyEntries (level : Nat) : List (String × Json) → List String
  | [] => []
  | (key, value) :: rest => (quote key ++ ": " ++ value.prettyAt level) :: prettyEntries level rest

end

/-- The value over several lines, an entry or item a line. -/
def pretty (value : Json) : String := value.prettyAt 0

end Json

end Recast
