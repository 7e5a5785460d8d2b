/-!
# The text of a YAML stream

A stream is read as characters with one spelling for line ends: `Cursor.ofText?` refuses the characters that
a stream must not hold and makes a line feed of the other line ends, leaving the two Unicode separators,
which keep their identity inside scalars. A `Cursor` is a place in the text with its line and column.
-/

namespace Recast.Yaml

/-! ### Characters -/

/-- The characters of a stream: no control characters but the tabulator and the line ends, no noncharacter
at the end of the first plane. -/
def isPrintable (c : Char) : Bool :=
  let n := c.toNat
  n = 0x09 || n = 0x0A || n = 0x0D || (0x20 ≤ n && n ≤ 0x7E) || n = 0x85 || (0xA0 ≤ n && n ≤ 0xD7FF) ||
    (0xE000 ≤ n && n ≤ 0xFFFD) || 0x10000 ≤ n

/-- A character that ends a line, once line ends are normalized. -/
def isBreak (c : Char) : Bool := c = '\n' || c = '\u2028' || c = '\u2029'

/-- A space or tabulator. -/
def isBlank (c : Char) : Bool := c = ' ' || c = '\t'

/-- A character of anchors, of directive names and of tag handles. -/
def isNameChar (c : Char) : Bool := c.isAlphanum || c = '_' || c = '-'

/-- The rest of the text starts with a line end, or is empty. -/
def atLineEnd : List Char → Bool
  | [] => true
  | c :: _ => isBreak c

/-- The rest of the text starts with a blank or line end, or is empty. -/
def atBlank : List Char → Bool
  | [] => true
  | c :: _ => isBlank c || isBreak c

/-- The rest of the text starts with the marker of a document's start or end. -/
def atDocumentMarker : List Char → Bool
  | '-' :: '-' :: '-' :: rest => atBlank rest
  | '.' :: '.' :: '.' :: rest => atBlank rest
  | _ => false

/-- A carriage return, alone or before a line feed, and the next-line character as line feeds. -/
def normalizeBreaks : List Char → List Char
  | [] => []
  | '\r' :: '\n' :: rest => '\n' :: normalizeBreaks rest
  | '\r' :: rest => '\n' :: normalizeBreaks rest
  | '\u0085' :: rest => '\n' :: normalizeBreaks rest
  | c :: rest => c :: normalizeBreaks rest

/-! ### Places -/

/-- A place in the text, all counted from zero: the octets of the text before it, its line, and the
characters before it on the line. -/
structure Position where
  octets : Nat
  line : Nat
  column : Nat
deriving DecidableEq, Repr

/-- The place after a character. -/
def Position.next (position : Position) (c : Char) : Position :=
  if isBreak c then ⟨position.octets + c.utf8Size, position.line + 1, 0⟩
  else ⟨position.octets + c.utf8Size, position.line, position.column + 1⟩

/-- The rest of the text and its place. -/
structure Cursor where
  rest : List Char
  position : Position

namespace Cursor

/-- The column of the next character. -/
def column (cursor : Cursor) : Nat := cursor.position.column

/-- The place after some characters. -/
def advance (cursor : Cursor) : Nat → Cursor
  | 0 => cursor
  | n + 1 =>
    match cursor.rest with
    | [] => cursor
    | c :: rest => advance ⟨rest, cursor.position.next c⟩ n

/-- The characters of a kind that come next. -/
def peekWhile (cursor : Cursor) (p : Char → Bool) : List Char := cursor.rest.takeWhile p

/-- The place after the characters of a kind. -/
def skipWhile (cursor : Cursor) (p : Char → Bool) : Cursor :=
  cursor.advance (cursor.peekWhile p).length

/-- The next character is `c`. -/
def startsWith (cursor : Cursor) (c : Char) : Bool := cursor.rest.head? = some c

/-- The place after blanks and a comment, if only those stand before the line end; after the line end too. -/
def skipLineRest? (cursor : Cursor) : Option Cursor :=
  let cursor := cursor.skipWhile isBlank
  let cursor := if cursor.startsWith '#' then cursor.skipWhile (!isBreak ·) else cursor
  if atLineEnd cursor.rest then some (cursor.advance 1) else none

end Cursor

/-- The start of a stream; none if the text holds a character that is not allowed. A byte order mark takes
the first column of its line. -/
def Cursor.ofText? (text : String) : Option Cursor :=
  let chars := text.toList
  if chars.all isPrintable then some ⟨normalizeBreaks chars, ⟨0, 0, 0⟩⟩ else none

end Recast.Yaml
