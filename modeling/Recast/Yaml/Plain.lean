import Recast.Text.Hex
import Recast.Yaml.Source

/-!
# Plain and quoted scalars

Scalars that are folded as they are read: blanks around a line end are dropped, a single line end becomes a
space, and of several line ends the first is dropped. Both readers take one character at a time.
-/

namespace Recast.Yaml

/-! ### Folding -/

/-- A text that is being folded. The characters stand in reverse, and blanks and line ends wait until it is
known what follows them. -/
structure Folding where
  text : List Char := []
  blanks : List Char := []
  /-- A line has ended, or its end was escaped. -/
  broken : Bool := false
  firstBreak : Option Char := none
  moreBreaks : List Char := []

namespace Folding

/-- A blank more: it counts only within a line. -/
def addBlank (folding : Folding) (c : Char) : Folding :=
  if folding.broken then folding else { folding with blanks := c :: folding.blanks }

/-- A line end more. -/
def addBreak (folding : Folding) (c : Char) : Folding :=
  if folding.broken then { folding with moreBreaks := c :: folding.moreBreaks }
  else { folding with blanks := [], broken := true, firstBreak := some c }

/-- What waits is joined to the text, as something other than a blank follows. -/
def join (folding : Folding) : Folding :=
  if folding.broken then
    let joined :=
      if folding.firstBreak = some '\n' then
        if folding.moreBreaks.isEmpty then [' '] else folding.moreBreaks
      else folding.moreBreaks ++ folding.firstBreak.toList
    { text := joined ++ folding.text }
  else { text := folding.blanks ++ folding.text }

/-- A character of the text itself. -/
def add (folding : Folding) (c : Char) : Folding :=
  let folding := folding.join
  { folding with text := c :: folding.text }

/-- The text without what waits at its end. -/
def result (folding : Folding) : String := String.ofList folding.text.reverse

end Folding

/-! ### Plain scalars -/

/-- A character that is an indicator within flow collections. -/
def isFlowIndicator (c : Char) : Bool := c = ',' || c = '[' || c = ']' || c = '{' || c = '}'

/-- A plain scalar that begins with these characters is over before them. -/
def plainEnds (flow : Bool) : List Char → Bool
  | [] => true
  | ':' :: rest => atBlank rest
  | c :: _ => flow && isFlowIndicator c

/-- Within flow collections a colon right before an indicator is an error. -/
def plainFails (flow : Bool) : List Char → Bool
  | ':' :: c :: _ => flow && (isFlowIndicator c || c = '?')
  | _ => false

/-- Read a plain scalar on, up to the place where it is over. `inWord` tells that the last character was
part of the text. A continuation line stands at the column `indent` or behind it. -/
def readPlain (flow : Bool) (indent : Nat) (folding : Folding) (inWord : Bool) (position : Position) :
    List Char → Option (Folding × Cursor)
  | [] => some (folding, ⟨[], position⟩)
  | c :: rest =>
    if isBlank c then
      if folding.broken && position.column < indent && c = '\t' then none
      else readPlain flow indent (folding.addBlank c) false (position.next c) rest
    else if isBreak c then readPlain flow indent (folding.addBreak c) false (position.next c) rest
    else
      let atMarker := position.column = 0 && atDocumentMarker (c :: rest)
      -- Only behind a blank or line end can these end the scalar.
      let outdented := !flow && folding.broken && position.column < indent
      if !inWord && (outdented || atMarker || c = '#') then some (folding, ⟨c :: rest, position⟩)
      else if plainFails flow (c :: rest) then none
      else if plainEnds flow (c :: rest) then some (folding, ⟨c :: rest, position⟩)
      else readPlain flow indent (folding.add c) true (position.next c) rest

/-! ### Quoted scalars -/

/-- The character that an escape of one letter stands for. -/
def escaped? (c : Char) : Option Char :=
  match c with
  | '0' => some '\x00'
  | 'a' => some '\x07'
  | 'b' => some '\x08'
  | 't' | '\t' => some '\t'
  | 'n' => some '\n'
  | 'v' => some '\x0b'
  | 'f' => some '\x0c'
  | 'r' => some '\r'
  | 'e' => some '\x1b'
  | ' ' | '"' | '/' | '\\' => some c
  | 'N' => some '\u0085'
  | '_' => some '\u00a0'
  | 'L' => some '\u2028'
  | 'P' => some '\u2029'
  | _ => none

/-- The number of hexadecimal digits of an escape by code point. -/
def escapeLength? (c : Char) : Option Nat :=
  if c = 'x' then some 2 else if c = 'u' then some 4 else if c = 'U' then some 8 else none

/-- What a quoted scalar is in the middle of. -/
inductive QuotedMode where
  | text
  | escape
  /-- An escape by code point, with the number of digits still to come. -/
  | digits (left value : Nat)
  /-- After an apostrophe, which may be the first of two. -/
  | apostrophe

/-- Read a quoted scalar on, up to behind the quote that closes it. -/
def readQuoted (single : Bool) (folding : Folding) (mode : QuotedMode) (position : Position) :
    List Char → Option (Folding × Cursor)
  | [] =>
    match mode with
    | .apostrophe => some (folding.join, ⟨[], position⟩)
    | _ => none
  | c :: rest =>
    match mode with
    | .apostrophe =>
      if c = '\'' then readQuoted single (folding.add c) .text (position.next c) rest
      else some (folding.join, ⟨c :: rest, position⟩)
    | .escape =>
      if isBreak c then
        -- The line end is dropped, but what follows counts as the start of a line.
        readQuoted single { folding.join with broken := true } .text (position.next c) rest
      else
        match escaped? c, escapeLength? c with
        | some d, _ => readQuoted single (folding.add d) .text (position.next c) rest
        | none, some count => readQuoted single folding (.digits count 0) (position.next c) rest
        | none, none => none
    | .digits left value =>
      match Text.hexValue? c with
      | none => none
      | some digit =>
        let value := 16 * value + digit
        if left = 1 then
          if (0xD800 ≤ value && value ≤ 0xDFFF) || 0x10FFFF < value then none
          else readQuoted single (folding.add (Char.ofNat value)) .text (position.next c) rest
        else readQuoted single folding (.digits (left - 1) value) (position.next c) rest
    | .text =>
      if isBlank c then readQuoted single (folding.addBlank c) .text (position.next c) rest
      else if isBreak c then readQuoted single (folding.addBreak c) .text (position.next c) rest
      else if position.column = 0 && atDocumentMarker (c :: rest) then none
      else if single then
        if c = '\'' then readQuoted single folding .apostrophe (position.next c) rest
        else readQuoted single (folding.add c) .text (position.next c) rest
      else if c = '"' then some (folding.join, ⟨rest, position.next c⟩)
      else if c = '\\' then readQuoted single folding .escape (position.next c) rest
      else readQuoted single (folding.add c) .text (position.next c) rest

end Recast.Yaml
