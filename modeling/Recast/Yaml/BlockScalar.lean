import Recast.Yaml.Source

/-!
# Block scalars

Scalars whose lines are set apart by their indentation: literal ones, which keep their line ends, and folded
ones. The header may fix the indentation and say what becomes of the line ends at the end of the text.
Otherwise the first line with text fixes the indentation.
-/

namespace Recast.Yaml

/-- What becomes of the line ends after the last line with text. -/
inductive Chomping where
  | strip
  | clip
  | keep
deriving DecidableEq, Repr

/-- The header of a block scalar; the indentation is relative to that of its parent. -/
structure BlockHeader where
  chomping : Chomping := .clip
  increment : Option Nat := none

/-- The chomping of an indicator. -/
def chomping? (c : Char) : Option Chomping :=
  if c = '+' then some .keep else if c = '-' then some .strip else none

/-- The increment of an indicator, a digit other than zero. -/
def increment? (c : Char) : Option Nat :=
  if c.isDigit && c ≠ '0' then some (c.toNat - '0'.toNat) else none

/-- The indicators in a header, of which each may come once and in either order; none for the indicator
zero. -/
def blockHeader? (indicators : List Char) : Option BlockHeader :=
  match indicators with
  | [] => some {}
  | [a] =>
    match chomping? a with
    | some chomping => some { chomping }
    | none => (increment? a).map fun n ↦ { increment := some n }
  | [a, b] =>
    match chomping? a, chomping? b with
    | some chomping, none => (increment? b).map fun n ↦ ⟨chomping, some n⟩
    | none, some chomping => (increment? a).map fun n ↦ ⟨chomping, some n⟩
    | _, _ => none
  | _ => none

/-! ### Lines -/

/-- A line without its end, and its end unless the text is over. -/
abbrev Line := List Char × Option Char

/-- The lines of a text; the last of them has no end. -/
def splitLines : List Char → List Line
  | [] => [([], none)]
  | c :: rest =>
    if isBreak c then ([], some c) :: splitLines rest
    else
      match splitLines rest with
      | [] => [([c], none)]
      | (line, ending) :: lines => (c :: line, ending) :: lines

/-- The number of spaces at the front of a line. -/
def leadingSpaces (line : List Char) : Nat := (line.takeWhile (· = ' ')).length

/-- The greatest number of spaces before the first text, over the blank lines in front and the first line
with text. A tabulator after such spaces is an error. -/
def detectedIndent? (greatest : Nat) : List Line → Option Nat
  | [] => some greatest
  | (line, ending) :: rest =>
    let spaces := leadingSpaces line
    match line.drop spaces with
    | '\t' :: _ => none
    | [] => if ending.isSome then detectedIndent? (max greatest spaces) rest else some (max greatest spaces)
    | _ => some (max greatest spaces)

/-- The text of a block scalar that is being read, in reverse, with the line ends that wait. -/
structure BlockText where
  text : List Char := []
  lastBreak : Option Char := none
  moreBreaks : List Char := []
  /-- The last line with text began with a blank. -/
  blankStart : Bool := false
  /-- The number of characters read. -/
  length : Nat := 0

namespace BlockText

/-- A line with text. A folded scalar joins two lines that do not begin with a blank by a space, or by the
blank lines between them. -/
def addLine (block : BlockText) (literal : Bool) (indent : Nat) (line : List Char) (ending : Option Char) :
    BlockText :=
  let content := line.drop indent
  let blank := content.head?.any isBlank
  let folds := !literal && block.lastBreak = some '\n' && !block.blankStart && !blank
  let joined :=
    if folds then
      if block.moreBreaks.isEmpty then [' '] else block.moreBreaks
    else block.moreBreaks ++ block.lastBreak.toList
  { text := content.reverse ++ joined ++ block.text
    lastBreak := ending
    blankStart := blank
    length := block.length + line.length + (if ending.isSome then 1 else 0) }

/-- Read lines on, up to the first with text before the indentation. There, only the indentation is read. -/
def addLines (literal : Bool) (indent : Nat) (block : BlockText) : List Line → Option BlockText
  | [] => some block
  | (line, ending) :: rest =>
    let spaces := min (leadingSpaces line) indent
    match line.drop spaces, ending with
    | [], none => some { block with length := block.length + line.length }
    | [], some c =>
      addLines literal indent
        { block with moreBreaks := c :: block.moreBreaks, length := block.length + line.length + 1 } rest
    | c :: _, _ =>
      if spaces = indent then addLines literal indent (block.addLine literal indent line ending) rest
      else if c = '\t' then none
      -- The scalar is over, and the text of this line belongs to what follows.
      else some { block with length := block.length + spaces }

/-- The text with the line ends at its end. -/
def result (block : BlockText) (chomping : Chomping) : String :=
  let tail := match chomping with
    | .strip => []
    | .clip => block.lastBreak.toList
    | .keep => block.moreBreaks ++ block.lastBreak.toList
  String.ofList (tail ++ block.text).reverse

end BlockText

/-- Read a block scalar whose parent stands at the column `parent`, from behind its first indicator. -/
def readBlock? (literal : Bool) (parent : Int) (cursor : Cursor) : Option (String × Cursor) := do
  let indicators := cursor.peekWhile fun c ↦ c = '+' || c = '-' || c.isDigit
  let header ← blockHeader? indicators
  let cursor ← (cursor.advance indicators.length).skipLineRest?
  let lines := splitLines cursor.rest
  let indent ← match header.increment with
    | some n => some (parent.toNat + n)
    | none => (detectedIndent? 0 lines).map fun n ↦ max n (max (parent + 1).toNat 1)
  let block ← BlockText.addLines literal indent {} lines
  return (block.result header.chomping, cursor.advance block.length)

end Recast.Yaml
