import Recast.Yaml.BlockScalar
import Recast.Yaml.Plain
import Recast.Yaml.Tag

/-!
# Finding the tokens of a stream

The tokens are found from left to right. Two things are known late. That a node is a key is known only at
the colon behind it, so the place of a possible key is kept, and the token `key` is put there afterwards. And
block collections have no closing bracket: the stack of indentations tells where they end.
-/

namespace Recast.Yaml

/-- The place of a node that may be a key: how many tokens stand before it, and where it begins. In a block
mapping a node at the column of the keys has to be one. -/
structure KeyCandidate where
  required : Bool
  tokensBefore : Nat
  position : Position

/-- The tokens found so far, and what is open. -/
structure Lexer where
  cursor : Cursor
  /-- The tokens, the last first. -/
  tokens : List Token := []
  /-- The candidate of the innermost flow collection, or of the blocks. -/
  candidate : Option KeyCandidate := none
  /-- The candidates of the collections around it; there are as many as flow collections are open. -/
  outer : List (Option KeyCandidate) := []
  /-- The column of the innermost block collection, minus one if there is none. -/
  indent : Int := -1
  indents : List Int := []
  /-- A key may begin here. -/
  keyAllowed : Bool := true

namespace Lexer

/-- A flow collection is open. -/
def inFlow (lexer : Lexer) : Bool := !lexer.outer.isEmpty

/-- One token more. -/
def emit (lexer : Lexer) (token : Token) : Lexer :=
  { lexer with tokens := token :: lexer.tokens }

/-- A token put behind the first `before` tokens. -/
def emitAt (lexer : Lexer) (before : Nat) (token : Token) : Lexer :=
  let (behind, front) := lexer.tokens.splitAt (lexer.tokens.length - before)
  { lexer with tokens := behind ++ token :: front }

/-- The place after some characters. -/
def skip (lexer : Lexer) (n : Nat) : Lexer := { lexer with cursor := lexer.cursor.advance n }

/-! ### Keys and indentation -/

/-- The candidate is too far away to be a key: on another line, or more than 1024 octets back. -/
def isStale (position : Position) (candidate : KeyCandidate) : Bool :=
  candidate.position.line < position.line || candidate.position.octets + 1024 < position.octets

/-- A candidate that is dropped; one that has to be a key is an error. -/
def drop? : Option KeyCandidate → Option (Option KeyCandidate)
  | none => some none
  | some candidate => if candidate.required then none else some none

/-- The candidate after the check of its distance. -/
def refresh? (position : Position) (candidate : Option KeyCandidate) : Option (Option KeyCandidate) :=
  if candidate.any (isStale position) then drop? candidate else some candidate

/-- Drop all candidates that are too far away. -/
def dropStale? (lexer : Lexer) : Option Lexer := do
  let position := lexer.cursor.position
  return { lexer with
    candidate := ← refresh? position lexer.candidate
    outer := ← lexer.outer.mapM (refresh? position) }

/-- Drop the innermost candidate. -/
def dropCandidate? (lexer : Lexer) : Option Lexer := do
  return { lexer with candidate := ← drop? lexer.candidate }

/-- The next token may be a key, if keys are allowed here. -/
def saveCandidate? (lexer : Lexer) : Option Lexer :=
  if lexer.keyAllowed then do
    -- The candidate before this one was followed by no colon.
    let lexer ← lexer.dropCandidate?
    let required := !lexer.inFlow && lexer.indent = lexer.cursor.column
    return { lexer with
      candidate := some ⟨required, lexer.tokens.length, lexer.cursor.position⟩ }
  else some lexer

/-- A block collection begins at a column, unless one is open there; its token is put behind the first
`before` tokens. -/
def openBlock (lexer : Lexer) (column before : Nat) (token : Token) : Lexer :=
  if lexer.inFlow then lexer
  else if lexer.indent < column then
    { lexer.emitAt before token with indent := column, indents := lexer.indent :: lexer.indents }
  else lexer

/-- The block collections behind a column, given the stack of indentations, end. -/
def closeFrom (lexer : Lexer) (column : Int) : List Int → Lexer
  | [] => { lexer with indents := [] }
  | outer :: rest =>
    if column < lexer.indent then
      closeFrom { lexer.emit .blockEnd with indent := outer } column rest
    else { lexer with indents := outer :: rest }

/-- The block collections behind a column end. -/
def closeBlocks (lexer : Lexer) (column : Int) : Lexer :=
  if lexer.inFlow then lexer else lexer.closeFrom column lexer.indents

/-! ### The way to the next token -/

/-- Skip blanks, comments and line ends, given the text and its place. A line end allows keys in blocks. At
the start of a line of blocks a tabulator is not skipped. A byte order mark may stand at the start of any
line, in front of everything else. -/
def skipBlanks (lexer : Lexer) (inComment : Bool) (position : Position) : List Char → Lexer
  | [] => { lexer with cursor := ⟨[], position⟩ }
  | c :: rest =>
    if isBreak c then
      skipBlanks { lexer with keyAllowed := lexer.keyAllowed || !lexer.inFlow } false
        (position.next c) rest
    else if inComment then skipBlanks lexer true (position.next c) rest
    else if c = '#' then skipBlanks lexer true (position.next c) rest
    else if c = ' ' || (c = '\t' && (lexer.inFlow || !lexer.keyAllowed)) ||
        (c = '\uFEFF' && position.column = 0) then
      skipBlanks lexer false (position.next c) rest
    else { lexer with cursor := ⟨c :: rest, position⟩ }

/-! ### The tokens one by one -/

/-- A directive or document marker: all blocks end, and no key may follow. -/
def beginDocumentPart? (lexer : Lexer) : Option Lexer := do
  let lexer ← (lexer.closeBlocks (-1)).dropCandidate?
  return { lexer with keyAllowed := false }

/-- A directive. -/
def directive? (lexer : Lexer) : Option Lexer := do
  let lexer ← lexer.beginDocumentPart?
  let (token, cursor) ← readDirective? lexer.cursor
  return { lexer with cursor := cursor }.emit token

/-- A document marker. -/
def documentMarker? (token : Token) (lexer : Lexer) : Option Lexer := do
  return ((← lexer.beginDocumentPart?).emit token).skip 3

/-- The opening bracket of a flow collection. -/
def openFlow? (token : Token) (lexer : Lexer) : Option Lexer := do
  let lexer ← lexer.saveCandidate?
  return ({ lexer with
    candidate := none, outer := lexer.candidate :: lexer.outer, keyAllowed := true }.emit token).skip 1

/-- The closing bracket of a flow collection. -/
def closeFlow? (token : Token) (lexer : Lexer) : Option Lexer := do
  let lexer ← lexer.dropCandidate?
  let lexer := match lexer.outer with
    | [] => lexer
    | candidate :: outer => { lexer with candidate := candidate, outer := outer }
  return ({ lexer with keyAllowed := false }.emit token).skip 1

/-- The comma of a flow collection. -/
def flowEntry? (lexer : Lexer) : Option Lexer := do
  let lexer ← lexer.dropCandidate?
  return ({ lexer with keyAllowed := true }.emit .flowEntry).skip 1

/-- The dash of a block sequence. -/
def blockEntry? (lexer : Lexer) : Option Lexer := do
  if !lexer.inFlow && !lexer.keyAllowed then none
  let lexer := lexer.openBlock lexer.cursor.column lexer.tokens.length .blockSequenceStart
  let lexer ← lexer.dropCandidate?
  return ({ lexer with keyAllowed := true }.emit .blockEntry).skip 1

/-- The question mark of a key. -/
def key? (lexer : Lexer) : Option Lexer := do
  if !lexer.inFlow && !lexer.keyAllowed then none
  let lexer := lexer.openBlock lexer.cursor.column lexer.tokens.length .blockMappingStart
  let lexer ← lexer.dropCandidate?
  return ({ lexer with keyAllowed := !lexer.inFlow }.emit .key).skip 1

/-- The colon of a value. If there is a candidate it is the key. -/
def value? (lexer : Lexer) : Option Lexer :=
  match lexer.candidate with
  | some candidate =>
    -- The start of the mapping goes to the same place as the key, and so before it.
    let lexer := lexer.emitAt candidate.tokensBefore .key
    let lexer := lexer.openBlock candidate.position.column candidate.tokensBefore .blockMappingStart
    some (({ lexer with candidate := none, keyAllowed := false }.emit .value).skip 1)
  | none =>
    if !lexer.inFlow && !lexer.keyAllowed then none
    else
      let lexer := lexer.openBlock lexer.cursor.column lexer.tokens.length .blockMappingStart
      some (({ lexer with keyAllowed := !lexer.inFlow }.emit .value).skip 1)

/-- An alias or anchor. -/
def anchor? (token : String → Token) (lexer : Lexer) : Option Lexer := do
  let lexer ← lexer.saveCandidate?
  let (name, cursor) ← readAnchorName? lexer.cursor
  return { lexer with keyAllowed := false, cursor := cursor }.emit (token name)

/-- A tag. -/
def tag? (lexer : Lexer) : Option Lexer := do
  let lexer ← lexer.saveCandidate?
  let (token, cursor) ← readTag? lexer.inFlow lexer.cursor
  return { lexer with keyAllowed := false, cursor := cursor }.emit token

/-- A literal or folded scalar. -/
def blockScalar? (style : ScalarStyle) (lexer : Lexer) : Option Lexer := do
  let lexer ← lexer.dropCandidate?
  let (text, cursor) ← readBlock? (style = .literal) lexer.indent (lexer.cursor.advance 1)
  return { lexer with keyAllowed := true, cursor := cursor }.emit (.scalar text style)

/-- A quoted scalar. -/
def quotedScalar? (style : ScalarStyle) (lexer : Lexer) : Option Lexer := do
  let lexer ← lexer.saveCandidate?
  let start := lexer.cursor.advance 1
  let (folding, cursor) ← readQuoted (style = .singleQuoted) {} .text start.position start.rest
  return { lexer with keyAllowed := false, cursor := cursor }.emit (.scalar folding.result style)

/-- A plain scalar. One that is followed by a line end allows a key. -/
def plainScalar? (lexer : Lexer) : Option Lexer := do
  let lexer ← lexer.saveCandidate?
  let (folding, cursor) ← readPlain lexer.inFlow (lexer.indent + 1).toNat {} false
    lexer.cursor.position lexer.cursor.rest
  return { lexer with keyAllowed := folding.broken, cursor := cursor }.emit
    (.scalar folding.result .plain)

/-- A plain scalar may begin with a character that is no indicator, with a dash before something other than
a blank, and in blocks with a question mark or colon before a character of the text. -/
def beginsPlain (flow : Bool) (c : Char) (rest : List Char) : Bool :=
  !("-?:,[]\x7b\x7d#&*!|>'\"%@`".toList.contains c || isBlank c || isBreak c) ||
    (c = '-' && !rest.head?.any isBlank) ||
    (!flow && (c = '?' || c = ':') && !atBlank rest)

/-- The token that begins with a character. -/
def token? (lexer : Lexer) (c : Char) (rest : List Char) : Option Lexer :=
  if lexer.cursor.column = 0 && c = '%' then lexer.directive?
  else if lexer.cursor.column = 0 && atDocumentMarker (c :: rest) then
    lexer.documentMarker? (if c = '-' then .documentStart else .documentEnd)
  else if c = '[' then lexer.openFlow? .flowSequenceStart
  else if c = '{' then lexer.openFlow? .flowMappingStart
  else if c = ']' then lexer.closeFlow? .flowSequenceEnd
  else if c = '}' then lexer.closeFlow? .flowMappingEnd
  else if c = ',' then lexer.flowEntry?
  else if c = '-' && atBlank rest then lexer.blockEntry?
  else if c = '?' && (lexer.inFlow || atBlank rest) then lexer.key?
  else if c = ':' && (lexer.inFlow || atBlank rest) then lexer.value?
  else if c = '*' then lexer.anchor? .aliasTo
  else if c = '&' then lexer.anchor? .anchor
  else if c = '!' then lexer.tag?
  else if c = '|' && !lexer.inFlow then lexer.blockScalar? .literal
  else if c = '>' && !lexer.inFlow then lexer.blockScalar? .folded
  else if c = '\'' then lexer.quotedScalar? .singleQuoted
  else if c = '"' then lexer.quotedScalar? .doubleQuoted
  else if beginsPlain lexer.inFlow c rest then lexer.plainScalar?
  else none

/-- The rest of the tokens. Every token takes a character at least, so as many steps as there are characters
are enough, and one for the end. -/
def run : Nat → Lexer → Option Lexer
  | 0, _ => none
  | steps + 1, lexer => do
    let lexer := lexer.skipBlanks false lexer.cursor.position lexer.cursor.rest
    let lexer := (← lexer.dropStale?).closeBlocks lexer.cursor.column
    match lexer.cursor.rest with
    | [] => (lexer.closeBlocks (-1)).dropCandidate?
    | c :: rest => run steps (← lexer.token? c rest)

end Lexer

/-- The tokens of a stream. -/
def Token.ofText? (text : String) : Option (List Token) := do
  let cursor ← Cursor.ofText? text
  let lexer ← Lexer.run (cursor.rest.length + 1) { cursor := cursor }
  return lexer.tokens.reverse

end Recast.Yaml
