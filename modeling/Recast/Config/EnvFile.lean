import Recast.Text.Alphanumeric
import Recast.Text.Blank

/-!
# Environment files

A file of assignments `NAME=value`, one a line, with comments after `#`. A value may be quoted: between
apostrophes everything stands for itself, between double quotes a backslash escapes and a dollar sign names a
variable. A quoted value may go on over several lines.

The assignments take effect in order up to the first line that is malformed, and each only where the
variable is not set yet. A variable in a value is that of the environment, or else the last one of the file.
-/

namespace Recast.EnvFile

/-! ### Logical lines -/

/-- Where the text stands within the quotes and escapes of a value. -/
inductive LineState where
  | complete
  | escape
  | strong
  | strongEscape
  | weak
  | weakEscape
  /-- After a blank, where a comment may begin. -/
  | blank
deriving DecidableEq, Repr

/-- The state after one character more; none at a comment. -/
def LineState.next? (state : LineState) (c : Char) : Option LineState :=
  match state with
  | .blank =>
    if c = '#' then none
    else if c = '\\' then some .escape
    else if c = '"' then some .weak
    else if c = '\'' then some .strong
    else some .complete
  | .escape => some .complete
  | .complete =>
    if Text.isBlank c && c ≠ '\n' && c ≠ '\r' then some .blank
    else if c = '\\' then some .escape
    else if c = '"' then some .weak
    else if c = '\'' then some .strong
    else some .complete
  | .weak => some (if c = '\\' then .weakEscape else if c = '"' then .complete else .weak)
  | .weakEscape => some .weak
  | .strong => some (if c = '\\' then .strongEscape else if c = '\'' then .complete else .strong)
  | .strongEscape => some .strong

/-- The part of a line before its comment, and the state after it; none if there is a comment. -/
def scanLine (state : LineState) : List Char → List Char × Option LineState
  | [] => ([], some state)
  | c :: rest =>
    match state.next? c with
    | none => ([], none)
    | some state =>
      let (kept, last) := scanLine state rest
      (c :: kept, last)

/-- The lines of a text, each with the line feed that ends it. -/
def physicalLines (text : List Char) : List (List Char) :=
  let (last, lines) := text.foldr (fun c (line, lines) ↦
    if c = '\n' then
      (['\n'], if line.isEmpty then lines else line :: lines)
    else (c :: line, lines)) ([], [])
  if last.isEmpty then lines else last :: lines

/-- A line without the line feed at its end, and without the carriage return before that. -/
def dropLineEnd (line : List Char) : List Char :=
  match line.reverse with
  | '\n' :: '\r' :: rest => rest.reverse
  | '\n' :: rest => rest.reverse
  | _ => line

/-- Lines joined as long as a quote or an escape is open. A text that ends inside one has a malformed last
line, given as `none`. -/
def logicalLines (before : List Char) (state : LineState) : List (List Char) → List (Option (List Char))
  | [] => if state = .complete then [] else [none]
  | line :: rest =>
    let all := before ++ line
    -- A line that begins with `#` is dropped before its quotes are looked at.
    if (Text.trimStart all).head? = some '#' then some [] :: logicalLines [] .complete rest
    else
      match scanLine state line with
      | (kept, none) => some (before ++ kept) :: logicalLines [] .complete rest
      | (_, some .complete) => some (dropLineEnd all) :: logicalLines [] .complete rest
      | (_, some state) => logicalLines all state rest

/-! ### Values -/

/-- The variables that are set, and those that the file assigned so far. -/
structure Variables where
  environment : List (String × String)
  assigned : List (String × String)

/-- What follows a prefix of a text. -/
def afterPrefix? (front text : List Char) : Option (List Char) :=
  if front.isPrefixOf text then some (text.drop front.length) else none

/-- The text of a variable, empty if there is none. The environment is looked up as lines `NAME=value`, so a
name between braces may hold an equals sign and reach into the value: if `A` is `b=c`, then `A=b` is `c`. -/
def Variables.value (vars : Variables) (name : List Char) : List Char :=
  let found? := vars.environment.findSome? fun (key, text) ↦
    afterPrefix? (name ++ ['=']) (key.toList ++ '=' :: text.toList)
  match found? with
  | some text => text
  | none => ((vars.assigned.lookup (String.ofList name)).getD "").toList

/-- The quotes around the place of reading. -/
inductive Quote where
  | none
  | weak
  | strong
deriving DecidableEq, Repr

/-- What was begun at the place of reading. -/
inductive Pending where
  | nothing
  | escape
  /-- A variable after a dollar sign, the letters of its name in reverse. -/
  | reference (name : List Char)
  /-- A variable between braces. -/
  | braced (name : List Char)
  /-- The value is over, and only blanks or a comment may follow. -/
  | ending
  | comment
deriving DecidableEq, Repr

/-- The value read so far, in reverse. -/
structure ValueReader where
  output : List Char := []
  quote : Quote := .none
  pending : Pending := .nothing

namespace ValueReader

/-- More characters of the value. -/
def push (reader : ValueReader) (text : List Char) : ValueReader :=
  { reader with output := text.reverse ++ reader.output, pending := .nothing }

/-- A character outside of escapes, variables and apostrophes. -/
def plain (reader : ValueReader) (c : Char) : ValueReader :=
  if c = '$' then { reader with pending := .reference [] }
  else if c = '\\' then { reader with pending := .escape }
  else if reader.quote = .weak then
    if c = '"' then { reader with quote := .none } else reader.push [c]
  else if c = '\'' then { reader with quote := .strong }
  else if c = '"' then { reader with quote := .weak }
  else if c = ' ' || c = '\t' then { reader with pending := .ending }
  else reader.push [c]

/-- One character more; none if it is out of place. -/
def step (vars : Variables) (reader : ValueReader) (c : Char) : Option ValueReader :=
  match reader.pending with
  | .comment => some reader
  | .ending =>
    if c = ' ' || c = '\t' then some reader
    else if c = '#' then some { reader with pending := .comment }
    else none
  | .escape =>
    if c = '\\' || c = '\'' || c = '"' || c = '$' || c = ' ' then some (reader.push [c])
    else if c = 'n' then some (reader.push ['\n'])
    else none
  | .reference name =>
    if Text.isAlphanumeric c then some { reader with pending := .reference (c :: name) }
    else if c = '{' && name.isEmpty then some { reader with pending := .braced [] }
    else
      -- What ends the name stands for itself, even the quote that is open.
      let reader := reader.push (vars.value name.reverse)
      some (if c = '$' then { reader with pending := .reference [] } else reader.push [c])
  | .braced name =>
    some (if c = '}' then reader.push (vars.value name.reverse)
      else { reader with pending := .braced (c :: name) })
  | .nothing =>
    some (if reader.quote = .strong then
      if c = '\'' then { reader with quote := .none } else reader.push [c]
    else reader.plain c)

/-- The value at the end of its text; none if a quote or a brace is open. -/
def finish (vars : Variables) (reader : ValueReader) : Option (List Char) :=
  if reader.quote ≠ .none then none
  else
    match reader.pending with
    | .braced _ => none
    | .reference name => some (reader.push (vars.value name.reverse)).output.reverse
    | _ => some reader.output.reverse

end ValueReader

/-- The value that a text writes. -/
def value? (vars : Variables) (text : List Char) : Option (List Char) := do
  (← text.foldlM (ValueReader.step vars) {}).finish vars

/-! ### Assignments -/

/-- A name at the front of a text, and what follows it. -/
def key? (text : List Char) : Option (List Char × List Char) :=
  match text with
  | [] => none
  | c :: _ =>
    if c.isAlpha || c = '_' then
      let inKey (c : Char) : Bool := c.isAlphanum || c = '_' || c = '.'
      some (text.takeWhile inKey, Text.trimStart (text.dropWhile inKey))
    else none

/-- What follows an equals sign. -/
def afterEquals? : List Char → Option (List Char)
  | '=' :: rest => some (Text.trimStart rest)
  | _ => none

/-- The name of an assignment and the text of its value. The word `export` may stand before the name, and is
a name itself where an equals sign follows. -/
def assignment? (line : List Char) : Option (List Char × List Char) := do
  let (key, rest) ← key? line
  match afterEquals? rest with
  | some value => return (key, value)
  | none =>
    if key = "export".toList then
      let (key, rest) ← key? rest
      return (key, ← afterEquals? rest)
    else none

/-- The variables after a line; none if it is malformed. -/
def applyLine (vars : Variables) (line : List Char) : Option Variables :=
  let line := Text.trim line
  if line.isEmpty || line.head? = some '#' then some vars
  else do
    let (key, text) ← assignment? line
    let value ← if text.isEmpty || text.head? = some '#' then some [] else value? vars text
    let key := String.ofList key
    let entry := (key, String.ofList value)
    return {
      environment := if (vars.environment.lookup key).isSome then vars.environment
        else entry :: vars.environment
      assigned := entry :: vars.assigned }

/-- The variables after lines, up to the first that is malformed. -/
def applyLines (vars : Variables) : List (Option (List Char)) → Variables
  | [] => vars
  | none :: _ => vars
  | some line :: rest =>
    match applyLine vars line with
    | none => vars
    | some vars => applyLines vars rest

/-- The environment after a file is loaded into it. A byte order mark at the front is skipped. -/
def load (text : String) (environment : List (String × String)) : List (String × String) :=
  let text := match text.toList with
    | '\uFEFF' :: rest => rest
    | text => text
  (applyLines ⟨environment, []⟩ (logicalLines [] .complete (physicalLines text))).environment

end Recast.EnvFile
