import Recast.Json.Numeral
import Recast.Text.Hex

/-!
# The tokens of a JSON text

Brackets, separators, literals, numbers and strings, in the order in which they stand in the text. Reading
them is a fold over the characters: `Lexer.step` takes one character, and what is not finished yet waits in
the `LexerMode`. So the tokens of a text that is cut in two are found by reading on from the state that the
first part leaves (`Lexer.run_append`).
-/

namespace Recast

/-- A unit of a JSON text. -/
inductive JsonToken where
  | openBracket
  | closeBracket
  | openBrace
  | closeBrace
  | comma
  | colon
  | null
  | bool (value : Bool)
  | num (value : Number)
  | str (text : String)
deriving DecidableEq, Repr

/-- What the characters read so far leave open. The characters of an open token stand in reverse. -/
inductive LexerMode where
  | between
  | literal (letters : List Char)
  | number (text : List Char)
  | string (text : List Char)
  | escape (text : List Char)
  /-- Hexadecimal digits of an escape, with the high surrogate that came before it. -/
  | unit (text : List Char) (high : Option Nat) (count : Nat) (value : Nat)
  /-- After a high surrogate, where the escape of a low one must follow. -/
  | surrogate (text : List Char) (high : Nat)
  | surrogateEscape (text : List Char) (high : Nat)
deriving DecidableEq, Repr

/-- The tokens found so far, the last first, and what is open. -/
structure Lexer where
  tokens : List JsonToken
  mode : LexerMode

namespace Lexer

/-- The blanks that may stand between tokens. -/
def isBlank (c : Char) : Bool := c = ' ' || c = '\t' || c = '\n' || c = '\r'

/-- A character of a numeral. -/
def isNumberChar (c : Char) : Bool :=
  c.isDigit || c = '-' || c = '+' || c = '.' || c = 'e' || c = 'E'

/-- The literal that letters spell. -/
def literal? (letters : List Char) : Option JsonToken :=
  if letters = "null".toList then some .null
  else if letters = "true".toList then some (.bool true)
  else if letters = "false".toList then some (.bool false)
  else none

/-- The token of a character that is one by itself. -/
def punctuation? (c : Char) : Option JsonToken :=
  if c = '[' then some .openBracket
  else if c = ']' then some .closeBracket
  else if c = '{' then some .openBrace
  else if c = '}' then some .closeBrace
  else if c = ',' then some .comma
  else if c = ':' then some .colon
  else none

/-- Another token found. -/
def emit (tokens : List JsonToken) (token : JsonToken) : Lexer := ⟨token :: tokens, .between⟩

/-- A character where no token is open. -/
def start (tokens : List JsonToken) (c : Char) : Option Lexer :=
  match punctuation? c with
  | some token => some (emit tokens token)
  | none =>
    if isBlank c then some ⟨tokens, .between⟩
    else if c = '"' then some ⟨tokens, .string []⟩
    else if c.isAlpha then some ⟨tokens, .literal [c]⟩
    else if isNumberChar c then some ⟨tokens, .number [c]⟩
    else none

/-- The open literal or numeral ends. -/
def finish (lexer : Lexer) : Option (List JsonToken) :=
  match lexer.mode with
  | .between => some lexer.tokens
  | .literal letters => (literal? letters.reverse).map (· :: lexer.tokens)
  | .number text => (Number.ofChars? text.reverse).map fun n ↦ .num n :: lexer.tokens
  | _ => none

/-- The character that an escape of one letter stands for. -/
def unescape? (c : Char) : Option Char :=
  if c = '"' || c = '\\' || c = '/' then some c
  else if c = 'b' then some '\x08'
  else if c = 'f' then some '\x0c'
  else if c = 'n' then some '\n'
  else if c = 'r' then some '\r'
  else if c = 't' then some '\t'
  else none

/-- The string goes on after the four digits of an escape. A low surrogate stands only after a high one,
and the two together are one character. -/
def afterUnit (text : List Char) (high : Option Nat) (value : Nat) : Option LexerMode :=
  match high with
  | none =>
    if 0xD800 ≤ value && value < 0xDC00 then some (.surrogate text value)
    else if 0xDC00 ≤ value && value < 0xE000 then none
    else some (.string (Char.ofNat value :: text))
  | some high =>
    if 0xDC00 ≤ value && value < 0xE000 then
      some (.string (Char.ofNat (0x10000 + (high - 0xD800) * 0x400 + (value - 0xDC00)) :: text))
    else none

/-- One character more. -/
def step (lexer : Lexer) (c : Char) : Option Lexer :=
  match lexer.mode with
  | .between => start lexer.tokens c
  | .literal letters =>
    if c.isAlpha then some { lexer with mode := .literal (c :: letters) }
    else do start (← lexer.finish) c
  | .number text =>
    if isNumberChar c then some { lexer with mode := .number (c :: text) }
    else do start (← lexer.finish) c
  | .string text =>
    if c = '"' then some (emit lexer.tokens (.str (String.ofList text.reverse)))
    else if c = '\\' then some { lexer with mode := .escape text }
    else if c.toNat < 0x20 then none
    else some { lexer with mode := .string (c :: text) }
  | .escape text =>
    if c = 'u' then some { lexer with mode := .unit text none 0 0 }
    else (unescape? c).map fun d ↦ { lexer with mode := .string (d :: text) }
  | .unit text high count value => do
    let grown := 16 * value + (← Text.hexValue? c)
    if count = 3 then return { lexer with mode := ← afterUnit text high grown }
    else return { lexer with mode := .unit text high (count + 1) grown }
  | .surrogate text high =>
    if c = '\\' then some { lexer with mode := .surrogateEscape text high } else none
  | .surrogateEscape text high =>
    if c = 'u' then some { lexer with mode := .unit text (some high) 0 0 } else none

/-- Read characters on from a state. -/
def run (lexer : Lexer) (text : List Char) : Option Lexer := text.foldlM step lexer

theorem run_append (lexer : Lexer) (text rest : List Char) :
    lexer.run (text ++ rest) = (lexer.run text).bind fun l ↦ l.run rest := by
  simp only [run, List.foldlM_append]
  rfl

end Lexer

/-- The tokens of a text. -/
def JsonToken.list? (text : List Char) : Option (List JsonToken) := do
  let lexer ← Lexer.run ⟨[], .between⟩ text
  return (← lexer.finish).reverse

end Recast
