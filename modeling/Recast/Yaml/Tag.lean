import Recast.Text.Hex
import Recast.Yaml.Source
import Recast.Yaml.Token

/-!
# Tags and directives

A tag is written in full between angle brackets, or as a handle and a suffix; a directive at the start of a
document gives handles their meaning. Octets of a tag that are written with a percent sign are decoded, each
octet of a longer sequence standing for the code point of its own number, and a tag ends before an octet that
is zero.
-/

namespace Recast.Yaml

/-! ### The characters of tags -/

/-- A character of a tag; the three flow indicators at the end may stand in tags in full only. -/
def isTagChar (full : Bool) (c : Char) : Bool :=
  isNameChar c || ";/?:@&=+$.!~*'()".toList.contains c || (full && (c = ',' || c = '[' || c = ']'))

/-- The number of octets that follow a leading octet. -/
def followers? (octet : Nat) : Option Nat :=
  if octet < 0x80 then some 0
  else if octet < 0xC0 then none
  else if octet < 0xE0 then some 1
  else if octet < 0xF0 then some 2
  else if octet < 0xF8 then some 3
  else none

/-- Read the characters of a tag on. `pending` octets of a sequence are still to come. -/
def readTagChars (full : Bool) (text : List Char) (pending : Nat) (position : Position) :
    List Char → Option (List Char × Cursor)
  | '%' :: a :: b :: rest =>
    match Text.hexValue? a, Text.hexValue? b with
    | some high, some low =>
      let octet := 16 * high + low
      let left? :=
        if pending = 0 then followers? octet
        else if 0x80 ≤ octet && octet < 0xC0 then some (pending - 1)
        else none
      match left? with
      | none => none
      | some left =>
        readTagChars full (Char.ofNat octet :: text) left (((position.next '%').next a).next b) rest
    | _, _ => none
  | '%' :: _ => none
  | c :: rest =>
    if pending ≠ 0 then none
    else if isTagChar full c then readTagChars full (c :: text) 0 (position.next c) rest
    else some (text.reverse, ⟨c :: rest, position⟩)
  | [] => if pending ≠ 0 then none else some (text.reverse, ⟨[], position⟩)

/-- The characters of a tag from a place on. -/
def tagChars? (full : Bool) (cursor : Cursor) : Option (List Char × Cursor) :=
  readTagChars full [] 0 cursor.position cursor.rest

/-- The text of a tag that is written with some characters. -/
def tagText (chars : List Char) : String := String.ofList (chars.takeWhile (· ≠ '\x00'))

/-- The handle that begins at an exclamation mark: with a second mark behind its name, if there is one. -/
def tagHandle? (cursor : Cursor) : Option (List Char × Cursor) :=
  if cursor.startsWith '!' then
    let name := (cursor.advance 1).peekWhile isNameChar
    let cursor := cursor.advance (name.length + 1)
    if cursor.startsWith '!' then some ('!' :: name ++ ['!'], cursor.advance 1)
    else some ('!' :: name, cursor)
  else none

/-! ### Tags -/

/-- The tag at an exclamation mark, as handle and suffix. A tag in full has no handle, and nor has the tag
that is a mark by itself. -/
def readTagParts? (cursor : Cursor) : Option (String × String × Cursor) := do
  if (cursor.rest.drop 1).head? = some '<' then
    let (suffix, cursor) ← tagChars? true (cursor.advance 2)
    if suffix.isEmpty || !cursor.startsWith '>' then none
    else return ("", tagText suffix, cursor.advance 1)
  else
    let (handle, cursor) ← tagHandle? cursor
    let (suffix, cursor) ← tagChars? false cursor
    if 2 ≤ handle.length && handle.getLast? = some '!' then
      if suffix.isEmpty then none
      else return (String.ofList handle, tagText suffix, cursor)
    else
      let suffix := tagText (handle.drop 1 ++ suffix)
      if suffix.isEmpty then return ("", "!", cursor)
      else return ("!", suffix, cursor)

/-- The tag at an exclamation mark, which a blank follows, or a comma in a flow collection. -/
def readTag? (flow : Bool) (cursor : Cursor) : Option (Token × Cursor) := do
  let (handle, suffix, cursor) ← readTagParts? cursor
  if atBlank cursor.rest || (flow && cursor.startsWith ',') then return (.tag handle suffix, cursor)
  else none

/-! ### Anchors -/

/-- The name behind the mark of an anchor or alias, and what may follow it. -/
def readAnchorName? (cursor : Cursor) : Option (String × Cursor) :=
  let cursor := cursor.advance 1
  let name := cursor.peekWhile isNameChar
  let cursor := cursor.advance name.length
  let ended := atBlank cursor.rest || "?:,]\x7d%@`".toList.any cursor.startsWith
  if name.isEmpty || !ended then none else some (String.ofList name, cursor)

/-! ### Directives -/

/-- A number of at most nine digits. -/
def versionNumber? (cursor : Cursor) : Option (Nat × Cursor) :=
  let digits := cursor.peekWhile Char.isDigit
  if digits.isEmpty || 9 < digits.length then none
  else some (digits.foldl (fun n c ↦ 10 * n + (c.toNat - '0'.toNat)) 0, cursor.advance digits.length)

/-- The version behind the name of a directive. -/
def readVersion? (cursor : Cursor) : Option (Token × Cursor) := do
  let (major, cursor) ← versionNumber? (cursor.skipWhile isBlank)
  if !cursor.startsWith '.' then none
  let (minor, cursor) ← versionNumber? (cursor.advance 1)
  return (.versionDirective major minor, cursor)

/-- The handle and its meaning behind the name of a directive. -/
def readTagMeaning? (cursor : Cursor) : Option (Token × Cursor) := do
  let (handle, cursor) ← tagHandle? (cursor.skipWhile isBlank)
  if handle ≠ ['!'] && (handle.length < 2 || handle.getLast? ≠ some '!') then none
  if !cursor.rest.head?.any isBlank then none
  let (meaning, cursor) ← tagChars? true (cursor.skipWhile isBlank)
  if meaning.isEmpty || !atBlank cursor.rest then none
  return (.tagDirective (String.ofList handle) (tagText meaning), cursor)

/-- The directive at a percent sign, with its line. -/
def readDirective? (cursor : Cursor) : Option (Token × Cursor) := do
  let cursor := cursor.advance 1
  let name := cursor.peekWhile isNameChar
  let cursor := cursor.advance name.length
  if !atBlank cursor.rest then none
  let (token, cursor) ←
    if name = "YAML".toList then readVersion? cursor
    else if name = "TAG".toList then readTagMeaning? cursor
    else none
  return (token, ← cursor.skipLineRest?)

end Recast.Yaml
