import Recast.Json.Token

/-!
# Reading JSON

A value is read from its tokens by a machine with a stack: what stands on the stack are the arrays and
objects that are still open, each with its finished part. Every token is one step (`Reader.step`), so there
is no bound on the nesting, and the tokens of a value that stands anywhere in a text have the same effect:
its delivery to what is open around it. Of two entries with one key the later value is kept, at the place of
the earlier.
-/

namespace Recast

/-- An open array or object around the value that is being read. -/
inductive Frame where
  /-- The items before, the last first. -/
  | array (items : List Json)
  /-- The entries before, and the key whose value is read. -/
  | object (entries : List (String × Json)) (key : String)

/-- What may come next. -/
inductive Need where
  | value
  | firstItem
  | afterItem (items : List Json)
  | firstKey
  | nextKey (entries : List (String × Json))
  | colon (entries : List (String × Json)) (key : String)
  | afterEntry (entries : List (String × Json))
  | nothing (result : Json)

/-- The open arrays and objects, the innermost first, and what may come next. -/
structure Reader where
  stack : List Frame
  need : Need

namespace Reader

/-- A finished value goes to the innermost open array or object. -/
def deliver (value : Json) : List Frame → Reader
  | [] => ⟨[], .nothing value⟩
  | .array items :: stack => ⟨stack, .afterItem (value :: items)⟩
  | .object entries key :: stack => ⟨stack, .afterEntry (insertEntry key value entries)⟩

/-- A token where a value is to begin. -/
def begin (stack : List Frame) : JsonToken → Option Reader
  | .null => some (deliver .null stack)
  | .bool value => some (deliver (.bool value) stack)
  | .num value => some (deliver (.num value) stack)
  | .str text => some (deliver (.str text) stack)
  | .openBracket => some ⟨stack, .firstItem⟩
  | .openBrace => some ⟨stack, .firstKey⟩
  | _ => none

/-- One token more. -/
def step (reader : Reader) (token : JsonToken) : Option Reader :=
  match reader.need, token with
  | .value, token => begin reader.stack token
  | .firstItem, .closeBracket => some (deliver (.arr []) reader.stack)
  | .firstItem, token => begin (.array [] :: reader.stack) token
  | .afterItem items, .comma => some ⟨.array items :: reader.stack, .value⟩
  | .afterItem items, .closeBracket => some (deliver (.arr items.reverse) reader.stack)
  | .firstKey, .closeBrace => some (deliver (.obj []) reader.stack)
  | .firstKey, .str key => some ⟨reader.stack, .colon [] key⟩
  | .nextKey entries, .str key => some ⟨reader.stack, .colon entries key⟩
  | .colon entries key, .colon => some ⟨.object entries key :: reader.stack, .value⟩
  | .afterEntry entries, .comma => some ⟨reader.stack, .nextKey entries⟩
  | .afterEntry entries, .closeBrace => some (deliver (.obj entries) reader.stack)
  | _, _ => none

/-- Read tokens on from a state. -/
def run (reader : Reader) (tokens : List JsonToken) : Option Reader := tokens.foldlM step reader

theorem run_append (reader : Reader) (tokens rest : List JsonToken) :
    reader.run (tokens ++ rest) = (reader.run tokens).bind fun r ↦ r.run rest := by
  simp only [run, List.foldlM_append]
  rfl

end Reader

/-- The value that a text writes. -/
def Json.parse? (text : String) : Option Json := do
  let reader ← Reader.run ⟨[], .value⟩ (← JsonToken.list? text.toList)
  match reader.need with
  | .nothing result => some result
  | _ => none

end Recast
