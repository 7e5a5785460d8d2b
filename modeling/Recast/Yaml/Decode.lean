import Recast.Number.Width
import Recast.Yaml.Node

/-!
# Reading values from nodes

Readers of texts, truth values, integers, lists and records. What kind of value a node is depends on who
asks: any scalar is a text, and only a plain scalar of the right look is a number or a truth value. Each
time an alias is followed is counted, and a document in which that happens far more often than it is long is
refused.
-/

namespace Recast.Yaml

/-- A document whose values are read. -/
structure Document where
  root : Node

/-- How many aliases may be followed. -/
def Document.aliasLimit (document : Document) : Nat := 100 * document.root.size

/-- Reading with a document at hand, and the number of aliases followed so far. -/
abbrev Decoder := ReaderT Document (StateT Nat Option)

namespace Decoder

/-- The node that a node stands for. -/
def target : Node → Decoder Node
  | .aliasTo number => do
    let document ← read
    let followed := (← get) + 1
    set followed
    if document.aliasLimit < followed then failure
    match document.root.lastAnchored number none with
    | some node => return node
    | none => failure
  | node => return node

/-- What an optional pure reading gives. -/
def ofOption {α : Type} : Option α → Decoder α
  | some value => return value
  | none => failure

/-! ### Scalars -/

/-- The tag of the core schema with a name. -/
def coreTag (name : String) : String := "tag:yaml.org,2002:" ++ name

/-- A scalar that may be read as something else than a text: a plain one, or a literal one of the right
tag. -/
def isTyped (tagName : String) (tag : Option String) (style : ScalarStyle) : Bool :=
  style = .plain || (style = .literal && tag = some (coreTag tagName))

/-- The text of a scalar. -/
def text (node : Node) : Decoder String := do
  match ← target node with
  | .scalar _ _ text _ => return text
  | _ => failure

/-- The truth value of a text. -/
def bool? (text : String) : Option Bool :=
  if ["true", "True", "TRUE"].contains text then some true
  else if ["false", "False", "FALSE"].contains text then some false
  else none

/-- A truth value. -/
def bool (node : Node) : Decoder Bool := do
  match ← target node with
  | .scalar _ tag text style => if isTyped "bool" tag style then ofOption (bool? text) else failure
  | _ => failure

/-- The value of a digit in a base. -/
def digit? (base : Nat) (c : Char) : Option Nat :=
  let value :=
    if c.isDigit then some (c.toNat - '0'.toNat)
    else if 'a' ≤ c && c ≤ 'z' then some (c.toNat - 'a'.toNat + 10)
    else if 'A' ≤ c && c ≤ 'Z' then some (c.toNat - 'A'.toNat + 10)
    else none
  value.filter (· < base)

/-- The number that digits of a base write. -/
def natural? (base : Nat) (digits : List Char) : Option Nat :=
  if digits.isEmpty then none
  else digits.foldlM (fun n c ↦ (digit? base c).map (base * n + ·)) 0

/-- The number of a text without sign: in base sixteen, eight or two behind its mark, else in base ten
without a zero in front. -/
def unsigned? : List Char → Option Nat
  | '0' :: 'x' :: digits => natural? 16 digits
  | '0' :: 'o' :: digits => natural? 8 digits
  | '0' :: 'b' :: digits => natural? 2 digits
  | '0' :: _ :: _ => none
  | digits => natural? 10 digits

/-- The integer of a text with an optional sign. -/
def integer? : List Char → Option Int
  | '+' :: rest => (unsigned? rest).map Int.ofNat
  | '-' :: rest => (unsigned? rest).map fun n ↦ -(n : Int)
  | rest => (unsigned? rest).map Int.ofNat

/-- The natural number of a text with an optional plus sign. -/
def natural32? : List Char → Option Nat
  | '+' :: rest => (unsigned? rest).filter fitsNat32
  | rest => (unsigned? rest).filter fitsNat32

/-- A signed integer of sixty-four bits. -/
def int64 (node : Node) : Decoder Int := do
  match ← target node with
  | .scalar _ tag text style =>
    if isTyped "int" tag style then ofOption ((integer? text.toList).filter fitsInt64) else failure
  | _ => failure

/-- A natural number of thirty-two bits. -/
def nat32 (node : Node) : Decoder Nat := do
  match ← target node with
  | .scalar _ tag text style =>
    if isTyped "int" tag style then ofOption (natural32? text.toList) else failure
  | _ => failure

/-! ### Absence -/

/-- A text that means nothing. -/
def isNull (text : String) : Bool := ["null", "Null", "NULL", "~"].contains text

/-- Whether a node stands for a value: none for a plain scalar that is empty or means nothing. A node of the
null tag has to mean nothing. -/
def isValue : Node → Decoder Bool
  | .scalar _ none text .plain => return !(text.isEmpty || isNull text)
  | .scalar _ (some tag) text .plain =>
    if tag = coreTag "null" then
      if isNull text then return false else failure
    else return true
  | _ => return true

/-- A value that may be absent. -/
def optional {α : Type} (decode : Node → Decoder α) (node : Node) : Decoder (Option α) := do
  let node ← target node
  if ← isValue node then some <$> decode node else return none

/-! ### Collections -/

/-- A plain scalar without text, which stands for an empty collection. -/
def isEmptyPlain : Node → Bool
  | .scalar _ _ text .plain => text.isEmpty
  | _ => false

/-- The items of a list. -/
def list {α : Type} (decode : Node → Decoder α) (node : Node) : Decoder (List α) := do
  match ← target node with
  | .sequence _ items => items.mapM decode
  | node => if isEmptyPlain node then return [] else failure

/-- The members of a record with fields of the given names. Other members are passed over, and a name that
comes twice is an error. -/
def members (names : List String) (seen : List (String × Node)) :
    List (Node × Node) → Decoder (List (String × Node))
  | [] => return seen.reverse
  | (key, value) :: rest => do
    let name ← text key
    if !names.contains name then members names seen rest
    else if (seen.lookup name).isSome then failure
    else members names ((name, value) :: seen) rest

/-- The fields of a record by name. -/
def record (names : List String) (node : Node) : Decoder (List (String × Node)) := do
  match ← target node with
  | .mapping _ entries => members names [] entries
  | node => if isEmptyPlain node then return [] else failure

/-- A field that has to be there. -/
def required {α : Type} (fields : List (String × Node)) (name : String) (decode : Node → Decoder α) :
    Decoder α := do
  decode (← ofOption (fields.lookup name))

/-- A field that may be missing, and then has a default. -/
def withDefault {α : Type} (fields : List (String × Node)) (name : String) (default : α)
    (decode : Node → Decoder α) : Decoder α :=
  match fields.lookup name with
  | none => return default
  | some node => decode node

/-- A field that may be missing or absent. -/
def optionalField {α : Type} (fields : List (String × Node)) (name : String)
    (decode : Node → Decoder α) : Decoder (Option α) :=
  withDefault fields name none (optional decode)

end Decoder

/-- The value of a text that is a stream of one document. An empty stream has the value of an empty
scalar. -/
def decode? {α : Type} (decode : Node → Decoder α) (text : String) : Option α := do
  let root := (← Node.ofText? text).getD .empty
  let (value, _) ← (decode root).run ⟨root⟩ |>.run 0
  return value

end Recast.Yaml
