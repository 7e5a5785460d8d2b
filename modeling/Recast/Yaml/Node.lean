import Recast.Yaml.Lexer

/-!
# The nodes of a document

A document is a tree of scalars, sequences and mappings, in which an alias stands for the node that an
anchor names. `Node.ofTokens?` reads the nodes from the tokens of a stream by recursive descent. What is
read so far, the names of anchors and the handles of tags, is the `Scope`.

An anchor has a number, and an alias the number of its anchor. The number of an anchor is that of the
distinct names before it, so a name that is given a second time has the number of the name after it; of the
nodes with one number the last is meant.
-/

namespace Recast.Yaml

/-- A node, with the number of its anchor if it has one. Tags are kept where they can matter, at scalars. -/
inductive Node where
  | scalar (anchor : Option Nat) (tag : Option String) (text : String) (style : ScalarStyle)
  | sequence (anchor : Option Nat) (items : List Node)
  | mapping (anchor : Option Nat) (entries : List (Node × Node))
  | aliasTo (anchor : Nat)
deriving Repr, Inhabited

namespace Node

/-- A scalar that is not written. -/
def empty : Node := .scalar none none "" .plain

mutual

/-- The number of marks that a node takes in the stream: one for a scalar or alias, and the two ends of a
collection. -/
def size : Node → Nat
  | .scalar .. => 1
  | .aliasTo _ => 1
  | .sequence _ items => 2 + sizeItems items
  | .mapping _ entries => 2 + sizeEntries entries

/-- The marks of the items of a sequence. -/
def sizeItems : List Node → Nat
  | [] => 0
  | item :: rest => item.size + sizeItems rest

/-- The marks of the entries of a mapping. -/
def sizeEntries : List (Node × Node) → Nat
  | [] => 0
  | (key, value) :: rest => key.size + value.size + sizeEntries rest

end

/-- The number of the anchor of a node. -/
def anchor? : Node → Option Nat
  | .scalar anchor .. => anchor
  | .sequence anchor _ => anchor
  | .mapping anchor _ => anchor
  | .aliasTo _ => none

mutual

/-- The last node with an anchor of a number, in a node or before it. -/
def lastAnchored (number : Nat) (found : Option Node) (node : Node) : Option Node :=
  let found := if node.anchor? = some number then some node else found
  match node with
  | .scalar .. => found
  | .aliasTo _ => found
  | .sequence _ items => lastInItems number found items
  | .mapping _ entries => lastInEntries number found entries

/-- The last node with an anchor of a number, in items or before them. -/
def lastInItems (number : Nat) (found : Option Node) : List Node → Option Node
  | [] => found
  | item :: rest => lastInItems number (lastAnchored number found item) rest

/-- The last node with an anchor of a number, in entries or before them. -/
def lastInEntries (number : Nat) (found : Option Node) : List (Node × Node) → Option Node
  | [] => found
  | (key, value) :: rest =>
    lastInEntries number (lastAnchored number (lastAnchored number found key) value) rest

end

end Node

/-! ### What is known while reading -/

/-- The meanings of tag handles, and the numbers of the anchors before. -/
structure Scope where
  handles : List (String × String)
  anchors : List (String × Nat) := []

namespace Scope

/-- An anchor more, with its number. -/
def define (scope : Scope) (name : String) : Nat × Scope :=
  let number := scope.anchors.length
  let others := scope.anchors.filter fun entry ↦ entry.1 ≠ name
  (number, { scope with anchors := (name, number) :: others })

/-- The tag of a handle and a suffix. -/
def tag? (scope : Scope) (handle suffix : String) : Option String :=
  if handle = "" then some suffix else (scope.handles.lookup handle).map (· ++ suffix)

end Scope

/-- The anchor and the tag of a node. -/
structure Properties where
  anchor : Option Nat := none
  tag : Option String := none

namespace Properties

/-- The node has neither. -/
def isEmpty (properties : Properties) : Bool := properties.anchor.isNone && properties.tag.isNone

/-- A node that has properties only. -/
def emptyNode (properties : Properties) : Node := .scalar properties.anchor properties.tag "" .plain

/-- The properties at the front of the tokens: an anchor and a tag, in either order, each at most once. -/
def read? (scope : Scope) : List Token → Option (Properties × Scope × List Token)
  | .anchor name :: .tag handle suffix :: rest => do
    let tag ← scope.tag? handle suffix
    let (number, scope) := scope.define name
    return (⟨some number, some tag⟩, scope, rest)
  | .tag handle suffix :: .anchor name :: rest => do
    let tag ← scope.tag? handle suffix
    let (number, scope) := scope.define name
    return (⟨some number, some tag⟩, scope, rest)
  | .anchor name :: rest =>
    let (number, scope) := scope.define name
    some (⟨some number, none⟩, scope, rest)
  | .tag handle suffix :: rest => do
    return (⟨none, some (← scope.tag? handle suffix)⟩, scope, rest)
  | rest => some ({}, scope, rest)

end Properties

/-! ### Nodes from tokens -/

namespace Node

/-- The token ends an entry of a block collection that has no node. -/
def endsEntry (indentless : Bool) : List Token → Bool
  | .blockEntry :: _ => true
  | .blockEnd :: _ => true
  | .key :: _ => indentless
  | .value :: _ => indentless
  | _ => false

/-- The token ends a key or value of a block mapping that has no node. -/
def endsMember : List Token → Bool
  | .key :: _ => true
  | .value :: _ => true
  | .blockEnd :: _ => true
  | _ => false

mutual

/-- A node. Block collections are allowed if `block`, and a sequence without indentation of its own, as the
value of a mapping, if `indentless`. -/
def read? : Nat → Bool → Bool → Scope → List Token → Option (Node × Scope × List Token)
  | 0, _, _, _, _ => none
  | fuel + 1, block, indentless, scope, tokens =>
    match tokens with
    | .aliasTo name :: rest => (scope.anchors.lookup name).map fun number ↦ (.aliasTo number, scope, rest)
    | _ => do
      let (properties, scope, tokens) ← Properties.read? scope tokens
      match tokens with
      | .blockEntry :: _ =>
        if indentless then do
          let (items, scope, rest) ← readEntries? fuel true scope tokens
          return (.sequence properties.anchor items, scope, rest)
        else if properties.isEmpty then none
        else return (properties.emptyNode, scope, tokens)
      | .scalar text style :: rest =>
        return (.scalar properties.anchor properties.tag text style, scope, rest)
      | .flowSequenceStart :: rest => do
        let (items, scope, rest) ← readFlowItems? fuel true scope rest
        return (.sequence properties.anchor items, scope, rest)
      | .flowMappingStart :: rest => do
        let (entries, scope, rest) ← readFlowMembers? fuel true scope rest
        return (.mapping properties.anchor entries, scope, rest)
      | .blockSequenceStart :: rest =>
        if block then do
          let (items, scope, rest) ← readEntries? fuel false scope rest
          match rest with
          | .blockEnd :: rest => return (.sequence properties.anchor items, scope, rest)
          | _ => none
        else if properties.isEmpty then none
        else return (properties.emptyNode, scope, tokens)
      | .blockMappingStart :: rest =>
        if block then do
          let (entries, scope, rest) ← readMembers? fuel scope rest
          return (.mapping properties.anchor entries, scope, rest)
        else if properties.isEmpty then none
        else return (properties.emptyNode, scope, tokens)
      | _ => if properties.isEmpty then none else return (properties.emptyNode, scope, tokens)

/-- The entries of a block sequence, up to the token behind them. -/
def readEntries? : Nat → Bool → Scope → List Token → Option (List Node × Scope × List Token)
  | 0, _, _, _ => none
  | fuel + 1, indentless, scope, tokens =>
    match tokens with
    | .blockEntry :: rest => do
      let (item, scope, rest) ←
        if endsEntry indentless rest then some (empty, scope, rest)
        else read? fuel true false scope rest
      let (items, scope, rest) ← readEntries? fuel indentless scope rest
      return (item :: items, scope, rest)
    | _ => some ([], scope, tokens)

/-- The members of a block mapping with its end. A key or a value may be missing. -/
def readMembers? : Nat → Scope → List Token → Option (List (Node × Node) × Scope × List Token)
  | 0, _, _ => none
  | fuel + 1, scope, tokens =>
    match tokens with
    | .blockEnd :: rest => some ([], scope, rest)
    | .key :: rest => do
      let (key, scope, rest) ←
        if endsMember rest then some (empty, scope, rest) else read? fuel true true scope rest
      let (value, scope, rest) ← readBlockValue? fuel scope rest
      let (entries, scope, rest) ← readMembers? fuel scope rest
      return ((key, value) :: entries, scope, rest)
    | _ => none

/-- The value of a member of a block mapping. -/
def readBlockValue? : Nat → Scope → List Token → Option (Node × Scope × List Token)
  | 0, _, _ => none
  | fuel + 1, scope, tokens =>
    match tokens with
    | .value :: rest =>
      if endsMember rest then some (empty, scope, rest) else read? fuel true true scope rest
    | _ => some (empty, scope, tokens)

/-- The items of a flow sequence with its end. An item may be a mapping of one member. -/
def readFlowItems? : Nat → Bool → Scope → List Token → Option (List Node × Scope × List Token)
  | 0, _, _, _ => none
  | fuel + 1, first, scope, tokens =>
    match tokens with
    | .flowSequenceEnd :: rest => some ([], scope, rest)
    | _ => do
      let tokens ← if first then some tokens
        else match tokens with
          | .flowEntry :: rest => some rest
          | _ => none
      match tokens with
      | .flowSequenceEnd :: rest => some ([], scope, rest)
      | .key :: rest => do
        let (key, scope, rest) ← match rest with
          | .value :: _ => some (empty, scope, rest.drop 1)
          | .flowEntry :: _ => some (empty, scope, rest.drop 1)
          | .flowSequenceEnd :: _ => some (empty, scope, rest.drop 1)
          | _ => read? fuel false false scope rest
        let (value, scope, rest) ← match rest with
          | .value :: .flowEntry :: _ => some (empty, scope, rest.drop 1)
          | .value :: .flowSequenceEnd :: _ => some (empty, scope, rest.drop 1)
          | .value :: rest => read? fuel false false scope rest
          | _ => some (empty, scope, rest)
        let (items, scope, rest) ← readFlowItems? fuel false scope rest
        return (.mapping none [(key, value)] :: items, scope, rest)
      | _ => do
        let (item, scope, rest) ← read? fuel false false scope tokens
        let (items, scope, rest) ← readFlowItems? fuel false scope rest
        return (item :: items, scope, rest)

/-- The members of a flow mapping with its end. -/
def readFlowMembers? : Nat → Bool → Scope → List Token → Option (List (Node × Node) × Scope × List Token)
  | 0, _, _, _ => none
  | fuel + 1, first, scope, tokens =>
    match tokens with
    | .flowMappingEnd :: rest => some ([], scope, rest)
    | _ => do
      let tokens ← if first then some tokens
        else match tokens with
          | .flowEntry :: rest => some rest
          | _ => none
      match tokens with
      | .flowMappingEnd :: rest => some ([], scope, rest)
      | .key :: rest => do
        let (key, scope, rest) ← match rest with
          | .value :: _ => some (empty, scope, rest)
          | .flowEntry :: _ => some (empty, scope, rest)
          | .flowMappingEnd :: _ => some (empty, scope, rest)
          | _ => read? fuel false false scope rest
        let (value, scope, rest) ← match rest with
          | .value :: .flowEntry :: _ => some (empty, scope, rest.drop 1)
          | .value :: .flowMappingEnd :: _ => some (empty, scope, rest.drop 1)
          | .value :: rest => read? fuel false false scope rest
          | _ => some (empty, scope, rest)
        let (entries, scope, rest) ← readFlowMembers? fuel false scope rest
        return ((key, value) :: entries, scope, rest)
      | _ => do
        let (key, scope, rest) ← read? fuel false false scope tokens
        let (entries, scope, rest) ← readFlowMembers? fuel false scope rest
        return ((key, empty) :: entries, scope, rest)

end

end Node

/-! ### Documents -/

/-- The directives in front of a document: the version is at most given once, and so is every handle. -/
def readDirectives? (version : Bool) (handles : List (String × String)) :
    List Token → Option (Bool × List (String × String) × List Token)
  | .versionDirective major minor :: rest =>
    if version || major ≠ 1 || (minor ≠ 1 && minor ≠ 2) then none
    else readDirectives? true handles rest
  | .tagDirective handle meaning :: rest =>
    if (handles.lookup handle).isSome then none
    else readDirectives? version ((handle, meaning) :: handles) rest
  | rest => some (version, handles, rest)

/-- The meanings that handles have unless a directive says otherwise. -/
def standardHandles : List (String × String) := [("!", "!"), ("!!", "tag:yaml.org,2002:")]

/-- The token begins or ends a document, or is a directive. -/
def endsDocument : List Token → Bool
  | [] => true
  | .versionDirective _ _ :: _ => true
  | .tagDirective _ _ :: _ => true
  | .documentStart :: _ => true
  | .documentEnd :: _ => true
  | _ => false

/-- The tokens after the ends of a document. -/
def skipDocumentEnds : List Token → List Token
  | .documentEnd :: rest => skipDocumentEnds rest
  | rest => rest

/-- The node of the only document of a stream; no node if the stream is empty. Directives stand in front of
a document that is marked. -/
def Node.ofTokens? (tokens : List Token) : Option (Option Node) := do
  let (version, handles, rest) ← readDirectives? false [] tokens
  let scope : Scope := { handles := handles ++ standardHandles }
  -- Of a call and a call right inside it one takes a token, so this is more than enough.
  let fuel := 4 * tokens.length + 4
  let (node, rest) ← match rest with
    | [] => if version || !handles.isEmpty then none else some (none, [])
    | .documentStart :: rest =>
      if endsDocument rest then some (some Node.empty, rest)
      else (Node.read? fuel true false scope rest).map fun (node, _, rest) ↦ (some node, rest)
    | rest =>
      if version || !handles.isEmpty then none
      else (Node.read? fuel true false scope rest).map fun (node, _, rest) ↦ (some node, rest)
  if (skipDocumentEnds rest).isEmpty then return node else none

/-- The node of a text that is a stream of one document. -/
def Node.ofText? (text : String) : Option (Option Node) := do
  Node.ofTokens? (← Token.ofText? text)

end Recast.Yaml
