/-
**Documents of a YAML text.**

A document is one node: a scalar, a sequence or a mapping, each with an optional tag, or an alias
for a node with an anchor. Anchors are numbered by how many names are in use when they appear, so
a name that is used again may share its number with the next new one; of nodes with one number the
last counts.

* `Document.ofTokens?`: the only document of a list of tokens;
* `Document.ofText?`: the only document of a text.
-/

import HostNet.Yaml.Token

namespace HostNet.Yaml

/-- A node. -/
inductive Node where
  | scalar (tag : Option String) (style : Style) (text : String)
  | sequence (tag : Option String) (items : List Node)
  /-- Pairs of key and value. -/
  | mapping (tag : Option String) (members : List (Node × Node))
  /-- The node with the anchor of a number. -/
  | alias (number : Nat)
  deriving Repr, Inhabited

/-- A plain scalar without characters, which stands for what is left out. -/
def Node.absent : Node := .scalar none .plain ""

/-- A node with an anchor. -/
structure Anchored where
  number : Nat
  /-- How many anchored nodes start before it. -/
  order : Nat
  node : Node
  deriving Repr, Inhabited

/-- A document. -/
structure Document where
  root : Node
  anchored : List Anchored := []
  deriving Repr, Inhabited

/-- The node that the anchor of a number stands for. -/
def Document.resolve? (document : Document) (number : Nat) : Option Node :=
  let candidates := document.anchored.filter (·.number = number)
  let last := candidates.foldl (fun order entry => max order entry.order) 0
  (candidates.find? (·.order = last)).map (·.node)

/-! ### Reading nodes from tokens -/

/-- The state of reading a document. -/
structure Composition where
  tokens : List Token
  /-- The texts that handles of tags stand for. -/
  handles : List (String × String) := []
  /-- The numbers of the names of anchors. -/
  names : List (String × Nat) := []
  /-- How many anchored nodes have started. -/
  started : Nat := 0
  anchored : List Anchored := []
  deriving Repr

/-- A step of reading a document. -/
abbrev Compose (α : Type) := StateT Composition Option α

namespace Compose

/-- The next token. -/
def peek : Compose (Option Token) := do
  return (← get).tokens.head?

/-- Passes the next token. -/
def advance : Compose Unit :=
  modify fun state => { state with tokens := state.tokens.drop 1 }

/-- Whether the next token is one of some tokens. -/
def isNext (tokens : List Token) : Compose Bool := do
  match ← peek with
  | some token => return tokens.contains token
  | none => return false

/-- Passes a token that has to be the given one. -/
def expect (token : Token) : Compose Unit := do
  if ← isNext [token] then advance else failure

/-- Numbers an anchor, whose node starts here; answers its number and its order. -/
def startAnchor (name : String) : Compose (Nat × Nat) := do
  let state ← get
  let number := state.names.length
  let names := (name, number) :: state.names.filter (·.1 ≠ name)
  set { state with names := names, started := state.started + 1 }
  return (number, state.started)

/-- Notes the node of an anchor. -/
def finishAnchor (anchor : Option (Nat × Nat)) (node : Node) : Compose Node := do
  match anchor with
  | some (number, order) =>
    modify fun state => { state with anchored := ⟨number, order, node⟩ :: state.anchored }
    return node
  | none => return node

/-- The node that an alias stands for. -/
def aliasOf (name : String) : Compose Node := do
  match (← get).names.lookup name with
  | some number => return .alias number
  | none => failure

/-- The text of a tag: what its handle stands for and its suffix. -/
def tagText (tag : Tag) : Compose String := do
  if tag.handle.isEmpty then return tag.suffix
  else
    match (← get).handles.lookup tag.handle with
    | some front => return front ++ tag.suffix
    | none => failure

/-- Reads an anchor and a tag, in either order. -/
def properties : Compose (Option String × Option Tag) := do
  match ← peek with
  | some (.anchor name) =>
    advance
    match ← peek with
    | some (.tag tag) =>
      advance
      return (some name, some tag)
    | _ => return (some name, none)
  | some (.tag tag) =>
    advance
    match ← peek with
    | some (.anchor name) =>
      advance
      return (some name, some tag)
    | _ => return (none, some tag)
  | _ => return (none, none)

/-- Starts the anchor of a node, if it has one. -/
def startAnchor? (name : Option String) : Compose (Option (Nat × Nat)) := do
  match name with
  | some name => return some (← startAnchor name)
  | none => return none

/-- Where a node stands, which decides what it may be. -/
inductive Position where
  | inFlow
  | block
  /-- In a block mapping, where the items of a sequence need no indentation. -/
  | member
  deriving Repr, DecidableEq

/-- The tokens that follow a value that is left out in a block mapping. -/
def memberEnds : List Token := [.key, .value, .blockEnd]

mutual

/-- Reads a node. -/
def node : Nat → Position → Compose Node
  | 0, _ => failure
  | fuel + 1, position => do
    match ← peek with
    | some (.alias name) =>
      advance
      aliasOf name
    | _ =>
      let (name, tag?) ← properties
      let tag ← match tag? with
        | some tag => some <$> tagText tag
        | none => pure none
      match ← peek with
      | some (.scalar style text) =>
        let anchor ← startAnchor? name
        advance
        finishAnchor anchor (.scalar (tag.filter (· ≠ "!")) style text)
      | some .flowSequence =>
        let anchor ← startAnchor? name
        advance
        finishAnchor anchor (.sequence tag (← flowItems fuel true))
      | some .flowMapping =>
        let anchor ← startAnchor? name
        advance
        finishAnchor anchor (.mapping tag (← flowMembers fuel true))
      | some .blockEntry =>
        if position = .member then
          let anchor ← startAnchor? name
          finishAnchor anchor (.sequence tag (← plainItems fuel))
        else orAbsent name tag
      | some .blockSequence =>
        if position ≠ .inFlow then
          let anchor ← startAnchor? name
          advance
          finishAnchor anchor (.sequence tag (← blockItems fuel))
        else orAbsent name tag
      | some .blockMapping =>
        if position ≠ .inFlow then
          let anchor ← startAnchor? name
          advance
          finishAnchor anchor (.mapping tag (← blockMembers fuel))
        else orAbsent name tag
      | _ => orAbsent name tag

/-- A node that is left out; without an anchor or a tag it is a fault. -/
def orAbsent (name tag : Option String) : Compose Node := do
  if name.isNone && tag.isNone then failure
  else finishAnchor (← startAnchor? name) (.scalar tag .plain "")

/-- Reads the items of an indented sequence. -/
def blockItems : Nat → Compose (List Node)
  | 0 => failure
  | fuel + 1 => do
    if ← isNext [.blockEnd] then
      advance
      return []
    else
      expect .blockEntry
      let item ←
        if ← isNext [.blockEntry, .blockEnd] then pure .absent else node fuel .block
      return item :: (← blockItems fuel)

/-- Reads the items of a sequence that is not indented. -/
def plainItems : Nat → Compose (List Node)
  | 0 => failure
  | fuel + 1 => do
    if ← isNext [.blockEntry] then
      advance
      let item ←
        if ← isNext (.blockEntry :: memberEnds) then pure .absent else node fuel .block
      return item :: (← plainItems fuel)
    else return []

/-- Reads the members of a mapping in a block. -/
def blockMembers : Nat → Compose (List (Node × Node))
  | 0 => failure
  | fuel + 1 => do
    if ← isNext [.blockEnd] then
      advance
      return []
    else
      expect .key
      let key ← if ← isNext memberEnds then pure .absent else node fuel .member
      let value ←
        if ← isNext [.value] then
          advance
          if ← isNext memberEnds then pure .absent else node fuel .member
        else pure .absent
      return (key, value) :: (← blockMembers fuel)

/-- Reads the items of a sequence in brackets. -/
def flowItems : Nat → Bool → Compose (List Node)
  | 0, _ => failure
  | fuel + 1, isFirst => do
    if ← isNext [.flowSequenceEnd] then
      advance
      return []
    else
      unless isFirst do expect .flowEntry
      if ← isNext [.flowSequenceEnd] then
        advance
        return []
      else
        let item ←
          if ← isNext [.key] then
            advance
            singlePair fuel
          else node fuel .inFlow
        return item :: (← flowItems fuel false)

/-- Reads a mapping of one pair inside a sequence. A pair whose key is left out also passes the
token in its place. -/
def singlePair : Nat → Compose Node
  | 0 => failure
  | fuel + 1 => do
    let key ←
      if ← isNext [.value, .flowEntry, .flowSequenceEnd] then
        advance
        pure .absent
      else node fuel .inFlow
    let value ←
      if ← isNext [.value] then
        advance
        if ← isNext [.flowEntry, .flowSequenceEnd] then pure .absent else node fuel .inFlow
      else pure .absent
    return .mapping none [(key, value)]

/-- Reads the members of a mapping in brackets. -/
def flowMembers : Nat → Bool → Compose (List (Node × Node))
  | 0, _ => failure
  | fuel + 1, isFirst => do
    if ← isNext [.flowMappingEnd] then
      advance
      return []
    else
      unless isFirst do expect .flowEntry
      if ← isNext [.flowMappingEnd] then
        advance
        return []
      else if ← isNext [.key] then
        advance
        let key ←
          if ← isNext [.value, .flowEntry, .flowMappingEnd] then pure .absent
          else node fuel .inFlow
        let value ←
          if ← isNext [.value] then
            advance
            if ← isNext [.flowEntry, .flowMappingEnd] then pure .absent else node fuel .inFlow
          else pure .absent
        return (key, value) :: (← flowMembers fuel false)
      else
        let key ← node fuel .inFlow
        return (key, .absent) :: (← flowMembers fuel false)

end

/-! ### Documents -/

/-- Adds a directive, which must not repeat another. -/
def addDirective (versions : Nat) (directive : Directive) : Compose Nat := do
  match directive with
  | .version major minor =>
    if versions = 0 && major = 1 && (minor = 1 || minor = 2) then return 1 else failure
  | .handle name text =>
    let state ← get
    if (state.handles.lookup name).isSome then failure
    else
      set { state with handles := (name, text) :: state.handles }
      return versions

/-- Reads the directives before a document; answers whether there were any. -/
def directives : Nat → Nat → Compose Bool
  | 0, _ => failure
  | fuel + 1, versions => do
    match ← peek with
    | some (.directive directive) =>
      advance
      let versions ← addDirective versions directive
      discard <| directives fuel versions
      return true
    | _ => return false

/-- Adds the handles that need no directive. -/
def addDefaults : Compose Unit :=
  modify fun state =>
    { state with handles := state.handles ++ [("!", "!"), ("!!", "tag:yaml.org,2002:")] }

/-- Passes the marks behind a document. -/
def documentEnds : Nat → Compose Unit
  | 0 => failure
  | fuel + 1 => do
    if ← isNext [.documentEnd] then
      advance
      documentEnds fuel

/-- Reads the only document. A text without tokens is a document that is left out. -/
def document (fuel : Nat) : Compose Node := do
  if (← peek).isNone then return .absent
  else
    let announced ← directives fuel 0
    addDefaults
    let root ←
      if announced || (← isNext [.documentStart]) then
        expect .documentStart
        match ← peek with
        | none => pure .absent
        | some (.directive _) => pure .absent
        | some .documentStart => pure .absent
        | some .documentEnd => pure .absent
        | some _ => node fuel .block
      else node fuel .block
    documentEnds fuel
    if (← peek).isNone then return root else failure

end Compose

/-- The only document of a list of tokens. -/
def Document.ofTokens? (tokens : List Token) : Option Document :=
  ((Compose.document (3 * tokens.length + 3)).run { tokens := tokens }).map
    fun (root, state) => { root := root, anchored := state.anchored }

/-- The only document of a text. -/
def Document.ofText? (text : String) : Option Document :=
  (Token.ofText? text).bind Document.ofTokens?

end HostNet.Yaml
