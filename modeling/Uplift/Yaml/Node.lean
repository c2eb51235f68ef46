import Uplift.Yaml.Token

set_option autoImplicit false

/-! # YAML nodes

The tokens of a text are put together to a tree of scalars, sequences and mappings. An alias stands
for a copy of the node with its anchor, which has to be complete by then. Aliases of aliases can blow
up a short text, so a document may use them at most a hundred times as often as it has parts. -/

namespace Uplift.Yaml

/-- A node with its tag. A scalar is plain when it is written without quotes and outside a block
    scalar. -/
inductive Node where
  | scalar (tag : Option String) (plain : Bool) (text : String)
  | sequence (tag : Option String) (items : List Node)
  | mapping (tag : Option String) (entries : List (Node × Node))
  deriving Inhabited, Repr

namespace Node

/-- What is left to read, the handles of tags, and the anchors so far: each with its node and the
    number of aliases in it, or nothing while the node is being read. -/
structure Build where
  tokens : List Token
  handles : List (String × String) := []
  anchors : List (String × Option (Node × Nat)) := []
  aliases : Nat := 0
  parts : Nat := 0

/-- A step that takes tokens; it may fail. -/
abbrev Builder := StateT Build Option

namespace Builder

/-- The next token. -/
def peek : Builder (Option Token) := return (← get).tokens.head?

/-- Move over a token. -/
def advance : Builder Unit := modify fun b => { b with tokens := b.tokens.tail }

/-- Count parts of the document. -/
def count (n : Nat) : Builder Unit := modify fun b => { b with parts := b.parts + n }

/-- Whether the next token is one of these; the end of the tokens is none of them. -/
def sees (ts : List Token) : Builder Bool := return (← peek).any ts.contains

/-- A scalar that is not written at all. -/
def empty : Builder Node := do
  count 1
  return .scalar none true ""

/-- The copy that an alias stands for. -/
def useAlias (name : String) : Builder Node := do
  count 1
  match (← get).anchors.lookup name with
  | some (some (node, inner)) =>
    modify fun b => { b with aliases := b.aliases + 1 + inner }
    return node
  | _ => failure

/-- Set what an anchor stands for. -/
def setAnchor (anchor : Option String) (v : Option (Node × Nat)) : Builder Unit :=
  match anchor with
  | none => pure ()
  | some name => modify fun b => { b with anchors := (name, v) :: b.anchors }

/-- The full text of a tag. -/
def tagText (handle suffix : String) : Builder String := do
  if handle.isEmpty then return suffix
  match (← get).handles.lookup handle with
  | some lead => return lead ++ suffix
  | none =>
    if handle = "!" then return "!" ++ suffix
    else if handle = "!!" then return "tag:yaml.org,2002:" ++ suffix
    else failure

/-- Anchor and tag in front of a node, in either order. -/
def properties : Builder (Option String × Option String) := do
  match ← peek with
  | some (.anchor a) =>
    advance
    match ← peek with
    | some (.tag h s) =>
      advance
      return (some a, some (← tagText h s))
    | _ => return (some a, none)
  | some (.tag h s) =>
    advance
    let t ← tagText h s
    match ← peek with
    | some (.anchor a) =>
      advance
      return (some a, some t)
    | _ => return (none, some t)
  | _ => return (none, none)

end Builder

open Builder

mutual

/-- A node. In a block it may be a block; as the value of a key it may be a sequence that is not
    further in than the key. -/
def node : Nat → Bool → Bool → Builder Node
  | 0, _, _ => failure
  | fuel + 1, inBlock, atKey => do
    match ← peek with
    | some (.alias name) =>
      advance
      useAlias name
    | _ =>
      let (anchor, tag) ← properties
      setAnchor anchor none
      let before := (← get).aliases
      let v ← content fuel inBlock atKey (anchor.isSome || tag.isSome) tag
      setAnchor anchor (some (v, (← get).aliases - before))
      return v

/-- What follows anchor and tag. -/
def content : Nat → Bool → Bool → Bool → Option String → Builder Node
  | 0, _, _, _, _ => failure
  | fuel + 1, inBlock, atKey, hasProperties, tag => do
    match ← peek with
    | some (.scalar text plain) =>
      advance
      count 1
      return .scalar (if tag = some "!" then none else tag) plain text
    | some .flowSequence =>
      advance
      count 2
      return .sequence tag (← flowItems fuel true)
    | some .flowMapping =>
      advance
      count 2
      return .mapping tag (← flowEntries fuel true)
    | some .entry =>
      if atKey then
        count 2
        return .sequence tag (← looseItems fuel)
      else bare hasProperties tag
    | some .blockSequence =>
      if inBlock then
        advance
        count 2
        return .sequence tag (← blockItems fuel)
      else bare hasProperties tag
    | some .blockMapping =>
      if inBlock then
        advance
        count 2
        return .mapping tag (← blockEntries fuel)
      else bare hasProperties tag
    | _ => bare hasProperties tag

/-- A node with anchor or tag and nothing else. -/
def bare : Bool → Option String → Builder Node
  | true, tag => do
    count 1
    return .scalar tag true ""
  | false, _ => failure

/-- The entries of a sequence up to the end of its block. -/
def blockItems : Nat → Builder (List Node)
  | 0 => failure
  | fuel + 1 => do
    match ← peek with
    | some .entry =>
      advance
      let v ← if ← sees [.entry, .blockEnd] then empty else node fuel true false
      return v :: (← blockItems fuel)
    | some .blockEnd =>
      advance
      return []
    | _ => failure

/-- The entries of a sequence that is not further in than its key. -/
def looseItems : Nat → Builder (List Node)
  | 0 => failure
  | fuel + 1 => do
    match ← peek with
    | some .entry =>
      advance
      let v ← if ← sees [.entry, .key, .value, .blockEnd] then empty else node fuel true false
      return v :: (← looseItems fuel)
    | _ => return []

/-- The entries of a mapping up to the end of its block. -/
def blockEntries : Nat → Builder (List (Node × Node))
  | 0 => failure
  | fuel + 1 => do
    match ← peek with
    | some .key =>
      advance
      let k ← if ← sees [.key, .value, .blockEnd] then empty else node fuel true true
      let v ← if ← sees [.value] then do
          advance
          if ← sees [.key, .value, .blockEnd] then empty else node fuel true true
        else empty
      return (k, v) :: (← blockEntries fuel)
    | some .blockEnd =>
      advance
      return []
    | _ => failure

/-- The items of a sequence in brackets. An item with a key is a mapping of its own. -/
def flowItems : Nat → Bool → Builder (List Node)
  | 0, _ => failure
  | fuel + 1, first => do
    if ← sees [.flowSequenceEnd] then
      advance
      return []
    if !first then
      if ← sees [.separator] then advance else failure
    match ← peek with
    | some .flowSequenceEnd =>
      advance
      return []
    | some .key =>
      advance
      count 2
      let k ← if ← sees [.value, .separator, .flowSequenceEnd] then do
          advance
          empty
        else node fuel false false
      let v ← if ← sees [.value] then do
          advance
          if ← sees [.separator, .flowSequenceEnd] then empty else node fuel false false
        else empty
      return .mapping none [(k, v)] :: (← flowItems fuel false)
    | _ =>
      let v ← node fuel false false
      return v :: (← flowItems fuel false)

/-- The entries of a mapping in brackets. A key without a value has an empty one. -/
def flowEntries : Nat → Bool → Builder (List (Node × Node))
  | 0, _ => failure
  | fuel + 1, first => do
    if ← sees [.flowMappingEnd] then
      advance
      return []
    if !first then
      if ← sees [.separator] then advance else failure
    match ← peek with
    | some .flowMappingEnd =>
      advance
      return []
    | some .key =>
      advance
      let k ← if ← sees [.value, .separator, .flowMappingEnd] then empty else node fuel false false
      let v ← if ← sees [.value] then do
          advance
          if ← sees [.separator, .flowMappingEnd] then empty else node fuel false false
        else empty
      return (k, v) :: (← flowEntries fuel false)
    | _ =>
      let k ← node fuel false false
      let v ← empty
      return (k, v) :: (← flowEntries fuel false)

end

/-- The directives in front of a document. A version comes at most once, and so does a handle. -/
def directives : Nat → Bool → Builder Unit
  | 0, _ => failure
  | fuel + 1, versioned => do
    match ← peek with
    | some (.version major minor) =>
      advance
      if versioned || major ≠ 1 || (minor ≠ 1 && minor ≠ 2) then failure
      directives fuel true
    | some (.handle name lead) =>
      advance
      if ((← get).handles.lookup name).isSome then failure
      modify fun b => { b with handles := (name, lead) :: b.handles }
      directives fuel versioned
    | _ => pure ()

/-- Whether a token starts a document with directives or a marker. -/
def isDocumentMark : Token → Bool
  | .version _ _ | .handle _ _ | .documentStart | .documentEnd => true
  | _ => false

/-- The only document; nothing when there is none at all. -/
def document (fuel : Nat) : Builder (Option Node) := do
  let some first ← peek | return none
  let root ←
    if isDocumentMark first && first ≠ .documentEnd then do
      directives fuel false
      if !(← sees [.documentStart]) then failure
      advance
      match ← peek with
      | none => empty
      | some t => if isDocumentMark t then empty else node fuel true false
    else node fuel true false
  modify fun b => { b with tokens := b.tokens.dropWhile (· = .documentEnd) }
  if (← peek).isSome then failure
  let b ← get
  if b.aliases > b.parts * 100 then failure
  return some root

/-- The document of a text that holds at most one; an empty text holds none. -/
def read? (s : String) : Option (Option Node) := do
  let tokens ← Token.scan s
  (document (2 * tokens.length + 4)).run' { tokens }

end Node

end Uplift.Yaml
