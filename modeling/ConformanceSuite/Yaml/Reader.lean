import ConformanceSuite.Yaml.Layout
import ConformanceSuite.Yaml.Node

/-!
# Reading YAML texts

The tree of the one document of a text, from its tokens, and its value. Whatever is wrong with a
text, it has no value.
-/

namespace ConformanceSuite.Yaml

/-- The state of reading: the tokens left, and the anchored nodes. An anchor gets a number where it
stands, and its node once it has been read. -/
structure Reading where
  tokens : List Token
  numbers : List (String × Nat)
  nodes : List (Nat × Node)
  handles : List (String × String)

/-- A step of reading. -/
abbrev Read := StateT Reading Option

namespace Read

/-- The next token. -/
def next : Read (Option Token) := return (← get).tokens.head?

/-- Skip a token. -/
def skip : Read Unit := modify fun s => { s with tokens := s.tokens.drop 1 }

/-- Skip the next token if it is the given one. -/
def accept (t : Token) : Read Bool := do
  if (← next) = some t then
    skip
    pure true
  else pure false

/-- Skip the next token, which has to be the given one. -/
def expect (t : Token) : Read Unit := do
  if ← accept t then pure () else failure

/-- Whether the next token is among some. -/
def nextIsIn (tokens : List Token) : Read Bool := do
  match ← next with
  | none => pure false
  | some t => pure (tokens.contains t)

/-! ### Properties of nodes -/

/-- The name of a tag. -/
def tagName (t : TagText) : Read String := do
  if t.handle = "" then pure t.suffix
  else match (← get).handles.lookup t.handle with
    | some start => pure (start ++ t.suffix)
    | none => failure

/-- An anchor, if there is one. -/
def anchor : Read (Option String) := do
  match ← next with
  | some (.anchor name) => do
    skip
    pure (some name)
  | _ => pure none

/-- A tag as it is written, if there is one. -/
def tag : Read (Option TagText) := do
  match ← next with
  | some (.tag text) => do
    skip
    pure (some text)
  | _ => pure none

/-- The anchor and the tag of a node, in either order. -/
def properties : Read (Option String × Option String) := do
  let (anchor, tag) ← do
    match ← anchor with
    | some name => pure (some name, ← tag)
    | none =>
      let tag ← tag
      pure (← if tag.isSome then anchor else pure none, tag)
  match tag with
  | none => pure (anchor, none)
  | some text => pure (anchor, some (← tagName text))

/-- Give an anchor its number. -/
def announce (name : String) : Read Nat := do
  let s ← get
  let number := s.numbers.length
  set { s with numbers := (name, number) :: s.numbers }
  pure number

/-- Give an anchor its node. -/
def settle (number : Nat) (n : Node) : Read Unit :=
  modify fun s => { s with nodes := (number, n) :: s.nodes }

/-- The node that an alias stands for: that of the last anchor of its name. -/
def aliased (name : String) : Read Node := do
  let s ← get
  match (s.numbers.lookup name).bind fun number => s.nodes.lookup number with
  | some n => pure (.alias n)
  | none => failure

/-! ### Nodes -/

/-- The tag that stands for no tag in front of a scalar. -/
def scalarTag (tag : Option String) : Option String := if tag = some "!" then none else tag

mutual

/-- A node. In a block, blocks may start; as the value of a key, a sequence need not be indented. -/
def node (block indentless : Bool) : Nat → Read Node
  | 0 => failure
  | fuel + 1 => do
    if let some (.alias name) ← next then
      skip
      aliased name
    else
      let (anchor, tag) ← properties
      let number ← anchor.mapM announce
      let n ← content block indentless anchor.isSome tag fuel
      if let some number := number then settle number n
      pure n

/-- A node behind its properties. -/
def content (block indentless anchored : Bool) (tag : Option String) : Nat → Read Node
  | 0 => failure
  | fuel + 1 => do
    match ← next, block with
    | some (.scalar plain text), _ => do
      skip
      pure (.scalar (scalarTag tag) plain text)
    | some .flowSequenceStart, _ => do
      skip
      return .sequence tag (← flowItems true fuel)
    | some .flowMappingStart, _ => do
      skip
      return .mapping tag (← flowMembers true fuel)
    | some .blockSequenceStart, true => do
      skip
      return .sequence tag (← blockItems fuel)
    | some .blockMappingStart, true => do
      skip
      return .mapping tag (← blockMembers fuel)
    | t, _ =>
      if indentless ∧ t = some .blockEntry then return .sequence tag (← indentlessItems fuel)
      else if anchored ∨ tag.isSome then pure (.scalar tag true "")
      else failure

/-- A node, or nothing in front of certain tokens. -/
def optionalNode (block indentless : Bool) (ends : List Token) : Nat → Read Node
  | 0 => failure
  | fuel + 1 => do
    if ← nextIsIn ends then pure .empty else node block indentless fuel

/-- The items of an indented sequence. -/
def blockItems : Nat → Read (List Node)
  | 0 => failure
  | fuel + 1 => do
    if ← accept .blockEntry then
      let x ← optionalNode true false [.blockEntry, .blockEnd] fuel
      return x :: (← blockItems fuel)
    else
      expect .blockEnd
      pure []

/-- The items of a sequence that is not indented. -/
def indentlessItems : Nat → Read (List Node)
  | 0 => failure
  | fuel + 1 => do
    if ← accept .blockEntry then
      let x ← optionalNode true false [.blockEntry, .key, .value, .blockEnd] fuel
      return x :: (← indentlessItems fuel)
    else pure []

/-- The members of an indented mapping. -/
def blockMembers : Nat → Read (List (Node × Node))
  | 0 => failure
  | fuel + 1 => do
    if ← accept .key then
      let k ← optionalNode true true [.key, .value, .blockEnd] fuel
      let v ←
        if ← accept .value then optionalNode true true [.key, .value, .blockEnd] fuel
        else pure .empty
      return (k, v) :: (← blockMembers fuel)
    else
      expect .blockEnd
      pure []

/-- The items of a sequence in brackets. -/
def flowItems (first : Bool) : Nat → Read (List Node)
  | 0 => failure
  | fuel + 1 => do
    if ← accept .flowSequenceEnd then pure []
    else
      if !first then expect .flowEntry
      if !first && (← accept .flowSequenceEnd) then pure []
      else
        let x ←
          if ← accept .key then return .mapping none [← flowPair fuel] :: (← flowItems false fuel)
          else node false false fuel
        return x :: (← flowItems false fuel)

/-- The one member of a mapping without braces inside brackets. Where the key is missing, the token
behind it is lost. -/
def flowPair : Nat → Read (Node × Node)
  | 0 => failure
  | fuel + 1 => do
    let k ←
      if ← nextIsIn [.value, .flowEntry, .flowSequenceEnd] then
        skip
        pure .empty
      else node false false fuel
    let v ←
      if ← accept .value then optionalNode false false [.flowEntry, .flowSequenceEnd] fuel
      else pure .empty
    pure (k, v)

/-- The members of a mapping in braces. -/
def flowMembers (first : Bool) : Nat → Read (List (Node × Node))
  | 0 => failure
  | fuel + 1 => do
    if ← accept .flowMappingEnd then pure []
    else
      if !first then expect .flowEntry
      if !first && (← accept .flowMappingEnd) then pure []
      else
        let ends : List Token := [.flowEntry, .flowMappingEnd]
        if ← accept .key then
          let k ← optionalNode false false (.value :: ends) fuel
          let v ← if ← accept .value then optionalNode false false ends fuel else pure .empty
          return (k, v) :: (← flowMembers false fuel)
        else
          let k ← node false false fuel
          return (k, .empty) :: (← flowMembers false fuel)

end

/-! ### Documents -/

/-- The versions that may be asked for. -/
def isKnownVersion (major minor : Nat) : Bool := major == 1 && (minor == 1 || minor == 2)

/-- The directives in front of a document; a version and a handle are given once. -/
def directives : Nat → (versioned : Bool) → (given : List (String × String)) →
    Read (List (String × String))
  | 0, _, _ => failure
  | fuel + 1, versioned, given => do
    match ← next with
    | some (.versionDirective major minor) => do
      if versioned || !isKnownVersion major minor then failure
      else
        skip
        directives fuel true given
    | some (.tagDirective handle start) => do
      if (given.lookup handle).isSome then failure
      else
        skip
        directives fuel versioned ((handle, start) :: given)
    | _ => pure given

/-- The handles that need not be given. -/
def commonHandles : List (String × String) := [("!", "!"), ("!!", commonTags)]

/-- Whether a token starts a document with marks. -/
def startsMarked : Token → Bool
  | .versionDirective _ _ | .tagDirective _ _ | .documentStart => true
  | _ => false

/-- Skip the ends of documents. -/
def skipEnds : Read Unit :=
  modify fun s => { s with tokens := s.tokens.dropWhile (· = .documentEnd) }

/-- The root of the document. -/
def document (fuel : Nat) : Read Node := do
  let n ←
    if (← next).any startsMarked then
      let given ← directives fuel false []
      expect .documentStart
      modify fun s => { s with handles := given ++ commonHandles }
      match ← next with
      | none => pure .empty
      | some t =>
        if startsMarked t ∨ t = .documentEnd then pure .empty else node true false fuel
    else node true false fuel
  skipEnds
  if (← next).isNone then pure n else failure

end Read

/-- The root of the one document that some tokens hold. -/
def rootOf? (tokens : List Token) : Option Node :=
  if tokens.isEmpty then some .empty
  else ((Read.document (4 * tokens.length + 4)).run ⟨tokens, [], [], Read.commonHandles⟩).map
    Prod.fst

/-- Whether a character may stand in a text. -/
def isAllowed (c : Char) : Bool :=
  c == '\t' || c == '\n' || c == '\r' || (' ' ≤ c && c ≤ '~') || c == '\u0085'
    || ('\u00a0' ≤ c && c != '\ufffe' && c != '\uffff')

/-- The value of a text. -/
def read (text : List UInt8) : Option Json := do
  let text := (← String.fromUTF8? ⟨text.toArray⟩).toList
  if !text.all isAllowed then none
  else (← rootOf? (← tokens? text)).toJson?

end ConformanceSuite.Yaml
