import ConformanceSuite.Yaml.Scalar
import ConformanceSuite.Yaml.Token

/-!
# The layout of YAML texts

Indentation is turned into tokens that open and close blocks. A key is recognised only at the colon
behind it: the place of each token that may turn out to be a key is kept, and the marks of the key
and of its mapping are inserted there. Such a key lies on one line and is not long.
-/

namespace ConformanceSuite.Yaml

/-- A token that may turn out to be a key: its number, its place, and whether it has to be one. -/
structure PendingKey where
  token : Nat
  required : Bool
  index : Nat
  line : Nat
  column : Nat

/-- The state of layout: the tokens so far, the indentation of the open blocks, and for each open
pair of brackets the token that may turn out to be a key. -/
structure Layout where
  tokens : Array Token
  indent : Int
  outer : List Int
  flow : Nat
  pending : Option PendingKey
  outerPending : List (Option PendingKey)
  keyAllowed : Bool

namespace Layout

/-- The layout at the start of a text. -/
def start : Layout := ⟨#[], -1, [], 0, none, [], true⟩

/-- Add a token. -/
def emit (s : Layout) (t : Token) : Layout := { s with tokens := s.tokens.push t }

/-- The greatest distance between a key and its colon. -/
def maxKeyLength : Nat := 1024

/-- Whether a place is too far away from a pending key. -/
def PendingKey.isStale (k : PendingKey) (c : Cursor) : Bool :=
  k.line < c.line || k.index + maxKeyLength < c.index

/-- Give up a pending key, unless it has to be one. -/
def giveUp : Option PendingKey → Option (Option PendingKey)
  | some k => if k.required then none else some none
  | none => some none

/-- Give up a pending key if it is too far away. -/
def giveUpStale (c : Cursor) : Option PendingKey → Option (Option PendingKey)
  | some k => if PendingKey.isStale k c then giveUp (some k) else some (some k)
  | none => some none

/-- Give up the pending keys that are too far away. -/
def dropStale (s : Layout) (c : Cursor) : Option Layout := do
  let outerPending ← s.outerPending.mapM (giveUpStale c)
  let pending ← giveUpStale c s.pending
  some { s with pending, outerPending }

/-- Give up the innermost pending key. -/
def dropPending (s : Layout) : Option Layout :=
  (giveUp s.pending).map fun pending => { s with pending }

/-- Note that the next token may turn out to be a key, where keys are allowed. -/
def savePending (s : Layout) (c : Cursor) : Option Layout :=
  if s.keyAllowed then do
    let s ← s.dropPending
    let required := s.flow = 0 ∧ s.indent = (c.column : Int)
    some { s with pending := some ⟨s.tokens.size, required, c.index, c.line, c.column⟩ }
  else some s

/-- Close the blocks that are indented more than a column. -/
def unroll (s : Layout) (column : Int) : Layout :=
  if s.flow ≠ 0 then s
  else
    let (tokens, indent, outer) := go s.tokens s.indent s.outer
    { s with tokens, indent, outer }
where
  /-- Close blocks, innermost first. -/
  go (tokens : Array Token) (indent : Int) : List Int → Array Token × Int × List Int
    | [] => (tokens, indent, [])
    | next :: rest =>
      if column < indent then go (tokens.push .blockEnd) next rest
      else (tokens, indent, next :: rest)

/-- Open a block in front of a token, if the column is behind the current indentation. -/
def roll (s : Layout) (column number : Nat) (opening : Token) : Layout :=
  if s.flow = 0 ∧ s.indent < (column : Int) then
    { s with
      tokens := s.tokens.insertIdxIfInBounds number opening
      outer := s.indent :: s.outer
      indent := column }
  else s

/-- Enter a pair of brackets. -/
def enterFlow (s : Layout) : Layout :=
  { s with flow := s.flow + 1, pending := none, outerPending := s.pending :: s.outerPending }

/-- Leave a pair of brackets. -/
def leaveFlow (s : Layout) : Layout :=
  match s.outerPending with
  | [] => s
  | pending :: outerPending => { s with flow := s.flow - 1, pending, outerPending }

/-! ### Tokens -/

/-- A state with the place behind the last token. -/
abbrev Step := Option (Layout × Cursor)

/-- The marks of a document, or the end of the text, close everything. -/
def closeAll (s : Layout) : Option Layout :=
  (s.unroll (-1)).dropPending.map fun s => { s with keyAllowed := false }

/-- An opening bracket. -/
def openFlow (s : Layout) (c : Cursor) (t : Token) : Step :=
  (s.savePending c).map fun s => ({ s.enterFlow with keyAllowed := true }.emit t, c.skip)

/-- A closing bracket. -/
def closeFlow (s : Layout) (c : Cursor) (t : Token) : Step :=
  s.dropPending.map fun s => ({ s.leaveFlow with keyAllowed := false }.emit t, c.skip)

/-- A comma inside brackets. -/
def flowEntry (s : Layout) (c : Cursor) : Step :=
  s.dropPending.map fun s => ({ s with keyAllowed := true }.emit .flowEntry, c.skip)

/-- Open a block for an entry, where one may start. -/
def openBlock (s : Layout) (c : Cursor) (opening : Token) : Option Layout :=
  if s.flow ≠ 0 then some s
  else if s.keyAllowed then some (s.roll c.column s.tokens.size opening)
  else none

/-- A dash. -/
def blockEntry (s : Layout) (c : Cursor) : Step := do
  let s ← s.openBlock c .blockSequenceStart
  let s ← s.dropPending
  some ({ s with keyAllowed := true }.emit .blockEntry, c.skip)

/-- A question mark. -/
def explicitKey (s : Layout) (c : Cursor) : Step := do
  let s ← s.openBlock c .blockMappingStart
  let s ← s.dropPending
  some ({ s with keyAllowed := s.flow = 0 }.emit .key, c.skip)

/-- A colon: the pending key was one. -/
def value (s : Layout) (c : Cursor) : Step :=
  match s.pending with
  | some k =>
    let s := { s with tokens := s.tokens.insertIdxIfInBounds k.token .key }
    let s := s.roll k.column k.token .blockMappingStart
    some ({ s with pending := none, keyAllowed := false }.emit .value, c.skip)
  | none => do
    let s ← s.openBlock c .blockMappingStart
    some ({ s with keyAllowed := s.flow = 0 }.emit .value, c.skip)

/-- A token of one line that may turn out to be a key. -/
def keyLike (s : Layout) (c : Cursor) (read : Option (Token × Cursor)) : Step := do
  let s ← s.savePending c
  let (t, c) ← read
  some ({ s with keyAllowed := false }.emit t, c)

/-- A plain scalar; behind a line break a key may follow. -/
def plainScalar (s : Layout) (c : Cursor) : Step := do
  let s ← s.savePending c
  let (text, broken, c) ← readPlain (s.flow ≠ 0) s.indent (c.rest.length + 1) [] {} c
  some ({ s with keyAllowed := broken }.emit (.scalar true (String.ofList text)), c)

/-- A block scalar; a key may follow it. -/
def blockScalar (s : Layout) (c : Cursor) (literal : Bool) : Step := do
  let s ← s.dropPending
  let (text, c) ← readBlock literal s.indent c.skip
  some ({ s with keyAllowed := true }.emit (.scalar false (String.ofList text)), c)

/-- A scalar in quotes. -/
def quotedScalar (s : Layout) (c : Cursor) (quote : Char) : Step :=
  s.keyLike c <| (readQuoted quote (c.rest.length + 1) [] c.skip).map fun (text, c) =>
    (.scalar false (String.ofList text), c)

/-- The characters with which no plain scalar starts. -/
def reserved : List Char :=
  ['-', '?', ':', ',', '[', ']', '{', '}', '#', '&', '*', '!', '|', '>', '\'', '"', '%', '@',
    '\x60']

/-- Whether a plain scalar starts at a place. -/
def startsPlain (s : Layout) (c : Cursor) : Bool :=
  !(c.blankOrEndAt 0 || c.peek.any reserved.contains)
    || (c.peek = some '-' && !(c.peekAt 1).any isBlank)
    || (s.flow = 0 && (c.peek = some '?' || c.peek = some ':') && !c.blankOrEndAt 1)

/-- Read the token that starts with a character. -/
def readToken (s : Layout) (c : Cursor) (first : Char) : Step :=
  let spaced := c.blankOrEndAt 1
  if c.column = 0 ∧ first = '%' then do
    let s ← s.closeAll
    let (t, c) ← readDirective c.skip
    some (s.emit t, c)
  else if c.atMarks '-' then s.closeAll.map fun s => (s.emit .documentStart, c.skip 3)
  else if c.atMarks '.' then s.closeAll.map fun s => (s.emit .documentEnd, c.skip 3)
  else if first = '[' then s.openFlow c .flowSequenceStart
  else if first = '{' then s.openFlow c .flowMappingStart
  else if first = ']' then s.closeFlow c .flowSequenceEnd
  else if first = '}' then s.closeFlow c .flowMappingEnd
  else if first = ',' then s.flowEntry c
  else if first = '-' ∧ spaced then s.blockEntry c
  else if first = '?' ∧ (s.flow ≠ 0 ∨ spaced) then s.explicitKey c
  else if first = ':' ∧ (s.flow ≠ 0 ∨ spaced) then s.value c
  else if first = '*' then
    s.keyLike c ((readAnchor c.skip).map fun (name, c) => (.alias name, c))
  else if first = '&' then
    s.keyLike c ((readAnchor c.skip).map fun (name, c) => (.anchor name, c))
  else if first = '!' then
    s.keyLike c ((readTag (s.flow ≠ 0) c).map fun (text, c) => (.tag text, c))
  else if first = '|' ∧ s.flow = 0 then s.blockScalar c true
  else if first = '>' ∧ s.flow = 0 then s.blockScalar c false
  else if first = '\'' ∨ first = '"' then s.quotedScalar c first
  else if s.startsPlain c then s.plainScalar c
  else none

/-- Skip blanks, comments and line breaks. Tabs are skipped where no key may start; behind a line
break one may, outside brackets. -/
def skipToToken : Nat → Layout → Cursor → Layout × Cursor
  | 0, s, c => (s, c)
  | fuel + 1, s, c =>
    let c := if c.index = 0 ∧ c.peek = some '\ufeff' then c.skip else c
    let c := c.skipWhile fun x => x == ' ' || ((s.flow ≠ 0 || !s.keyAllowed) && x == '\t')
    let c := if c.peek = some '#' then c.skipToBreak else c
    if c.atBreak then
      skipToToken fuel (if s.flow = 0 then { s with keyAllowed := true } else s) c.readBreak.2
    else (s, c)

/-- Read tokens to the end of the text. -/
def readTokens : Nat → Layout → Cursor → Option (Array Token)
  | 0, _, _ => none
  | fuel + 1, s, c => do
    let (s, c) := skipToToken (c.rest.length + 1) s c
    let s ← s.dropStale c
    let s := s.unroll c.column
    match c.peek with
    | none => s.closeAll.map (·.tokens)
    | some first =>
      let (s, c) ← s.readToken c first
      readTokens fuel s c

end Layout

/-- The tokens of a text. -/
def tokens? (text : List Char) : Option (List Token) :=
  (Layout.readTokens (text.length + 1) .start (.start text)).map Array.toList

end ConformanceSuite.Yaml
