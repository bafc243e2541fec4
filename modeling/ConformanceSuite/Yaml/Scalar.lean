import ConformanceSuite.Text.Hex
import ConformanceSuite.Yaml.Cursor

/-!
# Scalars of YAML texts

Plain scalars, scalars in quotes and block scalars. A single line break inside a scalar becomes a
space, and of several all but the first stay; a literal block keeps them all.
-/

namespace ConformanceSuite.Yaml

/-- Line breaks as they are folded: the first one, and those behind it. -/
def foldBreaks (first more : List Char) : List Char :=
  if first == ['\n'] then if more.isEmpty then [' '] else more else first ++ more

/-- Blanks and line breaks between two parts of a scalar. -/
structure Gap where
  blanks : List Char := []
  first : List Char := []
  more : List Char := []
  broken : Bool := false

/-- What a gap contributes to a scalar. -/
def Gap.text (g : Gap) : List Char :=
  if g.broken then foldBreaks g.first g.more else g.blanks

/-- Read the blanks and line breaks in front of the next part of a scalar. A tab in the indentation
of a plain scalar is refused. -/
def readGap (minColumn : Nat) : Nat → Gap → Cursor → Option (Gap × Cursor)
  | 0, _, _ => none
  | fuel + 1, g, c =>
    if c.atBlank then
      if g.broken && c.column < minColumn && c.peek == some '\t' then none
      else if g.broken then readGap minColumn fuel g (c.skip)
      else readGap minColumn fuel { g with blanks := g.blanks ++ (c.rest.take 1) } (c.skip)
    else if c.atBreak then
      let (text, c) := c.readBreak
      if g.broken then readGap minColumn fuel { g with more := g.more ++ text } c
      else readGap minColumn fuel { g with blanks := [], first := text, broken := true } c
    else some (g, c)

/-! ### Plain scalars -/

/-- The characters that end a plain scalar inside brackets. -/
def isFlowMark (c : Char) : Bool := [',', '[', ']', '{', '}'].contains c

/-- Whether a plain scalar ends in front of the next character. -/
def endsPlain (flow : Bool) (c : Cursor) : Bool :=
  match c.peek with
  | none => true
  | some x =>
    isBlank x || isBreak x || (x == ':' && c.blankOrEndAt 1) || (flow && isFlowMark x)

/-- The characters of a plain scalar up to a blank or its end. A colon in front of a bracket is
refused inside brackets. -/
def readPlainWord (flow : Bool) : Nat → List Char → Cursor → Option (List Char × Cursor)
  | 0, _, _ => none
  | fuel + 1, acc, c =>
    if endsPlain flow c then some (acc.reverse, c)
    else if flow && c.peek == some ':' && (c.peekAt 1).any fun x => isFlowMark x || x == '?' then
      none
    else readPlainWord flow fuel ((c.rest.take 1) ++ acc) c.skip

/-- Read a plain scalar; the flag tells whether line breaks follow it. -/
def readPlain (flow : Bool) (indent : Int) : Nat → List Char → Gap → Cursor →
    Option (List Char × Bool × Cursor)
  | 0, _, _, _ => none
  | fuel + 1, acc, g, c =>
    if c.atDocumentMark || c.peek == some '#' then some (acc, g.broken, c)
    else do
      let (word, c') ← readPlainWord flow (c.rest.length + 1) [] c
      let acc := if word.isEmpty then acc else acc ++ g.text ++ word
      let g := if word.isEmpty then g else {}
      if !(c'.atBlank || c'.atBreak) then some (acc, g.broken, c')
      else
        let (g, c) ← readGap (indent + 1).toNat (c'.rest.length + 1) g c'
        if !flow && (c.column : Int) < indent + 1 then some (acc, g.broken, c)
        else readPlain flow indent fuel acc g c

/-! ### Scalars in quotes -/

/-- What a letter stands for behind a backslash. -/
def escapes : List (Char × Char) := [
  ('0', '\x00'), ('a', '\x07'), ('b', '\x08'), ('t', '\t'), ('\t', '\t'), ('n', '\n'),
  ('v', '\x0b'), ('f', '\x0c'), ('r', '\r'), ('e', '\x1b'), (' ', ' '), ('"', '"'), ('/', '/'),
  ('\\', '\\'), ('N', '\u0085'), ('_', '\u00a0'), ('L', '\u2028'), ('P', '\u2029')]

/-- The number of hexadecimal digits that a letter asks for behind a backslash. -/
def escapeWidths : List (Char × Nat) := [('x', 2), ('u', 4), ('U', 8)]

/-- Read an escape behind its backslash. -/
def readEscape (c : Cursor) : Option (Char × Cursor) := do
  let letter ← c.peek
  match escapes.lookup letter with
  | some x => some (x, c.skip)
  | none =>
    let width ← escapeWidths.lookup letter
    let digits := (c.rest.drop 1).take width
    if digits.length ≠ width then none
    else
      let code ← Text.hexValue? digits
      if h : code.isValidChar then some (Char.ofNatAux code h, c.skip (width + 1)) else none

/-- The characters of a quoted scalar up to a blank, a line break or its end; the flag tells
whether an escaped line break stands there. -/
def readQuotedWord (quote : Char) : Nat → List Char → Cursor → Option (List Char × Bool × Cursor)
  | 0, _, _ => none
  | fuel + 1, acc, c =>
    match c.rest with
    | [] => some (acc.reverse, false, c)
    | x :: rest =>
      if isBlank x || isBreak x then some (acc.reverse, false, c)
      else if x == quote then
        if quote == '\'' && rest.head? == some '\'' then
          readQuotedWord quote fuel ('\'' :: acc) (c.skip 2)
        else some (acc.reverse, false, c)
      else if x == '\\' && quote == '"' then
        if c.skip.atBreak then some (acc.reverse, true, c.skip.readBreak.2)
        else (readEscape c.skip).bind fun (y, c) => readQuotedWord quote fuel (y :: acc) c
      else readQuotedWord quote fuel (x :: acc) c.skip

/-- Read a quoted scalar behind its opening quote. -/
def readQuoted (quote : Char) : Nat → List Char → Cursor → Option (List Char × Cursor)
  | 0, _, _ => none
  | fuel + 1, acc, c =>
    if c.atDocumentMark || c.atEnd then none
    else do
      let (word, escaped, c) ← readQuotedWord quote (c.rest.length + 1) [] c
      let acc := acc ++ word
      if !escaped && c.peek == some quote then some (acc, c.skip)
      else
        let (g, c) ← readGap 0 (c.rest.length + 1) { broken := escaped } c
        readQuoted quote fuel (acc ++ g.text) c

/-! ### Block scalars -/

/-- What happens to the line breaks at the end of a block. -/
inductive Chomping where
  | strip | clip | keep
  deriving DecidableEq

/-- The marks behind the indicator of a block: its chomping and its indentation. -/
def readBlockMarks (c : Cursor) : Option (Chomping × Option Nat × Cursor) :=
  let chomping? : Option Char → Option Chomping
    | some '+' => some .keep
    | some '-' => some .strip
    | _ => none
  let digit? (x : Option Char) : Option Nat :=
    x.bind fun x => if x.isDigit then some (x.toNat - 0x30) else none
  let (chomping, indent, c) : Option Chomping × Option Nat × Cursor :=
    match chomping? c.peek with
    | some k => match digit? c.skip.peek with
      | some n => (some k, some n, c.skip 2)
      | none => (some k, none, c.skip)
    | none => match digit? c.peek with
      | some n => match chomping? c.skip.peek with
        | some k => (some k, some n, c.skip 2)
        | none => (none, some n, c.skip)
      | none => (none, none, c)
  if indent = some 0 then none else some (chomping.getD .clip, indent, c)

/-- Read the indentation in front of a line of a block, and the empty lines before it. -/
def readBlockBreaks (indent : Option Nat) : Nat → (deepest : Nat) → List Char → Cursor →
    Option (Nat × List Char × Cursor)
  | 0, _, _, _ => none
  | fuel + 1, deepest, acc, c =>
    let spaces := (c.rest.takeWhile (· == ' ')).length
    let c := c.skip (match indent with
      | some n => min spaces (n - c.column)
      | none => spaces)
    let deepest := max deepest c.column
    if (match indent with | some n => c.column < n | none => true) && c.peek == some '\t' then none
    else if c.atBreak then
      let (text, c) := c.readBreak
      readBlockBreaks indent fuel deepest (acc ++ text) c
    else some (deepest, acc, c)

/-- Read the lines of a block. -/
def readBlockLines (literal : Bool) (indent : Nat) : Nat → (acc lead trail : List Char) →
    (wasBlank : Bool) → Cursor → Option (List Char × List Char × List Char × Cursor)
  | 0, _, _, _, _, _ => none
  | fuel + 1, acc, lead, trail, wasBlank, c =>
    if c.column ≠ indent ∨ c.atEnd then some (acc, lead, trail, c)
    else
      let folded := !literal && lead == ['\n'] && !wasBlank && !c.atBlank
      let joined := (if folded then (if trail.isEmpty then [' '] else []) else lead) ++ trail
      let isBlankLine := c.atBlank
      let line := c.rest.takeWhile fun x => !isBreak x
      let (lead, c') := (c.skip line.length).readBreak
      match readBlockBreaks (some indent) (c'.rest.length + 1) 0 [] c' with
      | none => none
      | some (_, trail, c) =>
        readBlockLines literal indent fuel (acc ++ joined ++ line) lead trail isBlankLine c

/-- Read a block scalar behind its indicator. -/
def readBlock (literal : Bool) (parentIndent : Int) (c : Cursor) : Option (List Char × Cursor) := do
  let (chomping, increment, c) ← readBlockMarks c
  let c := c.skipWhile isBlank
  let c := if c.peek == some '#' then c.skipToBreak else c
  if !c.breakOrEndAt 0 then none
  else
    let c := c.readBreak.2
    let given := increment.map fun n => if 0 ≤ parentIndent then parentIndent.toNat + n else n
    let (deepest, breaks, c) ← readBlockBreaks given (c.rest.length + 1) 0 [] c
    let indent := given.getD (max (max deepest (parentIndent + 1).toNat) 1)
    let fuel := c.rest.length + 1
    let (acc, lead, trail, c) ← readBlockLines literal indent fuel [] [] breaks false c
    let ending := if chomping = .strip then [] else lead
    some (acc ++ ending ++ (if chomping = .keep then trail else []), c)

end ConformanceSuite.Yaml
