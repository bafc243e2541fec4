import ConformanceSuite.Pattern.Basic
import ConformanceSuite.Text.Hex

/-!
# Reading patterns

A pattern is read from left to right with a stack of open groups. Everything that is not understood
makes the whole text no pattern: an unknown escape, a dangling repetition, a range upside down.
-/

namespace ConformanceSuite.Pattern

/-! ### Escapes -/

/-- What an escape stands for. -/
inductive Escape where
  | literal (c : Char)
  | set (s : CharSet)
  | place (n : Node)

/-- The character of a code point, if there is one. -/
def charOf? (code : Nat) : Option Char :=
  if h : code.isValidChar then some (Char.ofNatAux code h) else none

/-- The character of a hexadecimal escape: digits in braces, or a fixed number of them. -/
def hexEscape (width : Nat) : List Char → Option (Char × List Char)
  | '{' :: rest =>
    match rest.dropWhile (· != '}') with
    | _ :: after => do
      let code ← Text.hexValue? (rest.takeWhile (· != '}'))
      (← charOf? code, after)
    | [] => none
  | cs =>
    if cs.length < width then none
    else do
      let code ← Text.hexValue? (cs.take width)
      (← charOf? code, cs.drop width)

/-- The set of a category: its name in braces, with a circumflex in front for all other characters,
or a name of one letter. -/
def readCategory : List Char → Option (CharSet × List Char)
  | [] => none
  | '{' :: rest => do
    let (negated, name) := match rest.takeWhile (· != '}') with
      | '^' :: name => (true, name)
      | name => (false, name)
    let category ← Text.Category.ofName? name
    let s := CharSet.category category
    match rest.dropWhile (· != '}') with
    | _ :: rest => some (if negated then .compl s else s, rest)
    | [] => none
  | c :: rest => (Text.Category.ofName? [c]).map fun category => (.category category, rest)

/-- The control character that a letter stands for. -/
def controlOf (letter : Char) : Char := Char.ofNat (letter.toNat % 32)

/-- Characters that stand for themselves behind a backslash. -/
def isEscapable (c : Char) : Bool :=
  c.toNat < 0x80 && !c.isAlphanum && c != '<' && c != '>'

/-- Read an escape behind its backslash. -/
def readEscape : List Char → Option (Escape × List Char)
  | [] => none
  | c :: rest =>
    match c with
    | 'd' => some (.set .digit, rest)
    | 'D' => some (.set (.compl .digit), rest)
    | 'w' => some (.set .word, rest)
    | 'W' => some (.set (.compl .word), rest)
    | 's' => some (.set .blank, rest)
    | 'S' => some (.set (.compl .blank), rest)
    | 'p' => (readCategory rest).map fun p => (.set p.1, p.2)
    | 'P' => (readCategory rest).map fun p => (.set (.compl p.1), p.2)
    | 'b' => some (.place (.wordBoundary false), rest)
    | 'B' => some (.place (.wordBoundary true), rest)
    | 'A' => some (.place .textStart, rest)
    | 'z' => some (.place .textEnd, rest)
    | 'a' => some (.literal '\x07', rest)
    | 'f' => some (.literal '\x0c', rest)
    | 't' => some (.literal '\t', rest)
    | 'n' => some (.literal '\n', rest)
    | 'r' => some (.literal '\r', rest)
    | 'v' => some (.literal '\x0b', rest)
    | 'x' => (hexEscape 2 rest).map fun p => (.literal p.1, p.2)
    | 'u' => (hexEscape 4 rest).map fun p => (.literal p.1, p.2)
    | 'U' => (hexEscape 8 rest).map fun p => (.literal p.1, p.2)
    | 'c' =>
      match rest with
      | letter :: rest => if letter.isAlpha then some (.literal (controlOf letter), rest) else none
      | [] => none
    | c => if isEscapable c then some (.literal c, rest) else none

/-! ### Bracketed sets -/

/-- The sets that have a name between colons. -/
def namedSets : List (String × CharSet) := [
  ("alnum", .union .letter .digit), ("alpha", .letter), ("ascii", .range '\x00' '\x7f'),
  ("blank", .ofList ['\t', ' ']), ("cntrl", .union (.range '\x00' '\x1f') (.single '\x7f')),
  ("digit", .digit), ("graph", .range '!' '~'), ("lower", .range 'a' 'z'),
  ("print", .range ' ' '~'),
  ("punct", .unionAll [.range '!' '/', .range ':' '@', .range '[' (Char.ofNat 0x60),
    .range '\x7b' '~']),
  ("space", .ofList ['\t', '\n', '\x0b', '\x0c', '\r', ' ']), ("upper", .range 'A' 'Z'),
  ("word", .word), ("xdigit", .unionAll [.digit, .range 'a' 'f', .range 'A' 'F'])]

/-- Read a named set behind its opening bracket. -/
def readNamedSet? : List Char → Option (CharSet × List Char)
  | ':' :: rest =>
    let (negated, rest) := match rest with
      | '^' :: rest => (true, rest)
      | rest => (false, rest)
    match rest.dropWhile (· != ':') with
    | ':' :: ']' :: after =>
      (namedSets.lookup (String.ofList (rest.takeWhile (· != ':')))).map fun s =>
        (if negated then .compl s else s, after)
    | _ => none
  | _ => none

/-- How two sets are combined. -/
inductive SetOperation where
  | intersection | difference | symmetricDifference

/-- Combine two sets. -/
def SetOperation.apply (a b : CharSet) : SetOperation → CharSet
  | .intersection => .inter a b
  | .difference => .inter a (.compl b)
  | .symmetricDifference => .union (.inter a (.compl b)) (.inter b (.compl a))

/-- The operation at the start of a text. -/
def readOperation? : List Char → Option (SetOperation × List Char)
  | '&' :: '&' :: rest => some (.intersection, rest)
  | '-' :: '-' :: rest => some (.difference, rest)
  | '~' :: '~' :: rest => some (.symmetricDifference, rest)
  | _ => none

/-- A bracketed set that is being read: what stands in front of the last operation, and the union
of the items behind it. -/
structure PartialSet where
  left : Option (CharSet × SetOperation)
  items : CharSet

/-- The set read so far. -/
def PartialSet.value (p : PartialSet) : CharSet :=
  match p.left with
  | none => p.items
  | some (a, op) => op.apply a p.items

/-- Add an item. -/
def PartialSet.add (p : PartialSet) (s : CharSet) : PartialSet :=
  { p with items := .union p.items s }

/-- One end of a range, or a set. -/
def readItem : List Char → Option (Escape × List Char)
  | [] => none
  | '\\' :: rest =>
    match readEscape rest with
    | some (.place _, _) => none
    | result => result
  | c :: rest => some (.literal c, rest)

/-- What stands in a bracketed set behind its opening, up to and with its closing bracket. -/
def readSetItems : Nat → PartialSet → List Char → Option (CharSet × List Char)
  | 0, _, _ => none
  | _, _, [] => none
  | fuel + 1, p, cs =>
    match readOperation? cs with
    | some (op, rest) => readSetItems fuel ⟨some (p.value, op), .empty⟩ rest
    | none =>
      match cs with
      | ']' :: rest => some (p.value, rest)
      | '[' :: rest =>
        match readNamedSet? rest with
        | some (s, rest) => readSetItems fuel (p.add s) rest
        | none =>
          let (negated, rest) := match rest with
            | '^' :: rest => (true, rest)
            | rest => (false, rest)
          let (first, rest) := match rest with
            | ']' :: rest => (CharSet.single ']', rest)
            | rest => (.empty, rest)
          (readSetItems fuel ⟨none, first⟩ rest).bind fun (s, rest) =>
            readSetItems fuel (p.add (if negated then .compl s else s)) rest
      | cs =>
        match readItem cs with
        | none => none
        | some (.set s, rest) => readSetItems fuel (p.add s) rest
        | some (.place _, _) => none
        | some (.literal low, '-' :: rest) =>
          match rest with
          | ']' :: _ | '-' :: _ => readSetItems fuel (p.add (.single low)) ('-' :: rest)
          | rest =>
            match readItem rest with
            | some (.literal high, rest) =>
              if low ≤ high then readSetItems fuel (p.add (.range low high)) rest else none
            | _ => none
        | some (.literal c, rest) => readSetItems fuel (p.add (.single c)) rest

/-- Literal hyphens at the start of a bracketed set. -/
def leadingHyphens (cs : List Char) : CharSet × List Char :=
  match cs.takeWhile (· == '-') with
  | [] => (.empty, cs)
  | _ :: _ => (.single '-', cs.dropWhile (· == '-'))

/-- Read a bracketed set behind its opening bracket. -/
def readSet (cs : List Char) : Option (CharSet × List Char) :=
  let (negated, cs) := match cs with
    | '^' :: rest => (true, rest)
    | cs => (false, cs)
  let (hyphens, cs) := leadingHyphens cs
  let (first, cs) := match hyphens, cs with
    | .empty, ']' :: rest => (CharSet.single ']', rest)
    | hyphens, cs => (hyphens, cs)
  (readSetItems (cs.length + 1) ⟨none, first⟩ cs).map fun (s, rest) =>
    (if negated then .compl s else s, rest)

/-! ### Groups and repetitions -/

/-- The modes that flags switch. -/
structure Modes where
  foldCase : Bool := false
  multiLine : Bool := false
  dotAll : Bool := false
  extended : Bool := false

/-- What a group is for. -/
inductive GroupKind where
  | plain
  | look (behind negated : Bool)

/-- An open group: its kind, the modes outside of it, its finished branches, and the items of the
branch that is being read, the latest first. -/
structure Frame where
  kind : GroupKind
  outer : Modes
  branches : Option Node
  items : List Node

/-- The items of a branch as one pattern. -/
def Frame.branch (f : Frame) : Node :=
  match f.items.reverse with
  | [] => .nothing
  | x :: rest => rest.foldl .sequence x

/-- Everything read in a group as one pattern. -/
def Frame.node (f : Frame) : Node :=
  let all := match f.branches with
    | none => f.branch
    | some b => .choice b f.branch
  match f.kind with
  | .plain => all
  | .look behind negated => .look behind negated all

/-- Add an item to the branch that is being read. -/
def Frame.push (f : Frame) (n : Node) : Frame := { f with items := n :: f.items }

/-- Begin a new branch. -/
def Frame.split (f : Frame) : Frame :=
  { f with
    items := []
    branches := some (match f.branches with
      | none => f.branch
      | some b => .choice b f.branch) }

/-- Repeat the latest item. -/
def Frame.repeatLast? (f : Frame) (least : Nat) (most : Option Nat) : Option Frame :=
  match f.items with
  | [] => none
  | x :: rest => some { f with items := .repetition x least most :: rest }

/-- A decimal number with blanks around it. -/
def readCount (cs : List Char) : Option (Nat × List Char) :=
  let cs := cs.dropWhile (· == ' ')
  let digits := cs.takeWhile Char.isDigit
  if digits.isEmpty || digits.length > 10 then none
  else
    let n := digits.foldl (fun n c => n * 10 + (c.toNat - 0x30)) 0
    if n < Nat.pow 2 32 then some (n, (cs.dropWhile Char.isDigit).dropWhile (· == ' ')) else none

/-- Read the bounds of a repetition behind their opening brace. -/
def readBounds (cs : List Char) : Option (Nat × Option Nat × List Char) := do
  let (least, rest) ← readCount cs
  match rest with
  | '}' :: rest => some (least, some least, rest)
  | ',' :: rest =>
    match rest.dropWhile (· == ' ') with
    | '}' :: rest => some (least, none, rest)
    | rest =>
      match readCount rest with
      | some (most, '}' :: rest) => if least ≤ most then some (least, some most, rest) else none
      | _ => none
  | _ => none

/-- Leave out the mark of a reluctant repetition; it does not change where a pattern leads. -/
def dropReluctance : List Char → List Char
  | '?' :: rest => rest
  | cs => cs

/-- Whether a character may stand in the name of a group. -/
def isNameChar (first : Bool) (c : Char) : Bool :=
  c == '_' || c.isAlpha || (!first && (c.isDigit || c == '.' || c == '[' || c == ']'))

/-- What follows the name of a group and its closing angle bracket. -/
def dropGroupName? (cs : List Char) : Option (List Char) :=
  let name := cs.takeWhile (· != '>')
  match name, cs.dropWhile (· != '>') with
  | c :: more, _ :: rest =>
    if isNameChar true c && more.all (isNameChar false) then some rest else none
  | _, _ => none

/-- Switch a mode. -/
def Modes.switch (m : Modes) (c : Char) (on : Bool) : Option Modes :=
  match c with
  | 'i' => some { m with foldCase := on }
  | 'm' => some { m with multiLine := on }
  | 's' => some { m with dotAll := on }
  | 'x' => some { m with extended := on }
  | 'u' | 'U' | 'R' => some m
  | _ => none

/-- Read flags behind their question mark, up to a colon or a closing parenthesis, which stays. -/
def readFlags : (on : Bool) → (seen : List Char) → Modes → List Char → Option (Modes × List Char)
  | _, _, _, [] => none
  | on, seen, m, c :: rest =>
    if c = ':' ∨ c = ')' then
      if seen.isEmpty || (!on && seen.head? == some '-') then none else some (m, c :: rest)
    else if c = '-' then if on then readFlags false ('-' :: seen) m rest else none
    else if seen.contains c then none
    else (m.switch c on).bind fun m => readFlags on (c :: seen) m rest

/-- The opening of a group behind its parenthesis. -/
inductive Opening where
  | group (kind : GroupKind) (modes : Modes)
  | modes (modes : Modes)

/-- Read the opening of a group behind its parenthesis. -/
def readOpening (m : Modes) : List Char → Option (Opening × List Char)
  | '?' :: '=' :: rest => some (.group (.look false false) m, rest)
  | '?' :: '!' :: rest => some (.group (.look false true) m, rest)
  | '?' :: '<' :: '=' :: rest => some (.group (.look true false) m, rest)
  | '?' :: '<' :: '!' :: rest => some (.group (.look true true) m, rest)
  | '?' :: 'P' :: '<' :: rest => (dropGroupName? rest).map fun r => (.group .plain m, r)
  | '?' :: '<' :: rest => (dropGroupName? rest).map fun r => (.group .plain m, r)
  | '?' :: ':' :: rest => some (.group .plain m, rest)
  | '?' :: rest =>
    match readFlags true [] m rest with
    | some (modes, ':' :: rest) => some (.group .plain modes, rest)
    | some (modes, ')' :: rest) => some (.modes modes, rest)
    | _ => none
  | rest => some (.group .plain m, rest)

/-- A pattern that is being read: the modes in force, the innermost open group, and the groups
around it. -/
structure Reading where
  modes : Modes
  frame : Frame
  outer : List Frame

/-- Add an item to the innermost group. -/
def Reading.push (r : Reading) (n : Node) : Reading := { r with frame := r.frame.push n }

/-- The item that matches one character of a set. -/
def Modes.oneOf (m : Modes) (s : CharSet) : Node :=
  .oneOf (if m.foldCase then s.foldCase else s)

/-- Read the next part of a pattern. -/
def Reading.next (r : Reading) : List Char → Option (Reading × List Char)
  | [] => none
  | '(' :: rest =>
    match readOpening r.modes rest with
    | some (.group kind modes, rest) =>
      some (⟨modes, ⟨kind, r.modes, none, []⟩, r.frame :: r.outer⟩, rest)
    | some (.modes modes, rest) => some ({ r with modes }, rest)
    | none => none
  | ')' :: rest =>
    match r.outer with
    | [] => none
    | outer :: others => some (⟨r.frame.outer, outer.push r.frame.node, others⟩, rest)
  | '|' :: rest => some ({ r with frame := r.frame.split }, rest)
  | '*' :: rest => (r.frame.repeatLast? 0 none).map ({ r with frame := · }, dropReluctance rest)
  | '+' :: rest => (r.frame.repeatLast? 1 none).map ({ r with frame := · }, dropReluctance rest)
  | '?' :: rest =>
    (r.frame.repeatLast? 0 (some 1)).map ({ r with frame := · }, dropReluctance rest)
  | '{' :: rest =>
    (readBounds rest).bind fun (least, most, rest) =>
      (r.frame.repeatLast? least most).map ({ r with frame := · }, dropReluctance rest)
  | '[' :: rest => (readSet rest).map fun (s, rest) => (r.push (r.modes.oneOf s), rest)
  | '.' :: rest =>
    some (r.push (.oneOf (if r.modes.dotAll then .compl .empty else .dot)), rest)
  | '^' :: rest => some (r.push (if r.modes.multiLine then .lineStart else .textStart), rest)
  | '$' :: rest => some (r.push (if r.modes.multiLine then .lineEnd else .textEnd), rest)
  | '\\' :: rest =>
    match readEscape rest with
    | some (.literal c, rest) => some (r.push (r.modes.oneOf (.single c)), rest)
    | some (.set s, rest) => some (r.push (r.modes.oneOf s), rest)
    | some (.place n, rest) => some (r.push n, rest)
    | none => none
  | c :: rest =>
    if r.modes.extended && c == '#' then some (r, rest.dropWhile (· != '\n'))
    else if r.modes.extended && c.isWhitespace then some (r, rest)
    else some (r.push (r.modes.oneOf (.single c)), rest)

/-- Read all parts of a pattern. -/
def readAll : Nat → Reading → List Char → Option Node
  | _, r, [] => if r.outer.isEmpty then some r.frame.node else none
  | 0, _, _ :: _ => none
  | fuel + 1, r, cs => (r.next cs).bind fun (r, rest) => readAll fuel r rest

/-- Read a pattern. -/
def ofString? (s : String) : Option Node :=
  let cs := s.toList
  readAll cs.length ⟨{}, ⟨.plain, {}, none, []⟩, []⟩ cs

/-! ### Patterns as they are shown -/

/-- Whether a pattern looks around. -/
def looksAround : List Char → Bool
  | '(' :: '?' :: '=' :: _ | '(' :: '?' :: '!' :: _ => true
  | '(' :: '?' :: '<' :: '=' :: _ | '(' :: '?' :: '<' :: '!' :: _ => true
  | _ :: rest => looksAround rest
  | [] => false

/-- The written-out sets of the letter escapes. -/
def spelledSets : List (Char × String) := [
  ('d', "[0-9]"), ('D', "[^0-9]"), ('w', "[A-Za-z0-9_]"), ('W', "[^A-Za-z0-9_]"),
  ('s', "[ \t\n\r\u000b\u000c\u2003\ufeff\u2029\u00a0]"),
  ('S', "[^ \t\n\r\u000b\u000c\u2003\ufeff\u2029\u00a0]")]

/-- A pattern with its letter escapes written out. -/
def spellOut : List Char → List Char
  | '\\' :: 'c' :: letter :: rest => controlOf letter :: spellOut rest
  | '\\' :: c :: rest =>
    match spelledSets.lookup c with
    | some set => set.toList ++ spellOut rest
    | none => '\\' :: c :: spellOut rest
  | c :: rest => c :: spellOut rest
  | [] => []

/-- A pattern as it is shown: letter escapes are written out, unless the pattern looks around. -/
def shown (s : String) : String :=
  if looksAround s.toList then s else String.ofList (spellOut s.toList)

end ConformanceSuite.Pattern
