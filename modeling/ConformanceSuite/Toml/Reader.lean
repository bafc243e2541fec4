import ConformanceSuite.Text.Decimal
import ConformanceSuite.Text.Hex
import ConformanceSuite.Toml.Basic

/-!
# Reading TOML texts

A text is read into statements, and these into the members of its root table. Whatever is wrong with
a text, it has none. Numbers with a fraction, dates and times are the values of no setting: a text
that has one is refused.
-/

namespace ConformanceSuite.Toml

/-! ### Blanks and comments -/

/-- Whether a character is a space or a tab. -/
def isBlank (c : Char) : Bool := c == ' ' || c == '\t'

/-- Whether a character is no control character, or a tab. -/
def isVisible (c : Char) : Bool := c == '\t' || (' ' ≤ c && c != '\x7f')

/-- Skip spaces and tabs. -/
def skipBlanks (cs : List Char) : List Char := cs.dropWhile isBlank

/-- Skip a comment, if there is one. -/
def skipComment : List Char → List Char
  | '#' :: rest => rest.dropWhile isVisible
  | cs => cs

/-- Skip a line break; the end of the text is one too. -/
def lineBreak? : List Char → Option (List Char)
  | [] => some []
  | '\n' :: rest => some rest
  | '\r' :: '\n' :: rest => some rest
  | _ => none

/-- Skip the rest of a line, in which there is nothing but a comment. -/
def endOfLine? (cs : List Char) : Option (List Char) := lineBreak? (skipComment (skipBlanks cs))

/-- Skip blanks, comments and line breaks. The flag tells whether a comment has begun. -/
def skipLines : (inComment : Bool) → List Char → List Char
  | _, [] => []
  | _, '\n' :: rest => skipLines false rest
  | _, '\r' :: '\n' :: rest => skipLines false rest
  | true, c :: rest => if isVisible c then skipLines true rest else c :: rest
  | false, '#' :: rest => skipLines true rest
  | false, c :: rest => if isBlank c then skipLines false rest else c :: rest

/-- Skip blanks, comments and line breaks up to the next part of a value. -/
def toNextPart (cs : List Char) : List Char := skipLines false cs

/-! ### Texts

The amount of fuel of a reader bounds how many characters are left to it.
-/

/-- What a letter stands for behind a backslash. -/
def escapes : List (Char × Char) := [
  ('b', '\x08'), ('t', '\t'), ('n', '\n'), ('f', '\x0c'), ('r', '\r'), ('e', '\x1b'), ('"', '"'),
  ('\\', '\\')]

/-- The number of hexadecimal digits that a letter asks for behind a backslash. -/
def escapeWidths : List (Char × Nat) := [('x', 2), ('u', 4), ('U', 8)]

/-- Read an escape behind its backslash. -/
def readEscape : List Char → Option (Char × List Char)
  | [] => none
  | letter :: rest =>
    match escapes.lookup letter with
    | some c => some (c, rest)
    | none => do
      let width ← escapeWidths.lookup letter
      let digits := rest.take width
      let code ← Text.hexValue? digits
      if h : digits.length = width ∧ code.isValidChar then
        some (Char.ofNatAux code h.2, rest.drop width)
      else none

/-- Read a text of one line behind its opening quote. -/
def readLine (quote : Char) : Nat → List Char → List Char → Option (String × List Char)
  | 0, _, _ => none
  | fuel + 1, acc, cs =>
    match cs with
    | [] => none
    | c :: rest =>
      if c = quote then some (String.ofList acc.reverse, rest)
      else if c = '\\' ∧ quote = '"' then
        (readEscape rest).bind fun (x, rest) => readLine quote fuel (x :: acc) rest
      else if isVisible c then readLine quote fuel (c :: acc) rest
      else none

/-- Skip white space behind a backslash at the end of a line. -/
def skipContinuation? (cs : List Char) : Option (List Char) :=
  match skipBlanks cs with
  | '\n' :: rest | '\r' :: '\n' :: rest =>
    some (rest.dropWhile fun c => isBlank c || c == '\n' || c == '\r')
  | _ => none

/-- Read a text of several lines behind its opening quotes. Up to two quotes may stand in front of
the closing ones. -/
def readLines (quote : Char) : Nat → List Char → List Char → Option (String × List Char)
  | 0, _, _ => none
  | fuel + 1, acc, cs =>
    match cs with
    | [] => none
    | c :: rest =>
      if cs.take 3 = [quote, quote, quote] then
        let quotes := ((cs.drop 3).take 2).takeWhile (· = quote)
        some (String.ofList (quotes ++ acc).reverse, cs.drop (3 + quotes.length))
      else if c = '\\' ∧ quote = '"' then
        match skipContinuation? rest with
        | some rest => readLines quote fuel acc rest
        | none => (readEscape rest).bind fun (x, rest) => readLines quote fuel (x :: acc) rest
      else if isVisible c ∨ c = '\n' ∨ (c = '\r' ∧ rest.head? = some '\n') then
        readLines quote fuel (c :: acc) rest
      else none

/-- Whether a text of several lines starts here. -/
def opensLines (quote : Char) (cs : List Char) : Bool := cs.take 3 == [quote, quote, quote]

/-- Read a text in quotes. A line break behind three opening quotes is not part of it. -/
def readText (quote : Char) (fuel : Nat) (cs : List Char) : Option (String × List Char) :=
  if opensLines quote cs then
    let cs := cs.drop 3
    readLines quote fuel [] (if cs.isEmpty then cs else (lineBreak? cs).getD cs)
  else readLine quote fuel [] (cs.drop 1)

/-! ### Keys -/

/-- Whether a character may stand in a key without quotes. -/
def isKeyChar (c : Char) : Bool := c.isAlphanum || c == '_' || c == '-'

/-- Read a key without points. -/
def readSimpleKey (fuel : Nat) (cs : List Char) : Option (String × List Char) :=
  match cs with
  | '"' :: _ => if opensLines '"' cs then none else readText '"' fuel cs
  | '\'' :: _ => if opensLines '\'' cs then none else readText '\'' fuel cs
  | _ =>
    let key := cs.takeWhile isKeyChar
    if key.isEmpty then none else some (String.ofList key, cs.drop key.length)

/-- Read a key, and the blanks around it. -/
def readKey : Nat → List Char → Option (List String × List Char)
  | 0, _ => none
  | fuel + 1, cs => do
    let (key, cs) ← readSimpleKey fuel (skipBlanks cs)
    match skipBlanks cs with
    | '.' :: rest =>
      let (keys, cs) ← readKey fuel rest
      some (key :: keys, cs)
    | cs => some ([key], cs)

/-! ### Values -/

/-- Whether a character ends a value without quotes. -/
def endsWord (c : Char) : Bool :=
  isBlank c || ['\n', '\r', '#', ',', ']', '}', '=', '[', '{', '"', '\''].contains c

/-- Digits without the marks between them; a mark stands between two digits. -/
def withoutMarks? : List Char → Option (List Char)
  | [] => some []
  | [c] => if c = '_' then none else some [c]
  | c :: d :: rest =>
    if c = '_' then none
    else if d = '_' then (withoutMarks? rest).bind fun digits =>
      if digits.isEmpty then none else some (c :: digits)
    else (withoutMarks? (d :: rest)).map (c :: ·)

/-- The value of digits of a base. -/
def digitsIn? (base : Nat) (cs : List Char) : Option Nat := do
  let digits ← withoutMarks? cs
  let values ← digits.mapM fun c => (Text.hexDigit? c).filter (· < base)
  if values.isEmpty then none else some (values.foldl (fun n d => n * base + d) 0)

/-- The value of a decimal number, which has no zero in front. -/
def decimal? (cs : List Char) : Option Nat :=
  if 1 < cs.length ∧ cs.head? = some '0' then none else digitsIn? 10 cs

/-- The value of an integer. -/
def integer? : List Char → Option Int
  | '0' :: 'x' :: digits => (digitsIn? 16 digits).map Int.ofNat
  | '0' :: 'o' :: digits => (digitsIn? 8 digits).map Int.ofNat
  | '0' :: 'b' :: digits => (digitsIn? 2 digits).map Int.ofNat
  | cs =>
    let (negative, digits) := Text.takeSign cs
    (decimal? digits).map fun n => if negative then -(n : Int) else n

/-- The value of a word without quotes. -/
def word? (cs : List Char) : Option Value :=
  if cs = "true".toList then some (.boolean true)
  else if cs = "false".toList then some (.boolean false)
  else (integer? cs).map .integer

mutual

/-- Read a value. -/
def readValue : Nat → List Char → Option (Value × List Char)
  | 0, _ => none
  | fuel + 1, cs =>
    match cs with
    | '"' :: _ => (readText '"' fuel cs).map fun (s, cs) => (.string s, cs)
    | '\'' :: _ => (readText '\'' fuel cs).map fun (s, cs) => (.string s, cs)
    | '[' :: rest =>
      (readItems fuel (toNextPart rest)).map fun (items, cs) => (.array false items, cs)
    | '{' :: rest => do
      let (assignments, cs) ← readAssignments fuel (toNextPart rest)
      some (.table .inline (← inlineMembers assignments), cs)
    | _ => do
      let word := cs.takeWhile (!endsWord ·)
      some (← word? word, cs.drop word.length)

/-- Read the items of an array up to its closing bracket. -/
def readItems : Nat → List Char → Option (List Value × List Char)
  | 0, _ => none
  | fuel + 1, cs =>
    match cs with
    | ']' :: rest => some ([], rest)
    | _ => do
      let (x, cs) ← readValue fuel cs
      match toNextPart cs with
      | ',' :: rest =>
        let (items, cs) ← readItems fuel (toNextPart rest)
        some (x :: items, cs)
      | ']' :: rest => some ([x], rest)
      | _ => none

/-- Read the assignments of a table up to its closing brace. -/
def readAssignments : Nat → List Char → Option (List (List String × Value) × List Char)
  | 0, _ => none
  | fuel + 1, cs =>
    match cs with
    | '}' :: rest => some ([], rest)
    | _ => do
      let (path, cs) ← readKey fuel cs
      match cs with
      | '=' :: rest =>
        let (x, cs) ← readValue fuel (skipBlanks rest)
        match toNextPart cs with
        | ',' :: rest =>
          let (assignments, cs) ← readAssignments fuel (toNextPart rest)
          some ((path, x) :: assignments, cs)
        | '}' :: rest => some ([(path, x)], rest)
        | _ => none
      | _ => none

end

/-! ### Statements -/

/-- Read a header behind its opening brackets, up to the end of its line. -/
def readHeader (closing : List Char) (make : List String → Statement) (fuel : Nat)
    (cs : List Char) : Option (Statement × List Char) := do
  let (path, cs) ← readKey fuel cs
  if !closing.isPrefixOf cs then none
  else some (make path, ← endOfLine? (cs.drop closing.length))

/-- Read a statement up to the end of its line. -/
def readStatement (fuel : Nat) : List Char → Option (Statement × List Char)
  | '[' :: '[' :: rest => readHeader [']', ']'] .item fuel rest
  | '[' :: rest => readHeader [']'] .table fuel rest
  | cs => do
    let (path, cs) ← readKey fuel cs
    match cs with
    | '=' :: rest =>
      let (x, cs) ← readValue fuel (skipBlanks rest)
      some (.assign path x, ← endOfLine? cs)
    | _ => none

/-- Read statements up to the end of the text. -/
def readStatements : Nat → List Char → Option (List Statement)
  | 0, _ => none
  | fuel + 1, cs =>
    match toNextPart cs with
    | [] => some []
    | cs => do
      let (s, cs) ← readStatement (fuel + 1) cs
      return s :: (← readStatements fuel cs)

/-- The members of the root table of a text. A mark of byte order in front is skipped. -/
def read (text : String) : Option Members := do
  let cs := match text.toList with
    | '\ufeff' :: rest => rest
    | cs => cs
  build (← readStatements (cs.length + 1) cs) [] []

end ConformanceSuite.Toml
