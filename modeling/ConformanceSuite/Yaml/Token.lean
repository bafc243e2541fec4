import ConformanceSuite.Text.Hex
import ConformanceSuite.Yaml.Cursor

/-!
# Tokens of YAML texts

The tokens of a text, and the readers of the short ones: directives, anchors and tags.
-/

namespace ConformanceSuite.Yaml

/-- A tag as it is written: a handle that stands for the start of a name, and the rest of it. -/
structure TagText where
  handle : String
  suffix : String
  deriving DecidableEq

/-- A token. A plain scalar is one without quotes or block indicator. -/
inductive Token where
  | versionDirective (major minor : Nat)
  | tagDirective (handle start : String)
  | documentStart
  | documentEnd
  | blockSequenceStart
  | blockMappingStart
  | blockEnd
  | flowSequenceStart
  | flowSequenceEnd
  | flowMappingStart
  | flowMappingEnd
  | blockEntry
  | flowEntry
  | key
  | value
  | alias (name : String)
  | anchor (name : String)
  | tag (text : TagText)
  | scalar (plain : Bool) (text : String)
  deriving DecidableEq

/-- Whether a character may stand in the name of a directive, an anchor or a handle. -/
def isNameChar (c : Char) : Bool := c.isAlphanum || c == '_' || c == '-'

/-- The characters of a name, and the place behind it. -/
def readName (c : Cursor) : String × Cursor :=
  let name := c.rest.takeWhile isNameChar
  (String.ofList name, c.skip name.length)

/-! ### Anchors and aliases -/

/-- The characters that may follow a name without a blank. -/
def nameEnds : List Char := ['?', ':', ',', ']', '}', '%', '@', '\x60']

/-- Read the name of an anchor or an alias behind its mark. -/
def readAnchor (c : Cursor) : Option (String × Cursor) :=
  let (name, c) := readName c
  if name ≠ "" ∧ (c.blankOrEndAt 0 ∨ c.peek.any nameEnds.contains) then some (name, c) else none

/-! ### Tags -/

/-- The number of bytes of a character whose encoding starts with a byte. -/
def encodedLength? (first : Nat) : Option Nat :=
  if first < 0x80 then some 1
  else if first / 0x20 = 6 then some 2
  else if first / 0x10 = 14 then some 3
  else if first / 8 = 30 then some 4
  else none

/-- Read a byte written as a percent sign and two digits. -/
def readPercentByte (c : Cursor) : Option (UInt8 × Cursor) :=
  match c.rest with
  | '%' :: a :: b :: _ => (Text.hexValue? [a, b]).map fun n => (n.toUInt8, c.skip 3)
  | _ => none

/-- Read a number of bytes written with percent signs. -/
def readPercentBytes : Nat → Cursor → Option (List UInt8 × Cursor)
  | 0, c => some ([], c)
  | n + 1, c => do
    let (byte, c) ← readPercentByte c
    let (bytes, c) ← readPercentBytes n c
    some (byte :: bytes, c)

/-- Read a character whose bytes are written with percent signs. -/
def readPercentChar (c : Cursor) : Option (List Char × Cursor) := do
  let (first, _) ← readPercentByte c
  let (bytes, c) ← readPercentBytes (← encodedLength? first.toNat) c
  some ((← String.fromUTF8? ⟨bytes.toArray⟩).toList, c)

/-- The marks that may stand in a tag beside letters and digits. -/
def tagMarks : List Char :=
  [';', '/', '?', ':', '@', '&', '=', '+', '$', '.', '%', '!', '~', '*', '\'', '(', ')']

/-- The marks that may stand in a tag that is not inside brackets. -/
def bracketMarks : List Char := [',', '[', ']']

/-- Read the characters of a tag. -/
def readTagChars (anywhere : Bool) : Nat → List Char → Cursor → Option (List Char × Cursor)
  | 0, _, _ => none
  | fuel + 1, acc, c =>
    match c.peek with
    | none => some (acc, c)
    | some x =>
      if x = '%' then
        (readPercentChar c).bind fun (text, c) => readTagChars anywhere fuel (acc ++ text) c
      else if isNameChar x || tagMarks.contains x || (anywhere && bracketMarks.contains x) then
        readTagChars anywhere fuel (acc ++ [x]) c.skip
      else some (acc, c)

/-- Read a part of a tag; without a head it may not be empty. -/
def readTagPart (anywhere : Bool) (head : List Char) (c : Cursor) : Option (String × Cursor) := do
  let (text, c) ← readTagChars anywhere (c.rest.length + 1) [] c
  if head.isEmpty && text.isEmpty then none
  else some (String.ofList (head.drop 1 ++ text), c)

/-- The handle at a place, which starts with an exclamation mark. -/
def readHandle (c : Cursor) : Option (List Char × Cursor) :=
  if c.peek ≠ some '!' then none
  else
    let name := c.skip.rest.takeWhile isNameChar
    let c := c.skip (name.length + 1)
    if c.peek = some '!' then some ('!' :: name ++ ['!'], c.skip) else some ('!' :: name, c)

/-- Read a tag. -/
def readTag (flow : Bool) (c : Cursor) : Option (TagText × Cursor) := do
  let (tag, c) ←
    if c.peekAt 1 = some '<' then do
      let (suffix, c) ← readTagPart true [] (c.skip 2)
      if c.peek = some '>' then some (⟨"", suffix⟩, c.skip) else none
    else do
      let (handle, c) ← readHandle c
      if 1 < handle.length && handle.getLast? == some '!' then do
        let (suffix, c) ← readTagPart false [] c
        some (⟨String.ofList handle, suffix⟩, c)
      else do
        let (suffix, c) ← readTagPart false handle c
        some (if suffix = "" then ⟨"", "!"⟩ else ⟨"!", suffix⟩, c)
  if c.blankOrEndAt 0 || (flow && c.peek = some ',') then some (tag, c) else none

/-! ### Directives -/

/-- The greatest number of digits of a part of a version. -/
def maxVersionDigits : Nat := 9

/-- Read a part of a version. -/
def readVersionPart (c : Cursor) : Option (Nat × Cursor) :=
  let digits := c.rest.takeWhile Char.isDigit
  if digits.isEmpty ∨ maxVersionDigits < digits.length then none
  else some (digits.foldl (fun n d => n * 10 + (d.toNat - 0x30)) 0, c.skip digits.length)

/-- Read the version that a text asks for. -/
def readVersion (c : Cursor) : Option (Token × Cursor) := do
  let (major, c) ← readVersionPart (c.skipWhile isBlank)
  if c.peek ≠ some '.' then none
  else
    let (minor, c) ← readVersionPart c.skip
    some (.versionDirective major minor, c)

/-- Read what a handle stands for. -/
def readTagDirective (c : Cursor) : Option (Token × Cursor) := do
  let (handle, c) ← readHandle (c.skipWhile isBlank)
  if (1 < handle.length && handle.getLast? != some '!') || !c.atBlank then none
  else
    let (start, c) ← readTagPart true [] (c.skipWhile isBlank)
    if c.blankOrEndAt 0 then some (.tagDirective (String.ofList handle) start, c) else none

/-- Read a directive behind its percent sign, up to the end of the line. -/
def readDirective (c : Cursor) : Option (Token × Cursor) := do
  let (name, c) := readName c
  if !c.blankOrEndAt 0 then none
  else
    let (token, c) ←
      if name = "YAML" then readVersion c
      else if name = "TAG" then readTagDirective c
      else none
    let c := c.skipWhile isBlank
    let c := if c.peek = some '#' then c.skipToBreak else c
    if c.breakOrEndAt 0 then some (token, c.readBreak.2) else none

end ConformanceSuite.Yaml
