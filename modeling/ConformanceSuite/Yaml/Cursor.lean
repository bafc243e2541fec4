/-!
# Places in a YAML text

A cursor is the rest of a text with the line and the column at which it starts.
-/

namespace ConformanceSuite.Yaml

/-- Whether a character breaks a line. -/
def isBreak (c : Char) : Bool :=
  c == '\n' || c == '\r' || c == '\u0085' || c == '\u2028' || c == '\u2029'

/-- Whether a character is a space or a tab. -/
def isBlank (c : Char) : Bool := c == ' ' || c == '\t'

/-- A place in a text. -/
structure Cursor where
  rest : List Char
  index : Nat
  line : Nat
  column : Nat

namespace Cursor

/-- The start of a text. -/
def start (text : List Char) : Cursor := ⟨text, 0, 0, 0⟩

/-- The next character. -/
def peek (c : Cursor) : Option Char := c.rest.head?

/-- The character behind a number of others. -/
def peekAt (c : Cursor) (n : Nat) : Option Char := c.rest[n]?

/-- Whether there is nothing left. -/
def atEnd (c : Cursor) : Bool := c.rest.isEmpty

/-- Whether a line break, or nothing, stands behind a number of characters. -/
def breakOrEndAt (c : Cursor) (n : Nat) : Bool := (c.peekAt n).all isBreak

/-- Whether a blank, a line break or nothing stands behind a number of characters. -/
def blankOrEndAt (c : Cursor) (n : Nat) : Bool := (c.peekAt n).all fun x => isBlank x || isBreak x

/-- Whether the next character is a space or a tab. -/
def atBlank (c : Cursor) : Bool := c.peek.any isBlank

/-- Whether the next character breaks a line. -/
def atBreak (c : Cursor) : Bool := c.peek.any isBreak

/-- Skip a number of characters of a line. -/
def skip (c : Cursor) (n : Nat := 1) : Cursor :=
  ⟨c.rest.drop n, c.index + n, c.line, c.column + n⟩

/-- Read a line break: every kind counts as a line feed, but for the separators of lines and
paragraphs. -/
def readBreak (c : Cursor) : List Char × Cursor :=
  match c.rest with
  | '\r' :: '\n' :: rest => (['\n'], ⟨rest, c.index + 2, c.line + 1, 0⟩)
  | '\u2028' :: rest => (['\u2028'], ⟨rest, c.index + 1, c.line + 1, 0⟩)
  | '\u2029' :: rest => (['\u2029'], ⟨rest, c.index + 1, c.line + 1, 0⟩)
  | _ :: rest => (['\n'], ⟨rest, c.index + 1, c.line + 1, 0⟩)
  | [] => ([], c)

/-- Skip the characters of a line as long as they satisfy a condition. -/
def skipWhile (c : Cursor) (p : Char → Bool) : Cursor :=
  c.skip (c.rest.takeWhile fun x => p x && !isBreak x).length

/-- Skip to the end of a line. -/
def skipToBreak (c : Cursor) : Cursor := c.skipWhile fun _ => true

/-- Whether three equal marks, and nothing behind them, stand at the start of a line. -/
def atMarks (c : Cursor) (mark : Char) : Bool :=
  c.column == 0 && c.rest.take 3 == [mark, mark, mark] && c.blankOrEndAt 3

/-- Whether a line starts with the marks of a document. -/
def atDocumentMark (c : Cursor) : Bool := c.atMarks '-' || c.atMarks '.'

end Cursor

end ConformanceSuite.Yaml
