import ConformanceSuite.Text.Split

/-!
# Path templates

A template is a path some of whose segments are parameters. It matches a path with as many segments
if every literal segment is the same and every parameter faces something that is not empty.
-/

namespace ConformanceSuite.Swagger

/-- A segment of a template. -/
inductive Segment where
  | literal (text : List Char)
  | parameter
  deriving DecidableEq

/-- A text without the slashes at both ends. -/
def trimSlashes (cs : List Char) : List Char :=
  ((cs.dropWhile (· == '/')).reverse.dropWhile (· == '/')).reverse

/-- The segments of a path; slashes at its ends do not count. -/
def pathSegments (path : List Char) : List (List Char) := Text.splitAll '/' (trimSlashes path)

/-- A name in braces is a parameter. -/
def Segment.ofChars (cs : List Char) : Segment :=
  if cs.length > 2 ∧ cs.head? = some '{' ∧ cs.getLast? = some '}' then .parameter else .literal cs

/-- Whether a segment of a template matches one of a path. -/
def Segment.accepts : Segment → List Char → Bool
  | .literal text, actual => text == actual
  | .parameter, actual => !actual.isEmpty

/-- A template, by its segments. -/
abbrev PathTemplate := List Segment

namespace PathTemplate

/-- Read a template. -/
def ofString (template : String) : PathTemplate :=
  (pathSegments template.toList).map Segment.ofChars

/-- Whether a template matches the segments of a path. -/
def accepts : PathTemplate → List (List Char) → Bool
  | [], [] => true
  | s :: ss, a :: as => s.accepts a && accepts ss as
  | _, _ => false

/-- The number of literal segments. -/
def literals (t : PathTemplate) : Nat := t.countP (· != .parameter)

end PathTemplate

end ConformanceSuite.Swagger
