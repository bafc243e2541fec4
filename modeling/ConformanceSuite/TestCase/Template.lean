import ConformanceSuite.Context

/-!
# Templates

A template is a text that mentions context variables: a dollar sign and the longest run of name
characters behind it. It is split into pieces once, from left to right, and what replaces a
variable is never looked at again.
-/

namespace ConformanceSuite.Template

/-- A character of a variable name: an ASCII letter, a digit or an underscore. -/
def isNameChar (c : Char) : Bool := c.isAlphanum || c == '_'

/-- A piece of a template: a character that stands for itself, or a variable. -/
inductive Piece where
  | literal (c : Char)
  | variable (name : List Char)
  deriving DecidableEq

/-- The pieces of a template. A dollar sign without a name behind it stands for itself. -/
def pieces : List Char → List Piece
  | [] => []
  | c :: rest =>
    if c = '$' ∧ (rest.takeWhile isNameChar).isEmpty = false then
      .variable (rest.takeWhile isNameChar) :: pieces (rest.dropWhile isNameChar)
    else .literal c :: pieces rest
  termination_by cs => cs.length
  decreasing_by
    · exact Nat.lt_succ_of_le (List.dropWhile_sublist _).length_le
    · exact Nat.lt_succ_self _

/-- Why a template could not be filled in. -/
inductive Error where
  | unresolved (name : String)
  | context (error : ContextError)
  deriving DecidableEq

/-- The text of a variable. -/
def resolve (c : Context) (name : String) : Except Error String :=
  match c.get name with
  | .ok value => .ok value.text
  | .error (.notFound _) => .error (.unresolved name)
  | .error e => .error (.context e)

/-- Fill in pieces from a context, the leftmost failure first. -/
def fill (c : Context) : List Piece → Except Error (List Char)
  | [] => .ok []
  | .literal x :: rest => (fill c rest).map (x :: ·)
  | .variable name :: rest =>
    match resolve c (String.ofList name) with
    | .error e => .error e
    | .ok text => (fill c rest).map (text.toList ++ ·)

/-- Fill in a template from a context. -/
def instantiate (template : String) (c : Context) : Except Error String :=
  (fill c (pieces template.toList)).map String.ofList

end ConformanceSuite.Template
