import ConformanceSuite.Text.Printable

/-!
# Quoted texts

A text as messages show it: between double quotes, with quotes, backslashes and line controls
escaped by a letter and every other unprintable character by its code point.
-/

namespace ConformanceSuite.Text

/-- A code point in braces, as in `\u{1b}`. -/
def codePointEscape (c : Char) : List Char :=
  '\\' :: 'u' :: '{' :: Nat.toDigits 16 c.toNat ++ ['}']

/-- One character of a quoted text. -/
def quotedChar (c : Char) : List Char :=
  if c = '"' then ['\\', '"']
  else if c = '\\' then ['\\', '\\']
  else if c = '\n' then ['\\', 'n']
  else if c = '\r' then ['\\', 'r']
  else if c = '\t' then ['\\', 't']
  else if c = '\x00' then ['\\', '0']
  else if isPrintable c then [c]
  else codePointEscape c

/-- A text between double quotes, escaped. -/
def quoted (s : String) : String :=
  String.ofList ('"' :: s.toList.flatMap quotedChar ++ ['"'])

/-- A name between double quotes, escaped; apostrophes are escaped too. -/
def quotedName (s : String) : String :=
  let char (c : Char) := if c = '\'' then ['\\', '\''] else quotedChar c
  String.ofList ('"' :: s.toList.flatMap char ++ ['"'])

end ConformanceSuite.Text
