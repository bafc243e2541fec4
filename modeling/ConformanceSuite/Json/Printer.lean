import ConformanceSuite.Json.Basic

/-!
# Compact JSON text

`write` puts the text of a value in front of a given rest; `render` is the text alone. There is no
blank between tokens, members keep their order, and strings escape only what they must.
-/

namespace ConformanceSuite.Json

/-- Doubles between `0.00001` and `10 ^ 16` are written positionally, others with an exponent. -/
def floatLayout : Double.Layout := ⟨-5, 15⟩

/-- The decimal text of an integer. -/
def integerChars (n : Int) : List Char :=
  if n < 0 then '-' :: Nat.toDigits 10 n.natAbs else Nat.toDigits 10 n.natAbs

/-- The text of a number. -/
def Number.chars : Number → List Char
  | .integer n _ => integerChars n
  | .float d => d.chars floatLayout

/-- A control character by its two hexadecimal digits. -/
def controlEscape (c : Char) : List Char :=
  ['\\', 'u', '0', '0', Nat.digitChar (c.toNat / 16), Nat.digitChar (c.toNat % 16)]

/-- One character of a JSON string: quotes, backslashes and controls are escaped. -/
def stringChar (c : Char) : List Char :=
  if c = '"' then ['\\', '"']
  else if c = '\\' then ['\\', '\\']
  else if c = '\n' then ['\\', 'n']
  else if c = '\r' then ['\\', 'r']
  else if c = '\t' then ['\\', 't']
  else if c = '\x08' then ['\\', 'b']
  else if c = '\x0c' then ['\\', 'f']
  else if c.toNat < 0x20 then controlEscape c
  else [c]

/-- Write the characters of a string, without its quotes. -/
def writeStringChars (cs : List Char) (rest : List Char) : List Char :=
  cs.foldr (fun c acc => stringChar c ++ acc) rest

/-- Write a string between its quotes. -/
def writeString (s : String) (rest : List Char) : List Char :=
  '"' :: writeStringChars s.toList ('"' :: rest)

mutual

/-- Write a value in front of a rest. -/
def write : Json → List Char → List Char
  | .null, rest => 'n' :: 'u' :: 'l' :: 'l' :: rest
  | .bool true, rest => 't' :: 'r' :: 'u' :: 'e' :: rest
  | .bool false, rest => 'f' :: 'a' :: 'l' :: 's' :: 'e' :: rest
  | .number n, rest => n.chars ++ rest
  | .string s, rest => writeString s rest
  | .array [], rest => '[' :: ']' :: rest
  | .array (x :: xs), rest => '[' :: write x (writeItems xs (']' :: rest))
  | .object [], rest => '{' :: '}' :: rest
  | .object ((k, v) :: ms), rest =>
    '{' :: writeString k (':' :: write v (writeMembers ms ('}' :: rest)))

/-- Write the items after the first, each behind a comma. -/
def writeItems : List Json → List Char → List Char
  | [], rest => rest
  | x :: xs, rest => ',' :: write x (writeItems xs rest)

/-- Write the members after the first, each behind a comma. -/
def writeMembers : List (String × Json) → List Char → List Char
  | [], rest => rest
  | (k, v) :: ms, rest => ',' :: writeString k (':' :: write v (writeMembers ms rest))

end

/-- The compact text of a value. -/
def render (j : Json) : String := String.ofList (write j [])

/-- The text of a value where texts are wanted: a string as it is, anything else in compact form. -/
def text : Json → String
  | .string s => s
  | j => j.render

@[simp] theorem text_string (s : String) : (Json.string s).text = s := rfl

end ConformanceSuite.Json
