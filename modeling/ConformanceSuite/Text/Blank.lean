/-!
# White space and letter case

The characters with the Unicode property White_Space, trimming by them, and the case maps of ASCII
letters, which leave every other character as it is.
-/

namespace ConformanceSuite.Text

/-- Whether a character has the property White_Space. -/
def isWhitespace (c : Char) : Bool :=
  let n := c.toNat
  (0x9 ≤ n && n ≤ 0xd) || n == 0x20 || n == 0x85 || n == 0xa0 || n == 0x1680 ||
    (0x2000 ≤ n && n ≤ 0x200a) || n == 0x2028 || n == 0x2029 || n == 0x202f || n == 0x205f ||
    n == 0x3000

/-- Drop white space in front of a list of characters. -/
def trimStartChars (cs : List Char) : List Char := cs.dropWhile isWhitespace

/-- Drop white space at both ends of a list of characters. -/
def trimChars (cs : List Char) : List Char :=
  (trimStartChars (trimStartChars cs).reverse).reverse

/-- Drop white space at both ends of a text. -/
def trim (s : String) : String := String.ofList (trimChars s.toList)

/-- Whether a text is empty or all white space. -/
def isBlank (s : String) : Bool := s.toList.all isWhitespace

/-- The small form of an ASCII capital. -/
def toLowerAscii (c : Char) : Char := if 'A' ≤ c ∧ c ≤ 'Z' then Char.ofNat (c.toNat + 32) else c

/-- The capital form of an ASCII small letter. -/
def toUpperAscii (c : Char) : Char := if 'a' ≤ c ∧ c ≤ 'z' then Char.ofNat (c.toNat - 32) else c

/-- A text with its ASCII capitals in small form. -/
def lowerAscii (s : String) : String := String.ofList (s.toList.map toLowerAscii)

/-- A text with its ASCII small letters in capital form. -/
def upperAscii (s : String) : String := String.ofList (s.toList.map toUpperAscii)

end ConformanceSuite.Text
