import ConformanceSuite.Text.Category

/-!
# Text patterns

Regular expressions with look-around, and what they match: `advance` sends a set of places in a text
to the places that a pattern leads to from them, and a pattern is found in a text if it leads
anywhere from any place.
-/

namespace ConformanceSuite.Pattern

/-- A set of characters. -/
inductive CharSet where
  | empty
  | range (low high : Char)
  | category (c : Text.Category)
  | union (a b : CharSet)
  | inter (a b : CharSet)
  | compl (a : CharSet)
  deriving DecidableEq, Inhabited

namespace CharSet

/-- The set of one character. -/
def single (c : Char) : CharSet := .range c c

/-- The union of sets. -/
def unionAll (sets : List CharSet) : CharSet := sets.foldl .union .empty

/-- The set of the given characters. -/
def ofList (cs : List Char) : CharSet := unionAll (cs.map single)

/-- Whether a character is in a set. -/
def contains : CharSet → Char → Bool
  | .empty, _ => false
  | .range low high, c => low ≤ c && c ≤ high
  | .category kind, c => kind.contains c
  | .union a b, c => a.contains c || b.contains c
  | .inter a b, c => a.contains c && b.contains c
  | .compl a, c => !a.contains c

/-- The decimal digits. -/
def digit : CharSet := .range '0' '9'

/-- The ASCII letters. -/
def letter : CharSet := .union (.range 'A' 'Z') (.range 'a' 'z')

/-- The characters of words: ASCII letters, digits and the underscore. -/
def word : CharSet := .union (.union letter digit) (single '_')

/-- The blanks. -/
def blank : CharSet :=
  ofList [' ', '\t', '\n', '\r', '\x0b', '\x0c', '\u2003', '\ufeff', '\u2029', '\u00a0']

/-- Every character but the line feed. -/
def dot : CharSet := .compl (single '\n')

/-- The set with the other case of every ASCII letter in it. -/
def foldCase (a : CharSet) : CharSet :=
  .union a (unionAll ((List.range 26).map fun i =>
    let lower := Char.ofNat (0x61 + i)
    let upper := Char.ofNat (0x41 + i)
    if a.contains lower || a.contains upper then ofList [lower, upper] else .empty))

end CharSet

/-- A pattern. -/
inductive Node where
  | nothing
  | oneOf (set : CharSet)
  | textStart
  | textEnd
  | lineStart
  | lineEnd
  | wordBoundary (negated : Bool)
  | sequence (a b : Node)
  | choice (a b : Node)
  | repetition (a : Node) (least : Nat) (most : Option Nat)
  | look (behind negated : Bool) (a : Node)
  deriving DecidableEq, Inhabited

/-- The places of two ascending lists, in ascending order. -/
def merge : List Nat → List Nat → List Nat
  | [], ys => ys
  | x :: xs, [] => x :: xs
  | x :: xs, y :: ys =>
    if x < y then x :: merge xs (y :: ys)
    else if y < x then y :: merge (x :: xs) ys
    else x :: merge xs ys
  termination_by xs ys => xs.length + ys.length

/-- The places reached by taking a step a number of times. -/
def stepTimes (step : List Nat → List Nat) : Nat → List Nat → List Nat
  | 0, places => places
  | n + 1, places => if places.isEmpty then [] else stepTimes step n (step places)

/-- The places reached by taking a step at most a number of times. -/
def stepUpTo (step : List Nat → List Nat) : Nat → (seen frontier : List Nat) → List Nat
  | 0, seen, _ => seen
  | n + 1, seen, frontier =>
    let fresh := (step frontier).filter fun i => !seen.contains i
    if fresh.isEmpty then seen else stepUpTo step n (merge seen fresh) fresh

/-- Whether a character of words, in any script, stands at a place. -/
def wordAt (text : Array Char) (i : Nat) : Bool := (text[i]?).any Text.isWordChar

/-- Whether a word begins or ends at a place. -/
def atBoundary (text : Array Char) (i : Nat) : Bool :=
  (0 < i && wordAt text (i - 1)) != wordAt text i

/-- Where a pattern leads to in a text from a set of places. -/
def Node.advance (text : Array Char) : Node → List Nat → List Nat
  | .nothing, places => places
  | .oneOf set, places =>
    (places.filter fun i => (text[i]?).any set.contains).map (· + 1)
  | .textStart, places => places.filter (· == 0)
  | .textEnd, places => places.filter (· == text.size)
  | .lineStart, places => places.filter fun i => i == 0 || text[i - 1]? == some '\n'
  | .lineEnd, places => places.filter fun i => i == text.size || text[i]? == some '\n'
  | .wordBoundary negated, places => places.filter fun i => atBoundary text i != negated
  | .sequence a b, places => b.advance text (a.advance text places)
  | .choice a b, places => merge (a.advance text places) (b.advance text places)
  | .repetition a least most, places =>
    let first := stepTimes (a.advance text) least places
    stepUpTo (a.advance text) ((most.getD (least + text.size + 1)) - least) first first
  | .look false negated a, places =>
    places.filter fun i => (a.advance text [i]).isEmpty == negated
  | .look true negated a, places =>
    places.filter fun i => (a.advance text (List.range (i + 1))).contains i != negated

/-- Whether a pattern is found anywhere in a text. -/
def Node.foundIn (pattern : Node) (text : String) : Bool :=
  let chars := text.toList.toArray
  !(pattern.advance chars (List.range (chars.size + 1))).isEmpty

end ConformanceSuite.Pattern
