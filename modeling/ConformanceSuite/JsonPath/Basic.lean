import ConformanceSuite.JsonPath.Token
import ConformanceSuite.Text.Decimal

/-!
# JSON paths

A path is a list of steps from the root. Tokens behind a complete path are ignored, so a text is a
path if some beginning of it is one; inside brackets and parentheses everything has to fit.
-/

namespace ConformanceSuite.JsonPath

/-- A comparison. -/
inductive Comparison where
  | equal | notEqual | less | lessOrEqual | greater | greaterOrEqual
  deriving DecidableEq

mutual

/-- A step from nodes to nodes. A step marked deep looks at all descendants. -/
inductive Step where
  | child (keys : List String)
  | children
  | descendantsNamed (key : String)
  | descendants
  | index (deep : Bool) (position : Int)
  | indices (positions : List Int)
  | slice (start stop : Option Int) (stride : Option Nat)
  | filter (deep : Bool) (condition : Condition)

/-- A condition of a filter. -/
inductive Condition where
  | holds (path : List Step)
  | compare (op : Comparison) (left right : Operand)
  | and (left right : Condition)
  | or (left right : Condition)

/-- A side of a comparison. -/
inductive Operand where
  | relative (path : List Step)
  | absolute (path : List Step)
  | string (text : String)
  | number (value : Double)
  | bool (value : Bool)

end

/-- What a parser leaves behind. -/
abbrev Parsed (α : Type) := Option (α × List Token)

/-- Drop blanks in front of tokens. -/
def skipBlanks : List Token → List Token
  | .blank :: rest => skipBlanks rest
  | ts => ts

/-- The integer of a key, if it fits in sixty-four bits. -/
def index? (key : String) : Option Int :=
  (Text.integer? key.toList).bind fun n =>
    if -Int.pow 2 63 ≤ n ∧ n < Int.pow 2 63 then some n else none

/-- The unsigned integer of a key, if it fits in sixty-four bits. -/
def stride? (key : String) : Option Nat :=
  match key.toList with
  | '-' :: _ => none
  | cs => (Text.integer? cs).bind fun n => if n < Int.pow 2 64 then some n.toNat else none

/-- The further positions of a list of positions. -/
def morePositions : List Token → (acc : List Int) → Parsed (List Int)
  | .comma :: rest, acc =>
    match rest with
    | .blank :: .key k :: rest => (index? k).bind fun n => morePositions rest (n :: acc)
    | .key k :: rest => (index? k).bind fun n => morePositions rest (n :: acc)
    | _ => none
  | ts, acc => some (acc.reverse, ts)

/-- The further keys of a list of quoted keys; blanks may stand around each. -/
def moreKeys : List Token → (acc : List String) → Parsed (List String)
  | .comma :: rest, acc =>
    match rest with
    | .blank :: .quoted k :: .blank :: rest => moreKeys rest (k :: acc)
    | .blank :: .quoted k :: rest => moreKeys rest (k :: acc)
    | .quoted k :: .blank :: rest => moreKeys rest (k :: acc)
    | .quoted k :: rest => moreKeys rest (k :: acc)
    | _ => none
  | ts, acc => some (acc.reverse, ts)

/-- The stride of a slice, if there is one behind a second colon. -/
def stride (ts : List Token) : Parsed (Option Nat) :=
  match skipBlanks ts with
  | .colon :: rest =>
    match skipBlanks rest with
    | .key k :: rest => (stride? k).map fun n => (some n, rest)
    | ts => some (none, ts)
  | ts => some (none, ts)

/-- The rest of a slice behind its start and first colon. -/
def sliceFrom (start : Int) (ts : List Token) : Parsed Step :=
  match skipBlanks ts with
  | .key k :: rest =>
    (index? k).bind fun stop => (stride rest).map fun p =>
      (.slice (some start) (some stop) p.1, p.2)
  | .colon :: rest => (stride (.colon :: rest)).map fun p => (.slice (some start) none p.1, p.2)
  | ts => some (.slice (some start) none none, ts)

/-- The rest of a slice without a start, behind its first colon. -/
def sliceTo (ts : List Token) : Parsed Step :=
  (stride ts).bind fun p =>
    match p with
    | (some n, rest) => some (.slice none none (some n), rest)
    | (none, .closeBracket :: rest) => some (.slice none none none, .closeBracket :: rest)
    | (none, .key k :: rest) =>
      (index? k).bind fun stop => (stride rest).map fun q => (.slice none (some stop) q.1, q.2)
    | (none, _) => none

/-- The content of brackets that hold neither a star nor a filter. -/
def bracketValue (deep : Bool) : List Token → Parsed Step
  | .key k :: rest =>
    (index? k).bind fun n =>
      match skipBlanks rest with
      | .comma :: rest => (morePositions (.comma :: rest) [n]).map fun p => (.indices p.1, p.2)
      | .colon :: rest => sliceFrom n rest
      | ts => some (.index deep n, ts)
  | .colon :: rest => sliceTo rest
  | .quoted k :: .comma :: rest =>
    (moreKeys (.comma :: rest) [k]).map fun p => (.child p.1, p.2)
  | .quoted k :: rest => some (if deep then .descendantsNamed k else .child [k], rest)
  | _ => none

/-- Demand a token behind a parsed value; blanks may stand in front of it. -/
def closedBy {α : Type} (token : Token) (p : Parsed α) : Parsed α :=
  p.bind fun (a, ts) =>
    match skipBlanks ts with
    | t :: rest => if t = token then some (a, rest) else none
    | [] => none

/-- A number literal that starts with a key; a point and a second key may follow. -/
def numberOperand (key : String) : List Token → Parsed Operand
  | .dot :: .key decimals :: rest =>
    (Text.double? (key.toList ++ '.' :: decimals.toList)).map fun d => (.number d, rest)
  | .dot :: _ => none
  | ts => (Text.double? key.toList).map fun d => (.number d, ts)

/-- A literal that starts with a key: a number, or a truth value by its first letter. -/
def keyOperand (key : String) (rest : List Token) : Parsed Operand :=
  match key.toList with
  | c :: _ =>
    if c = '-' || Text.isDigit c then numberOperand key rest
    else if ['t', 'T', 'f', 'F'].contains c then
      some (.bool (Text.lowerAscii key == "true"), rest)
    else none
  | [] => none

/-- The comparison of a token. -/
def comparison? : Token → Option Comparison
  | .equal => some .equal
  | .notEqual => some .notEqual
  | .less => some .less
  | .lessOrEqual => some .lessOrEqual
  | .greater => some .greater
  | .greaterOrEqual => some .greaterOrEqual
  | _ => none

mutual

/-- Steps as far as they go. Each call either reads a token or is one of at most four in a row
that read none. -/
def steps : (fuel : Nat) → List Token → Parsed (List Step)
  | 0, _ => none
  | fuel + 1, ts =>
    match ts with
    | .dot :: .dot :: .asterisk :: rest => next fuel .descendants rest
    | .dot :: .dot :: .openBracket :: rest => bracket fuel true (skipBlanks rest)
    | .dot :: .dot :: .key k :: rest => next fuel (.descendantsNamed k) rest
    | .dot :: .asterisk :: rest => next fuel .children rest
    | .dot :: .key k :: rest => next fuel (.child [k]) rest
    | .dot :: .openBracket :: rest => bracket fuel false rest
    | .dot :: _ => none
    | .openBracket :: rest => bracket fuel false (skipBlanks rest)
    | _ => some ([], ts)

/-- A step and the steps behind it. -/
def next : (fuel : Nat) → Step → List Token → Parsed (List Step)
  | 0, _, _ => none
  | fuel + 1, step, ts => (steps fuel ts).map fun p => (step :: p.1, p.2)

/-- A step in brackets, behind the opening one, and the steps behind it. -/
def bracket : (fuel : Nat) → (deep : Bool) → List Token → Parsed (List Step)
  | 0, _, _ => none
  | fuel + 1, deep, ts =>
    let content : Parsed Step :=
      match ts with
      | .question :: .openParenthesis :: rest =>
        (closedBy .closeParenthesis (condition fuel rest)).map fun p => (.filter deep p.1, p.2)
      | .question :: _ => none
      | .asterisk :: rest => some (if deep then .descendants else .children, rest)
      | ts => bracketValue deep ts
    (closedBy .closeBracket content).bind fun p => next fuel p.1 p.2

/-- A condition. There is no precedence: what follows a connective is its right side. -/
def condition : (fuel : Nat) → List Token → Parsed Condition
  | 0, _ => none
  | fuel + 1, ts =>
    let left : Parsed Condition :=
      match skipBlanks ts with
      | .openParenthesis :: rest => closedBy .closeParenthesis (condition fuel rest)
      | ts => simpleCondition fuel ts
    left.bind fun p =>
      match skipBlanks p.2 with
      | .and :: rest => (condition fuel rest).map fun q => (.and p.1 q.1, q.2)
      | .or :: rest => (condition fuel rest).map fun q => (.or p.1 q.1, q.2)
      | ts => some (p.1, ts)

/-- A comparison, or a relative path by itself. -/
def simpleCondition : (fuel : Nat) → List Token → Parsed Condition
  | 0, _ => none
  | fuel + 1, ts =>
    (operand fuel ts).bind fun p =>
      let ts := skipBlanks p.2
      match ts.head?.bind comparison? with
      | some op =>
        (operand fuel (skipBlanks (ts.drop 1))).map fun q => (.compare op p.1 q.1, q.2)
      | none =>
        match p.1 with
        | .relative path => some (.holds path, ts)
        | _ => none

/-- A side of a comparison. -/
def operand : (fuel : Nat) → List Token → Parsed Operand
  | 0, _ => none
  | fuel + 1, ts =>
    match ts with
    | .relative :: .blank :: rest => some (.relative [], skipBlanks rest)
    | .relative :: rest => (steps fuel rest).map fun p => (.relative p.1, p.2)
    | .absolute :: rest => (steps fuel rest).map fun p => (.absolute p.1, p.2)
    | .quoted s :: rest => some (.string s, rest)
    | .key k :: rest => keyOperand k rest
    | _ => none

end

/-- The path of a text. -/
def ofString? (text : String) : Option (List Step) :=
  match tokens text with
  | .absolute :: rest => (steps (4 * rest.length + 4) rest).map (·.1)
  | _ => none

end ConformanceSuite.JsonPath
