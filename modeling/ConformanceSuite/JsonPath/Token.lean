import ConformanceSuite.Text.Blank

/-!
# Tokens of JSON paths

A path text is a list of tokens up to the first character that starts none; what follows it is not
looked at.
-/

namespace ConformanceSuite.JsonPath

/-- A token of a path. -/
inductive Token where
  | absolute
  | relative
  | dot
  | asterisk
  | openBracket
  | closeBracket
  | openParenthesis
  | closeParenthesis
  | question
  | comma
  | colon
  | quoted (text : String)
  | key (text : String)
  | equal
  | notEqual
  | less
  | lessOrEqual
  | greater
  | greaterOrEqual
  | and
  | or
  | blank
  deriving DecidableEq

/-- The characters that end a bare key, next to white space. -/
def endsKey (c : Char) : Bool :=
  ['.', '*', '[', ']', '(', ')', '@', '?', ',', ':', '<', '>', '=', '&', '|', '!'].contains c ||
    Text.isWhitespace c

/-- A quoted text behind its opening quote, and what follows its closing quote. A backslash in
front of the first quote makes that quote part of the text; the next one closes it. -/
def quotedText (quote : Char) (cs : List Char) : Option (String × List Char) :=
  let text := cs.takeWhile (· != quote)
  match cs.dropWhile (· != quote) with
  | [] => none
  | _ :: rest =>
    if text.getLast? = some '\\' then
      let more := rest.takeWhile (· != quote)
      match rest.dropWhile (· != quote) with
      | [] => none
      | _ :: rest => some (String.ofList (text.dropLast ++ quote :: more), rest)
    else some (String.ofList text, rest)

/-- The first token of a text, and what follows it. -/
def nextToken : List Char → Option (Token × List Char)
  | [] => none
  | '$' :: rest =>
    match rest.takeWhile (!endsKey ·) with
    | [] => some (.absolute, rest)
    | key => some (.key (String.ofList ('$' :: key)), rest.dropWhile (!endsKey ·))
  | '.' :: rest => some (.dot, rest)
  | '*' :: rest => some (.asterisk, rest)
  | '[' :: rest => some (.openBracket, rest)
  | ']' :: rest => some (.closeBracket, rest)
  | '(' :: rest => some (.openParenthesis, rest)
  | ')' :: rest => some (.closeParenthesis, rest)
  | '@' :: rest => some (.relative, rest)
  | '?' :: rest => some (.question, rest)
  | ',' :: rest => some (.comma, rest)
  | ':' :: rest => some (.colon, rest)
  | '\'' :: rest => (quotedText '\'' rest).map fun p => (.quoted p.1, p.2)
  | '"' :: rest => (quotedText '"' rest).map fun p => (.quoted p.1, p.2)
  | '=' :: '=' :: rest => some (.equal, rest)
  | '!' :: '=' :: rest => some (.notEqual, rest)
  | '>' :: '=' :: rest => some (.greaterOrEqual, rest)
  | '>' :: c :: rest => some (.greater, c :: rest)
  | '<' :: '=' :: rest => some (.lessOrEqual, rest)
  | '<' :: c :: rest => some (.less, c :: rest)
  | '&' :: '&' :: rest => some (.and, rest)
  | '|' :: '|' :: rest => some (.or, rest)
  | c :: rest =>
    if ['=', '!', '>', '<', '&', '|'].contains c then none
    else if Text.isWhitespace c then some (.blank, rest.dropWhile Text.isWhitespace)
    else
      let inKey (c : Char) : Bool := !endsKey c && c != '$'
      some (.key (String.ofList (c :: rest.takeWhile inKey)), rest.dropWhile inKey)

/-- The tokens of a text; fuel of the text's length is enough, as a token is never empty. -/
def tokensWithin : (fuel : Nat) → List Char → List Token
  | 0, _ => []
  | fuel + 1, cs =>
    match nextToken cs with
    | none => []
    | some (token, rest) => token :: tokensWithin fuel rest

/-- The tokens of a text. -/
def tokens (path : String) : List Token :=
  tokensWithin path.toList.length path.toList

end ConformanceSuite.JsonPath
