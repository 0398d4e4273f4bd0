import RouteManifest.Script.Blank
import RouteManifest.Script.Literal.Number
import RouteManifest.Script.Literal.Quoted
import RouteManifest.Script.Token
import RouteManifest.Text.Identifier

/-!
Lexemes: tokens together with the places they take up. `Lexeme.read` reads the next token of a text.
-/

namespace RouteManifest.Script

open Text.Identifier (isStart isPart)

structure Lexeme where
  token : Token
  /-- Where the token begins, or the fault before it. -/
  start : Place
  /-- What follows the token. -/
  rest : Place
  /-- Whether a line ends between the token before and this one. -/
  lineEnd : Bool
  /-- The place of something that can be read but that modules forbid. -/
  fault : Option Place
  deriving Inhabited

/-- Reads an identifier or keyword from its first character on. `escaped` tells whether an escape
was read. An escape stands for a character that may follow in an identifier, even if it is the
first. -/
def wordFrom (first escaped : Bool) (text : Place) : Option (List Char × Bool × Place) :=
  match text with
  | '\\' :: 'u' :: rest =>
      match _h : unicodePoint? rest with
      | none => none
      | some (point, after) =>
          let c := Char.ofNat point
          if isPart c then
            (wordFrom false true after).map fun (word, escaped, rest) => (c :: word, escaped, rest)
          else none
  | '\\' :: _ => none
  | c :: rest =>
      if (if first then isStart c else isPart c) then
        (wordFrom false escaped rest).map fun (word, escaped, rest) => (c :: word, escaped, rest)
      else some ([], escaped, text)
  | [] => some ([], escaped, [])
termination_by text.length
decreasing_by
  · have := length_lt_of_unicodePoint? _h
    simp only [List.length_cons] at this ⊢
    omega
  · simp

/-- Reads punctuation, always the longest that fits, except that `>` is never joined with what
follows. -/
def mark? : Place → Option (Mark × Place)
  | '{' :: rest => some (.openBrace, rest)
  | '}' :: rest => some (.closeBrace, rest)
  | '(' :: rest => some (.openParen, rest)
  | ')' :: rest => some (.closeParen, rest)
  | '[' :: rest => some (.openBracket, rest)
  | ']' :: rest => some (.closeBracket, rest)
  | ';' :: rest => some (.semicolon, rest)
  | ',' :: rest => some (.comma, rest)
  | ':' :: rest => some (.colon, rest)
  | '@' :: rest => some (.at, rest)
  | '`' :: rest => some (.backquote, rest)
  | '~' :: rest => some (.tilde, rest)
  | '#' :: rest => some (.hash, rest)
  | '>' :: rest => some (.greater, rest)
  | '.' :: '.' :: '.' :: rest => some (.ellipsis, rest)
  | '.' :: rest => some (.dot, rest)
  | '?' :: '?' :: '=' :: rest => some (.update, rest)
  | '?' :: '?' :: rest => some (.operator .coalesce, rest)
  | '?' :: '.' :: rest =>
      if (rest.head?.map (isDigitOf 10)).getD false then some (.question, '.' :: rest)
      else some (.optionalDot, rest)
  | '?' :: rest => some (.question, rest)
  | '=' :: '=' :: '=' :: rest => some (.operator .equality, rest)
  | '=' :: '=' :: rest => some (.operator .equality, rest)
  | '=' :: '>' :: rest => some (.arrow, rest)
  | '=' :: rest => some (.assign, rest)
  | '!' :: '=' :: '=' :: rest => some (.operator .equality, rest)
  | '!' :: '=' :: rest => some (.operator .equality, rest)
  | '!' :: rest => some (.not, rest)
  | '+' :: '+' :: rest => some (.step, rest)
  | '+' :: '=' :: rest => some (.update, rest)
  | '+' :: rest => some (.plus, rest)
  | '-' :: '-' :: rest => some (.step, rest)
  | '-' :: '=' :: rest => some (.update, rest)
  | '-' :: rest => some (.minus, rest)
  | '*' :: '*' :: '=' :: rest => some (.update, rest)
  | '*' :: '*' :: rest => some (.operator .power, rest)
  | '*' :: '=' :: rest => some (.update, rest)
  | '*' :: rest => some (.star, rest)
  | '/' :: '=' :: rest => some (.slashUpdate, rest)
  | '/' :: rest => some (.slash, rest)
  | '%' :: '=' :: rest => some (.update, rest)
  | '%' :: rest => some (.operator .product, rest)
  | '<' :: '<' :: '=' :: rest => some (.update, rest)
  | '<' :: '<' :: rest => some (.operator .shift, rest)
  | '<' :: '=' :: rest => some (.operator .relation, rest)
  | '<' :: rest => some (.less, rest)
  | '&' :: '&' :: '=' :: rest => some (.update, rest)
  | '&' :: '&' :: rest => some (.operator .logicalAnd, rest)
  | '&' :: '=' :: rest => some (.update, rest)
  | '&' :: rest => some (.ampersand, rest)
  | '|' :: '|' :: '=' :: rest => some (.update, rest)
  | '|' :: '|' :: rest => some (.operator .logicalOr, rest)
  | '|' :: '=' :: rest => some (.update, rest)
  | '|' :: rest => some (.bar, rest)
  | '^' :: '=' :: rest => some (.update, rest)
  | '^' :: rest => some (.operator .bitXor, rest)
  | _ => none

/-- Joins a `>` with what follows it, as between operands. -/
def joinGreater : Place → Mark × Place
  | '>' :: '>' :: '=' :: rest => (.update, rest)
  | '>' :: '>' :: rest => (.operator .shift, rest)
  | '>' :: '=' :: rest => (.update, rest)
  | '>' :: rest => (.operator .shift, rest)
  | '=' :: rest => (.operator .relation, rest)
  | rest => (.greater, rest)

namespace Lexeme

/-- A word as a token. Escapes are allowed in a keyword only if it begins with one, which makes it a
name. Words that only modules reserve are keywords if `strict` says so. -/
def wordToken (strict : Bool) (text : Place) (word : String) (escaped : Bool) : Token :=
  if text.head? = some '\\' then .word word true
  else if escaped && (reservedWords.contains word || (strict && isKeyword word))
    then .unreadable text
  else .word word false

/-- Reads a token that begins where the text does, the text's end apart. Gives the token, what
follows it and the place of what modules forbid. -/
def tokenAt (strict : Bool) (text : Place) : Token × Place × Option Place :=
  match text with
  | [] => (.endOfText, [], none)
  | c :: rest =>
      if c = '"' ∨ c = '\'' then
        match quotedText c rest with
        | .ok literal =>
            (.text literal.value?, literal.rest,
              literal.octal.or (if literal.unclosed then some text else none))
        | .error place => (.unreadable place, [], none)
      else if isDigitOf 10 c ∨ (c = '.' ∧ (rest.head?.map (isDigitOf 10)).getD false) then
        match number? text with
        | none => (.unreadable text, [], none)
        | some number =>
            if (number.rest.head?.map
                fun next => isStart next || isDigitOf 10 next || next = '\\').getD false then
              (.unreadable text, [], none)
            else (.number, number.rest, if number.faulty then some text else none)
      else if isStart c ∨ c = '\\' then
        match wordFrom true false text with
        | some (word, escaped, rest) =>
            (wordToken strict text (String.ofList word) escaped, rest, none)
        | none => (.unreadable text, [], none)
      else
        match mark? text with
        | some (mark, rest) => (.mark mark, rest, none)
        | none => (.unreadable text, [], none)

/-- Reads the next token. `lineEnd` tells whether the text begins on a new line, and `strict`
whether the words that only modules reserve are keywords. -/
def read (lineEnd strict : Bool) (text : Place) : Lexeme :=
  let gap := gap lineEnd none text
  let (token, rest, fault) := tokenAt strict gap.rest
  ⟨token, gap.fault.getD gap.rest, rest, gap.lineEnd, gap.fault.or fault⟩

end Lexeme

end RouteManifest.Script
