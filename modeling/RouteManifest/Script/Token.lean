import RouteManifest.Script.Place

/-!
Tokens, the words of a script. What looks the same at first sight is told apart where it is used: a
slash may begin a regular expression, and signs that begin with `>` are joined only between
operands, because types use them as brackets.
-/

namespace RouteManifest.Script

/-- How tightly the operators between two operands bind, from the loosest. -/
inductive Level where
  | coalesce
  | logicalOr
  | logicalAnd
  | bitOr
  | bitXor
  | bitAnd
  | equality
  | relation
  | shift
  | sum
  | product
  | power
  deriving DecidableEq, Inhabited

/-- The place of a level in that order. The first two bind alike, and their rank is 1. -/
def Level.rank : Level → Nat
  | .coalesce | .logicalOr => 1
  | .logicalAnd => 2
  | .bitOr => 3
  | .bitXor => 4
  | .bitAnd => 5
  | .equality => 6
  | .relation => 7
  | .shift => 8
  | .sum => 9
  | .product => 10
  | .power => 11

inductive Mark where
  | openBrace
  | closeBrace
  | openParen
  | closeParen
  | openBracket
  | closeBracket
  | dot
  /-- `?.` -/
  | optionalDot
  /-- `...` -/
  | ellipsis
  | semicolon
  | comma
  | colon
  | question
  /-- `=>` -/
  | arrow
  | at
  /-- `=` -/
  | assign
  /-- `+=` and its like, except `/=`. -/
  | update
  /-- `/=` -/
  | slashUpdate
  | slash
  | less
  | greater
  | plus
  | minus
  | star
  | bar
  | ampersand
  | not
  | tilde
  /-- `++` and `--` -/
  | step
  /-- An operator that has no other use. -/
  | operator (level : Level)
  /-- The quote around a template. -/
  | backquote
  /-- `#`, before a private name. -/
  | hash
  deriving DecidableEq, Inhabited

inductive Token where
  /-- An identifier or keyword, with its escapes decoded. One that begins with an escape is never a
  keyword. -/
  | word (text : String) (escaped : Bool)
  /-- A string literal; `none` if it holds half of a surrogate pair. -/
  | text (value : Option String)
  | number
  | mark (mark : Mark)
  | endOfText
  /-- Characters that form no token, and the place to blame. -/
  | unreadable (place : Place)
  deriving DecidableEq, Inhabited

def reservedWords : List String :=
  ["break", "case", "catch", "class", "const", "continue", "debugger", "default", "delete", "do",
    "else", "enum", "export", "extends", "false", "finally", "for", "function", "if", "import",
    "in", "instanceof", "new", "null", "return", "super", "switch", "this", "throw", "true", "try",
    "typeof", "var", "void", "while", "with"]

/-- Words that are no identifiers in a module, although the grammar reads them as such. -/
def strictWords : List String :=
  ["implements", "interface", "let", "package", "private", "protected", "public", "static", "yield"]

def isKeyword (text : String) : Bool :=
  reservedWords.contains text || strictWords.contains text || text == "await"

/-- Whether a word always means the same, so that nothing may be assigned to it. -/
def isFixed (text : String) : Bool := text == "eval" || text == "arguments"

namespace Token

/-- Whether the grammar reads a token as an identifier, though modules may forbid it. -/
def isIdentifier : Token → Bool
  | .word name escaped => escaped || !reservedWords.contains name
  | _ => false

def isReference : Token → Bool
  | .word name escaped => escaped || !isKeyword name
  | _ => false

def isWord : Token → Bool
  | .word _ _ => true
  | _ => false

end Token

end RouteManifest.Script
