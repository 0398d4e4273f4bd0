import RouteManifest.Json.Value
import RouteManifest.Text.Visible

/-!
What can be wrong with a JSON text: it ends too soon, it breaks a rule of the notation, or its
values are not those that were asked for.
-/

namespace RouteManifest.Json

/-- What a text ends in the middle of. -/
inductive Part where
  | value
  | list
  | object
  | string
  deriving DecidableEq, Inhabited

/-- A broken rule of the notation. -/
inductive Malformed where
  | expectedColon
  | expectedListEnd
  | expectedObjectEnd
  /-- A word other than `null`, `true` and `false`. -/
  | expectedWord
  | expectedValue
  | invalidEscape
  | invalidNumber
  | numberOutOfRange
  | controlCharacter
  | keyNotString
  /-- Half of a surrogate pair with something else after it. -/
  | loneHalf
  /-- Half of a surrogate pair without an escape after it. -/
  | brokenHalf
  | trailingComma
  | trailingCharacters
  | tooDeep
  deriving DecidableEq, Inhabited

/-- A value that is not what was asked for. -/
inductive Mismatch where
  | wrongType (found : Value) (expected : String)
  | wrongLength (count : Nat) (expected : String)
  | unknownField (name : String) (known : List String)
  | unknownVariant (name : String) (known : List String)
  | missingField (name : String)
  | duplicateField (name : String)
  deriving Inhabited

inductive Cause where
  | unfinished (part : Part)
  | malformed (rule : Malformed)
  | mismatch (mismatch : Mismatch)
  deriving Inhabited

def Part.message : Part → String
  | .value => "EOF while parsing a value"
  | .list => "EOF while parsing a list"
  | .object => "EOF while parsing an object"
  | .string => "EOF while parsing a string"

def Malformed.message : Malformed → String
  | .expectedColon => "expected `:`"
  | .expectedListEnd => "expected `,` or `]`"
  | .expectedObjectEnd => "expected `,` or `\x7d`"
  | .expectedWord => "expected ident"
  | .expectedValue => "expected value"
  | .invalidEscape => "invalid escape"
  | .invalidNumber => "invalid number"
  | .numberOutOfRange => "number out of range"
  | .controlCharacter => "control character (\\u0000-\\u001F) found while parsing a string"
  | .keyNotString => "key must be a string"
  | .loneHalf => "lone leading surrogate in hex escape"
  | .brokenHalf => "unexpected end of hex escape"
  | .trailingComma => "trailing comma"
  | .trailingCharacters => "trailing characters"
  | .tooDeep => "recursion limit exceeded"

def Value.describe : Value → String
  | .null => "null"
  | .bool value => "boolean `" ++ boolText value ++ "`"
  | .number (.binary value) => "floating point `" ++ Decimal.render value ++ "`"
  | .number value => "integer `" ++ value.text ++ "`"
  | .string text => "string " ++ Text.visible text
  | .array _ => "sequence"
  | .object _ => "map"

def choices : List String → String
  | [] => ""
  | [one] => "`" ++ one ++ "`"
  | [one, other] => "`" ++ one ++ "` or `" ++ other ++ "`"
  | names => "one of " ++ String.intercalate ", " (names.map fun name => "`" ++ name ++ "`")

def Mismatch.message : Mismatch → String
  | .wrongType found expected => "invalid type: " ++ found.describe ++ ", expected " ++ expected
  | .wrongLength count expected => "invalid length " ++ toString count ++ ", expected " ++ expected
  | .unknownField name known => "unknown field `" ++ name ++ "`, expected " ++ choices known
  | .unknownVariant name known => "unknown variant `" ++ name ++ "`, expected " ++ choices known
  | .missingField name => "missing field `" ++ name ++ "`"
  | .duplicateField name => "duplicate field `" ++ name ++ "`"

def Cause.message : Cause → String
  | .unfinished part => part.message
  | .malformed rule => rule.message
  | .mismatch value => value.message

/-- A place in a text: lines count from 1, columns count the bytes before the place in its line. -/
structure Position where
  line : Nat
  column : Nat
  deriving DecidableEq, Inhabited

/-- The position that lies `count` bytes further on, as far as the text reaches. -/
def Position.advance (position : Position) : Nat → List Char → Position
  | _, [] => position
  | count, c :: rest =>
      if count = 0 then position
      else if c = '\n' then advance ⟨position.line + 1, 0⟩ (count - 1) rest
      else advance ⟨position.line, position.column + min count c.utf8Size⟩ (count - c.utf8Size) rest

/-- Why and where a text was rejected. Some faults show only in the values, which have no place. -/
structure Rejection where
  cause : Cause
  position : Option Position
  deriving Inhabited

def Rejection.message (rejection : Rejection) : String :=
  rejection.cause.message ++
    match rejection.position with
    | none => ""
    | some position => " at line " ++ toString position.line ++ " column " ++
        toString position.column

end RouteManifest.Json
