import RouteManifest.Json.Decimal
import RouteManifest.Text.Quoted

/-!
JSON values and their two written forms: on one line without spaces, and spread over lines that are
indented by two spaces.
-/

namespace RouteManifest.Json

/-- A number, told apart by how it was written: whole and not negative, whole and negative, or with
a point, an exponent or more digits than sixty-four bits hold. -/
inductive Number where
  | natural (value : Nat)
  | negative (magnitude : Nat)
  | binary (value : Float)
  deriving Inhabited

def Number.text : Number → String
  | .natural value => toString value
  | .negative magnitude => "-" ++ toString magnitude
  | .binary value => Decimal.render value

/-- A JSON value. The members of an object keep their order and may repeat. -/
inductive Value where
  | null
  | bool (value : Bool)
  | number (value : Number)
  | string (text : String)
  | array (elements : List Value)
  | object (members : List (String × Value))
  deriving Inhabited

namespace Value

def boolText (value : Bool) : String := if value then "true" else "false"

mutual

def compact : Value → String
  | .null => "null"
  | .bool value => boolText value
  | .number value => value.text
  | .string text => Text.quote text
  | .array elements => "[" ++ String.intercalate "," (compactAll elements) ++ "]"
  | .object members => "\x7b" ++ String.intercalate "," (compactMembers members) ++ "\x7d"

def compactAll : List Value → List String
  | [] => []
  | value :: rest => value.compact :: compactAll rest

def compactMembers : List (String × Value) → List String
  | [] => []
  | (key, value) :: rest => (Text.quote key ++ ":" ++ value.compact) :: compactMembers rest

end

/-- The line end and the indentation before an item. -/
def newLine (depth : Nat) : String := "\n" ++ String.ofList (List.replicate (2 * depth) ' ')

/-- Items between two brackets, each on a line of its own. Nothing stands between the brackets of an
empty list. -/
def block (opening closing : String) (depth : Nat) (items : List String) : String :=
  if items.isEmpty then opening ++ closing
  else
    opening ++ String.intercalate "," (items.map (newLine (depth + 1) ++ ·)) ++
      newLine depth ++ closing

mutual

def pretty (depth : Nat) : Value → String
  | .null => "null"
  | .bool value => boolText value
  | .number value => value.text
  | .string text => Text.quote text
  | .array elements => block "[" "]" depth (prettyAll (depth + 1) elements)
  | .object members => block "\x7b" "\x7d" depth (prettyMembers (depth + 1) members)

/-- Each element, without the line end before it. -/
def prettyAll (depth : Nat) : List Value → List String
  | [] => []
  | value :: rest => value.pretty depth :: prettyAll depth rest

/-- Each member, without the line end before it. -/
def prettyMembers (depth : Nat) : List (String × Value) → List String
  | [] => []
  | (key, value) :: rest =>
      (Text.quote key ++ ": " ++ value.pretty depth) :: prettyMembers depth rest

end

end Value

end RouteManifest.Json
