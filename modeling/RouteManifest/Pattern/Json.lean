import RouteManifest.Json.Decode
import RouteManifest.Pattern

/-!
Patterns as JSON: an object whose member `kind` tells which kind of pattern it is, with the parts of
the pattern as further members. An array of the kind and the parts in order is read as well.
-/

namespace RouteManifest.Pattern

open Json (Decoder Mismatch Value)

def toJson : Pattern → Value
  | .literal text => .object [("kind", .string "literal"), ("text", .string text)]
  | .regex source flags =>
      .object [("kind", .string "regex"), ("source", .string source), ("flags", .string flags)]

inductive Kind where
  | literal
  | regex
  deriving DecidableEq, Inhabited

namespace Kind

def word : Kind → String
  | .literal => "literal"
  | .regex => "regex"

def label : Kind → String
  | .literal => "Pattern::Literal"
  | .regex => "Pattern::Regex"

def parts : Kind → List String
  | .literal => ["text"]
  | .regex => ["source", "flags"]

def all : List Kind := [.literal, .regex]

def build : Kind → List String → Option Pattern
  | .literal, [text] => some (.literal text)
  | .regex, [source, flags] => some (.regex source flags)
  | _, _ => none

def countText (count : Nat) : String :=
  toString count ++ (if count = 1 then " element" else " elements")

end Kind

def kind : Decoder Kind := do
  let name ← Decoder.text "variant identifier"
  match Kind.all.find? (·.word == name) with
  | some found => return found
  | none => Decoder.placing (Decoder.mismatch (.unknownVariant name (Kind.all.map Kind.word)))

/-- A part of a pattern, which must be a string. -/
def partText (value : Value) : Except Mismatch String :=
  match value with
  | .string text => .ok text
  | other => .error (.wrongType other "a string")

/-- The parts that stand among the members of an object, with their names. Other members do not
matter. -/
def namedParts (names : List String) (found : List (String × String)) :
    List (String × Value) → Except Mismatch (List (String × String))
  | [] => .ok found
  | (key, value) :: rest => do
      if names.contains key then
        if found.any (·.1 == key) then throw (.duplicateField key)
        let text ← partText value
        namedParts names (found ++ [(key, text)]) rest
      else namedParts names found rest

def requirePart (found : List (String × String)) (name : String) : Except Mismatch String :=
  match found.find? (·.1 == name) with
  | some (_, text) => .ok text
  | none => .error (.missingField name)

/-- The parts of a pattern from the members of an object. -/
def partsOfMembers (kind : Kind) (members : List (String × Value)) :
    Except Mismatch (List String) := do
  let found ← namedParts kind.parts [] members
  kind.parts.mapM (requirePart found)

/-- The parts of a pattern from the elements of an array. -/
def partsOfElements (kind : Kind) (elements : List Value) : Except Mismatch (List String) := do
  let expected := kind.parts.length
  let parts ← (elements.take expected).mapM partText
  if parts.length < expected then
    throw (.wrongLength parts.length
      ("struct variant " ++ kind.label ++ " with " ++ Kind.countText expected))
  if expected < elements.length then
    throw (.wrongLength elements.length (Kind.countText expected ++ " in sequence"))
  return parts

/-- What an object holds: its kind, and the members that are not the kind, last first. -/
structure Tagged where
  kind? : Option Kind := none
  members : List (String × Value) := []

def taggedMember (depth : Nat) (found : Tagged) (key : String) : Decoder Tagged := do
  if key == "kind" then
    if found.kind?.isSome then Decoder.mismatch (.duplicateField "kind")
    Decoder.colon
    return { found with kind? := some (← kind) }
  Decoder.colon
  return { found with members := (key, ← Decoder.value depth) :: found.members }

def kindAndParts : Decoder (Kind × Except Mismatch (List String)) := do
  let depth := Json.Decoder.depthLimit - 1
  match ← Decoder.peek with
  | some '{' =>
      Decoder.inObject do
        let found ← Decoder.allMembers (taggedMember depth) {}
        match found.kind? with
        | none => Decoder.mismatch (.missingField "kind")
        | some kind => return (kind, partsOfMembers kind found.members.reverse)
  | some '[' =>
      Decoder.inList do
        unless ← Decoder.nextElement true do Decoder.mismatch (.missingField "kind")
        let kind ← kind
        let rest ← Decoder.allElements (Decoder.value depth) false
        return (kind, partsOfElements kind rest)
  | _ => Decoder.wrongType "internally tagged enum Pattern"

/-- Takes a pattern. Faults in its parts show only once all of it has been read, and have no
place. -/
def decoder : Decoder Pattern := do
  let (kind, parts) ← kindAndParts
  match parts with
  | .error fault => Decoder.mismatch fault
  | .ok parts =>
      match kind.build parts with
      | some pattern => return pattern
      | none => Decoder.mismatch (.wrongLength parts.length kind.label)

def ofJson (text : String) : Except Json.Rejection Pattern := decoder.run text

end RouteManifest.Pattern
