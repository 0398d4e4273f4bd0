import RouteManifest.Json.Decode
import RouteManifest.MatchTarget

/-!
Match targets as JSON: a string with the target's word. An object with that word as its only key and
`null` as its value is read as well.
-/

namespace RouteManifest.MatchTarget

open Json (Decoder Value)

def toJson (target : MatchTarget) : Value := .string target.word

def named : Decoder MatchTarget := do
  let name ← Decoder.text "variant identifier"
  match ofWord? name with
  | some target => return target
  | none => Decoder.placing (Decoder.mismatch (.unknownVariant name (all.map word)))

def null : Decoder Unit := do
  match ← Decoder.peek with
  | some 'n' => do
      Decoder.skip
      Decoder.word ['u', 'l', 'l']
  | none => Decoder.failNext (.unfinished .value)
  | some _ => Decoder.wrongType "unit"

def namedKey : Decoder MatchTarget := do
  match ← Decoder.peek with
  | some '"' => named
  | some _ => Decoder.failNext (.malformed .keyNotString)
  | none => Decoder.failNext (.unfinished .object)

def decoder : Decoder MatchTarget := do
  match ← Decoder.peek with
  | some '"' => named
  | some '{' => do
      Decoder.skip
      let target ← namedKey
      Decoder.colon
      null
      match ← Decoder.peek with
      | some '}' => Decoder.skip; return target
      | some _ => Decoder.failHere (.malformed .expectedValue)
      | none => Decoder.failHere (.unfinished .object)
  | some _ => Decoder.failNext (.malformed .expectedValue)
  | none => Decoder.failNext (.unfinished .value)

def ofJson (text : String) : Except Json.Rejection MatchTarget := decoder.run text

end RouteManifest.MatchTarget
