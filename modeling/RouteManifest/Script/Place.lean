/-!
Places in a script. A place is given by the characters that follow it, and lines are counted only
where a line number is asked for.
-/

namespace RouteManifest.Script

/-- A script's characters from some place to its end. -/
abbrev Place := List Char

def isLineEnd (c : Char) : Bool :=
  c == '\n' || c == '\r' || c == '\u2028' || c == '\u2029'

/-- How many lines end among the first `count` characters. A carriage return and the line feed after
it end one line together, and the two separators beyond ASCII end none. -/
def lineEnds : Nat → List Char → Nat
  | count + 1, '\r' :: '\n' :: rest => lineEnds count ('\n' :: rest)
  | count + 1, c :: rest => lineEnds count rest + (if c = '\n' ∨ c = '\r' then 1 else 0)
  | _, _ => 0

/-- The line of a place in `text`. The first line is line 1. -/
def lineAt (text : List Char) (place : Place) : Nat :=
  lineEnds (text.length - place.length) text + 1

/-- The line that holds the last character of a text. -/
def lastLine (text : List Char) : Nat :=
  match text.getLast? with
  | some '\n' | some '\r' => lineEnds text.length text
  | _ => lineEnds text.length text + 1

end RouteManifest.Script
