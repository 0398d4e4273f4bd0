/-!
The body of a regular expression between slashes. A body may come from anywhere, so a slash that
would end the literal early is escaped, line ends are written as escapes, and an empty body, which
would start a comment, becomes an empty group.
-/

namespace RouteManifest.RegexBody

/-- Characters that cannot stand in every place between two slashes. -/
def isSpecial (c : Char) : Bool :=
  c == '/' || c == '\n' || c == '\r' || c == '\u2028' || c == '\u2029'

/-- The escape of a line end, without its backslash. -/
def lineEndEscape? (c : Char) : Option (List Char) :=
  if c = '\n' then some ['n']
  else if c = '\r' then some ['r']
  else if c = '\u2028' then some ['u', '2', '0', '2', '8']
  else if c = '\u2029' then some ['u', '2', '0', '2', '9']
  else none

/-- How far reading a body from the left has come. -/
structure Scan where
  inClass : Bool := false
  /-- The previous character is a backslash that escapes this one. -/
  escaped : Bool := false
  deriving DecidableEq

def Scan.next (scan : Scan) (c : Char) : Scan :=
  if scan.escaped then { scan with escaped := false }
  else if c = '\\' then { scan with escaped := true }
  else if c = '[' then { scan with inClass := true }
  else if c = ']' then { scan with inClass := false }
  else scan

def Scan.write (scan : Scan) (c : Char) : List Char :=
  match lineEndEscape? c with
  | some escape => if scan.escaped then escape else '\\' :: escape
  | none => if c = '/' ∧ !scan.escaped ∧ !scan.inClass then ['\\', '/'] else [c]

def writeFrom (scan : Scan) : List Char → List Char
  | [] => []
  | c :: rest => scan.write c ++ writeFrom (scan.next c) rest

end RouteManifest.RegexBody

namespace RouteManifest

/-- A body that can stand between slashes and that means the same. One without special characters is
kept as it is. -/
def regexSource (source : String) : String :=
  if source.isEmpty then "(?:)"
  else if source.toList.any RegexBody.isSpecial then
    String.ofList (RegexBody.writeFrom {} source.toList)
  else source

end RouteManifest
