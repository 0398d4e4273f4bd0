/-!
Match patterns: the strings and regular expressions a routable file declares. A router tests
incoming paths or route names against them. A regular expression is kept as it was written, body and
flags apart.
-/

namespace RouteManifest

inductive Pattern where
  | literal (text : String)
  | regex (source flags : String)
  deriving DecidableEq, Inhabited

/-- How a listing shows a pattern: text between double quotes, a regular expression between slashes,
neither of them escaped. -/
def Pattern.display : Pattern → String
  | .literal text => "\"" ++ text ++ "\""
  | .regex source flags => "/" ++ source ++ "/" ++ flags

namespace RegexFlags

def known : List Char := ['d', 'g', 'i', 'm', 's', 'u', 'v', 'y']

/-- Reads the flags from left to right; `seen` holds those already read. -/
def acceptsFrom (seen : List Char) : List Char → Bool
  | [] => !(seen.contains 'u' && seen.contains 'v')
  | flag :: rest => known.contains flag && !seen.contains flag && acceptsFrom (flag :: seen) rest

/-- Only known flags, each at most once, and never `u` together with `v`. -/
def accepts (flags : String) : Bool := acceptsFrom [] flags.toList

end RegexFlags

end RouteManifest
