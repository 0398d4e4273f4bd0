import RouteManifest.MatchTarget
import RouteManifest.Pattern

/-!
The registry: one record for each routable file, in the order in which the files were found.
-/

namespace RouteManifest

/-- A routable file and the patterns it declares. -/
structure Record where
  /-- The patterns in the order of their declaration. -/
  patterns : List Pattern
  /-- Where the file lies under the project root, with `/` in front. -/
  path : String
  matchTarget : Option MatchTarget := none
  deriving DecidableEq, Inhabited

/-- Records are kept as found: never merged, sorted or dropped. -/
abbrev Registry := List Record

end RouteManifest
