/-!
Diagnostics: malformed declarations, told to the user without stopping a scan.
-/

namespace RouteManifest

/-- The two shapes a routable declaration can take. -/
inductive SiteKind where
  /-- An exported variable named `ROUTABLE_TARGETS`. -/
  | namedExport
  /-- A `@Routable(...)` decorator on a class declaration. -/
  | decorator
  deriving DecidableEq, Inhabited

def SiteKind.describe : SiteKind → String
  | .namedExport => "ROUTABLE_TARGETS export"
  | .decorator => "@Routable decorator"

inductive Malformation where
  /-- An object configuration without a `match` property. -/
  | missingMatch
  /-- A `matchTarget` that is not a string literal. -/
  | nonStringMatchTarget
  /-- A `matchTarget` that names no target. -/
  | unknownMatchTarget (value : String)
  /-- A regular expression whose flags no engine accepts. -/
  | invalidRegexFlags (flags : String)
  deriving DecidableEq, Inhabited

def Malformation.message : Malformation → String
  | .missingMatch => "object configuration is missing the `match` property"
  | .nonStringMatchTarget => "`matchTarget` must be a string literal"
  | .unknownMatchTarget value =>
      "invalid `matchTarget` \"" ++ value ++ "\" (expected \"name\", \"name-chain\" or \"path\")"
  | .invalidRegexFlags flags => "invalid regular expression flags \"" ++ flags ++ "\""

/-- A malformed declaration and where it stands. Lines count from 1. -/
structure Diagnostic where
  file : String
  line : Nat
  site : SiteKind
  reason : Malformation
  deriving DecidableEq, Inhabited

/-- A diagnostic on one line, with its place at the end. -/
def Diagnostic.display (diagnostic : Diagnostic) : String :=
  "malformed " ++ diagnostic.site.describe ++ ": " ++ diagnostic.reason.message ++
    " (" ++ diagnostic.file ++ ":" ++ toString diagnostic.line ++ ")"

end RouteManifest
