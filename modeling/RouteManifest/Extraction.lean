import RouteManifest.Declaration

/-!
What one file contributes: the declarations found in it, merged. A malformed declaration becomes a
diagnostic and leaves the others alone.
-/

namespace RouteManifest

structure Extraction where
  /-- The patterns of every well-formed declaration, in the order the declarations were found. -/
  patterns : List Pattern := []
  /-- The target of the first well-formed declaration that has one. -/
  matchTarget : Option MatchTarget := none
  /-- One entry for each malformed declaration. -/
  diagnostics : List Diagnostic := []
  /-- How many declarations were found, well-formed or not. -/
  siteCount : Nat := 0
  deriving DecidableEq, Inhabited

namespace Extraction

/-- Adds one declaration of `file` to what was taken from it so far. -/
def add (file : String) (soFar : Extraction) (site : Declaration) : Extraction :=
  match site.value.contribution with
  | .ok found =>
      { soFar with
        patterns := soFar.patterns ++ found.patterns
        matchTarget := soFar.matchTarget.or found.matchTarget
        siteCount := soFar.siteCount + 1 }
  | .error reason =>
      { soFar with
        diagnostics := soFar.diagnostics ++ [⟨file, site.line, site.kind, reason⟩]
        siteCount := soFar.siteCount + 1 }

def ofDeclarations (file : String) (sites : List Declaration) : Extraction :=
  sites.foldl (add file) {}

end Extraction

end RouteManifest
