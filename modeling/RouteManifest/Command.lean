import RouteManifest.Path

/-!
Commands: what a user can ask for.
-/

namespace RouteManifest

/-- Which project to scan, and how. -/
structure ScanOptions where
  /-- Where the project lies; the current directory if this is not given. -/
  root : Option Path := none
  /-- The directories to scan in place of the configured ones, if there are any. -/
  paths : List String := []
  verbose : Bool := false
  deriving DecidableEq, Inhabited

inductive Command where
  /-- Write the manifest of a project, to a file if one is given. -/
  | generate (scan : ScanOptions) (output : Option Path)
  /-- List the registry of a project. -/
  | list (scan : ScanOptions) (asJson : Bool)
  /-- Tell what a module's name leads to. -/
  | resolve (id : String)
  | init
  deriving DecidableEq, Inhabited

/-- Whether a command asks for every remark. -/
def Command.verbose : Command → Bool
  | .generate scan _ | .list scan _ => scan.verbose
  | .resolve _ | .init => false

end RouteManifest
