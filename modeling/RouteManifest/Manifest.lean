import RouteManifest.Manifest.RegexBody
import RouteManifest.Registry
import RouteManifest.Text.Quoted

/-!
The manifest: the registry as a script module. It exports one array with an entry for each record,
and an entry holds the record's patterns and a function that loads its file. Every entry takes one
line.
-/

namespace RouteManifest.Manifest

/-- The name under which the manifest exports its entries. -/
def exportName : String := "RoutableRegistry"

def pattern : Pattern → String
  | .literal text => Text.quote text
  | .regex source flags => "/" ++ regexSource source ++ "/" ++ flags

def entry (record : Record) : String :=
  "\x7b match: [" ++ String.intercalate ", " (record.patterns.map pattern) ++
    "], loader: () => import(" ++ Text.quote record.path ++ ") \x7d"

/-- The module's whole text, without a line end after it. -/
def render (registry : Registry) : String :=
  "export const " ++ exportName ++ " = [\n" ++
    String.intercalate ",\n" (registry.map entry) ++ "\n];"

end RouteManifest.Manifest
