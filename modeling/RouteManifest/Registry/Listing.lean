import RouteManifest.Registry
import RouteManifest.Text.Styled
import RouteManifest.Text.Width

/-!
The listing of a registry for people: a line for each record with its path, its target and its
patterns. The paths form a column, filled up with spaces to the width of the widest.
-/

namespace RouteManifest

open Text (Styled)

def Registry.pathWidth (registry : Registry) : Nat :=
  (registry.map fun record => Text.width record.path).foldl max 0

namespace Record

/-- The spaces between the path of a record and the end of the column. -/
def padding (columns : Nat) (record : Record) : String :=
  String.ofList (List.replicate (columns - Text.width record.path) ' ')

/-- The target of a record in brackets, or nothing. -/
def targetMark (record : Record) : String :=
  match record.matchTarget with
  | some target => "[" ++ target.word ++ "] "
  | none => ""

def line (columns : Nat) (record : Record) : Styled :=
  .inColour .cyan record.path ++ .plain (record.padding columns ++ "  ") ++
    .styled { dimmed := true } record.targetMark ++
    .plain (String.intercalate ", " (record.patterns.map Pattern.display) ++ "\n")

end Record

def Registry.listing (registry : Registry) : Styled :=
  registry.flatMap (Record.line registry.pathWidth)

end RouteManifest
