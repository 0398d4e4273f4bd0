import RouteManifest.Config
import RouteManifest.Path
import RouteManifest.Registry.Json
import RouteManifest.Registry.Listing
import RouteManifest.Text.Visible
import RouteManifest.Diagnostic

/-!
Reports: what a finished command tells its user. The result itself goes to the standard output;
complaints and remarks go beside it, so that a result can be passed on.
-/

namespace RouteManifest

open Text (Styled)

inductive Summary where
  /-- A manifest, and the file it was written to if there is one. -/
  | generated (manifest : String) (output : Option Path) (entries : Nat)
  | listed (registry : Registry) (asJson : Bool)
  /-- A module's name and what it leads to. -/
  | resolved (id : String) (target : Option String)
  | initialised (created : Bool)
  deriving Inhabited

structure Report where
  summary : Summary
  /-- Where the project lies. -/
  root : Path := ⟨"."⟩
  diagnostics : List Diagnostic := []
  /-- The files whose declarations yield no pattern. -/
  empty : List String := []
  /-- How many files were read. -/
  scanned : Nat := 0
  deriving Inhabited

namespace Report

def successMark : String := "✓"

def failureMark : String := "✘"

def counted (count : Nat) (one many : String) : String :=
  toString count ++ " " ++ if count = 1 then one else many

/-- A remark that ends a success. -/
def success (text : String) : Styled :=
  .inColour .green successMark ++ .plain " " ++ .inColour .green text ++ .plain "\n"

/-- A line that begins with a warning. -/
def warning (text : String) : Styled := .inBold .yellow "warning:" ++ .plain (" " ++ text ++ "\n")

/-! ### Malformed declarations -/

def complaint (root : Path) (diagnostic : Diagnostic) : Styled :=
  .inBold .red "error" ++
    .plain (": malformed " ++ diagnostic.site.describe ++ ": " ++ diagnostic.reason.message ++
      "\n  ") ++
    .inColour .blue "-->" ++
    .plain (" " ++ String.ofList
      ((Path.route root ⟨diagnostic.file⟩).toList.dropWhile (· == '/')) ++ ":" ++
      toString diagnostic.line ++ "\n")

/-- How many declarations were skipped, if any were. -/
def skipped : Nat → Styled
  | 0 => []
  | count =>
      .inColour .red failureMark ++
        .plain (" " ++ counted count "malformed declaration" "malformed declarations" ++
          " skipped\n")

def complaints (root : Path) (diagnostics : List Diagnostic) : Styled :=
  diagnostics.flatMap (complaint root) ++ skipped diagnostics.length

/-- The files whose declarations yield no pattern. -/
def emptyDeclarations (paths : List String) : Styled :=
  paths.flatMap fun path =>
    warning (path ++ " declares routable targets but no string or regex patterns were found")

/-! ### The two outputs -/

def output (report : Report) : Styled :=
  match report.summary with
  | .generated manifest none _ => .plain (manifest ++ "\n")
  | .generated _ (some _) _ => []
  | .listed registry true => .plain (registry.toJson.pretty 0 ++ "\n")
  | .listed registry false => registry.listing
  | .resolved _ (some target) => .plain (Text.escaped target ++ "\n")
  | .resolved _ none => []
  | .initialised true => success ("Created " ++ Config.fileName)
  | .initialised false => []

/-- What a command says about its result. -/
def remark (report : Report) : Styled :=
  let files := counted report.scanned "scanned file" "scanned files"
  match report.summary with
  | .generated _ none _ => []
  | .generated _ (some path) entries =>
      success ("Wrote " ++ path.text ++ " (" ++ counted entries "entry" "entries" ++ " from " ++
        files ++ ")")
  | .listed _ true => []
  | .listed registry false =>
      success ("Found " ++ counted registry.length "routable file" "routable files" ++
        " in " ++ files)
  | .resolved _ (some _) => []
  | .resolved id none => warning ("\"" ++ id ++ "\" is not the routable manifest module")
  | .initialised true => []
  | .initialised false => .inBold .red "error:" ++
      .plain (" " ++ Config.fileName ++ " already exists\n")

/-- Everything that is said beside the result. Empty declarations are named on demand. -/
def remarks (report : Report) (verbose : Bool) : Styled :=
  complaints report.root report.diagnostics ++
    (if verbose then emptyDeclarations report.empty else []) ++
    report.remark

/-! ### The exit status -/

/-- Whether a command did what it was asked for. -/
def Summary.isSuccess : Summary → Bool
  | .generated .. | .listed .. => true
  | .resolved _ target => target.isSome
  | .initialised created => created

/-- The exit status of a finished command: 0, or 1 if it has something to complain about. -/
def exitStatus (report : Report) : Nat :=
  if Summary.isSuccess report.summary && report.diagnostics.isEmpty then 0 else 1

end Report

end RouteManifest
