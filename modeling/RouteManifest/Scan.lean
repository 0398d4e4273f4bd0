import RouteManifest.Extraction
import RouteManifest.Registry
import RouteManifest.Scan.Candidates

/-!
Scans: the registry of a project, built from the candidates below its directories. The files are
read in the order in which they were found, and what a file declares is added to what the files
before it declared.
-/

namespace RouteManifest

/-- Finds the declarations in a file, given its text and the path it was read by. Where it fails,
the scan ends. -/
structure Parser where
  declarations (text file : String) : Except Scan.Fault (List Declaration)

/-- Reads the declarations in the text of a script, or names the line at which the text is
ill-formed. -/
abbrev DeclarationReader := String → Except Nat (List Declaration)

/-- A reader of texts, as a parser. The line goes with the file. -/
def DeclarationReader.toParser (read : DeclarationReader) : Parser where
  declarations text file := (read text).mapError (.malformed ⟨file⟩)

instance : Coe DeclarationReader Parser := ⟨DeclarationReader.toParser⟩

namespace Scan

structure Outcome where
  registry : Registry := []
  diagnostics : List Diagnostic := []
  scanned : Nat := 0
  /-- The files, by their paths in a manifest, whose declarations yield no pattern. -/
  empty : List String := []
  deriving DecidableEq, Inhabited

/-- Adds a file, by its path in the manifest: a record if it declares patterns, otherwise its path
if it declares anything. -/
def Outcome.add (soFar : Outcome) (path : String) (found : Extraction) : Outcome :=
  let counted := { soFar with
    diagnostics := soFar.diagnostics ++ found.diagnostics
    scanned := soFar.scanned + 1 }
  if found.patterns.isEmpty then
    if found.siteCount = 0 then counted else { counted with empty := counted.empty ++ [path] }
  else { counted with registry := counted.registry ++ [⟨found.patterns, path, found.matchTarget⟩] }

def extract (read : Parser) (files : FileSystem) (path : Path) : Except Fault Extraction :=
  match files.readText path.text with
  | .error reason => .error (.unreadable path (.reading reason))
  | .ok text => (read.declarations text path.text).map (.ofDeclarations path.text)

def step (read : Parser) (files : FileSystem) (root : Path) (soFar : Outcome) (path : Path) :
    Except Fault Outcome :=
  (extract read files path).map (soFar.add (Path.route root path))

/-- Scans directories of the project at `root`. All of them are searched before any file is read. -/
def run (read : Parser) (files : FileSystem) (root : Path) (directories : List String)
    (race : Race := .inOrder) : Except Fault Outcome := do
  (← candidatesOfAll files root directories race).foldlM (step read files root) {}

end Scan

end RouteManifest
