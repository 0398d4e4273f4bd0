import RouteManifest.FileSystem

/-!
Why a scan stops. Nothing is retried or left out: the first fault ends the whole scan.
-/

namespace RouteManifest.Scan

/-- What is in the way of reading a file or a directory. -/
inductive Obstacle where
  /-- It cannot be found or opened, or holds no text. -/
  | reading (reason : FileSystem.Fault)
  /-- It is a directory, and what it holds cannot be listed. -/
  | listing (reason : FileSystem.Fault)
  deriving DecidableEq, Inhabited

/-- What ends a scan. -/
inductive Fault where
  | unreadable (path : Path) (obstacle : Obstacle)
  /-- A directory to scan is something else. -/
  | notDirectory (path : Path)
  /-- The script in a file is ill-formed. The line is that of the first offending word. -/
  | malformed (path : Path) (line : Nat)
  deriving DecidableEq, Inhabited

def listingComplaint (path : Path) (reason : FileSystem.Fault) : String :=
  "IO error for operation on " ++ path.text ++ ": " ++ reason.message

def Fault.reason? : Fault → Option String
  | .unreadable _ (.reading reason) => some reason.message
  | .unreadable path (.listing reason) =>
      some (listingComplaint path reason ++ ": " ++ reason.message)
  | .notDirectory _ => some "not a directory"
  | .malformed _ _ => none

/-- The sentence shown for a fault. `complaint` is what is said about an ill-formed script. -/
def Fault.message (complaint : String) : Fault → String
  | .unreadable path (.reading reason) => "Failed to read " ++ path.text ++ ": " ++ reason.message
  | .unreadable path (.listing reason) =>
      "Failed to list directory: " ++ listingComplaint path reason
  | .notDirectory path => "Failed to read " ++ path.text ++ ": not a directory"
  | .malformed path line =>
      "Failed to parse " ++ path.text ++ ":" ++ toString line ++ ": " ++ complaint

end RouteManifest.Scan
