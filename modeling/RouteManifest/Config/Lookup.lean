import RouteManifest.Config
import RouteManifest.FileSystem
import RouteManifest.Text.Visible

/-!
The configuration of a project: the file that holds it is looked for in the directory of the project
and then in those above it, up to the first that holds a repository.
-/

namespace RouteManifest.Config

/-- The name that marks the directory of a repository. -/
def repositoryName : String := ".git"

/-- The first configuration file in a list of directories. A directory that marks a repository is
the last to be looked at. -/
def findIn? (files : FileSystem) : List Path → Option Path
  | [] => none
  | directory :: above =>
      let path := directory.join fileName
      if files.exists? path.text then some path
      else if files.exists? (directory.join repositoryName).text then none
      else findIn? files above

/-- The configuration file of the project in a directory. -/
def find? (files : FileSystem) (start : Path) : Option Path := findIn? files start.ancestors

inductive LoadFault where
  | unreadable (path : Path) (reason : FileSystem.Fault)
  | malformed (path : Path) (rejection : Json.Rejection)
  | invalid (fault : Fault)

def LoadFault.message : LoadFault → String
  | .unreadable path reason =>
      "Failed to read config file: " ++ Text.visiblePath path.text ++ ": " ++ reason.message
  | .malformed path rejection =>
      "Failed to parse config file: " ++ Text.visiblePath path.text ++ ": " ++ rejection.message
  | .invalid fault => fault.message

structure Loaded where
  config : Config := {}
  fromFile : Bool := false
  deriving DecidableEq, Inhabited

def loadFile (files : FileSystem) (path : Path) : Except LoadFault Config :=
  match files.readText path.text with
  | .error reason => .error (.unreadable path reason)
  | .ok text =>
      match ofJson text with
      | .error rejection => .error (.malformed path rejection)
      | .ok config =>
          match config.fault? with
          | some fault => .error (.invalid fault)
          | none => .ok config

/-- The configuration of the project in a directory: that of its file, or the default one if there
is none. -/
def load (files : FileSystem) (start : Path) : Except LoadFault Loaded :=
  match find? files start with
  | some path => (loadFile files path).map ({ config := ·, fromFile := true })
  | none => .ok {}

end RouteManifest.Config
