import RouteManifest.FileSystem.Tree
import RouteManifest.Path

/-!
The file system as a program sees it: a tree of entries and a current directory. Paths are followed
step by step, and links are followed on the way, at most forty of them. Every operation answers with
the state it leaves or with the fault that stopped it.
-/

namespace RouteManifest

/-- A file system and the directory from which relative paths start. -/
structure FileSystem where
  entries : Entries := []
  /-- Where the current directory lies. No name on the way to it is a link. -/
  current : Location := []
  /-- The directories that may not be listed. The way through them is open all the same. -/
  closed : List Location := []
  /-- No directory holds a name twice. -/
  distinct : Entries.Distinct entries := by trivial

namespace FileSystem

instance : Inhabited FileSystem := ⟨{}⟩

inductive Fault where
  | notFound
  | notDirectory
  | isDirectory
  | alreadyExists
  | tooManyLinks
  | nameTooLong
  /-- A path that holds the character that ends paths. -/
  | nulInPath
  | invalidText
  | denied
  deriving DecidableEq, Inhabited

def Fault.message : Fault → String
  | .notFound => "No such file or directory (os error 2)"
  | .notDirectory => "Not a directory (os error 20)"
  | .isDirectory => "Is a directory (os error 21)"
  | .alreadyExists => "File exists (os error 17)"
  | .tooManyLinks => "Too many levels of symbolic links (os error 40)"
  | .nameTooLong => "File name too long (os error 36)"
  | .nulInPath => "file name contained an unexpected NUL byte"
  | .invalidText => "stream did not contain valid UTF-8"
  | .denied => "Permission denied (os error 13)"

/-! ### Following paths -/

def linkLimit : Nat := 40

/-- How many bytes a name may take. -/
def nameLimit : Nat := 255

/-- How many bytes a path may take. -/
def pathLimit : Nat := 4095

inductive Step where
  /-- Stay where one is, which has to be a directory. -/
  | stay
  /-- Go to the directory above. -/
  | up
  | into (name : FileName)
  deriving DecidableEq

/-- What lies between two slashes as a step. Nothing at all is no step. -/
def Step.ofPiece? (piece : List Char) : Option Step :=
  if piece = ['.'] then some .stay
  else if piece = ['.', '.'] then some .up
  else (FileName.ofText? (String.ofList piece)).map .into

def endsInSlash (path : String) : Bool := path.toList.getLast? == some '/'

/-- The steps of a path. A slash at the end asks for a directory. -/
def steps (path : String) : List Step :=
  (Path.pieces path.toList).filterMap Step.ofPiece? ++ if endsInSlash path then [.stay] else []

inductive Target where
  | found (location : Location) (entry : Entry)
  /-- To a name that an existing directory does not hold. -/
  | missing (directory : Location) (name : FileName)

/-- Takes steps from a directory. `follow` tells whether a link at the very end is followed, and
`onLink` goes on from a directory with the target of a link and the steps after it. -/
def walkWith (entries : Entries) (follow : Bool)
    (onLink : Location → String → List Step → Except Fault Target) (place : Location) :
    List Step → Except Fault Target
  | [] =>
      match entries.at? place with
      | some entry => .ok (.found place entry)
      | none => .error .notFound
  | .stay :: rest => walkWith entries follow onLink place rest
  | .up :: rest => walkWith entries follow onLink place.dropLast rest
  | .into name :: rest =>
      if nameLimit < name.text.utf8ByteSize then .error .nameTooLong
      else
        match entries.at? (place ++ [name]) with
        | none => if rest.isEmpty then .ok (.missing place name) else .error .notFound
        | some (.directory _) => walkWith entries follow onLink (place ++ [name]) rest
        | some (.file content) =>
            if rest.isEmpty then .ok (.found (place ++ [name]) (.file content))
            else .error .notDirectory
        | some (.link target) =>
            if rest.isEmpty && !follow then .ok (.found (place ++ [name]) (.link target))
            else onLink place target rest

def startOf (path : String) (place : Location) : Location :=
  if (Path.mk path).isAbsolute then [] else place

/-- Takes steps from a directory, over at most `links` links. -/
def walk (entries : Entries) (follow : Bool) : Nat → Location → List Step → Except Fault Target
  | 0 => walkWith entries follow fun _ _ _ => .error .tooManyLinks
  | links + 1 =>
      walkWith entries follow fun place target rest =>
        walk entries follow links (startOf target place) (steps target ++ rest)

/-- Why a path cannot be followed, whatever the file system holds. -/
def pathFault? (path : String) : Option Fault :=
  if path.toList.contains '\x00' then some .nulInPath
  else if path.isEmpty then some .notFound
  else if pathLimit < path.utf8ByteSize then some .nameTooLong
  else none

def locateSteps (files : FileSystem) (follow : Bool) (path : String) (way : List Step) :
    Except Fault Target :=
  match pathFault? path with
  | some fault => .error fault
  | none => walk files.entries follow linkLimit (startOf path files.current) way

def locate (files : FileSystem) (follow : Bool) (path : String) : Except Fault Target :=
  files.locateSteps follow path (steps path)

/-- The entry that a path leads to, with links followed. -/
def entry (files : FileSystem) (path : String) : Except Fault Entry := do
  match ← files.locate true path with
  | .found _ entry => return entry
  | .missing _ _ => throw .notFound

def currentPath (files : FileSystem) : Path :=
  ⟨"/" ++ String.intercalate "/" (files.current.map FileName.text)⟩

def exists? (files : FileSystem) (path : String) : Bool := (files.entry path).toOption.isSome

def isDirectory (files : FileSystem) (path : String) : Bool :=
  match files.entry path with
  | .ok (.directory _) => true
  | _ => false

/-- The path of the current directory, which may have been taken away. -/
def workingDirectory (files : FileSystem) : Except Fault Path :=
  if files.isDirectory "." then .ok files.currentPath else .error .notFound

/-! ### Reading -/

/-- Why a directory cannot be listed by a path that leads to its place. -/
def listingFault? (files : FileSystem) (path : String) (place : Location) : Option Fault :=
  if pathLimit < path.utf8ByteSize then some .nameTooLong
  else if files.closed.contains place then some .denied
  else none

def readText (files : FileSystem) (path : String) : Except Fault String := do
  match ← files.entry path with
  | .file content =>
      match String.fromUTF8? content with
      | some text => return text
      | none => throw .invalidText
  | .directory _ => throw .isDirectory
  | .link _ => throw .notFound

/-! ### Changing -/

def place (files : FileSystem) (directory : Location) (name : FileName) (entry : Entry)
    (distinct : entry.Distinct) : FileSystem :=
  { files with
    entries := Entries.change (Entries.put name entry) directory files.entries
    distinct := files.distinct.change (fun _ h => h.put distinct) directory }

def displace (files : FileSystem) (directory : Location) (name : FileName) : FileSystem :=
  { files with
    entries := Entries.change (Entries.erase name) directory files.entries
    closed := files.closed.filter fun place => !(directory ++ [name]).isPrefixOf place
    distinct := files.distinct.change (fun _ h => h.erase name) directory }

def placeFile (files : FileSystem) (directory : Location) (name : FileName) (content : ByteArray) :
    FileSystem :=
  files.place directory name (.file content) (by trivial)

/-- The steps to the directory in which the last name of a path would lie, for a path that ends in a
slash. -/
def stepsAbove (path : String) : List Step :=
  match (steps path).reverse with
  | .stay :: .into _ :: above => above.reverse ++ [.stay]
  | way => way.reverse

/-- Writes a file. It is made if it is missing, also where a link leads to a missing name. A path
that ends in a slash cannot name a file. -/
def write (files : FileSystem) (path : String) (content : ByteArray) : Except Fault FileSystem := do
  if endsInSlash path then
    match ← files.locateSteps true path (stepsAbove path) with
    | .found _ _ => throw .isDirectory
    | .missing _ _ => throw .notFound
  match ← files.locate true path with
  | .missing directory name => return files.placeFile directory name content
  | .found location (.file _) =>
      match location.getLast? with
      | some name => return files.placeFile location.dropLast name content
      | none => throw .isDirectory
  | .found _ _ => throw .isDirectory

/-- Makes a directory in one that exists. Slashes at the end of its path do not count. -/
def createDirectory (files : FileSystem) (path : String) : Except Fault FileSystem := do
  let way := (Path.pieces path.toList).filterMap Step.ofPiece?
  match ← files.locateSteps false path way with
  | .missing directory name => return files.place directory name (.directory []) (by trivial)
  | .found _ _ => throw .alreadyExists

/-- Makes one directory, or finds one there already. -/
def ensureDirectory (files : FileSystem) (path : String) : Except Fault FileSystem :=
  match files.createDirectory path with
  | .ok files => .ok files
  | .error fault => if files.isDirectory path then .ok files else .error fault

/-- Makes a directory and those above it that are missing. The paths above it come nearest first;
the empty path stands for a directory that is there. What was made before a fault stays. -/
def createDirectoriesFrom (files : FileSystem) (path : Path) : List Path → FileSystem × Option Fault
  | [] =>
      match files.ensureDirectory path.text with
      | .ok files => (files, none)
      | .error fault => (files, some fault)
  | next :: above =>
      match files.ensureDirectory path.text with
      | .ok files => (files, none)
      | .error .notFound =>
          match if next.text.isEmpty then (files, none)
            else createDirectoriesFrom files next above with
          | (files, some fault) => (files, some fault)
          | (files, none) =>
              match files.ensureDirectory path.text with
              | .ok files => (files, none)
              | .error fault => (files, some fault)
      | .error fault => (files, some fault)

def createDirectories (files : FileSystem) (path : Path) : FileSystem × Option Fault :=
  if path.text.isEmpty then (files, none)
  else createDirectoriesFrom files path (path.ancestors.drop 1)

def link (files : FileSystem) (path target : String) : Except Fault FileSystem := do
  match ← files.locate false path with
  | .missing directory name => return files.place directory name (.link target) (by trivial)
  | .found _ _ => throw .alreadyExists

/-- Takes away what a path leads to, with everything in it. A link at its end is not followed. -/
def remove (files : FileSystem) (path : String) : Except Fault FileSystem := do
  match ← files.locate false path with
  | .missing _ _ => throw .notFound
  | .found location _ =>
      match location.getLast? with
      | some name => return files.displace location.dropLast name
      | none => throw .isDirectory

end FileSystem

end RouteManifest
