import RouteManifest.Scan.Fault

/-!
Candidates: the files below a directory that may declare routable targets. A walk goes down to any
depth, comes by links without following them, and comes by what lies in a directory right after the
directory itself. A directory that cannot be listed ends it.
-/

namespace RouteManifest.Scan

def candidateEnding : String := ".ts"

def isCandidate (name : String) : Bool := candidateEnding.toList.isSuffixOf name.toList

/-! ### Walks -/

/-- What a walk comes by: the path of an entry, its place, and whether it is a directory. -/
structure Visit where
  path : Path
  place : Location
  isDirectory : Bool

mutual

def walkAt (path : Path) (place : Location) : Entry → List Visit
  | .directory entries => ⟨path, place, true⟩ :: walkIn path place entries
  | .file _ | .link _ => [⟨path, place, false⟩]

/-- A walk over what a directory holds. -/
def walkIn (directory : Path) (place : Location) : List (FileName × Entry) → List Visit
  | [] => []
  | (name, entry) :: rest =>
      walkAt (directory.join name.text) (place ++ [name]) entry ++ walkIn directory place rest

end

namespace Visit

/-- Why the walk ends here. -/
def fault? (files : FileSystem) (visit : Visit) : Option Fault :=
  if visit.isDirectory then
    (files.listingFault? visit.path.text visit.place).map fun reason =>
      .unreadable visit.path (.listing reason)
  else none

/-- The path of a visit, if a candidate lies there. -/
def candidate? (visit : Visit) : Option Path :=
  match visit.place.getLast? with
  | some name => if !visit.isDirectory && isCandidate name.text then some visit.path else none
  | none => none

end Visit

/-- The candidates that a walk comes by. -/
def gather (files : FileSystem) (visits : List Visit) : Except Fault (List Path) :=
  match visits.findSome? (Visit.fault? files) with
  | some fault => .error fault
  | none => .ok (visits.filterMap Visit.candidate?)

/-- The candidates below a directory, which may itself be reached through links. -/
def candidates (files : FileSystem) (directory : Path) : Except Fault (List Path) :=
  match files.locate true directory.text with
  | .ok (.found place (.directory entries)) =>
      gather files (walkAt directory place (.directory entries))
  | .ok (.found _ _) => .error (.notDirectory directory)
  | .ok (.missing _ _) => .error (.unreadable directory (.reading .notFound))
  | .error reason => .error (.unreadable directory (.reading reason))

/-! ### Several directories -/

/-- Several directories are searched side by side. If more than one of the searches fails, it is
open whose fault is met first: one of theirs. -/
structure Race where
  first (fault : Fault) (others : List Fault) : Fault
  first_mem : ∀ fault others, first fault others ∈ fault :: others

/-- The race in which the searches end in the order in which they are asked for. -/
def Race.inOrder : Race := ⟨fun fault _ => fault, fun _ _ => List.mem_cons_self⟩

instance : Inhabited Race := ⟨.inOrder⟩

def fault? : Except Fault (List Path) → Option Fault
  | .error fault => some fault
  | .ok _ => none

/-- The candidates below several directories of a project, directory by directory. -/
def candidatesOfAll (files : FileSystem) (root : Path) (directories : List String)
    (race : Race := .inOrder) : Except Fault (List Path) :=
  let searches := directories.map fun directory => candidates files (root.join directory)
  match searches.filterMap fault? with
  | [] => .ok (searches.filterMap Except.toOption).flatten
  | fault :: others => .error (race.first fault others)

end RouteManifest.Scan
