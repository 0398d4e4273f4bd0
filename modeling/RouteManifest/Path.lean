/-!
File paths. A path keeps the text it was given, and everything else is read off that text: its
segments, the path of its directory, the same path with its dots resolved. Slashes separate
segments, repeated slashes count once, and a path that begins with a slash is absolute.
-/

namespace RouteManifest

/-- A path as it was written. -/
structure Path where
  text : String
  deriving DecidableEq, Inhabited

namespace Path

inductive Segment where
  /-- The root of the file system, the start of an absolute path. -/
  | root
  /-- `.`, told apart only at the start of a relative path. -/
  | current
  /-- `..` -/
  | parent
  | name (text : String)
  deriving DecidableEq, Inhabited

/-- What lies between the slashes of a text. -/
def pieces : List Char → List (List Char)
  | [] => [[]]
  | c :: rest =>
      match pieces rest with
      | [] => [[c]]
      | piece :: others => if c = '/' then [] :: piece :: others else (c :: piece) :: others

def Segment.ofPiece? (piece : List Char) : Option Segment :=
  if piece = [] ∨ piece = ['.'] then none
  else if piece = ['.', '.'] then some .parent
  else some (.name (String.ofList piece))

def isAbsolute (path : Path) : Bool := path.text.toList.head? == some '/'

/-- The segments of a path. A dot counts only where nothing stands before it. -/
def segments (path : Path) : List Segment :=
  let all := pieces path.text.toList
  let start :=
    if path.isAbsolute then [Segment.root]
    else if all.head? == some ['.'] then [.current]
    else []
  start ++ all.filterMap Segment.ofPiece?

/-- `rest` as seen from `base`. An absolute `rest` stands alone; otherwise the two are separated by
exactly one slash unless `base` is empty or ends in one. -/
def join (base : Path) (rest : String) : Path :=
  if isAbsolute ⟨rest⟩ then ⟨rest⟩
  else if base.text.isEmpty || base.text.toList.getLast? == some '/' then ⟨base.text ++ rest⟩
  else ⟨base.text ++ "/" ++ rest⟩

/-! ### The directory of a path -/

/-- Drops slashes and single dots from the end of a reversed path; a dot at the very start is
kept. -/
def dropTrailingDots : List Char → List Char
  | '/' :: rest => if rest = [] then ['/'] else dropTrailingDots rest
  | '.' :: '/' :: rest => if rest = [] then ['/'] else dropTrailingDots rest
  | other => other

/-- The path without its last segment. The root and the empty path have none to drop. -/
def directory? (path : Path) : Option Path :=
  match path.segments.getLast? with
  | none | some .root => none
  | some _ =>
      let rest := (dropTrailingDots path.text.toList.reverse).dropWhile (· != '/')
      some ⟨String.ofList (dropTrailingDots rest).reverse⟩

/-- A path and the directories above it, nearest first; at most `limit` of them. -/
def ancestorsUpTo : Nat → Path → List Path
  | 0, path => [path]
  | limit + 1, path =>
      match path.directory? with
      | none => [path]
      | some above => path :: ancestorsUpTo limit above

/-- A path and the directories above it, nearest first. Every one of them is shorter than the one
before. -/
def ancestors (path : Path) : List Path := ancestorsUpTo path.text.length path

/-! ### Resolving dots -/

/-- Adds a segment to a resolved path, whose last segment comes first. A `..` takes back the name
before it, disappears directly under the root, and otherwise stays. -/
def resolveStep (done : List Segment) : Segment → List Segment
  | .current => done
  | .parent =>
      match done with
      | .name _ :: before => before
      | .root :: _ => done
      | _ => .parent :: done
  | step => step :: done

/-- The segments that are left once dots are resolved, without a look at the file system. -/
def resolve (segments : List Segment) : List Segment :=
  (segments.foldl resolveStep []).reverse

def Segment.text : Segment → String
  | .root => ""
  | .current => "."
  | .parent => ".."
  | .name text => text

def ofSegments (segments : List Segment) : Path :=
  match segments with
  | [.root] => ⟨"/"⟩
  | _ => ⟨String.intercalate "/" (segments.map Segment.text)⟩

def normalize (path : Path) : Path := ofSegments (resolve path.segments)

/-! ### Paths in a manifest -/

/-- How many segments two paths share at their start. -/
def commonLength : List Segment → List Segment → Nat
  | a :: as, b :: bs => if a = b then commonLength as bs + 1 else 0
  | _, _ => 0

/-- The step that a segment adds to a path in a manifest. -/
def Segment.step? : Segment → Option String
  | .name text => some text
  | .parent => some ".."
  | .root | .current => none

def stepsBetween (root file : List Segment) : List String :=
  let common := commonLength root file
  (root.drop common).map (fun _ => "..") ++ (file.drop common).filterMap Segment.step?

/-- The path under which a manifest refers to `file`: `/` and the steps from `root` to it. -/
def route (root file : Path) : String :=
  "/" ++ String.intercalate "/" (stepsBetween (resolve root.segments) (resolve file.segments))

end Path

end RouteManifest
