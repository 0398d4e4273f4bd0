import Mathlib.Data.List.Forall2
import RouteManifest.Config.Lookup
import RouteManifest.Proofs.FileSystem.Walks
import RouteManifest.Proofs.Path.Below

/-!
Where the configuration of a project is looked for. The search goes by the path as it is written,
from its last step to its first one, and not by the directories of the file system. Along names of
directories both are the same, from the directory that the path names up to where the path starts,
which for a relative path is the current directory.
-/

namespace RouteManifest

open RouteManifest.Path (stepsOf)

namespace FileSystem

/-! ### Paths without links -/

/-- A path whose steps are names of directories, one below the other. It may hold dots, but it goes
up nowhere. -/
structure LeadsStraight (files : FileSystem) (path : Path) (names : Location) : Prop where
  steps : stepsOf path.text = names.map fun name => .name name.text
  directory : files.entries.IsDirectory (startOf path.text files.current ++ names)
  short : ∀ name ∈ names, name.text.utf8ByteSize ≤ nameLimit

/-- Pieces that stand for names are steps into them, with steps on the spot in between. -/
theorem filter_steps_of_names {pieces : List (List Char)} {names : Location}
    (h : pieces.filterMap Path.Segment.ofPiece? = names.map fun name => .name name.text) :
    (pieces.filterMap Step.ofPiece?).filter (· ≠ .stay) = names.map Step.into := by
  induction pieces generalizing names with
  | nil =>
    obtain rfl := List.map_eq_nil_iff.1 h.symm
    rfl
  | cons piece pieces ih =>
    by_cases hempty : piece = []
    · subst hempty
      exact ih h
    by_cases hdot : piece = ['.']
    · subst hdot
      exact ih h
    by_cases hdots : piece = ['.', '.']
    · subst hdots
      cases names <;> cases h
    · have hsegment : Path.Segment.ofPiece? piece = some (.name (String.ofList piece)) := by
        simp [Path.Segment.ofPiece?, hempty, hdot, hdots]
      rw [List.filterMap_cons_some hsegment] at h
      cases names with
      | nil => cases h
      | cons name names =>
        obtain ⟨hname, hrest⟩ := List.cons.inj h
        have hstep : Step.ofPiece? piece = some (.into name) := by
          rw [Step.ofPiece?, if_neg hdot, if_neg hdots, Path.Segment.name.inj hname, ofText?_text]
          rfl
        rw [List.filterMap_cons_some hstep, List.filter_cons_of_pos (by simp), ih hrest,
          List.map_cons]

theorem walkWith_directories {entries : Entries} {follow : Bool}
    {onLink : Location → String → List Step → Except Fault Target}
    {place names : Location} {way : List Step} (hway : way.filter (· ≠ .stay) = names.map Step.into)
    (hdirectory : entries.IsDirectory (place ++ names))
    (hshort : ∀ name ∈ names, name.text.utf8ByteSize ≤ nameLimit)
    (rest : List Step) :
    walkWith entries follow onLink place (way ++ rest) =
      walkWith entries follow onLink (place ++ names) rest := by
  induction way generalizing place names with
  | nil =>
    obtain rfl := List.map_eq_nil_iff.1 hway.symm
    rw [List.nil_append, List.append_nil]
  | cons step way ih =>
    cases step with
    | stay => exact ih hway hdirectory hshort
    | up => cases names <;> cases hway
    | into name =>
      rw [List.filter_cons_of_pos (by simp)] at hway
      cases names with
      | nil => cases hway
      | cons first names =>
        obtain ⟨hfirst, hrest⟩ := List.cons.inj hway
        obtain rfl := Step.into.inj hfirst
        -- What is known of the last directory holds of all above it.
        obtain ⟨inner, hinner⟩ : entries.IsDirectory (place ++ [name]) := by
          cases names with
          | nil => exact hdirectory
          | cons second names =>
            obtain ⟨inner, hinner⟩ := hdirectory
            rw [← List.singleton_append, ← List.append_assoc] at hinner
            exact Entries.isDirectory_of_at?_append hinner (List.cons_ne_nil second names)
        have hname : ¬nameLimit < name.text.utf8ByteSize :=
          Nat.not_lt.2 (hshort name List.mem_cons_self)
        rw [List.append_cons place] at hdirectory ⊢
        rw [List.cons_append, walkWith, if_neg hname]
        simp only [hinner]
        exact ih hrest hdirectory fun other hother =>
          hshort other (List.mem_cons_of_mem name hother)

theorem steps_join_name (directory : Path) (name : FileName) :
    steps (directory.join name.text).text =
      (Path.pieces directory.text.toList).filterMap Step.ofPiece? ++
      [.into name] := by
  obtain ⟨hempty, hdot, hdots, hslash⟩ := isName_of_fileName name
  have hstep : Step.ofPiece? name.text.toList = some (.into name) := by
    have hdot' : name.text.toList ≠ ['.'] := fun heq => hdot (String.toList_injective heq)
    have hdots' : name.text.toList ≠ ['.', '.'] := fun heq => hdots (String.toList_injective heq)
    rw [Step.ofPiece?, if_neg hdot', if_neg hdots', String.ofList_toList, ofText?_text]
    rfl
  have hend : endsInSlash (directory.join name.text).text = false := by
    obtain ⟨front, hfront⟩ : ∃ front, (directory.join name.text).text = front ++ name.text := by
      rw [Path.join, if_neg (by simp [isAbsolute_text])]
      split
      · exact ⟨_, rfl⟩
      · exact ⟨_, rfl⟩
    have hne : name.text.toList ≠ [] := fun heq => hempty (String.toList_injective heq)
    have hlast : name.text.toList.getLast? ≠ some '/' :=
      fun heq => hslash (List.mem_of_getLast? heq)
    simp [endsInSlash, hfront, List.getLast?_append_of_ne_nil _ hne, hlast]
  rw [steps, hend, Path.filterMap_pieces_join (by decide) (isAbsolute_text name), pieces_text,
    List.filterMap_cons_some hstep]
  simp

theorem startOf_eq {first second : Path} (h : first.isAbsolute = second.isAbsolute)
    {place : Location} :
    startOf first.text place = startOf second.text place := by
  rw [startOf, startOf, show Path.isAbsolute ⟨first.text⟩ = Path.isAbsolute ⟨second.text⟩ from h]

/-- What a name in a directory leads to, with links followed. -/
def within (files : FileSystem) (place : Location) (name : FileName) : Except Fault Target :=
  walk files.entries true linkLimit place [.into name]

/-- A name that is joined to the path of a directory leads where it leads in that directory. -/
theorem locate_join_name {files : FileSystem} {directory : Path} {names : Location}
    {name : FileName}
    (h : files.LeadsStraight directory names)
    (hpath : pathFault? (directory.join name.text).text = none) :
    files.locate true (directory.join name.text).text =
      files.within (startOf directory.text files.current ++ names) name := by
  rw [locate, locateSteps, hpath, startOf_eq (Path.isAbsolute_join (isAbsolute_text name)),
    steps_join_name]
  exact walkWith_directories (filter_steps_of_names h.steps) h.directory h.short [.into name]

theorem LeadsStraight.of_prefix {files : FileSystem} {path directory : Path}
    {names front : Location}
    (h : files.LeadsStraight path names) (hfront : front <+: names)
    (hsteps : stepsOf directory.text = front.map fun name => .name name.text)
    (habsolute : directory.isAbsolute = path.isAbsolute) : files.LeadsStraight directory front := by
  refine ⟨hsteps, ?_, fun name hname => h.short name (hfront.subset hname)⟩
  obtain ⟨rest, rfl⟩ := hfront
  rw [startOf_eq habsolute]
  by_cases hrest : rest = []
  · rw [hrest, List.append_nil] at h
    exact h.directory
  · obtain ⟨inner, hinner⟩ := h.directory
    rw [← List.append_assoc] at hinner
    exact Entries.isDirectory_of_at?_append hinner hrest

end FileSystem

namespace Config

open FileSystem

/-! ### Searches -/

/-- The name of a configuration file. -/
def configName : FileName := ⟨fileName, by decide⟩

/-- The name that marks the directory of a repository. -/
def repository : FileName := ⟨repositoryName, by decide⟩

/-- A way leads to an entry. -/
def IsFound : Except FileSystem.Fault Target → Bool
  | .ok (.found _ _) => true
  | _ => false

theorem exists?_eq (files : FileSystem) (path : String) :
    files.exists? path = IsFound (files.locate true path) := by
  rw [exists?, entry]
  cases files.locate true path with
  | error fault => rfl
  | ok target => cases target <;> rfl

/-- The first of several directories that holds a configuration file. A directory that marks a
repository is the last to be looked at. -/
def nearest? (files : FileSystem) : List Location → Option Location
  | [] => none
  | place :: above =>
      if IsFound (files.within place configName) then some place
      else if IsFound (files.within place repository) then none
      else nearest? files above

theorem nearest?_append {files : FileSystem} {places : List Location} {place : Location}
    (h : nearest? files places = some place)
    (above : List Location) : nearest? files (places ++ above) = some place := by
  induction places with
  | nil => cases h
  | cons first places ih =>
    rw [nearest?] at h
    rw [List.cons_append, nearest?]
    split at h
    · next hhere => rw [if_pos hhere, h]
    · next hnone =>
      rw [if_neg hnone]
      split at h
      · cases h
      · next hopen => rw [if_neg hopen, ih h]

theorem mem_of_nearest? {files : FileSystem} {places : List Location} {place : Location}
    (h : nearest? files places = some place) : place ∈ places := by
  induction places with
  | nil => cases h
  | cons first places ih =>
    rw [nearest?] at h
    split at h
    · cases h
      exact List.mem_cons_self
    · split at h
      · cases h
      · exact List.mem_cons_of_mem first (ih h)

/-- A directory that is reached twice at the end does not count twice. -/
theorem nearest?_repeat (files : FileSystem) (places : List Location) (place : Location) :
    nearest? files (places ++ [place] ++ [place]) = nearest? files (places ++ [place]) := by
  induction places with
  | nil =>
    simp only [List.nil_append, List.cons_append, nearest?]
    split
    · rfl
    · split <;> rfl
  | cons first places ih =>
    simp only [List.cons_append, nearest?] at ih ⊢
    rw [ih]

/-- What a search finds is the first file of its kind, and no directory before it marks a
repository. -/
theorem findIn?_eq_some_iff {files : FileSystem} {directories : List Path} {found : Path} :
    findIn? files directories = some found ↔
      ∃ before directory after, directories = before ++ directory :: after ∧
        found = directory.join fileName ∧
        files.exists? found.text = true ∧ ∀ earlier ∈ before,
          files.exists? (earlier.join fileName).text = false ∧
          files.exists? (earlier.join repositoryName).text = false := by
  induction directories with
  | nil => simp [findIn?]
  | cons directory directories ih =>
    simp only [findIn?]
    constructor
    · intro h
      split at h
      · next hhere =>
        cases h
        exact ⟨[], directory, directories, rfl, rfl, hhere, nofun⟩
      · next hnone =>
        split at h
        · cases h
        · next hopen =>
          obtain ⟨before, last, after, rfl, hfound, hexists, hbefore⟩ := ih.1 h
          refine ⟨directory :: before, last, after, rfl, hfound, hexists, ?_⟩
          exact List.forall_mem_cons.2
            ⟨⟨Bool.eq_false_iff.2 hnone, Bool.eq_false_iff.2 hopen⟩, hbefore⟩
    · rintro ⟨before, last, after, hsplit, rfl, hexists, hbefore⟩
      cases before with
      | nil =>
        obtain ⟨rfl, rfl⟩ := List.cons.inj hsplit
        rw [if_pos hexists]
      | cons first before =>
        obtain ⟨rfl, rfl⟩ := List.cons.inj hsplit
        obtain ⟨⟨hnone, hopen⟩, hrest⟩ := List.forall_mem_cons.1 hbefore
        rw [if_neg (Bool.eq_false_iff.1 hnone), if_neg (Bool.eq_false_iff.1 hopen)]
        exact ih.2 ⟨before, last, after, rfl, rfl, hexists, hrest⟩

/-- A search by paths is one by the directories to which they lead. -/
theorem findIn?_of_forall₂ {files : FileSystem} {directories : List Path} {places : List Location}
    (h : List.Forall₂ (fun directory place => ∀ name ∈ [configName, repository],
      files.locate true (directory.join name.text).text = files.within place name) directories
      places) :
    (findIn? files directories).map (fun found => files.locate true found.text) =
      (nearest? files places).map (files.within · configName) := by
  induction h with
  | nil => rfl
  | @cons directory place directories places hhere _ ih =>
    have hconfig := hhere configName (by simp)
    have hrepository := hhere repository (by simp)
    rw [findIn?, nearest?]
    simp only [exists?_eq]
    rw [show (directory.join fileName).text = (directory.join configName.text).text from rfl,
      hconfig, show (directory.join repositoryName).text =
      (directory.join repository.text).text from rfl, hrepository]
    split
    · exact congrArg some hconfig
    · split
      · rfl
      · exact ih

/-! ### The directories of a search -/

/-- The directories on the way down some names, the last one first. -/
def placesAbove (base : Location) (names : Location) : List Location :=
  names.inits.reverse.map (base ++ ·)

theorem mem_placesAbove {base names place : Location} (h : place ∈ placesAbove base names) :
    base <+: place ∧ place <+: base ++ names := by
  obtain ⟨front, hfront, rfl⟩ := List.mem_map.1 h
  rw [List.mem_reverse, List.mem_inits] at hfront
  exact ⟨List.prefix_append base front, (List.prefix_append_right_inj base).2 hfront⟩

theorem placesAbove_eq_append (base names : Location) :
    ∃ before, placesAbove base names = before ++ [base] := by
  cases names with
  | nil => exact ⟨[], by simp [placesAbove]⟩
  | cons name names =>
    rw [placesAbove, List.inits_cons, List.reverse_cons, List.map_append, List.map_singleton,
      List.append_nil]
    exact ⟨_, rfl⟩

/-- The way down from the top begins with the way down to a directory, and the way from there comes
before it. -/
theorem placesAbove_nil_append (base names : Location) :
    ∃ above, placesAbove [] (base ++ names) = placesAbove base names ++ above := by
  obtain ⟨before, hbefore⟩ : ∃ before, base.inits = before ++ [base] := by
    rw [List.inits_eq_tails]
    cases hreverse : base.reverse with
    | nil => exact ⟨[], by simp [List.reverse_eq_nil_iff.1 hreverse]⟩
    | cons last rest =>
      rw [List.tails_cons, List.map_cons, List.reverse_cons, ← hreverse, List.reverse_reverse]
      exact ⟨_, rfl⟩
  refine ⟨before.reverse, ?_⟩
  rw [placesAbove, placesAbove, List.inits_append, hbefore]
  cases names with
  | nil => simp
  | cons name names => simp

/-- No path that is looked at is too long, and none holds the character that ends paths. -/
def Usable (start : Path) : Prop :=
  ∀ directory ∈ start.ancestors, ∀ name ∈ [configName, repository],
    FileSystem.pathFault? (directory.join name.text).text = none

instance (start : Path) : Decidable (Usable start) :=
  inferInstanceAs (Decidable (∀ directory ∈ start.ancestors, ∀ name ∈ [configName, repository],
    FileSystem.pathFault? (directory.join name.text).text = none))

/-- A name below a path leads where it leads in a directory. -/
def Reaches (files : FileSystem) (directory : Path) (place : Location) : Prop :=
  ∀ name ∈ [configName, repository],
    files.locate true (directory.join name.text).text = files.within place name

theorem forall₂_of_mem {α β : Type} {R S : α → β → Prop} {xs : List α} {ys : List β}
    (h : List.Forall₂ R xs ys)
    (hS : ∀ x ∈ xs, ∀ y ∈ ys, R x y → S x y) : List.Forall₂ S xs ys := by
  induction h with
  | nil => exact .nil
  | @cons x y xs ys hxy _ ih =>
    refine .cons (hS x List.mem_cons_self y List.mem_cons_self hxy) (ih fun x' hx' y' hy' => ?_)
    exact hS x' (List.mem_cons_of_mem x hx') y' (List.mem_cons_of_mem y hy')

/-- The directories above a path that leads straight are those on the way down its names. Where the
path begins with a dot, the first of them is reached twice. -/
theorem reaches_ancestors {files : FileSystem} {start : Path} {names : Location}
    (h : files.LeadsStraight start names)
    (husable : Usable start) :
    ∃ extra, (extra = [] ∨ extra = [startOf start.text files.current]) ∧
      List.Forall₂ (Reaches files) start.ancestors
        (placesAbove (startOf start.text files.current) names ++ extra) := by
  obtain ⟨habsolute, extra, hextra, hmap⟩ := Path.steps_ancestors start
  obtain ⟨more, hmore, hextraSteps⟩ : ∃ more : List Location, (more = [] ∨ more = [[]]) ∧
      extra = more.map (List.map fun name => Path.Segment.name name.text) := by
    rcases hextra with rfl | rfl
    · exact ⟨[], .inl rfl, rfl⟩
    · exact ⟨[[]], .inr rfl, rfl⟩
  -- Every directory of the search has a front of the names as its steps, so it leads straight too.
  have hfronts : ∀ front ∈ names.inits.reverse ++ more, front <+: names := by
    intro front hfront
    rcases List.mem_append.1 hfront with hfront | hfront
    · exact (List.mem_inits _ _).1 (List.mem_reverse.1 hfront)
    · rcases hmore with rfl | rfl
      · cases hfront
      · exact List.mem_singleton.1 hfront ▸ List.nil_prefix
  have hsteps : start.ancestors.map (stepsOf ·.text) =
      (names.inits.reverse ++ more).map (List.map fun name => Path.Segment.name name.text) := by
    rw [hmap, h.steps, hextraSteps, List.map_append, List.map_inits, List.map_reverse]
  have hpairs : List.Forall₂
      (fun directory front => stepsOf directory.text = front.map fun name => .name name.text)
      start.ancestors (names.inits.reverse ++ more) := by
    rw [← List.forall₂_map_right_iff, ← List.forall₂_map_left_iff, hsteps, List.forall₂_eq_eq_eq]
  refine ⟨more.map (startOf start.text files.current ++ ·), ?_, ?_⟩
  · rcases hmore with rfl | rfl
    · exact .inl rfl
    · exact .inr (by rw [List.map_singleton, List.append_nil])
  · rw [placesAbove, ← List.map_append, List.forall₂_map_right_iff]
    refine forall₂_of_mem hpairs fun directory hdirectory front hfront hdirectorySteps name
      hname => ?_
    have hstraight := h.of_prefix (hfronts front hfront) hdirectorySteps
      (habsolute directory hdirectory)
    rw [← startOf_eq (habsolute directory hdirectory)]
    exact locate_join_name hstraight (husable directory hdirectory name hname)

/-- From a path that leads straight the search goes from the directory that it names up to where the
path starts. -/
theorem find?_of_straight {files : FileSystem} {start : Path} {names : Location}
    (h : files.LeadsStraight start names)
    (husable : Usable start) :
    (find? files start).map (fun found => files.locate true found.text) =
      (nearest? files (placesAbove (startOf start.text files.current) names)).map
        (files.within · configName) := by
  obtain ⟨extra, hextra, hreaches⟩ := reaches_ancestors h husable
  rw [find?, findIn?_of_forall₂ hreaches]
  rcases hextra with rfl | rfl
  · rw [List.append_nil]
  · obtain ⟨before, hbefore⟩ := placesAbove_eq_append (startOf start.text files.current) names
    rw [hbefore, nearest?_repeat]

/-- Where the configuration of a project is looked for. For every path, the directories of the
search are those that the path is written with: its steps, then these without the last one, and so
on, so that below a `..` the search goes down, and from a relative path it ends at the empty one.
What is found is the first file of its kind, if no directory before it marks a repository. For a
path that leads straight this is the file in the nearest directory on the way from the directory
that the path names up to where the path starts. So two such paths find the same file if both are
absolute or both are relative; what a relative one finds, the absolute one finds too; and the file
lies in the directory or above it. -/
theorem find?_places (files : FileSystem) :
    (∀ start : Path, (∀ directory ∈ start.ancestors, directory.isAbsolute = start.isAbsolute) ∧
      ∃ extra, (extra = [] ∨ extra = [[]]) ∧
        start.ancestors.map (stepsOf ·.text) = (stepsOf start.text).inits.reverse ++ extra) ∧
    (∀ start found, find? files start = some found ↔
      ∃ before directory after, start.ancestors = before ++ directory :: after ∧
        found = directory.join fileName ∧
        files.exists? found.text = true ∧ ∀ earlier ∈ before,
          files.exists? (earlier.join fileName).text = false ∧
          files.exists? (earlier.join repositoryName).text = false) ∧
    (∀ start names, files.LeadsStraight start names → Usable start →
      (find? files start).map (fun found => files.locate true found.text) =
        (nearest? files (placesAbove (startOf start.text files.current) names)).map
          (files.within · configName)) ∧
    (∀ start other names, files.LeadsStraight start names → Usable start →
      files.LeadsStraight other names → Usable other → start.isAbsolute = other.isAbsolute →
      (find? files start).map (fun found => files.locate true found.text) =
        (find? files other).map fun found => files.locate true found.text) ∧
    (∀ start other names found, files.LeadsStraight start names → Usable start →
      start.isAbsolute = false →
      files.LeadsStraight other (files.current ++ names) → Usable other → other.isAbsolute = true →
      find? files start = some found →
        ∃ same, find? files other = some same ∧
          files.locate true same.text = files.locate true found.text) ∧
    ∀ start names found, files.LeadsStraight start names → Usable start →
      find? files start = some found →
      ∃ place, startOf start.text files.current <+: place ∧
        place <+: startOf start.text files.current ++ names ∧
        files.locate true found.text = files.within place configName := by
  refine ⟨Path.steps_ancestors, fun _ _ => findIn?_eq_some_iff, fun _ _ => find?_of_straight,
    ?_, ?_, ?_⟩
  · intro start other names hstart husable hother husable' habsolute
    rw [find?_of_straight hstart husable, find?_of_straight hother husable', startOf_eq habsolute]
  · intro start other names found hstart husable hrelative hother husable' habsolute hfound
    have hfrom : startOf start.text files.current = files.current :=
      if_neg (Bool.eq_false_iff.1 hrelative)
    have htop : startOf other.text files.current = [] := if_pos habsolute
    have hstraight := find?_of_straight hstart husable
    rw [hfound, hfrom, Option.map_some] at hstraight
    obtain ⟨place, hplace, hlocate⟩ := Option.map_eq_some_iff.1 hstraight.symm
    -- The absolute path passes the same directories first, and the search has stopped before it
    -- goes on.
    obtain ⟨above, habove⟩ := placesAbove_nil_append files.current names
    have hsame := find?_of_straight hother husable'
    rw [htop, habove, nearest?_append hplace, Option.map_some, hlocate] at hsame
    exact Option.map_eq_some_iff.1 hsame
  · intro start names found hstart husable hfound
    have hstraight := find?_of_straight hstart husable
    rw [hfound, Option.map_some] at hstraight
    obtain ⟨place, hplace, hlocate⟩ := Option.map_eq_some_iff.1 hstraight.symm
    obtain ⟨hbase, hbelow⟩ := mem_placesAbove (mem_of_nearest? hplace)
    exact ⟨place, hbase, hbelow, hlocate.symm⟩

/-- The current directory holds no configuration file. There is one below it and one above it. -/
def nestedProject : FileSystem where
  entries := [(configName, .file "\x7b\x7d".toUTF8),
    (⟨"project", by decide⟩,
      .directory [(⟨"sub", by decide⟩, .directory [(configName, .file "\x7b\x7d".toUTF8)])])]
  current := [⟨"project", by decide⟩]
  distinct := by simp [Entries.Distinct, Entry.Distinct, configName, fileName]

/-- Dots in a path that leads straight make no difference. -/
theorem find?_places_dotted :
    (nestedProject.LeadsStraight ⟨"./sub"⟩ [⟨"sub", by decide⟩] ∧ Usable ⟨"./sub"⟩) ∧
      (nestedProject.LeadsStraight ⟨"sub/."⟩ [⟨"sub", by decide⟩] ∧ Usable ⟨"sub/."⟩) ∧
      (find? nestedProject ⟨"./sub"⟩).map (fun found => nestedProject.locate true found.text) =
        (find? nestedProject ⟨"sub/."⟩).map fun found => nestedProject.locate true found.text := by
  have hfirst : nestedProject.LeadsStraight ⟨"./sub"⟩ [⟨"sub", by decide⟩] :=
    ⟨by decide, ⟨_, rfl⟩, by decide⟩
  have hsecond : nestedProject.LeadsStraight ⟨"sub/."⟩ [⟨"sub", by decide⟩] :=
    ⟨by decide, ⟨_, rfl⟩, by decide⟩
  have husable : Usable ⟨"./sub"⟩ := by decide
  have husable' : Usable ⟨"sub/."⟩ := by decide
  obtain ⟨-, -, -, hsame, -⟩ := find?_places nestedProject
  exact ⟨⟨hfirst, husable⟩, ⟨hsecond, husable'⟩, hsame _ _ _ hfirst husable hsecond husable' rfl⟩

/-- Three paths of the current directory, and three results: behind the `..` the search goes down,
and from the dot it does not go up. -/
theorem find?_spelling :
    nestedProject.isDirectory "." = true ∧
      nestedProject.locate true "sub/.." = nestedProject.locate true "." ∧
      nestedProject.locate true "/project" = nestedProject.locate true "." ∧
      find? nestedProject ⟨"."⟩ = none ∧
      find? nestedProject ⟨"sub/.."⟩ = some ⟨"sub/.routablerc.json"⟩ ∧
      find? nestedProject ⟨"/project"⟩ = some ⟨"/.routablerc.json"⟩ := by
  refine ⟨by decide +kernel, rfl, rfl, by decide +kernel, by decide +kernel, by decide +kernel⟩

end Config

end RouteManifest
