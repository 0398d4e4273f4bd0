import RouteManifest.Proofs.FileSystem.Places
import RouteManifest.Proofs.Traversal
import RouteManifest.Scan

/-!
File systems that agree but for the contents of some files. Every path leads to the same place in
both, or fails alike in both. So the same files are found below a directory, and what is read is the
same where the contents agree.
-/

namespace RouteManifest

/-- The entries agree: a link has the same target, a directory holds the same names in the same
order, and a file, if it has to be the same, has the same content. -/
inductive Entry.Agrees (same : Prop) : Entry → Entry → Prop
  | file {content content' : ByteArray} (h : same → content = content') :
      Agrees same (.file content) (.file content')
  | directory {entries entries' : Entries} (h : entries.map Prod.fst = entries'.map Prod.fst) :
      Agrees same (.directory entries) (.directory entries')
  | link (target : String) : Agrees same (.link target) (.link target)

namespace Entries

/-- The trees agree at every place, but for the contents of files at changed places. -/
def Agree (changed : Location → Prop) (first second : Entries) : Prop :=
  ∀ place, Option.Rel (Entry.Agrees (¬changed place)) (first.at? place) (second.at? place)

variable {changed : Location → Prop} {first second : Entries}

/-- What lies at a place of both trees. -/
theorem Agree.cases (h : first.Agree changed second) (place : Location) :
    (first.at? place = none ∧ second.at? place = none) ∨
    (∃ content content', first.at? place = some (.file content) ∧
      second.at? place = some (.file content') ∧
      (¬changed place → content = content')) ∨
    (∃ inner inner', first.at? place = some (.directory inner) ∧
      second.at? place = some (.directory inner')) ∨
    ∃ target, first.at? place = some (.link target) ∧ second.at? place = some (.link target) := by
  have hplace := h place
  cases hfirst : first.at? place <;> cases hsecond :
    second.at? place <;> rw [hfirst, hsecond] at hplace <;>
    cases hplace
  · exact .inl ⟨rfl, rfl⟩
  · next hagrees =>
    cases hagrees with
    | file hcontent => exact .inr (.inl ⟨_, _, rfl, rfl, hcontent⟩)
    | directory _ => exact .inr (.inr (.inl ⟨_, _, rfl, rfl⟩))
    | link target => exact .inr (.inr (.inr ⟨target, rfl, rfl⟩))

theorem Agree.entry (h : first.Agree changed second) {place : Location} {entry entry' : Entry}
    (hfirst : first.at? place = some entry) (hsecond : second.at? place = some entry') :
    Entry.Agrees (¬changed place) entry entry' := by
  have hplace := h place
  rwa [hfirst, hsecond, Option.rel_some_some] at hplace

theorem Agree.names_eq (h : first.Agree changed second) :
    first.map Prod.fst = second.map Prod.fst := by
  have hroot : Entry.Agrees (¬changed []) (.directory first) (.directory second) := h.entry rfl rfl
  cases hroot with
  | directory h => exact h

theorem Agree.below (h : first.Agree changed second) {place : Location} {inner inner' : Entries}
    (hfirst : first.at? place = some (.directory inner))
    (hsecond : second.at? place = some (.directory inner')) :
    Agree (fun rest => changed (place ++ rest)) inner inner' := by
  intro rest
  rw [← at?_append hfirst, ← at?_append hsecond]
  exact h (place ++ rest)

theorem get?_eq_none {name : FileName} (h : ∀ other ∈ first, other.1 ≠ name) :
    first.get? name = none := by
  induction first with
  | nil => rfl
  | cons head rest ih =>
    rw [get?, if_neg (h head List.mem_cons_self)]
    exact ih fun other hother => h other (List.mem_cons_of_mem head hother)

/-- Without the first name of both, which stands nowhere else, the trees still agree. -/
theorem Agree.tail {name : FileName} {entry entry' : Entry}
    (h : Agree changed ((name, entry) :: first) ((name, entry') :: second))
    (hfirst : ∀ other ∈ first, other.1 ≠ name) (hsecond : ∀ other ∈ second, other.1 ≠ name) :
    first.Agree changed second := by
  intro place
  cases place with
  | nil => exact .some (.directory (List.cons.inj h.names_eq).2)
  | cons next place =>
    by_cases hnext : name = next
    · subst hnext
      rw [at?, at?, get?_eq_none hfirst, get?_eq_none hsecond]
      exact .none
    · have hplace := h (next :: place)
      rwa [at?, at?, get?, get?, if_neg hnext, if_neg hnext, ← at?, ← at?] at hplace

/-- What holds of a tree if it holds of all directories in it holds of every tree. -/
@[elab_as_elim]
theorem induction_on_directories {motive : Entries → Prop} (nil : motive [])
    (cons : ∀ name entry rest, (∀ inner, entry = .directory inner → motive inner) → motive rest →
      motive ((name, entry) :: rest)) (entries : Entries) : motive entries :=
  match entries with
  | [] => nil
  | (name, entry) :: rest =>
      cons name entry rest (fun inner _ => induction_on_directories nil cons inner)
        (induction_on_directories nil cons rest)
termination_by sizeOf entries
decreasing_by
  · have hentry : entry = .directory inner := ‹_›
    subst hentry
    simp only [List.cons.sizeOf_spec, Prod.mk.sizeOf_spec, Entry.directory.sizeOf_spec]
    omega
  · simp only [List.cons.sizeOf_spec]
    omega

theorem distinct_of_at? {entries : Entries} {place : Location} {entry : Entry}
    (h : Distinct entries)
    (hplace : entries.at? place = some entry) : entry.Distinct := by
  induction place generalizing entries with
  | nil =>
    cases hplace
    exact h
  | cons name rest ih =>
    rw [at?] at hplace
    cases hget : entries.get? name with
    | none => simp [hget] at hplace
    | some found =>
      have hfound := distinct_of_get? h hget
      cases found with
      | directory inner => exact ih hfound (by simpa [hget] using hplace)
      | file content =>
        simp only [hget] at hplace
        split at hplace
        · cases hplace
          exact hfound
        · cases hplace
      | link target =>
        simp only [hget] at hplace
        split at hplace
        · cases hplace
          exact hfound
        · cases hplace

/-! ### Files that are replaced -/

theorem rel_agrees_refl (same : Prop) (found : Option Entry) :
    Option.Rel (Entry.Agrees same) found found := by
  cases found with
  | none => exact .none
  | some entry =>
    cases entry with
    | file content => exact .some (.file fun _ => rfl)
    | directory inner => exact .some (.directory rfl)
    | link target => exact .some (.link target)

theorem map_fst_put {name : FileName} {old : Entry} (hget : first.get? name = some old)
    (entry : Entry) :
    (put name entry first).map Prod.fst = first.map Prod.fst := by
  induction first with
  | nil => cases hget
  | cons head rest ih =>
    obtain ⟨other, found⟩ := head
    by_cases hother : other = name
    · subst hother
      rw [put, if_pos rfl]
      rfl
    · rw [get?, if_neg hother] at hget
      rw [put, if_neg hother, List.map_cons, List.map_cons, ih hget]

/-- A tree in which a name is given another entry agrees with the tree before if it does so at the
name and below it. -/
theorem agree_put {name : FileName} {old entry : Entry} (hget : first.get? name = some old)
    (h : ∀ rest, Option.Rel (Entry.Agrees (¬changed (name :: rest))) (first.at? (name :: rest))
      ((put name entry first).at? (name :: rest))) :
        first.Agree changed (put name entry first) := by
  intro place
  cases place with
  | nil => exact .some (.directory (map_fst_put hget entry).symm)
  | cons next rest =>
    by_cases hnext : name = next
    · subst hnext
      exact h rest
    · have hsame : (put name entry first).at? (next :: rest) = first.at? (next :: rest) := by
        rw [at?, at?, get?_put, if_neg hnext]
      rw [hsame]
      exact rel_agrees_refl _ _

/-- The induction is on the way to the directory. -/
theorem agree_change {directory : Location} {name : FileName} {old : ByteArray}
    (h : first.at? (directory ++ [name]) = some (.file old)) (content : ByteArray) :
    first.Agree (· = directory ++ [name]) (change (put name (.file content)) directory first) := by
  induction directory generalizing first with
  | nil =>
    have hget : first.get? name = some (.file old) := by rwa [List.nil_append, at?_singleton] at h
    refine agree_put hget fun rest => ?_
    rw [at?, at?, get?_put, if_pos rfl, hget]
    cases rest with
    | nil => exact .some (.file fun hne => absurd rfl hne)
    | cons next rest => exact .none
  | cons next directory ih =>
    rw [List.cons_append, at?] at h
    rw [change]
    cases hget : first.get? next with
    | none => simp [hget] at h
    | some found =>
      cases found with
      | directory inner =>
        refine agree_put hget fun rest => ?_
        have hinner := ih (by simpa [hget] using h) rest
        simpa only [at?, get?_put, if_true, hget, List.cons_append, List.cons.injEq, true_and]
          using hinner
      | file content => simp [hget] at h
      | link target => simp [hget] at h

end Entries

namespace FileSystem

/-! ### Where paths lead -/

/-- Two walks, each in its own tree, end at one place or fail alike. -/
inductive LeadAlike (first second : Entries) : Except Fault Target → Except Fault Target → Prop
  | found {location entry entry'} (hfirst : first.at? location = some entry)
      (hsecond : second.at? location = some entry') :
      LeadAlike first second (.ok (.found location entry)) (.ok (.found location entry'))
  | missing (directory : Location) (name : FileName) :
      LeadAlike first second (.ok (.missing directory name)) (.ok (.missing directory name))
  | error (fault : Fault) : LeadAlike first second (.error fault) (.error fault)

theorem walkWith_agree {changed : Location → Prop} {first second : Entries}
    (h : first.Agree changed second)
    {follow : Bool} {onLink onLink' : Location → String → List Step → Except Fault Target}
    (honLink : ∀ place target rest,
      LeadAlike first second (onLink place target rest) (onLink' place target rest))
    (place : Location) (way : List Step) :
    LeadAlike first second (walkWith first follow onLink place way)
      (walkWith second follow onLink' place way) := by
  induction way generalizing place with
  | nil =>
    rw [walkWith, walkWith]
    rcases h.cases place with ⟨hfirst, hsecond⟩ | ⟨_, _, hfirst, hsecond, -⟩ | ⟨_, _, hfirst,
      hsecond⟩ |
      ⟨_, hfirst, hsecond⟩
    · rw [hfirst, hsecond]
      exact .error .notFound
    all_goals
      simp only [hfirst, hsecond]
      exact .found hfirst hsecond
  | cons step rest ih =>
    cases step with
    | stay => exact ih place
    | up => exact ih place.dropLast
    | into name =>
      rw [walkWith, walkWith]
      split
      · exact .error .nameTooLong
      · rcases h.cases (place ++ [name]) with ⟨hfirst, hsecond⟩ | ⟨_, _, hfirst, hsecond, -⟩ | ⟨_,
          _, hfirst, hsecond⟩ |
          ⟨target, hfirst, hsecond⟩ <;> simp only [hfirst, hsecond]
        · split
          · exact .missing place name
          · exact .error .notFound
        · split
          · exact .found hfirst hsecond
          · exact .error .notDirectory
        · exact ih (place ++ [name])
        · split
          · exact .found hfirst hsecond
          · exact honLink place target rest

/-- The induction is on the links that may be followed. -/
theorem walk_agree {changed : Location → Prop} {first second : Entries}
    (h : first.Agree changed second)
    (follow : Bool) (links : Nat) (place : Location) (way : List Step) :
    LeadAlike first second (walk first follow links place way)
      (walk second follow links place way) := by
  induction links generalizing place way with
  | zero => exact walkWith_agree h (fun _ _ _ => .error .tooManyLinks) place way
  | succ links ih => exact walkWith_agree h (fun place target rest =>
      ih (startOf target place) (steps target ++ rest)) place way

/-- Two file systems agree but for the contents of files at changed places. -/
structure Agree (changed : Location → Prop) (first second : FileSystem) : Prop where
  current : first.current = second.current
  closed : first.closed = second.closed
  entries : first.entries.Agree changed second.entries

/-- A file that is written anew is the only one whose content changes. -/
theorem agree_placeFile {files : FileSystem} {directory : Location} {name : FileName}
    {old : ByteArray}
    (h : files.entries.at? (directory ++ [name]) = some (.file old)) (content : ByteArray) :
    files.Agree (· = directory ++ [name]) (files.placeFile directory name content) :=
  ⟨rfl, rfl, Entries.agree_change h content⟩

section
variable {changed : Location → Prop} {first second : FileSystem}

theorem locate_agree (h : Agree changed first second) (follow : Bool) (path : String) :
    LeadAlike first.entries second.entries (first.locate follow path)
      (second.locate follow path) := by
  rw [locate, locate, locateSteps, locateSteps, h.current]
  split
  · exact .error _
  · exact walk_agree h.entries follow linkLimit (startOf path second.current) (steps path)

theorem isDirectory_agree (h : Agree changed first second) (path : String) :
    first.isDirectory path = second.isDirectory path := by
  have hlead := locate_agree h true path
  rw [isDirectory, isDirectory, entry, entry]
  revert hlead
  generalize first.locate true path = target
  generalize second.locate true path = target'
  intro hlead
  cases hlead with
  | found hfirst hsecond => cases h.entries.entry hfirst hsecond <;> rfl
  | missing | error => rfl

theorem workingDirectory_agree (h : Agree changed first second) :
    first.workingDirectory = second.workingDirectory := by
  rw [workingDirectory, workingDirectory, isDirectory_agree h, currentPath, currentPath, h.current]

/-! ### What is read -/

/-- Where a path leads to no file that is changed, the same is read. -/
theorem readText_agree (h : Agree changed first second) {path : String}
    (hpath : ∀ location content, first.locate true path = .ok (.found location (.file content)) →
      ¬changed location) :
    first.readText path = second.readText path := by
  have hlead := locate_agree h true path
  rw [readText, readText, entry, entry]
  revert hpath hlead
  generalize first.locate true path = target
  generalize second.locate true path = target'
  intro hpath hlead
  cases hlead with
  | @found location entry entry' hfirst hsecond =>
    cases h.entries.entry hfirst hsecond with
    | file hcontent => rw [hcontent (hpath location _ rfl)]
    | directory | link => rfl
  | missing | error => rfl

end

end FileSystem

namespace Scan

open Entries (Agree distinct_of_at? at?_singleton)

/-- Over directories that agree a walk comes by the same. -/
theorem walkIn_agree {changed : Location → Prop} {first second : Entries}
    (hfirst : Entries.Distinct first) (hsecond : Entries.Distinct second)
    (h : first.Agree changed second) (directory : Path) (place : Location) :
    walkIn directory place first = walkIn directory place second := by
  induction first using Entries.induction_on_directories
    generalizing changed second directory place with
  | nil => rw [List.map_eq_nil_iff.1 h.names_eq.symm]
  | cons name entry first hinner hrest =>
    obtain ⟨⟨name', entry'⟩, second, rfl, rfl, -⟩ := List.map_eq_cons_iff.1 h.names_eq.symm
    have hget : Entries.at? ((name', entry) :: first) [name'] = some entry := by
      rw [at?_singleton, Entries.get?, if_pos rfl]
    have hget' : Entries.at? ((name', entry') :: second) [name'] = some entry' := by
      rw [at?_singleton, Entries.get?, if_pos rfl]
    -- No name stands twice in a directory, so what is left of both still agrees.
    rw [Entries.Distinct] at hfirst hsecond
    rw [walkIn, walkIn, hrest hfirst.2.2 hsecond.2.2 (h.tail hfirst.1 hsecond.1)]
    cases h.entry hget hget' with
    | file | link => rfl
    | @directory inner inner' =>
      rw [walkAt, walkAt, hinner inner rfl hfirst.2.1 hsecond.2.1 (h.below hget hget')]

/-- The same candidates are found in both file systems, or the search fails alike. -/
theorem candidates_agree {changed : Location → Prop} {first second : FileSystem}
    (h : first.Agree changed second) (directory : Path) :
    candidates first directory = candidates second directory := by
  have hlead := FileSystem.locate_agree h true directory.text
  rw [candidates, candidates]
  revert hlead
  generalize first.locate true directory.text = target
  generalize second.locate true directory.text = target'
  intro hlead
  cases hlead with
  | @found location entry entry' hfirst hsecond =>
    have hdistinct := distinct_of_at? first.distinct hfirst
    have hdistinct' := distinct_of_at? second.distinct hsecond
    cases h.entries.entry hfirst hsecond with
    | file | link => rfl
    | directory =>
      have hwalk := walkIn_agree hdistinct hdistinct'
        (h.entries.below hfirst hsecond) directory location
      have hfault : Visit.fault? first = Visit.fault? second := by
        funext visit
        rw [Visit.fault?, Visit.fault?, FileSystem.listingFault?, FileSystem.listingFault?,
          h.closed]
      simp only [walkAt, hwalk, gather, hfault]
  | missing | error => rfl

theorem candidatesOfAll_agree {changed : Location → Prop} {first second : FileSystem}
    (h : first.Agree changed second) (root : Path) (directories : List String) (race : Race) :
    candidatesOfAll first root directories race = candidatesOfAll second root directories race := by
  simp only [candidatesOfAll, candidates_agree h]

/-- In the same race two scans give the same outcome, or fail alike, if no candidate leads to a file
that is changed. -/
theorem run_agree (read : Parser) {changed : Location → Prop} {first second : FileSystem}
    (h : first.Agree changed second) {root : Path} {directories : List String} {race : Race}
    (hread : ∀ paths, candidatesOfAll first root directories race = .ok paths → ∀ path ∈ paths,
      ∀ location content, first.locate true path.text = .ok (.found location (.file content)) →
        ¬changed location) :
    run read first root directories race = run read second root directories race := by
  rw [run, run, ← candidatesOfAll_agree h]
  cases hpaths : candidatesOfAll first root directories race with
  | error fault => rfl
  | ok paths =>
    have hstep : ∀ path ∈ paths, ∀ soFar,
        step read first root soFar path = step read second root soFar path := by
      intro path hpath soFar
      rw [step, step, extract, extract,
        FileSystem.readText_agree h (hread paths hpaths path hpath)]
    exact Traversal.foldlM_congr hstep {}

end Scan

end RouteManifest
