import RouteManifest.Proofs.Traversal
import RouteManifest.Scan

/-!
A scan is the ordered concatenation of what its files contribute, each file by itself. Faults have a
precedence: a directory that cannot be searched comes before a file that cannot be read, wherever
the file lies, and among files the first one counts. Among directories any of them may be the one
that is blamed, since they are searched side by side. This is said for every file system and every
parser.
-/

namespace RouteManifest.Scan

open Traversal

/-! ### Outcomes side by side -/

/-- What two scans yield together. -/
def Outcome.append (first second : Outcome) : Outcome where
  registry := first.registry ++ second.registry
  diagnostics := first.diagnostics ++ second.diagnostics
  scanned := first.scanned + second.scanned
  empty := first.empty ++ second.empty

/-- What several scans yield together, in order. -/
def Outcome.concat (parts : List Outcome) : Outcome := parts.foldr Outcome.append {}

namespace Outcome

theorem append_assoc (first second third : Outcome) :
    (first.append second).append third = first.append (second.append third) := by
  simp [append, Nat.add_assoc]

theorem empty_append (outcome : Outcome) : append {} outcome = outcome := by
  simp [append]

theorem append_empty (outcome : Outcome) : outcome.append {} = outcome := by
  simp [append]

theorem concat_append (first second : List Outcome) :
    concat (first ++ second) = (concat first).append (concat second) := by
  induction first with
  | nil => exact (empty_append _).symm
  | cons part first ih =>
    rw [List.cons_append, concat, List.foldr_cons, ← concat, ih, ← append_assoc]
    rfl

/-- A file adds what it would add to nothing. -/
theorem add_eq_append (soFar : Outcome) (path : String) (found : Extraction) :
    soFar.add path found = soFar.append (add {} path found) := by
  unfold add append
  by_cases hpatterns : found.patterns.isEmpty = true
  · by_cases hsites : found.siteCount = 0
    · simp [hpatterns, hsites]
    · simp [hpatterns, hsites]
  · simp [hpatterns]

end Outcome

/-! ### One file -/

/-- A file can be read, and its text can be parsed. -/
def Parses (read : Parser) (files : FileSystem) (path : Path) : Prop :=
  ∃ text sites, files.readText path.text = .ok text ∧ read.declarations text path.text = .ok sites

/-- A file cannot be read, or its text cannot be parsed. -/
inductive Stops (read : Parser) (files : FileSystem) (path : Path) : Fault → Prop
  | unreadable {reason : FileSystem.Fault} (htext : files.readText path.text = .error reason) :
      Stops read files path (.unreadable path (.reading reason))
  | illFormed {text : String} {fault : Fault} (htext : files.readText path.text = .ok text)
      (hsites : read.declarations text path.text = .error fault) : Stops read files path fault

/-- What a file contributes to a scan: besides its diagnostics a record if it declares patterns, its
path if it declares something but no pattern, and nothing if it declares nothing. -/
inductive Contributes (read : Parser) (files : FileSystem) (root path : Path) : Outcome → Prop
  | record {text : String} {sites : List Declaration} {found : Extraction}
      (htext : files.readText path.text = .ok text)
      (hsites : read.declarations text path.text = .ok sites)
      (hfound : found = Extraction.ofDeclarations path.text sites)
      (hpatterns : found.patterns ≠ []) :
      Contributes read files root path
        { registry := [⟨found.patterns, Path.route root path, found.matchTarget⟩],
          diagnostics := found.diagnostics,
          scanned := 1 }
  | empty {text : String} {sites : List Declaration} {found : Extraction}
      (htext : files.readText path.text = .ok text)
      (hsites : read.declarations text path.text = .ok sites)
      (hfound : found = Extraction.ofDeclarations path.text sites) (hpatterns : found.patterns = [])
      (hsome : sites ≠ []) :
      Contributes read files root path
        { diagnostics := found.diagnostics, scanned := 1, empty := [Path.route root path] }
  | nothing {text : String} (htext : files.readText path.text = .ok text)
      (hsites : read.declarations text path.text = .ok []) :
      Contributes read files root path { scanned := 1 }

theorem siteCount_add (file : String) (soFar : Extraction) (site : Declaration) :
    (Extraction.add file soFar site).siteCount = soFar.siteCount + 1 := by
  unfold Extraction.add
  split <;> rfl

theorem siteCount_ofDeclarations (file : String) (sites : List Declaration) :
    (Extraction.ofDeclarations file sites).siteCount = sites.length := by
  have hfrom : ∀ start : Extraction, (sites.foldl (Extraction.add file) start).siteCount =
      start.siteCount + sites.length := by
    induction sites with
    | nil =>
      intro start
      rfl
    | cons site sites ih =>
      intro start
      rw [List.foldl_cons, ih, siteCount_add, List.length_cons]
      omega
  exact (hfrom {}).trans (Nat.zero_add _)

theorem extract_eq_ok_iff {read : Parser} {files : FileSystem} {path : Path} {found : Extraction} :
    extract read files path = .ok found ↔
      ∃ text sites, files.readText path.text = .ok text ∧
        read.declarations text path.text = .ok sites ∧
        found = Extraction.ofDeclarations path.text sites := by
  rw [extract]
  cases files.readText path.text with
  | error reason => simp
  | ok text =>
    rw [map_eq_ok_iff]
    simp [eq_comm]

theorem extract_eq_error_iff {read : Parser} {files : FileSystem} {path : Path} {fault : Fault} :
    extract read files path = .error fault ↔ Stops read files path fault := by
  rw [extract]
  constructor
  · intro h
    cases htext : files.readText path.text with
    | error reason =>
      rw [htext] at h
      cases h
      exact .unreadable htext
    | ok text =>
      rw [htext] at h
      exact .illFormed htext (map_eq_error_iff.1 h)
  · intro h
    cases h with
    | unreadable htext => rw [htext]
    | illFormed htext hsites =>
      rw [htext]
      exact map_eq_error_iff.2 hsites

/-- What a file contributes is what it adds to nothing. -/
theorem step_empty_eq_ok_iff {read : Parser} {files : FileSystem} {root path : Path}
    {part : Outcome} :
    step read files root {} path = .ok part ↔ Contributes read files root path part := by
  simp only [step, map_eq_ok_iff, extract_eq_ok_iff]
  constructor
  · rintro ⟨found, ⟨text, sites, htext, hsites, hfound⟩, rfl⟩
    by_cases hpatterns : found.patterns = []
    · by_cases hsome : sites = []
      · subst hsome hfound
        exact .nothing htext hsites
      · have hcount : found.siteCount ≠ 0 := by
          rw [hfound, siteCount_ofDeclarations]
          exact fun hlength => hsome (List.length_eq_zero_iff.1 hlength)
        have hempty : Contributes read files root path _ :=
          .empty htext hsites hfound hpatterns hsome
        simpa [Outcome.add, hpatterns, hcount] using hempty
    · have hrecord : Contributes read files root path _ := .record htext hsites hfound hpatterns
      simpa [Outcome.add, hpatterns] using hrecord
  · intro h
    cases h with
    | record htext hsites hfound hpatterns =>
      exact ⟨_, ⟨_, _, htext, hsites, hfound⟩, by simp [Outcome.add, hpatterns]⟩
    | @empty text sites found htext hsites hfound hpatterns hsome =>
      have hcount : found.siteCount ≠ 0 := by
        rw [hfound, siteCount_ofDeclarations]
        exact fun hlength => hsome (List.length_eq_zero_iff.1 hlength)
      exact ⟨found, ⟨text, sites, htext, hsites, hfound⟩, by simp [Outcome.add, hpatterns, hcount]⟩
    | nothing htext hsites => exact ⟨_, ⟨_, _, htext, hsites, rfl⟩, rfl⟩

theorem step_eq_error_iff {read : Parser} {files : FileSystem} {root path : Path} {soFar : Outcome}
    {fault : Fault} :
    step read files root soFar path = .error fault ↔ Stops read files path fault := by
  rw [step, map_eq_error_iff, extract_eq_error_iff]

/-! ### Files one after another -/

/-- Reading a file adds to what was found before it what the file contributes by itself. -/
theorem step_eq_append (read : Parser) (files : FileSystem) (root : Path) (soFar : Outcome)
    (path : Path) :
    step read files root soFar path = (step read files root {} path).map soFar.append := by
  unfold step
  cases extract read files path with
  | error fault => rfl
  | ok found => exact congrArg Except.ok (Outcome.add_eq_append soFar _ found)

/-- A run over files puts their contributions side by side, behind what was found before. The
induction is on the files and takes every beginning. -/
theorem foldlM_step (read : Parser) (files : FileSystem) (root : Path) (paths : List Path)
    (start : Outcome) :
    paths.foldlM (step read files root) start =
      (paths.mapM (step read files root {})).map fun parts => start.append (.concat parts) := by
  induction paths generalizing start with
  | nil => exact congrArg Except.ok (Outcome.append_empty start).symm
  | cons path paths ih =>
    rw [List.foldlM_cons, List.mapM_cons, step_eq_append]
    cases step read files root {} path with
    | error fault => rfl
    | ok part =>
      have hrest := ih (start.append part)
      simp only [Except.map, bind, Except.bind] at hrest ⊢
      rw [hrest]
      cases paths.mapM (step read files root {}) with
      | error fault => rfl
      | ok parts => exact congrArg Except.ok (Outcome.append_assoc start part _)

/-- The candidates below several directories, directory by directory. -/
def Collected (files : FileSystem) (root : Path) (directories : List String)
    (paths : List Path) : Prop :=
  ∃ found, List.Forall₂ (fun directory below => candidates files (root.join directory) = .ok below)
    directories found ∧
    paths = found.flatten

section
variable {files : FileSystem} {root : Path} {directories : List String}

/-- Searches without a fault are those that found something, whatever it is. -/
theorem faults_eq_nil_iff {searches : List (Except Fault (List Path))} {found : List (List Path)} :
    searches.filterMap fault? = [] ∧ searches.filterMap Except.toOption = found ↔
      searches = found.map .ok := by
  induction searches generalizing found with
  | nil => simp [eq_comm]
  | cons search searches ih =>
    cases search with
    | error fault => cases found <;> simp [fault?]
    | ok below => cases found <;> simp [fault?, Except.toOption, ← ih, and_left_comm]

/-- The faults among which a race decides. -/
theorem mem_faults_iff {fault : Fault} :
    fault ∈ (directories.map fun directory => candidates files (root.join directory)).filterMap
      fault? ↔
      ∃ directory ∈ directories, candidates files (root.join directory) = .error fault := by
  have hfault : ∀ search : Except Fault (List Path), fault? search = some fault ↔
      search = .error fault := by
    rintro (_ | _) <;> simp [fault?]
  simp only [List.mem_filterMap, List.mem_map, exists_exists_and_eq_and, hfault]

theorem collected_iff {paths : List Path} :
    Collected files root directories paths ↔
      ∃ found : List (List Path),
        (directories.map fun directory => candidates files (root.join directory)) = found.map .ok ∧
          paths = found.flatten := by
  simp only [Collected, ← List.forall₂_eq_eq_eq, List.forall₂_map_left_iff,
    List.forall₂_map_right_iff]

/-- What is found does not depend on the race: there is none unless a search fails. -/
theorem candidatesOfAll_eq_ok_iff {paths : List Path} {race : Race} :
    candidatesOfAll files root directories race = .ok paths ↔
      Collected files root directories paths := by
  simp only [collected_iff, ← faults_eq_nil_iff, candidatesOfAll]
  cases (directories.map fun directory => candidates files (root.join directory)).filterMap
      fault? with
  | nil => simp [eq_comm]
  | cons fault others => simp

theorem candidatesOfAll_of_race {paths : List Path} {race : Race}
    (h : candidatesOfAll files root directories race = .ok paths) (other : Race) :
    candidatesOfAll files root directories other = .ok paths :=
  candidatesOfAll_eq_ok_iff.2 (candidatesOfAll_eq_ok_iff.1 h)

/-- The race that a fault wins wherever it takes part. -/
def Race.wonBy (winner : Fault) : Race where
  first fault others := if winner ∈ fault :: others then winner else fault
  first_mem fault others := by
    split
    · assumption
    · exact List.mem_cons_self

/-- Every directory that cannot be searched may be the one that is blamed, and no other one. -/
theorem exists_race_iff {fault : Fault} :
    (∃ race, candidatesOfAll files root directories race = .error fault) ↔
      ∃ directory ∈ directories, candidates files (root.join directory) = .error fault := by
  simp only [← mem_faults_iff, candidatesOfAll]
  cases (directories.map fun directory => candidates files (root.join directory)).filterMap
    fault? with
  | nil => simp
  | cons other others =>
    simp only [Except.error.injEq]
    constructor
    · rintro ⟨race, rfl⟩
      exact race.first_mem other others
    · intro hmem
      exact ⟨.wonBy fault, if_pos hmem⟩

end

/-! ### The whole scan -/

section
variable {read : Parser} {files : FileSystem} {root : Path} {race : Race}

theorem run_eq (directories : List String) :
    run read files root directories race =
      candidatesOfAll files root directories race >>= fun paths =>
        (paths.mapM (step read files root {})).map Outcome.concat := by
  have hstart : ∀ paths : List Path, paths.foldlM (step read files root) {} =
      (paths.mapM (step read files root {})).map Outcome.concat := by
    intro paths
    rw [foldlM_step]
    simp only [Outcome.empty_append]
  simp only [run, hstart]

/-- Where every directory can be searched there is no race, and only the files that are found
count. -/
theorem run_of_collected {directories : List String} {paths : List Path}
    (h : Collected files root directories paths) :
    run read files root directories race =
      (paths.mapM (step read files root {})).map Outcome.concat := by
  rw [run_eq, candidatesOfAll_eq_ok_iff.2 h]
  rfl

theorem run_eq_ok_iff {directories : List String} {outcome : Outcome} :
    run read files root directories race = .ok outcome ↔
      ∃ paths parts, Collected files root directories paths ∧
        List.Forall₂ (Contributes read files root) paths parts ∧ outcome = .concat parts := by
  simp only [run_eq, bind_eq_ok_iff, map_eq_ok_iff, candidatesOfAll_eq_ok_iff, mapM_eq_ok_iff,
    step_empty_eq_ok_iff]
  constructor
  · rintro ⟨paths, hpaths, parts, hparts, rfl⟩
    exact ⟨paths, parts, hpaths, hparts, rfl⟩
  · rintro ⟨paths, parts, hpaths, hparts, rfl⟩
    exact ⟨paths, hpaths, parts, hparts, rfl⟩

theorem exists_contributes_iff {path : Path} :
    (∃ part, Contributes read files root path part) ↔ Parses read files path := by
  simp only [← step_empty_eq_ok_iff, step, map_eq_ok_iff, extract_eq_ok_iff]
  constructor
  · rintro ⟨_, _, ⟨text, sites, htext, hsites, -⟩, -⟩
    exact ⟨text, sites, htext, hsites⟩
  · rintro ⟨text, sites, htext, hsites⟩
    exact ⟨_, _, ⟨text, sites, htext, hsites, rfl⟩, rfl⟩

theorem exists_run_eq_ok_iff {directories : List String} :
    (∃ outcome, run read files root directories race = .ok outcome) ↔
      ∀ directory ∈ directories, ∃ below, candidates files (root.join directory) = .ok below ∧
        ∀ path ∈ below, Parses read files path := by
  have hparts : ∀ paths, (∃ parts, List.Forall₂ (Contributes read files root) paths parts) ↔
      ∀ path ∈ paths, Parses read files path := by
    intro paths
    have hforall : ∀ parts, List.Forall₂ (Contributes read files root) paths parts ↔
        paths.mapM (step read files root {}) = .ok parts := by
      intro parts
      simp only [mapM_eq_ok_iff, step_empty_eq_ok_iff]
    simp only [hforall, exists_mapM_eq_ok_iff, step_empty_eq_ok_iff, exists_contributes_iff]
  simp only [run_eq_ok_iff]
  constructor
  · rintro ⟨_, _, parts, ⟨found, hfound, rfl⟩, hcontributes, rfl⟩ directory hdirectory
    have hparses := (hparts found.flatten).1 ⟨parts, hcontributes⟩
    obtain ⟨below, hbelow⟩ := exists_mapM_eq_ok_iff.1 ⟨found, mapM_eq_ok_iff.2 hfound⟩ directory
      hdirectory
    refine ⟨below, hbelow, ?_⟩
    intro path hpath
    exact hparses path ((mem_flatten_iff hfound).2 ⟨directory, hdirectory, below, hbelow, hpath⟩)
  · intro h
    obtain ⟨found, hmap⟩ := exists_mapM_eq_ok_iff.2 fun directory hdirectory =>
      (h directory hdirectory).imp fun _ => And.left
    have hfound := mapM_eq_ok_iff.1 hmap
    have hparses : ∀ path ∈ found.flatten, Parses read files path := by
      intro path hpath
      obtain ⟨directory, hdirectory, below, hbelow, hmem⟩ := (mem_flatten_iff hfound).1 hpath
      obtain ⟨below', hbelow', hall⟩ := h directory hdirectory
      rw [hbelow, Except.ok.injEq] at hbelow'
      exact hall path (hbelow' ▸ hmem)
    obtain ⟨parts, hcontributes⟩ := (hparts found.flatten).2 hparses
    exact ⟨_, _, parts, ⟨found, hfound, rfl⟩, hcontributes, rfl⟩

theorem collected_append_iff {first second : List String} {paths : List Path} :
    Collected files root (first ++ second) paths ↔
      ∃ front back, Collected files root first front ∧ Collected files root second back ∧
        paths = front ++ back := by
  unfold Collected
  constructor
  · rintro ⟨found, hfound, rfl⟩
    obtain ⟨front, back, hfront, hback, rfl⟩ := forall₂_append_left_iff.1 hfound
    exact ⟨_, _, ⟨front, hfront, rfl⟩, ⟨back, hback, rfl⟩, List.flatten_append⟩
  · rintro ⟨_, _, ⟨front, hfront, rfl⟩, ⟨back, hback, rfl⟩, rfl⟩
    exact ⟨front ++ back, forall₂_append_left_iff.2 ⟨front, back, hfront, hback, rfl⟩,
      List.flatten_append.symm⟩

theorem run_append_eq_ok_iff {first second : List String} {outcome : Outcome} :
    run read files root (first ++ second) race = .ok outcome ↔
      ∃ front back, run read files root first race = .ok front ∧
        run read files root second race = .ok back ∧ outcome = front.append back := by
  simp only [run_eq_ok_iff, collected_append_iff]
  constructor
  · rintro ⟨_, _, ⟨above, below, habove, hbelow, rfl⟩, hparts, rfl⟩
    obtain ⟨front, back, hfront, hback, rfl⟩ := forall₂_append_left_iff.1 hparts
    refine ⟨_, _, ⟨above, front, habove, hfront, rfl⟩, ⟨below, back, hbelow, hback, rfl⟩, ?_⟩
    exact Outcome.concat_append front back
  · rintro ⟨_, _, ⟨above, front, habove, hfront, rfl⟩, ⟨below, back, hbelow, hback, rfl⟩, rfl⟩
    refine ⟨above ++ below, front ++ back, ⟨above, below, habove, hbelow, rfl⟩, ?_, ?_⟩
    · exact forall₂_append_left_iff.2 ⟨front, back, hfront, hback, rfl⟩
    · exact (Outcome.concat_append front back).symm

/-- A scan fails because a search does, or because a file stops it. -/
theorem run_eq_error_iff {directories : List String} {fault : Fault} :
    run read files root directories race = .error fault ↔
      candidatesOfAll files root directories race = .error fault ∨
      ∃ before path after, Collected files root directories (before ++ path :: after) ∧
        (∀ earlier ∈ before, Parses read files earlier) ∧ Stops read files path fault := by
  simp only [run_eq, bind_eq_error_iff, map_eq_error_iff, candidatesOfAll_eq_ok_iff,
    mapM_eq_error_iff, step_eq_error_iff, step_empty_eq_ok_iff, exists_contributes_iff]
  refine or_congr_right ?_
  constructor
  · rintro ⟨_, hpaths, before, path, after, rfl, hbefore, hpath⟩
    exact ⟨before, path, after, hpaths, hbefore, hpath⟩
  · rintro ⟨before, path, after, hpaths, hbefore, hpath⟩
    exact ⟨_, hpaths, before, path, after, rfl, hbefore, hpath⟩

end

/-- The faults of two directories of a project, neither of which can be searched. -/
def Rivals (files : FileSystem) (root : Path) (directories : List String) (fault fault' : Fault) :
    Prop :=
  ∃ directory ∈ directories, ∃ directory' ∈ directories, directory ≠ directory' ∧
    candidates files (root.join directory) = .error fault ∧
      candidates files (root.join directory') = .error fault'

/-- In two races a scan ends alike, unless each of them blames another directory. -/
theorem run_races (read : Parser) (files : FileSystem) (root : Path) (directories : List String)
    (race race' : Race) :
    run read files root directories race' = run read files root directories race ∨
      ∃ fault fault', Rivals files root directories fault fault' ∧
        run read files root directories race = .error fault ∧
          run read files root directories race' = .error fault' := by
  cases hfirst : candidatesOfAll files root directories race with
  | ok paths =>
    have hcollected := candidatesOfAll_eq_ok_iff.1 hfirst
    exact .inl ((run_of_collected hcollected).trans (run_of_collected hcollected).symm)
  | error fault =>
    cases hsecond : candidatesOfAll files root directories race' with
    | ok paths =>
      cases hfirst.symm.trans (candidatesOfAll_of_race hsecond race)
    | error fault' =>
      have hrun : run read files root directories race = .error fault :=
        run_eq_error_iff.2 (.inl hfirst)
      have hrun' : run read files root directories race' = .error fault' :=
        run_eq_error_iff.2 (.inl hsecond)
      by_cases hsame : fault = fault'
      · exact .inl (hrun'.trans (hsame ▸ hrun.symm))
      · obtain ⟨directory, hmem, hdirectory⟩ := exists_race_iff.1 ⟨race, hfirst⟩
        obtain ⟨directory', hmem', hdirectory'⟩ := exists_race_iff.1 ⟨race', hsecond⟩
        refine .inr ⟨fault, fault',
          ⟨directory, hmem, directory', hmem', ?_, hdirectory, hdirectory'⟩,
          hrun, hrun'⟩
        rintro rfl
        rw [hdirectory] at hdirectory'
        exact hsame (Except.error.inj hdirectory')

/-- What a scan is, for every file system, parser, root and list of directories. It succeeds if and
only if every directory can be searched and every file below them parses. A success is what the
files contribute, side by side in order, so that directories can be split anywhere. A failure is
that of a directory that cannot be searched, of any of them if there are several, and otherwise that
of the first file that does not parse. But for the choice between directories, the race is of no
account. -/
theorem run_contributions (read : Parser) (files : FileSystem) (root : Path) :
    (∀ directories race, (∃ outcome, run read files root directories race = .ok outcome) ↔
      ∀ directory ∈ directories, ∃ below, candidates files (root.join directory) = .ok below ∧
        ∀ path ∈ below, Parses read files path) ∧
    (∀ first second outcome race, run read files root (first ++ second) race = .ok outcome ↔
      ∃ front back, run read files root first race = .ok front ∧
        run read files root second race = .ok back ∧ outcome = front.append back) ∧
    (∀ directories outcome race, run read files root directories race = .ok outcome ↔
      ∃ paths parts, Collected files root directories paths ∧
        List.Forall₂ (Contributes read files root) paths parts ∧ outcome = .concat parts) ∧
    (∀ directories fault race, run read files root directories race = .error fault ↔
      candidatesOfAll files root directories race = .error fault ∨
      ∃ before path after, Collected files root directories (before ++ path :: after) ∧
        (∀ earlier ∈ before, Parses read files earlier) ∧ Stops read files path fault) ∧
    ∀ directories fault, (∃ race, candidatesOfAll files root directories race = .error fault) ↔
      ∃ directory ∈ directories, candidates files (root.join directory) = .error fault :=
  ⟨fun _ _ => exists_run_eq_ok_iff, fun _ _ _ _ => run_append_eq_ok_iff,
    fun _ _ _ => run_eq_ok_iff, fun _ _ _ => run_eq_error_iff, fun _ _ => exists_race_iff⟩

/-- The first of two directories cannot be searched, and still it is the second one that is
blamed. -/
theorem run_blames_second :
    candidates {} (Path.join ⟨"."⟩ "missing1") =
        .error (.unreadable ⟨"./missing1"⟩ (.reading .notFound)) ∧
      ∃ race, run ⟨fun _ _ => .ok []⟩ {} ⟨"."⟩ ["missing1", "missing2"] race =
        .error (.unreadable ⟨"./missing2"⟩ (.reading .notFound)) := by
  have hsecond : candidates {} (Path.join ⟨"."⟩ "missing2") =
      .error (.unreadable ⟨"./missing2"⟩ (.reading .notFound)) := by decide
  obtain ⟨race, hrace⟩ :=
    exists_race_iff.2 ⟨"missing2", List.mem_cons_of_mem _ List.mem_cons_self, hsecond⟩
  exact ⟨by decide, race, run_eq_error_iff.2 (.inl hrace)⟩

end RouteManifest.Scan
