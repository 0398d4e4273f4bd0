import Mathlib.Order.Nat
import RouteManifest.Proofs.Config.Lookup
import RouteManifest.Proofs.FileSystem.Writing

/-!
The configuration that is found is the nearest one. Directories are numbered on the way up. The
search gives the file of the least number that counts, which is one with a configuration file and no
repository before it. Once a file is found it is the configuration of the project: if it cannot be
used nothing is, neither a file further up nor the default.
-/

namespace RouteManifest.Config

/-! ### The nearest directory -/

/-- The directory of a number holds a configuration file, and no directory before it marks a
repository. -/
def Counts (files : FileSystem) (directories : List Path) (number : Nat) : Prop :=
  (∃ directory, directories[number]? = some directory ∧
    files.exists? (directory.join fileName).text = true) ∧
    ∀ before < number, ∀ directory, directories[before]? = some directory →
      files.exists? (directory.join repositoryName).text = false

section
variable {files : FileSystem} {directories : List Path} {found : Path}

/-- A directory that counts and is not the first one has no configuration file before it. -/
theorem exists?_eq_false_of_isLeast {number before : Nat} {directory : Path}
    (h : IsLeast {number | Counts files directories number} number) (hbefore : before < number)
    (hdirectory : directories[before]? = some directory) :
    files.exists? (directory.join fileName).text = false := by
  by_contra hexists
  have hcounts : Counts files directories before := by
    refine ⟨⟨directory, hdirectory, eq_true_of_ne_false hexists⟩, ?_⟩
    intro earlier hearlier
    exact h.1.2 earlier (hearlier.trans hbefore)
  have hle := h.2 hcounts
  omega

theorem findIn?_eq_some_iff_isLeast :
    findIn? files directories = some found ↔
      ∃ number directory, IsLeast {number | Counts files directories number} number ∧
        directories[number]? = some directory ∧ found = directory.join fileName := by
  rw [findIn?_eq_some_iff]
  constructor
  · rintro ⟨before, directory, after, rfl, rfl, hexists, hbefore⟩
    have hhere : (before ++ directory :: after)[before.length]? = some directory := by simp
    have hmem : ∀ {number : Nat} {other : Path}, number < before.length →
        (before ++ directory :: after)[number]? = some other → other ∈ before := by
      intro number other hnumber hother
      rw [List.getElem?_append_left hnumber] at hother
      exact List.mem_of_getElem? hother
    refine ⟨before.length, directory, ⟨⟨⟨directory, hhere, hexists⟩, ?_⟩, ?_⟩, hhere, rfl⟩
    · intro number hnumber other hother
      exact (hbefore other (hmem hnumber hother)).2
    · rintro number ⟨⟨other, hother, hexists'⟩, -⟩
      by_contra hnumber
      rw [(hbefore other (hmem (Nat.lt_of_not_le hnumber) hother)).1] at hexists'
      cases hexists'
  · rintro ⟨number, directory, hleast, hdirectory, rfl⟩
    obtain ⟨⟨same, hsame, hexists⟩, hopen⟩ := hleast.1
    rw [hdirectory] at hsame
    cases hsame
    refine ⟨directories.take number, directory, directories.drop (number + 1), ?_, rfl, hexists, ?_⟩
    · obtain ⟨hnumber, rfl⟩ := List.getElem?_eq_some_iff.1 hdirectory
      rw [List.cons_getElem_drop_succ, List.take_append_drop]
    · intro earlier hearlier
      obtain ⟨before, hbefore⟩ := List.mem_iff_getElem?.1 hearlier
      have hnumber : before < number := by
        by_contra hnumber
        rw [List.getElem?_take, if_neg hnumber] at hbefore
        cases hbefore
      rw [List.getElem?_take, if_pos hnumber] at hbefore
      exact ⟨exists?_eq_false_of_isLeast hleast hnumber hbefore,
        hopen before hnumber earlier hbefore⟩

theorem findIn?_eq_none_iff :
    findIn? files directories = none ↔ ∀ number, ¬Counts files directories number := by
  classical
  constructor
  · intro hnone number hcounts
    have hleast := Nat.isLeast_find ⟨number, hcounts⟩
    obtain ⟨⟨directory, hdirectory, -⟩, -⟩ := hleast.1
    have hfound := findIn?_eq_some_iff_isLeast.2 ⟨_, directory, hleast, hdirectory, rfl⟩
    rw [hnone] at hfound
    cases hfound
  · intro hcounts
    cases hfound : findIn? files directories with
    | none => rfl
    | some found =>
      obtain ⟨number, -, hleast, -⟩ := findIn?_eq_some_iff_isLeast.1 hfound
      exact absurd hleast.1 (hcounts number)

end

/-! ### The file that is found -/

/-- Why the file that is found cannot be used. -/
inductive Unusable (files : FileSystem) (found : Path) : LoadFault → Prop
  | unreadable {reason : FileSystem.Fault} (htext : files.readText found.text = .error reason) :
      Unusable files found (.unreadable found reason)
  | malformed {text : String} {rejection : Json.Rejection}
      (htext : files.readText found.text = .ok text)
      (hconfig : ofJson text = .error rejection) : Unusable files found (.malformed found rejection)
  | invalid {text : String} {config : Config} {fault : Fault}
      (htext : files.readText found.text = .ok text)
      (hconfig : ofJson text = .ok config) (hfault : config.fault? = some fault) :
      Unusable files found (.invalid fault)

section
variable {files : FileSystem} {start found : Path}

theorem loadFile_eq_ok_iff {config : Config} :
    loadFile files found = .ok config ↔
      ∃ text, files.readText found.text = .ok text ∧ ofJson text = .ok config ∧
        config.fault? = none := by
  rw [loadFile]
  constructor
  · intro h
    split at h
    · cases h
    · next text htext =>
      split at h
      · cases h
      · next hconfig =>
        split at h
        · cases h
        · next hvalid =>
          cases h
          exact ⟨text, htext, hconfig, hvalid⟩
  · rintro ⟨text, htext, hconfig, hvalid⟩
    simp only [htext, hconfig, hvalid]

theorem loadFile_eq_error_iff {fault : LoadFault} :
    loadFile files found = .error fault ↔ Unusable files found fault := by
  rw [loadFile]
  constructor
  · intro h
    split at h
    · next htext =>
      cases h
      exact .unreadable htext
    · next htext =>
      split at h
      · next hconfig =>
        cases h
        exact .malformed htext hconfig
      · next hconfig =>
        split at h
        · next hfault =>
          cases h
          exact .invalid htext hconfig hfault
        · cases h
  · rintro (htext | ⟨htext, hconfig⟩ | ⟨htext, hconfig, hfault⟩)
    · simp only [htext]
    · simp only [htext, hconfig]
    · simp only [htext, hconfig, hfault]

theorem load_eq_ok_iff {loaded : Loaded} :
    load files start = .ok loaded ↔
      (find? files start = none ∧ loaded = { config := { paths := ["src"] }, fromFile := false }) ∨
      ∃ found text, find? files start = some found ∧ files.readText found.text = .ok text ∧
        ofJson text = .ok loaded.config ∧ loaded.config.fault? = none ∧ loaded.fromFile = true := by
  rw [load]
  cases hfind : find? files start with
  | none =>
    simp only [true_and, reduceCtorEq, false_and, exists_false, or_false, Except.ok.injEq]
    exact eq_comm
  | some found =>
    simp only [reduceCtorEq, false_and, false_or, Option.some.injEq, exists_and_left,
      exists_eq_left']
    constructor
    · intro h
      cases hfile : loadFile files found with
      | error fault =>
        rw [hfile] at h
        cases h
      | ok config =>
        rw [hfile] at h
        cases h
        obtain ⟨text, htext, hconfig, hvalid⟩ := loadFile_eq_ok_iff.1 hfile
        exact ⟨text, htext, hconfig, hvalid, rfl⟩
    · rintro ⟨text, htext, hconfig, hvalid, hfile⟩
      obtain ⟨config, fromFile⟩ := loaded
      cases hfile
      rw [loadFile_eq_ok_iff.2 ⟨text, htext, hconfig, hvalid⟩]
      rfl

theorem load_eq_error_iff {fault : LoadFault} :
    load files start = .error fault ↔
      ∃ found, find? files start = some found ∧ Unusable files found fault := by
  rw [load]
  simp only [← loadFile_eq_error_iff]
  cases find? files start with
  | none => simp
  | some found =>
    simp only [Option.some.injEq, exists_eq_left']
    cases loadFile files found <;> simp [Except.map]

/-- The configuration of a file that can be read is the one that is written in it. -/
theorem load_of_entry {text : String} {config : Config} (hfind : find? files start = some found)
    (hentry : files.entry found.text = .ok (.file text.toUTF8))
    (hread : (ofJson text).toOption = some config) (hvalid : config.fault? = none) :
    load files start = .ok { config, fromFile := true } := by
  have hjson : ofJson text = .ok config := by
    cases hresult : ofJson text with
    | error rejection =>
      rw [hresult] at hread
      cases hread
    | ok found =>
      rw [hresult] at hread
      cases hread
      rfl
  have htext := FileSystem.readText_of_entry hentry
  exact load_eq_ok_iff.2 (.inr ⟨found, text, hfind, htext, hjson, hvalid, rfl⟩)

end

/-- The nearest configuration counts, for every file system and every absolute path, with all
directories that the path is written with on the way up to the root. The search finds the file of
the least number that counts, and nothing if no number does. Only if nothing is found the default
configuration is taken. A file that is found is taken if it can be read and holds a valid
configuration; otherwise loading fails, for the reason why this file cannot be used. -/
theorem load_nearest (files : FileSystem) {start : Path} {steps : List Path.Segment}
    (hstart : start.segments = .root :: steps) :
    (start.ancestors.head? = some start ∧
      start.ancestors.map Path.segments = steps.inits.reverse.map (.root :: ·)) ∧
    (∀ found, find? files start = some found ↔
      ∃ number directory, IsLeast {number | Counts files start.ancestors number} number ∧
        start.ancestors[number]? = some directory ∧ found = directory.join fileName) ∧
    (find? files start = none ↔ ∀ number, ¬Counts files start.ancestors number) ∧
    (∀ loaded, load files start = .ok loaded ↔
      (find? files start = none ∧ loaded = { config := { paths := ["src"] }, fromFile := false }) ∨
      ∃ found text, find? files start = some found ∧ files.readText found.text = .ok text ∧
        ofJson text = .ok loaded.config ∧ loaded.config.fault? = none ∧ loaded.fromFile = true) ∧
    ∀ fault, load files start = .error fault ↔
      ∃ found, find? files start = some found ∧ Unusable files found fault :=
  ⟨⟨Path.head?_ancestors start, Path.segments_ancestors hstart⟩,
    fun _ => findIn?_eq_some_iff_isLeast,
    findIn?_eq_none_iff, fun _ => load_eq_ok_iff, fun _ => load_eq_error_iff⟩

/-- The configuration file at the top names two directories. -/
def sharedText : String := (Config.toJson { paths := ["app", "lib"] }).compact

/-- A configuration file at the top. Below it are two repositories, one with a directory that has
the name of a configuration file and one without, and a directory that is in no repository. -/
def repositories : FileSystem where
  entries := [(configName, .file sharedText.toUTF8),
    (⟨"marked", by decide⟩, .directory [(repository, .directory []), (configName, .directory []),
      (⟨"deep", by decide⟩, .directory [])]),
    (⟨"bare", by decide⟩, .directory [(repository, .file "".toUTF8)]),
    (⟨"plain", by decide⟩, .directory [(⟨"deep", by decide⟩, .directory [])])]
  distinct := by
    simp [Entries.Distinct, Entry.Distinct, configName, repository, fileName, repositoryName]

/-- What is found beside the mark of a repository cannot be read, and what lies further up is not
found. Where there is no such mark, the file at the top is. -/
theorem load_nearest_marked :
    Path.segments ⟨"/marked/deep"⟩ = [.root, .name "marked", .name "deep"] ∧
      Path.segments ⟨"/bare"⟩ = [.root, .name "bare"] ∧
      Path.segments ⟨"/plain/deep"⟩ = [.root, .name "plain", .name "deep"] ∧
      (∃ number directory,
        IsLeast {number | Counts repositories (Path.ancestors ⟨"/marked/deep"⟩) number} number ∧
        (Path.ancestors ⟨"/marked/deep"⟩)[number]? = some directory ∧
        ⟨"/marked/.routablerc.json"⟩ = directory.join fileName) ∧
      load repositories ⟨"/marked/deep"⟩ =
        .error (.unreadable ⟨"/marked/.routablerc.json"⟩ .isDirectory) ∧
      (∀ number, ¬Counts repositories (Path.ancestors ⟨"/bare"⟩) number) ∧
      load repositories ⟨"/bare"⟩ = .ok {} ∧
      (∃ number directory,
        IsLeast {number | Counts repositories (Path.ancestors ⟨"/plain/deep"⟩) number} number ∧
        (Path.ancestors ⟨"/plain/deep"⟩)[number]? = some directory ∧
        ⟨"/.routablerc.json"⟩ = directory.join fileName) ∧
      load repositories ⟨"/plain/deep"⟩ =
        .ok { config := { paths := ["app", "lib"] }, fromFile := true } := by
  have hmarked : Path.segments ⟨"/marked/deep"⟩ = .root :: [.name "marked", .name "deep"] := by
    decide
  have hbare : Path.segments ⟨"/bare"⟩ = .root :: [.name "bare"] := by decide
  have hplain : Path.segments ⟨"/plain/deep"⟩ = .root :: [.name "plain", .name "deep"] := by decide
  obtain ⟨-, hfind, -, -, hfails⟩ := load_nearest repositories hmarked
  obtain ⟨-, -, hcounts, hloads, -⟩ := load_nearest repositories hbare
  obtain ⟨-, hfind', -, -, -⟩ := load_nearest repositories hplain
  have hfound : find? repositories ⟨"/marked/deep"⟩ = some ⟨"/marked/.routablerc.json"⟩ := by
    decide +kernel
  have htext : repositories.readText "/marked/.routablerc.json" = .error .isDirectory := by
    decide +kernel
  have hnone : find? repositories ⟨"/bare"⟩ = none := by decide +kernel
  have hshared : find? repositories ⟨"/plain/deep"⟩ = some ⟨"/.routablerc.json"⟩ := by
    decide +kernel
  have hentry : repositories.entry "/.routablerc.json" = .ok (.file sharedText.toUTF8) := by rfl
  have hjson : (ofJson sharedText).toOption = some { paths := ["app", "lib"] } := by decide +kernel
  refine ⟨hmarked, hbare, hplain, (hfind _).1 hfound, ?_, hcounts.1 hnone, ?_,
    (hfind' _).1 hshared, load_of_entry hshared hentry hjson (by decide)⟩
  · exact (hfails _).2 ⟨_, hfound, .unreadable htext⟩
  · exact (hloads _).2 (.inl ⟨hnone, rfl⟩)

end RouteManifest.Config
