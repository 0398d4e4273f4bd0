import RouteManifest.Proofs.Command.Generate
import RouteManifest.Proofs.Config.Nearest
import RouteManifest.Proofs.Scan.Listing
import RouteManifest.Proofs.Session.History

/-!
The configuration that a command scans with. The directories come from the user, from a
configuration file or from the default, and wherever they come from they are valid. Where the user
gives directories a configuration file has to be readable and valid as well, but apart from that the
directories in it make no difference.
-/

namespace RouteManifest

namespace Config

/-! ### Valid directories -/

/-- The name of a directory that can be scanned: it is not blank, and it does not start with a
slash. -/
structure IsDirectoryName (directory : String) : Prop where
  visible : ∃ c ∈ directory.toList, Text.blanks.contains c = false
  relative : directory.toList.head? ≠ some '/'

theorem pathFault?_eq_none_iff {directory : String} :
    pathFault? directory = none ↔ IsDirectoryName directory := by
  rw [pathFault?]
  constructor
  · intro h
    split at h
    · cases h
    · next hblank =>
      split at h
      · cases h
      · next habsolute =>
        refine ⟨?_, by simpa [Path.isAbsolute] using habsolute⟩
        simpa [Text.isBlank] using hblank
  · rintro ⟨hvisible, hrelative⟩
    have hblank : Text.isBlank directory = false := by simpa [Text.isBlank] using hvisible
    have habsolute : (Path.mk directory).isAbsolute = false := by
      simpa [Path.isAbsolute] using hrelative
    rw [hblank, habsolute]
    rfl

theorem fault?_eq_none_iff {config : Config} :
    config.fault? = none ↔ config.paths ≠ [] ∧ ∀ directory ∈ config.paths,
      IsDirectoryName directory := by
  rw [fault?]
  split
  · next hempty => simp [List.isEmpty_iff.1 hempty]
  · next hne =>
    rw [List.findSome?_eq_none_iff]
    simp only [pathFault?_eq_none_iff]
    rw [List.isEmpty_iff] at hne
    exact ⟨fun h => ⟨hne, h⟩, fun h => h.2⟩

/-- The directories that are scanned: those that the user gives, or else those of the configuration
file, or the default one if there is no such file. -/
inductive Chosen (files : FileSystem) (root : Path) : List String → List String → Prop
  | given {directories : List String} (h : directories ≠ []) :
      Chosen files root directories directories
  | filed {path : Path} {text : String} {config : Config} (hfind : find? files root = some path)
      (htext : files.readText path.text = .ok text) (hconfig : ofJson text = .ok config) :
      Chosen files root [] config.paths
  | default (hfind : find? files root = none) : Chosen files root [] ["src"]

theorem Chosen.eq_of_given {files : FileSystem} {root : Path} {directories paths : List String}
    (h : Chosen files root directories paths) (hgiven : directories ≠ []) :
    paths = directories := by
  cases h with
  | given => rfl
  | filed | default => exact absurd rfl hgiven

theorem chosen_of_load {files : FileSystem} {root : Path} {loaded : Loaded}
    (h : load files root = .ok loaded) :
    loaded.config.fault? = none ∧ Chosen files root [] loaded.config.paths := by
  rcases load_eq_ok_iff.1 h with ⟨hfind, rfl⟩ | ⟨path, text, hfind, htext, hconfig, hvalid, -⟩
  · exact ⟨by decide, .default hfind⟩
  · exact ⟨hvalid, .filed hfind htext hconfig⟩

end Config

namespace Command

section
variable {files : FileSystem} {root : Path} {directories : List String}

theorem configuration_of_valid (hgiven : directories ≠ [])
    (hloaded : ∃ loaded, Config.load files root = .ok loaded)
    (hvalid : Config.fault? { paths := directories } = none) :
    configuration files root directories = .ok { paths := directories } := by
  obtain ⟨loaded, hloaded⟩ := hloaded
  have hne : directories.isEmpty = false := by simpa using hgiven
  simp only [configuration, hloaded, hne, Bool.false_eq_true, if_false, hvalid]

theorem configuration_of_fault {fault : Config.Fault} (hgiven : directories ≠ [])
    (hloaded : ∃ loaded, Config.load files root = .ok loaded)
    (hfault : Config.fault? { paths := directories } = some fault) :
    configuration files root directories = .error (.directories fault) := by
  obtain ⟨loaded, hloaded⟩ := hloaded
  have hne : directories.isEmpty = false := by simpa using hgiven
  simp only [configuration, hloaded, hne, Bool.false_eq_true, if_false, hfault]

theorem configuration_cases {config : Config}
    (h : configuration files root directories = .ok config) :
    (∃ loaded, Config.load files root = .ok loaded) ∧ config.fault? = none ∧
      Config.Chosen files root directories config.paths := by
  cases hload : Config.load files root with
  | error fault =>
    rw [configuration, hload] at h
    cases h
  | ok loaded =>
    refine ⟨⟨loaded, rfl⟩, ?_⟩
    by_cases hgiven : directories = []
    · subst hgiven
      rw [configuration, hload] at h
      cases h
      exact Config.chosen_of_load hload
    · cases hfault : Config.fault? { paths := directories } with
      | some fault =>
        rw [configuration_of_fault hgiven ⟨loaded, hload⟩ hfault] at h
        cases h
      | none =>
        rw [configuration_of_valid hgiven ⟨loaded, hload⟩ hfault] at h
        cases h
        exact ⟨hfault, .given hgiven⟩

/-- There is a configuration if that of the project can be loaded and what the user gives is
valid. -/
theorem exists_configuration_iff :
    (∃ config, configuration files root directories = .ok config) ↔
      (∃ loaded, Config.load files root = .ok loaded) ∧
        (directories = [] ∨ Config.fault? { paths := directories } = none) := by
  constructor
  · rintro ⟨⟨paths⟩, h⟩
    obtain ⟨hloaded, hvalid, hchosen⟩ := configuration_cases h
    refine ⟨hloaded, ?_⟩
    cases hchosen with
    | given _ => exact .inr hvalid
    | filed | default => exact .inl rfl
  · rintro ⟨⟨loaded, hloaded⟩, hdirectories⟩
    by_cases hgiven : directories = []
    · subst hgiven
      exact ⟨loaded.config, by rw [configuration, hloaded]; rfl⟩
    · exact ⟨_, configuration_of_valid hgiven ⟨loaded, hloaded⟩ (hdirectories.resolve_left hgiven)⟩

end

/-! ### The session of a command -/

/-- What holds of the session that a command scans with, whatever the file system holds when it
scans and whatever the race. -/
structure Configured (read : Parser) (files : FileSystem) (options : ScanOptions)
    (session : Session) : Prop where
  root : projectRoot files options = .ok session.root
  chosen : Config.Chosen files session.root options.paths session.config.paths
  scans : ∀ later race, (session.startBuild later race).2 =
    Scan.run read later session.root session.config.paths race
  nonempty : session.config.paths ≠ []
  valid : ∀ directory ∈ session.config.paths, Config.IsDirectoryName directory
  directories : ∀ directory ∈ session.config.paths,
    (session.root.join directory).text = session.root.text ++ directory ∨
      (session.root.join directory).text = session.root.text ++ "/" ++ directory
  found : ∀ later race paths,
    Scan.candidatesOfAll later session.root session.config.paths race = .ok paths →
      ∀ path ∈ paths, ∃ directory ∈ session.config.paths, ∃ names tail, names ≠ [] ∧
        path = (session.root.join directory).below names ∧
          path.text = (session.root.join directory).text ++ tail

theorem configured_of_session {read : Parser} {files : FileSystem} {options : ScanOptions}
    {session : Session} (h : Command.session read files options = .ok session) :
    Configured read files options session := by
  obtain ⟨root, config, ⟨hroot, hconfig⟩, rfl⟩ := (session_eq_ok_iff read).1 h
  obtain ⟨-, hfault, hchosen⟩ := configuration_cases hconfig
  obtain ⟨hnonempty, hvalid⟩ := Config.fault?_eq_none_iff.1 hfault
  refine ⟨hroot, hchosen, fun later race => (Session.startBuild_spec _ later race).1, hnonempty,
    hvalid, ?_, ?_⟩
  · intro directory hdirectory
    refine Path.text_join ?_
    have hrelative := (hvalid directory hdirectory).relative
    simpa [Path.isAbsolute] using hrelative
  · intro later race paths hpaths path hpath
    obtain ⟨lists, hlists, rfl⟩ := Scan.candidatesOfAll_eq_ok_iff.1 hpaths
    obtain ⟨below, hbelow, hmem⟩ := List.mem_flatten.1 hpath
    obtain ⟨directory, hdirectory, hcandidates⟩ := Traversal.exists_left_of_mem hlists hbelow
    obtain ⟨place, inner, hlocate, -, rfl⟩ := Scan.candidates_eq_ok_iff.1 hcandidates
    obtain ⟨names, hnames, rfl⟩ := List.mem_map.1 hmem
    obtain ⟨tail, htail⟩ := Path.exists_text_below _ names
    exact ⟨directory, hdirectory, names, tail, Scan.ne_nil_of_mem_candidateWays hnames, rfl, htail⟩

/-! ### Two projects -/

/-- Where the user gives the directories, files that no candidate leads to make no difference to a
scan in the same race, provided that both projects have a configuration that can be loaded. -/
theorem scanned_agree (read : Parser) {changed : Location → Prop} {files other : FileSystem}
    (h : files.Agree changed other) {options : ScanOptions} {root : Path} {race : Scan.Race}
    (hgiven : options.paths ≠ []) (hroot : projectRoot files options = .ok root)
    (hloaded : ∃ loaded, Config.load files root = .ok loaded)
    (hloaded' : ∃ loaded, Config.load other root = .ok loaded)
    (hread : ∀ paths, Scan.Collected files root options.paths paths → ∀ path ∈ paths,
      ∀ location content, files.locate true path.text = .ok (.found location (.file content)) →
        ¬changed location) :
    scanned read files options race = scanned read other options race := by
  have hroot' : projectRoot other options = .ok root := by
    rw [← hroot, projectRoot, projectRoot, FileSystem.workingDirectory_agree h]
  cases hfault : Config.fault? { paths := options.paths } with
  | some fault =>
    rw [scanned_of_unprepared read
        (.noConfiguration hroot (configuration_of_fault hgiven hloaded hfault)),
      scanned_of_unprepared read
        (.noConfiguration hroot' (configuration_of_fault hgiven hloaded' hfault))]
  | none =>
    have hprepared : Prepared files options root { paths := options.paths } :=
      ⟨hroot, configuration_of_valid hgiven hloaded hfault⟩
    have hprepared' : Prepared other options root { paths := options.paths } :=
      ⟨hroot', configuration_of_valid hgiven hloaded' hfault⟩
    have hrun : Scan.run read files root options.paths race =
        Scan.run read other root options.paths race :=
      Scan.run_agree read h fun paths hpaths =>
        hread paths (Scan.candidatesOfAll_eq_ok_iff.1 hpaths)
    cases hscan : Scan.run read files root options.paths race with
    | error fault =>
      rw [scanned_of_scan_error read hprepared hscan,
        scanned_of_scan_error read hprepared' (hrun.symm.trans hscan)]
    | ok outcome =>
      rw [scanned_of_scan read hprepared hscan,
        scanned_of_scan read hprepared' (hrun.symm.trans hscan)]

/-- In two races a command's scan ends alike, unless each of them blames another directory. -/
theorem scanned_races (read : Parser) (files : FileSystem) (options : ScanOptions)
    (race race' : Scan.Race) :
    scanned read files options race' = scanned read files options race ∨
      ∃ root config fault fault', Prepared files options root config ∧
        Scan.Rivals files root config.paths fault fault' ∧
        scanned read files options race = .error (.scan root fault) ∧
          scanned read files options race' = .error (.scan root fault') := by
  cases hsession : Command.session read files options with
  | error failure =>
    have hunprepared := (session_eq_error_iff read).1 hsession
    exact .inl ((scanned_of_unprepared read hunprepared).trans
      (scanned_of_unprepared read hunprepared).symm)
  | ok session =>
    obtain ⟨root, config, hprepared, rfl⟩ := (session_eq_ok_iff read).1 hsession
    rcases Scan.run_races read files root config.paths race race' with
      hsame | ⟨fault, fault', hrivals, hfault, hfault'⟩
    · left
      rw [scanned, scanned, hsession]
      simp only [bind, Except.bind, Session.startBuild, hsame]
    · exact .inr ⟨root, config, fault, fault', hprepared, hrivals,
        scanned_of_scan_error read hprepared hfault, scanned_of_scan_error read hprepared hfault'⟩

/-- A command has a session if and only if its project can be told, the configuration of the project
can be loaded, be it only to be replaced, and the directories that the user gives are valid, if
there are any. The session scans these directories, or else those of the configuration file, or else
the default one. In every session there are directories, none of them blank or absolute, so that
everything lies below the root that is found. With directories from the user, two projects that
differ in the contents of files that no candidate leads to, as their configuration files are, have
the same scan, unless several directories cannot be searched and each scan blames another one. -/
theorem session_configured (read : Parser) (files : FileSystem) (options : ScanOptions) :
    ((∃ session, Command.session read files options = .ok session) ↔
      ∃ root, projectRoot files options = .ok root ∧
        (∃ loaded, Config.load files root = .ok loaded) ∧
        (options.paths = [] ∨ Config.fault? { paths := options.paths } = none)) ∧
    (∀ session, Command.session read files options = .ok session →
      Configured read files options session) ∧
    (∀ changed other root, files.Agree changed other → options.paths ≠ [] →
      projectRoot files options = .ok root →
      (∃ loaded, Config.load files root = .ok loaded) →
      (∃ loaded, Config.load other root = .ok loaded) →
      (∀ paths, Scan.Collected files root options.paths paths → ∀ path ∈ paths,
        ∀ location content, files.locate true path.text = .ok (.found location (.file content)) →
          ¬changed location) →
      ∀ race race', scanned read other options race' = scanned read files options race ∨
        ∃ fault fault', Scan.Rivals files root options.paths fault fault' ∧
          scanned read files options race = .error (.scan root fault) ∧
            scanned read other options race' = .error (.scan root fault')) := by
  refine ⟨?_, fun session h => configured_of_session h, ?_⟩
  · simp only [← exists_configuration_iff]
    constructor
    · rintro ⟨session, h⟩
      obtain ⟨root, config, hprepared, -⟩ := (session_eq_ok_iff read).1 h
      exact ⟨root, hprepared.found, config, hprepared.configured⟩
    · rintro ⟨root, hroot, config, hconfig⟩
      exact ⟨_, (session_eq_ok_iff read).2 ⟨root, config, ⟨hroot, hconfig⟩, rfl⟩⟩
  · intro changed other root h hgiven hroot hloaded hloaded' hread race race'
    rw [← scanned_agree read h hgiven hroot hloaded hloaded' hread]
    rcases scanned_races read files options race race' with
      hsame | ⟨root', config, fault, fault', hprepared, hrivals, hfault, hfault'⟩
    · exact .inl hsame
    · obtain rfl : root' = root := Except.ok.inj (hprepared.found.symm.trans hroot)
      obtain ⟨-, -, hchosen⟩ := configuration_cases hprepared.configured
      have hpaths := hchosen.eq_of_given hgiven
      exact .inr ⟨fault, fault', hpaths ▸ hrivals, hfault, hfault'⟩

/-! ### A project whose configuration changes -/

/-- A configuration file that names one directory. -/
def configurationText (directory : String) : String :=
  (Config.toJson { paths := [directory] }).compact

def withConfiguration (files : FileSystem) (directory : String) : FileSystem :=
  files.placeFile [] Config.configName (configurationText directory).toUTF8

/-- The small project with a configuration file. -/
def configuredProject : FileSystem := withConfiguration smallProject "lib"

/-- The same project after its configuration file has been changed. -/
def reconfiguredProject : FileSystem := withConfiguration configuredProject "app"

theorem load_configuredProject :
    Config.load configuredProject ⟨"/"⟩ =
      .ok { config := { paths := ["lib"] }, fromFile := true } := by
  have hentry : configuredProject.entry "/.routablerc.json" =
      .ok (.file (configurationText "lib").toUTF8) := by rfl
  exact Config.load_of_entry (by decide +kernel) hentry (by decide +kernel) (by decide)

theorem load_reconfiguredProject :
    Config.load reconfiguredProject ⟨"/"⟩ =
      .ok { config := { paths := ["app"] }, fromFile := true } := by
  have hentry : reconfiguredProject.entry "/.routablerc.json" =
      .ok (.file (configurationText "app").toUTF8) := by rfl
  exact Config.load_of_entry (by decide +kernel) hentry (by decide +kernel) (by decide)

theorem agree_reconfiguredProject :
    configuredProject.Agree (· = [] ++ [Config.configName]) reconfiguredProject :=
  FileSystem.agree_placeFile rfl _

/-- The user names a directory that is in neither configuration. -/
theorem session_configured_replaced :
    (∃ session, Command.session wholeText configuredProject { paths := ["src"] } = .ok session ∧
      Configured wholeText configuredProject { paths := ["src"] } session) ∧
      ∀ race race', scanned wholeText reconfiguredProject { paths := ["src"] } race' =
        scanned wholeText configuredProject { paths := ["src"] } race := by
  obtain ⟨hsession, hconfigured, hagree⟩ :=
    session_configured wholeText configuredProject { paths := ["src"] }
  constructor
  · obtain ⟨session, h⟩ := hsession.2 ⟨⟨"/"⟩, rfl, ⟨_, load_configuredProject⟩, .inr (by decide)⟩
    exact ⟨session, h, hconfigured session h⟩
  · intro race race'
    have hends := hagree _ _ ⟨"/"⟩ agree_reconfiguredProject (by decide) rfl
      ⟨_, load_configuredProject⟩ ⟨_, load_reconfiguredProject⟩ ?_ race race'
    · rcases hends with hsame | ⟨_, _, ⟨directory, hmem, directory', hmem', hne, -⟩, -⟩
      · exact hsame
      · exact absurd ((List.mem_singleton.1 hmem).trans (List.mem_singleton.1 hmem').symm) hne
    · intro paths hpaths path hpath location content hlocate
      have hfound : Scan.candidatesOfAll configuredProject ⟨"/"⟩ ["src"] = .ok [⟨"/src/a.ts"⟩] := by
        decide +kernel
      rw [← Scan.candidatesOfAll_eq_ok_iff, hfound] at hpaths
      obtain rfl := Except.ok.inj hpaths
      obtain rfl := List.mem_singleton.1 hpath
      have hplace : configuredProject.locate true "/src/a.ts" =
          .ok (.found [⟨"src", by decide⟩, ⟨"a.ts", by decide⟩] (.file "x".toUTF8)) := by rfl
      cases hplace.symm.trans hlocate
      decide

/-- The user names two directories that are missing. In one project the first of them is blamed, in
the other one the second. -/
theorem scanned_blames_either :
    configuredProject.Agree (· = [] ++ [Config.configName]) reconfiguredProject ∧
      (∃ loaded, Config.load configuredProject ⟨"/"⟩ = .ok loaded) ∧
      (∃ loaded, Config.load reconfiguredProject ⟨"/"⟩ = .ok loaded) ∧
      ∃ race race', scanned wholeText configuredProject missingDirectories race =
          .error (.scan ⟨"/"⟩ (.unreadable ⟨"/missing1"⟩ (.reading .notFound))) ∧
        scanned wholeText reconfiguredProject missingDirectories race' =
          .error (.scan ⟨"/"⟩ (.unreadable ⟨"/missing2"⟩ (.reading .notFound))) := by
  have hprepared : Prepared configuredProject missingDirectories ⟨"/"⟩
      { paths := missingDirectories.paths } :=
    ⟨rfl, configuration_of_valid (by decide) ⟨_, load_configuredProject⟩ (by decide)⟩
  have hprepared' : Prepared reconfiguredProject missingDirectories ⟨"/"⟩
      { paths := missingDirectories.paths } :=
    ⟨rfl, configuration_of_valid (by decide) ⟨_, load_reconfiguredProject⟩ (by decide)⟩
  have hfault : Scan.candidates configuredProject (Path.join ⟨"/"⟩ "missing1") =
      .error (.unreadable ⟨"/missing1"⟩ (.reading .notFound)) := by decide +kernel
  have hfault' : Scan.candidates reconfiguredProject (Path.join ⟨"/"⟩ "missing2") =
      .error (.unreadable ⟨"/missing2"⟩ (.reading .notFound)) := by decide +kernel
  obtain ⟨race, hrace⟩ := exists_scanned_blaming wholeText hprepared (by decide) hfault
  obtain ⟨race', hrace'⟩ := exists_scanned_blaming wholeText hprepared' (by decide) hfault'
  exact ⟨agree_reconfiguredProject, ⟨_, load_configuredProject⟩, ⟨_, load_reconfiguredProject⟩,
    race, race', hrace, hrace'⟩

end Command

end RouteManifest
