import RouteManifest.Proofs.Command.Configuration
import RouteManifest.Proofs.Config.Grammar

/-!
Making a configuration file. What is there is never written over: the file is made only where the
name leads to nothing, and nothing else changes. The file that is made is the configuration of the
current directory from then on.
-/

namespace RouteManifest

open FileSystem (startOf nameLimit pathFault?)

namespace FileSystem

open Config (configName)

/-! ### The current directory -/

/-- A path that names the current directory. It leads straight there, and the name of a file can be
joined to it. -/
def NamesCurrent (files : FileSystem) (start : Path) : Prop :=
  ∃ names, files.LeadsStraight start names ∧
    startOf start.text files.current ++ names = files.current ∧
    pathFault? (start.join Config.fileName).text = none

theorem namesCurrent_dot {files : FileSystem} (hcurrent : files.HasCurrent) :
    files.NamesCurrent ⟨"."⟩ := by
  have hstart : startOf "." files.current = files.current := if_neg (by decide)
  refine ⟨[], ⟨by decide, ?_, nofun⟩, ?_, by decide⟩
  · rwa [hstart, List.append_nil]
  · rw [hstart, List.append_nil]

theorem namesCurrent_currentPath {files : FileSystem} (hcurrent : files.HasCurrent)
    (hshort : ∀ name ∈ files.current, name.text.utf8ByteSize ≤ nameLimit)
    (hpath : pathFault? (files.currentPath.join Config.fileName).text = none) :
    files.NamesCurrent files.currentPath := by
  have hstart : startOf files.currentPath.text files.current = [] :=
    if_pos (by simp [currentPath, Path.isAbsolute])
  have hsteps : Path.stepsOf files.currentPath.text = files.current.map fun name =>
      .name name.text := by
    have hnames : ∀ step ∈ files.current.map fun name => Path.Segment.name name.text,
        Path.IsStep step :=
      List.forall_mem_map.2 fun name _ => .name (isName_of_fileName name)
    have hread := Path.stepsOf_intercalate hnames
    rw [List.map_map] at hread
    rw [currentPath, Path.stepsOf_slash]
    exact hread
  refine ⟨files.current, ⟨hsteps, ?_, hshort⟩, ?_, hpath⟩
  · rwa [hstart, List.nil_append]
  · rw [hstart, List.nil_append]

theorem locate_fileName (files : FileSystem) :
    files.locate true Config.fileName = files.within files.current configName := by
  have hpath : pathFault? Config.fileName = none := by decide
  have hstart : startOf Config.fileName files.current = files.current := if_neg (by decide)
  have hsteps : steps Config.fileName = [.into configName] := by decide
  rw [locate, locateSteps, hpath, hstart, hsteps, within]

/-- From every path of the current directory the name of the configuration file leads to the
same. -/
theorem NamesCurrent.locate_eq {files : FileSystem} {start : Path} (h : files.NamesCurrent start) :
    files.locate true (start.join Config.fileName).text = files.locate true Config.fileName := by
  obtain ⟨names, hstraight, hcurrent, hpath⟩ := h
  have hlocate := @locate_join_name files start names configName hstraight hpath
  rw [hcurrent] at hlocate
  exact hlocate.trans (locate_fileName files).symm

/-- A name leads to a missing one only if it is missing itself or a link. -/
theorem place_of_missing {files : FileSystem} {place directory : Location} {first name : FileName}
    (h : files.within place first = .ok (.missing directory name)) :
    directory ++ [name] = place ++ [first] ∨ ∃ target,
      files.look? (place ++ [first]) = some (.link target) := by
  obtain ⟨onLink, hwalk⟩ : ∃ onLink, walkWith files.entries true onLink place [.into first] =
      .ok (.missing directory name) := ⟨_, h⟩
  rw [walkWith] at hwalk
  split at hwalk
  · cases hwalk
  · cases hat : files.entries.at? (place ++ [first]) with
    | none =>
      simp only [hat, List.isEmpty_nil, if_true] at hwalk
      cases hwalk
      exact .inl rfl
    | some entry =>
      cases entry with
      | directory inner => simp [hat, walkWith] at hwalk
      | file content => simp [hat] at hwalk
      | link target => exact .inr ⟨target, by rw [look?, hat]; rfl⟩

end FileSystem

namespace Command

open Config (configName)

variable {read : Parser} {files after : FileSystem} {race : Scan.Race}

/-- What making a configuration file can come to. -/
theorem run_init_cases {result : Except Failure Report}
    (h : run read files .init race = (after, result)) :
    (files.exists? Config.fileName = true ∧ after = files ∧
      result = .ok { summary := .initialised false }) ∨
    (files.exists? Config.fileName = false ∧
      files.write Config.fileName Config.defaultText.toUTF8 = .ok after ∧
      result = .ok { summary := .initialised true }) ∨
    (files.exists? Config.fileName = false ∧ after = files ∧ ∃ reason,
        result = .error (.configurationFile reason)) := by
  rw [run, runInit] at h
  split at h
  · next hexists =>
    cases h
    exact .inl ⟨hexists, rfl, rfl⟩
  · next hmissing =>
    have hmissing := Bool.eq_false_iff.2 hmissing
    split at h
    · next hwrite =>
      cases h
      exact .inr (.inl ⟨hmissing, hwrite, rfl⟩)
    · cases h
      exact .inr (.inr ⟨hmissing, rfl, _, rfl⟩)

theorem run_init_of_exists (h : files.exists? Config.fileName = true) :
    run read files .init race = (files, .ok { summary := .initialised false }) := by
  rw [run, runInit, if_pos h]

/-- The second file system is the first one with the default configuration where the name of the
configuration file leads from the current directory. Nothing lay there, and nothing else is
different. It is the name itself unless a link lies at it. -/
structure Initialised (before after : FileSystem) : Prop where
  current : after.current = before.current
  change : ∃ directory name,
    before.locate true Config.fileName = .ok (.missing directory name) ∧
    (directory ++ [name] = before.current ++ [configName] ∨
      ∃ target, before.look? (before.current ++ [configName]) = some (.link target)) ∧
    before.look? (directory ++ [name]) = none ∧
    after.locate true Config.fileName =
      .ok (.found (directory ++ [name]) (.file Config.defaultText.toUTF8)) ∧
    ∀ place, place ≠ directory ++ [name] → after.look? place = before.look? place

theorem initialised_of_write (hcurrent : files.HasCurrent)
    (hmissing : files.exists? Config.fileName = false)
    (h : files.write Config.fileName Config.defaultText.toUTF8 = .ok after) :
    Initialised files after := by
  obtain ⟨-, directory, name, hplaces, rfl⟩ := FileSystem.write_cases h
  obtain ⟨-, hfound, hother⟩ :=
    FileSystem.placed_of_places hcurrent hplaces Config.defaultText.toUTF8
  rw [Config.exists?_eq] at hmissing
  have hlocate : files.locate true Config.fileName = .ok (.missing directory name) := by
    rcases hplaces with hlocate | ⟨old, hlocate⟩
    · exact hlocate
    · rw [hlocate] at hmissing
      cases hmissing
  have hlook : files.look? (directory ++ [name]) = none := by
    rw [FileSystem.look?, (hcurrent.holds hlocate).2]
    rfl
  have hplace := FileSystem.place_of_missing ((FileSystem.locate_fileName files).symm.trans hlocate)
  exact ⟨rfl, directory, name, hlocate, hplace, hlook, hfound, hother⟩

section
variable {before : FileSystem}

theorem Initialised.entry (h : Initialised before after) :
    after.entry Config.fileName = .ok (.file Config.defaultText.toUTF8) := by
  obtain ⟨directory, name, -, -, -, hfound, -⟩ := h.change
  exact FileSystem.entry_eq_ok_iff.2 ⟨_, hfound⟩

theorem Initialised.exists (h : Initialised before after) :
    after.exists? Config.fileName = true := by
  rw [FileSystem.exists?, h.entry]
  rfl

/-- The file in the current directory is the first one of every search that starts there. -/
theorem Initialised.load (h : Initialised before after) {start : Path}
    (hstart : after.NamesCurrent start) :
    Config.load after start = .ok { config := {}, fromFile := true } := by
  have hentry : after.entry (start.join Config.fileName).text =
      .ok (.file Config.defaultText.toUTF8) := by
    rw [FileSystem.entry, hstart.locate_eq]
    exact h.entry
  have hfind : Config.find? after start = some (start.join Config.fileName) := by
    rw [Config.find?, Path.ancestors_eq_cons, Config.findIn?, FileSystem.exists?, hentry]
    rfl
  have hread : (Config.ofJson Config.defaultText).toOption = some {} := by
    rw [Config.ofJson_defaultText]
    rfl
  exact Config.load_of_entry hfind hentry hread (by decide)

end

/-- A configuration file is made only where there is none, and it takes effect. Where the name leads
to something already, nothing changes. Where the file is made, nothing but the file is different.
From every path of the current directory the default configuration is then loaded from it, whatever
other configuration files or marks of repositories there are, and a second run changes nothing. A
run that fails changes nothing either. -/
theorem init_creates_or_keeps (read : Parser) (files : FileSystem) (race : Scan.Race) :
    (files.exists? Config.fileName = true →
      run read files .init race = (files, .ok { summary := .initialised false }) ∧
        exitStatus (.ok { summary := .initialised false }) = 1) ∧
    (∀ after report, files.isDirectory "." = true →
      run read files .init race = (after, .ok report) →
      report.summary = .initialised true →
        Initialised files after ∧
        (∀ start, after.NamesCurrent start →
          Config.load after start = .ok { config := {}, fromFile := true }) ∧
        after.NamesCurrent ⟨"."⟩ ∧
        ((∀ name ∈ after.current, name.text.utf8ByteSize ≤ nameLimit) →
          pathFault? (after.currentPath.join Config.fileName).text = none →
            after.NamesCurrent after.currentPath) ∧
        ∀ other, run read after .init other = (after, .ok { summary := .initialised false })) ∧
    ∀ after failure, run read files .init race = (after, .error failure) → after = files := by
  refine ⟨fun h => ⟨run_init_of_exists h, rfl⟩, fun after report hcurrent h hcreated => ?_,
    fun after failure h => ?_⟩
  · have hcurrent := FileSystem.hasCurrent_of_isDirectory hcurrent
    rcases run_init_cases h with ⟨-, -, hreport⟩ | ⟨hmissing, hwrite, hreport⟩ | ⟨-, -, reason,
      hreport⟩
    · cases hreport
      cases hcreated
    · have hinitialised := initialised_of_write hcurrent hmissing hwrite
      obtain ⟨hsame, -, hkeeps, -⟩ := FileSystem.exists_of_write hcurrent hwrite
      have hafter := hcurrent.of_keeps hkeeps hsame
      exact ⟨hinitialised, fun start => hinitialised.load, FileSystem.namesCurrent_dot hafter,
        FileSystem.namesCurrent_currentPath hafter,
        fun _ => run_init_of_exists hinitialised.exists⟩
    · cases hreport
  · rcases run_init_cases h with ⟨-, -, hresult⟩ | ⟨-, -, hresult⟩ | ⟨-, hsame, -⟩
    · cases hresult
    · cases hresult
    · exact hsame

/-- The current directory marks a repository, its configuration file is a link to a missing one, and
there is a configuration file above it. -/
def danglingProject : FileSystem where
  entries := [(configName, .file "\x7b\x7d".toUTF8),
    (⟨"app", by decide⟩,
      .directory [(Config.repository, .directory []), (⟨"etc", by decide⟩, .directory []),
        (configName, .link "etc/routes")])]
  current := [⟨"app", by decide⟩]
  distinct := by
    simp [Entries.Distinct, Entry.Distinct, configName, Config.repository, Config.fileName,
      Config.repositoryName]

/-- The file is made where the link leads, and it counts from every path of the current
directory. -/
theorem init_creates_or_keeps_dangling :
    danglingProject.isDirectory "." = true ∧ ∃ after,
      run wholeText danglingProject .init = (after, .ok { summary := .initialised true }) ∧
      after.locate true Config.fileName =
        .ok (.found [⟨"app", by decide⟩, ⟨"etc", by decide⟩, ⟨"routes", by decide⟩]
          (.file Config.defaultText.toUTF8)) ∧
      Config.load after ⟨"."⟩ = .ok { config := {}, fromFile := true } ∧
      Config.load after ⟨"/app"⟩ = .ok { config := {}, fromFile := true } ∧
      after.exists? Config.fileName = true ∧
      run wholeText after .init = (after, .ok { summary := .initialised false }) ∧
      exitStatus (.ok { summary := .initialised false }) = 1 := by
  have hcurrent : danglingProject.isDirectory "." = true := by decide +kernel
  obtain ⟨-, hcreates, -⟩ := init_creates_or_keeps wholeText danglingProject .inOrder
  let after := danglingProject.placeFile [⟨"app", by decide⟩, ⟨"etc", by decide⟩]
    ⟨"routes", by decide⟩
    Config.defaultText.toUTF8
  have hrun : run wholeText danglingProject .init =
    (after, .ok { summary := .initialised true }) := by rfl
  obtain ⟨hinitialised, hload, hdot, habsolute, hagain⟩ := hcreates after _ hcurrent hrun rfl
  have hcurrentPath : after.currentPath = ⟨"/app"⟩ := by rfl
  obtain ⟨hkeeps, -, -⟩ := init_creates_or_keeps wholeText after .inOrder
  have hexists := hinitialised.exists
  refine ⟨hcurrent, after, hrun, by rfl, hload _ hdot, ?_, hexists, hagain .inOrder,
    (hkeeps hexists).2⟩
  exact hcurrentPath ▸ hload _ (habsolute (by decide) (by decide))

end Command

end RouteManifest
