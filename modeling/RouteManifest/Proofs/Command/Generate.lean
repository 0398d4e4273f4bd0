import RouteManifest.Command.Run
import RouteManifest.Proofs.Scan.Manifests

/-!
Generating a manifest. Nothing is changed before the scan has succeeded, and whether the manifest
goes to the standard output or to a file makes no difference to its text or to the exit status. A
file that a manifest was written to may lie among those that are scanned later: it is a script like
the others, and nothing in it counts.
-/

namespace RouteManifest.Command

open FileSystem (Stores)
open Text.Styled (render_plain)
open Manifest (Legible)
open Scan (HoldsManifest)
open Traversal (bind_eq_ok_iff bind_eq_error_iff)

/-- What a command prints to the standard output. -/
def printed (coloured : Bool) (result : Except Failure Report) : String :=
  Text.Styled.render coloured (output result)

/-! ### The two outputs -/

theorem exitStatus_generated {session : Session} {outcome : Scan.Outcome} {manifest : String}
    {target : Option Path}
    {entries : Nat} :
    exitStatus (.ok (reportOn session outcome (.generated manifest target entries))) =
      if outcome.diagnostics = [] then 0 else 1 := by
  cases hdiagnostics : outcome.diagnostics <;>
    simp [exitStatus, Report.exitStatus, reportOn, Report.Summary.isSuccess, hdiagnostics]

/-! ### The scan before -/

section
variable (read : Parser) {files : FileSystem} {options : ScanOptions} {root : Path}
  {race : Scan.Race}

/-- The options name no project, or its configuration cannot be had. -/
inductive Unprepared (files : FileSystem) (options : ScanOptions) : Failure → Prop
  | noRoot {failure : Failure} (h : projectRoot files options = .error failure) :
      Unprepared files options failure
  | noConfiguration {root : Path} {failure : Failure} (hroot : projectRoot files options = .ok root)
      (h : configuration files root options.paths = .error failure) :
      Unprepared files options failure

/-- The options name a project, and this is the configuration to scan it with. -/
structure Prepared (files : FileSystem) (options : ScanOptions) (root : Path) (config : Config) :
    Prop where
  found : projectRoot files options = .ok root
  configured : configuration files root options.paths = .ok config

theorem session_eq_error_iff {failure : Failure} :
    session read files options = .error failure ↔ Unprepared files options failure := by
  simp only [session, bind_eq_error_iff]
  constructor
  · rintro (hroot | ⟨root, hroot, hconfig | ⟨config, -, h⟩⟩)
    · exact .noRoot hroot
    · exact .noConfiguration hroot hconfig
    · cases h
  · rintro (hroot | ⟨hroot, hconfig⟩)
    · exact .inl hroot
    · exact .inr ⟨_, hroot, .inl hconfig⟩

theorem session_eq_ok_iff {session : Session} :
    Command.session read files options = .ok session ↔
      ∃ root config, Prepared files options root config ∧ session = { config, read, root } := by
  simp only [Command.session, bind_eq_ok_iff]
  constructor
  · rintro ⟨root, hroot, config, hconfig, h⟩
    cases h
    exact ⟨root, config, ⟨hroot, hconfig⟩, rfl⟩
  · rintro ⟨root, config, ⟨hroot, hconfig⟩, rfl⟩
    exact ⟨root, hroot, config, hconfig, rfl⟩

theorem scanned_of_unprepared {failure : Failure} (h : Unprepared files options failure) :
    scanned read files options race = .error failure := by
  rw [scanned, (session_eq_error_iff read).2 h]
  rfl

theorem scanned_of_scan_error {config : Config} {fault : Scan.Fault}
    (h : Prepared files options root config)
    (hscan : Scan.run read files root config.paths race = .error fault) :
    scanned read files options race = .error (.scan root fault) := by
  rw [scanned, (session_eq_ok_iff read).2 ⟨root, config, h, rfl⟩]
  simp [bind, Except.bind, Session.startBuild, hscan, throw, throwThe, MonadExceptOf.throw]

theorem scanned_of_scan {config : Config} {outcome : Scan.Outcome}
    (h : Prepared files options root config)
    (hscan : Scan.run read files root config.paths race = .ok outcome) :
    scanned read files options race =
      .ok ({ config, read, root, registry := outcome.registry, diagnostics := outcome.diagnostics },
        outcome) := by
  rw [scanned, (session_eq_ok_iff read).2 ⟨root, config, h, rfl⟩]
  simp only [bind, Except.bind, Session.startBuild, hscan]
  rfl

/-- Where a scan succeeds it does so in every race, and with the same outcome. -/
theorem exists_scanned_of_scan {config : Config} {outcome : Scan.Outcome}
    (h : Prepared files options root config)
    (hscan : Scan.run read files root config.paths race = .ok outcome) :
    ∃ session, (∀ other, scanned read files options other = .ok (session, outcome)) ∧
      session.registry = outcome.registry := by
  refine ⟨_, fun other => scanned_of_scan read h ?_, rfl⟩
  rcases Scan.run_races read files root config.paths race other with hsame | ⟨_, _, -, hfault, -⟩
  · exact hsame.trans hscan
  · rw [hscan] at hfault
    cases hfault

/-- A directory that cannot be searched may be the one that is blamed. -/
theorem exists_scanned_blaming {config : Config} {directory : String} {fault : Scan.Fault}
    (h : Prepared files options root config) (hmem : directory ∈ config.paths)
    (hfault : Scan.candidates files (root.join directory) = .error fault) :
    ∃ race, scanned read files options race = .error (.scan root fault) := by
  obtain ⟨race, hrace⟩ := Scan.exists_race_iff.2 ⟨directory, hmem, hfault⟩
  exact ⟨race, scanned_of_scan_error read h (Scan.run_eq_error_iff.2 (.inl hrace))⟩

end

/-- Where the output can be written to, the manifest is stored there and nothing else changes. -/
theorem writeManifest_of_canWrite {files : FileSystem} {path : Path} (hcurrent : files.HasCurrent)
    (h : files.CanWrite path)
    (manifest : String) :
    ∃ after, writeManifest files path manifest = (after, none) ∧
      Stores path (manifest ++ "\n").toUTF8 files after := by
  obtain ⟨made, after, hmade, hwrite, hstores⟩ :=
    FileSystem.exists_stores hcurrent h (manifest ++ "\n").toUTF8
  refine ⟨after, ?_, hstores⟩
  have hmade' : files.createDirectories ((path.directory?).getD ⟨""⟩) = (made, none) := hmade
  unfold writeManifest
  simp only [hmade', hwrite]

/-- A manifest that was written is stored. -/
theorem stores_of_writeManifest {files after : FileSystem} {path : Path} {manifest : String}
    (hcurrent : files.HasCurrent)
    (h : writeManifest files path manifest = (after, none)) :
    Stores path (manifest ++ "\n").toUTF8 files after := by
  have hcan : files.CanWrite path := by
    unfold writeManifest at h
    simp only at h
    split at h
    · cases h
    · next made hmade =>
      split at h
      · next hwrite => exact ⟨made, hmade, _, _, hwrite⟩
      · cases h
  obtain ⟨stored, hstored, hstores⟩ := writeManifest_of_canWrite hcurrent hcan manifest
  rw [h] at hstored
  cases hstored
  exact hstores

/-- The same project gives the same manifest with and without an output. If the project has no
configuration, both runs fail alike; if its scan fails, both do so as well, and with the same fault
unless several directories cannot be searched, of which each run may blame another one. A run that
fails prints nothing and leaves the file system as it was. Otherwise one run prints the manifest and
a line end and changes nothing; the other one, if its output can be written to from a current
directory that is there, prints nothing and stores there what the first one printed, and nothing
else changes but for missing directories above the output. Both have the same exit status, which
tells whether a declaration was malformed. -/
theorem generate_agrees (read : Parser) (files : FileSystem) (options : ScanOptions) :
    (∀ failure, Unprepared files options failure →
      ∀ target race, run read files (.generate options target) race = (files, .error failure)) ∧
    (∀ root config race fault, Prepared files options root config →
      Scan.run read files root config.paths race = .error fault → ∀ target race', ∃ fault',
        run read files (.generate options target) race' = (files, .error (.scan root fault')) ∧
          (fault' = fault ∨ Scan.Rivals files root config.paths fault fault')) ∧
    (∀ failure coloured, printed coloured (.error failure) = "") ∧
    ∀ root config race outcome, Prepared files options root config →
      Scan.run read files root config.paths race = .ok outcome →
      ∃ result, (∀ race, run read files (.generate options none) race = (files, result)) ∧
        (∀ coloured, printed coloured result = Manifest.render outcome.registry ++ "\n") ∧
        exitStatus result = (if outcome.diagnostics = [] then 0 else 1) ∧
        (files.isDirectory "." = true → ∀ path, files.CanWrite path →
          ∃ after filed,
            (∀ race, run read files (.generate options (some path)) race = (after, filed)) ∧
            (∀ coloured, printed coloured filed = "") ∧ exitStatus filed = exitStatus result ∧
            ∀ coloured, Stores path (printed coloured result).toUTF8 files after) := by
  have hscanned : ∀ failure race, scanned read files options race = .error failure →
      ∀ target, run read files (.generate options target) race = (files, .error failure) := by
    intro failure race h target
    rw [run, runGenerate, h]
  refine ⟨fun failure h target race => hscanned failure race (scanned_of_unprepared read h) target,
    ?_, fun _ _ => rfl, ?_⟩
  · intro root config race fault h hscan target race'
    rcases Scan.run_races read files root config.paths race race' with
      hsame | ⟨first, fault', hrivals, hfirst, hother⟩
    · have hfault := scanned_of_scan_error read h (hsame.trans hscan)
      exact ⟨fault, hscanned _ race' hfault target, .inl rfl⟩
    · obtain rfl : first = fault := Except.error.inj (hfirst.symm.trans hscan)
      exact ⟨fault', hscanned _ race' (scanned_of_scan_error read h hother) target, .inr hrivals⟩
  · intro root config race outcome h hscan
    obtain ⟨session, hsession, hregistry⟩ := exists_scanned_of_scan read h hscan
    let report (target : Option Path) : Report := reportOn session outcome
      (.generated (Manifest.render session.registry) target session.registry.length)
    have hprinted : ∀ coloured, printed coloured (.ok (report none)) =
        Manifest.render outcome.registry ++ "\n" := by
      intro coloured
      rw [← hregistry]
      exact render_plain coloured _
    refine ⟨.ok (report none), fun race => ?_, hprinted, exitStatus_generated,
      fun hcurrent path hpath => ?_⟩
    · rw [run, runGenerate, hsession]
    · -- The session whose registry is printed is the one whose registry is written.
      obtain ⟨after, hwritten, hstores⟩ := writeManifest_of_canWrite
        (FileSystem.hasCurrent_of_isDirectory hcurrent) hpath (Manifest.render session.registry)
      refine ⟨after, .ok (report (some path)), fun race => ?_, fun _ => rfl,
        exitStatus_generated.trans exitStatus_generated.symm, fun coloured => ?_⟩
      · simp only [run, runGenerate, hsession, hwritten, report]
      · rw [hprinted, ← hregistry]
        exact hstores

/-- Two directories that are missing. -/
def missingDirectories : ScanOptions := { paths := ["missing1", "missing2"] }

/-- The run with an output blames the first of two directories that are missing, and the run without
one the second. -/
theorem generate_blames_either :
    ∃ race race', run ⟨fun _ _ => .ok []⟩ {} (.generate missingDirectories (some ⟨"out.ts"⟩)) race =
        ({}, .error (.scan ⟨"/"⟩ (.unreadable ⟨"/missing1"⟩ (.reading .notFound)))) ∧
      run ⟨fun _ _ => .ok []⟩ {} (.generate missingDirectories none) race' =
        ({}, .error (.scan ⟨"/"⟩ (.unreadable ⟨"/missing2"⟩ (.reading .notFound)))) := by
  have hprepared : Prepared {} missingDirectories ⟨"/"⟩ { paths := missingDirectories.paths } :=
    ⟨rfl, rfl⟩
  have hfault : Scan.candidates {} (Path.join ⟨"/"⟩ "missing1") =
      .error (.unreadable ⟨"/missing1"⟩ (.reading .notFound)) := by decide
  have hfault' : Scan.candidates {} (Path.join ⟨"/"⟩ "missing2") =
      .error (.unreadable ⟨"/missing2"⟩ (.reading .notFound)) := by decide
  obtain ⟨race, hrace⟩ := exists_scanned_blaming ⟨fun _ _ => .ok []⟩ hprepared (by decide) hfault
  obtain ⟨race', hrace'⟩ := exists_scanned_blaming ⟨fun _ _ => .ok []⟩ hprepared (by decide) hfault'
  refine ⟨race, race', ?_, ?_⟩
  · rw [run, runGenerate, hrace]
  · rw [run, runGenerate, hrace']

/-- A project with one file. -/
def smallProject : FileSystem where
  entries := [(⟨"src", by decide⟩, .directory [(⟨"a.ts", by decide⟩, .file "x".toUTF8)])]
  distinct := by simp [Entries.Distinct, Entry.Distinct]

/-- A reader that takes every file for one declaration of its text. -/
def wholeText : Parser := ⟨fun text _ => .ok [⟨.namedExport, 1, .literal text⟩]⟩

/-- The registry of the small project. -/
def smallRegistry : Registry := [⟨[.literal "x"], "/src/a.ts", none⟩]

theorem prepared_smallProject : Prepared smallProject {} ⟨"/"⟩ {} := ⟨rfl, rfl⟩

theorem run_smallProject : Scan.run wholeText smallProject ⟨"/"⟩ ["src"] =
    .ok { registry := smallRegistry, scanned := 1 } := by
  have hfound : Scan.candidatesOfAll smallProject ⟨"/"⟩ ["src"] = .ok [⟨"/src/a.ts"⟩] := by
    decide +kernel
  have hentry : smallProject.entry "/src/a.ts" = .ok (.file "x".toUTF8) := by rfl
  have htext : smallProject.readText "/src/a.ts" = .ok "x" := FileSystem.readText_of_entry hentry
  have hroute : Path.route ⟨"/"⟩ ⟨"/src/a.ts"⟩ = "/src/a.ts" := by rfl
  have hvalue : Declared.contribution (.literal "x") = .ok ⟨[.literal "x"], none⟩ := by
    rw [Declared.contribution, Declared.collect]
    rfl
  simp only [Scan.run, hfound, bind, Except.bind, List.foldlM, Scan.step, Scan.extract, htext,
    hroute, wholeText, Except.map, Extraction.ofDeclarations, List.foldl, Extraction.add, hvalue]
  rfl

/-- The small project with an empty directory beside its file. -/
def extendedProject : FileSystem :=
  smallProject.place [⟨"src", by decide⟩] ⟨"new", by decide⟩ (.directory []) (by trivial)

theorem canWrite_smallProject : smallProject.CanWrite ⟨"src/new/manifest.ts"⟩ := by
  have hmade : smallProject.createDirectories ⟨"src/new"⟩ = (extendedProject, none) := by rfl
  have hplaces : extendedProject.Places "src/new/manifest.ts"
      [⟨"src", by decide⟩, ⟨"new", by decide⟩]
      ⟨"manifest.ts", by decide⟩ := .inl rfl
  exact ⟨extendedProject, hmade, "".toUTF8, _, FileSystem.write_of_places rfl hplaces _⟩

/-- An output in a directory that is scanned and that is not there yet. -/
theorem generate_agrees_inside :
    smallProject.isDirectory "." = true ∧ smallProject.CanWrite ⟨"src/new/manifest.ts"⟩ ∧
      ∃ result after filed, run wholeText smallProject (.generate {} none) =
        (smallProject, result) ∧
        run wholeText smallProject (.generate {} (some ⟨"src/new/manifest.ts"⟩)) = (after, filed) ∧
        printed false filed = "" ∧ exitStatus filed = 0 ∧
        Stores ⟨"src/new/manifest.ts"⟩ (Manifest.render smallRegistry ++ "\n").toUTF8 smallProject
          after := by
  have hcurrent : smallProject.isDirectory "." = true := by decide +kernel
  obtain ⟨-, -, -, hgenerate⟩ := generate_agrees wholeText smallProject {}
  obtain ⟨result, hrun, hprinted, hstatus, hfile⟩ :=
    hgenerate _ _ _ _ prepared_smallProject run_smallProject
  obtain ⟨after, filed, hfiled, hempty, hsame, hstores⟩ := hfile hcurrent _ canWrite_smallProject
  refine ⟨hcurrent, canWrite_smallProject, result, after, filed, hrun .inOrder, hfiled .inOrder,
    hempty false, hsame.trans hstatus, ?_⟩
  have hstored := hstores false
  rwa [hprinted] at hstored

/-! ### The scans after -/

/-- By every path that leads to it, the output of a successful run holds a manifest. -/
theorem holdsManifest_of_generate {read : Parser} {files after : FileSystem}
    {options : ScanOptions} {root : Path} {config : Config} {race race' : Scan.Race}
    {outcome : Scan.Outcome} {output : Path} {report : Report} (hcurrent : files.HasCurrent)
    (h : Prepared files options root config)
    (hscan : Scan.run read files root config.paths race = .ok outcome)
    (hlegible : Legible outcome.registry)
    (hrun : run read files (.generate options (some output)) race' = (after, .ok report))
    {path : Path} (hpath : after.locate true path.text = after.locate true output.text) :
    HoldsManifest after path := by
  obtain ⟨session, hsession, hregistry⟩ := exists_scanned_of_scan read h hscan
  rw [run, runGenerate, hsession] at hrun
  simp only at hrun
  split at hrun
  · cases hrun
  · next hwritten =>
    cases hrun
    have hentry : after.entry path.text =
        .ok (.file (Manifest.render session.registry ++ "\n").toUTF8) := by
      rw [FileSystem.entry, hpath]
      exact (stores_of_writeManifest hcurrent hwritten).entry
    exact ⟨session.registry, hregistry ▸ hlegible, FileSystem.readText_of_entry hentry⟩

/-- A manifest is a script in which nothing is declared, so a file that holds one yields nothing.
The output of a run that succeeded is such a file, by every path that leads to it. A later scan goes
over such files as if they were not there, but for their number: it fails if and only if the scan of
the other files does, and otherwise finds what that one finds. -/
theorem manifest_inert :
    (∀ registry, Legible registry →
      Script.declarations (Manifest.render registry ++ "\n") = .ok []) ∧
    (∀ files path, HoldsManifest files path → Scan.extract Script.declarations files path =
      .ok { patterns := [], matchTarget := none, diagnostics := [], siteCount := 0 }) ∧
    (∀ (read : Parser) files options root config race race' outcome output after report,
      FileSystem.isDirectory files "." = true → Prepared files options root config →
      Scan.run read files root config.paths race = .ok outcome → Legible outcome.registry →
      run read files (.generate options (some output)) race' = (after, .ok report) →
      ∀ path, after.locate true path.text = after.locate true output.text →
        HoldsManifest after path) ∧
    ∀ files root directories race paths (skipped : Path → Bool),
      Scan.candidatesOfAll files root directories race = .ok paths →
      (∀ path ∈ paths, skipped path = true → HoldsManifest files path) →
      Scan.run Script.declarations files root directories race =
        ((paths.filter (!skipped ·)).foldlM (Scan.step Script.declarations files root) {}).map
          fun outcome => { outcome with scanned := outcome.scanned + paths.countP skipped } :=
  ⟨fun _ => Scan.declarations_manifest, fun _ _ h => h.extract_eq,
    fun _ _ _ _ _ _ _ _ _ _ _ hcurrent h hscan hlegible hrun _ hpath => holdsManifest_of_generate
      (FileSystem.hasCurrent_of_isDirectory hcurrent) h hscan hlegible hrun hpath,
    fun _ _ _ _ _ _ hpaths h => Scan.run_over_manifests hpaths h⟩

/-- The small project with its manifest beside its file. -/
def generatedProject : FileSystem :=
  smallProject.placeFile [⟨"src", by decide⟩] ⟨"manifest.ts", by decide⟩
    (Manifest.render smallRegistry ++ "\n").toUTF8

theorem run_generate_smallProject :
    ∃ report, run wholeText smallProject (.generate {} (some ⟨"src/manifest.ts"⟩)) =
      (generatedProject, .ok report) := by
  obtain ⟨session, hsession, hregistry⟩ :=
    exists_scanned_of_scan wholeText prepared_smallProject run_smallProject
  have hwrite : writeManifest smallProject ⟨"src/manifest.ts"⟩ (Manifest.render session.registry) =
      (generatedProject, none) := by
    rw [hregistry]
    rfl
  rw [run, runGenerate, hsession]
  simp only [hwrite]
  exact ⟨_, rfl⟩

/-- The manifest of a project in the directory that is scanned again. -/
theorem manifest_inert_beside :
    ∃ report, run wholeText smallProject (.generate {} (some ⟨"src/manifest.ts"⟩)) =
      (generatedProject, .ok report) ∧
      Scan.extract Script.declarations generatedProject ⟨"/src/manifest.ts"⟩ = .ok {} ∧
      Scan.run Script.declarations generatedProject ⟨"/"⟩ ["src"] =
        (Scan.step Script.declarations generatedProject ⟨"/"⟩ {} ⟨"/src/a.ts"⟩).map fun outcome =>
          { outcome with scanned := outcome.scanned + 1 } := by
  obtain ⟨report, hrun⟩ := run_generate_smallProject
  obtain ⟨-, hextract, hgenerate, hskip⟩ := manifest_inert
  have hholds : HoldsManifest generatedProject ⟨"/src/manifest.ts"⟩ :=
    hgenerate wholeText smallProject {} _ _ _ _ _ _ _ _ (by decide +kernel) prepared_smallProject
      run_smallProject (by decide) hrun _ rfl
  refine ⟨report, hrun, hextract _ _ hholds, ?_⟩
  have hpaths : Scan.candidatesOfAll generatedProject ⟨"/"⟩ ["src"] =
      .ok [⟨"/src/a.ts"⟩, ⟨"/src/manifest.ts"⟩] := by
    decide +kernel
  have hscan := hskip _ _ _ _ _ (fun path => decide (path = ⟨"/src/manifest.ts"⟩)) hpaths
      fun path _ hpath => by
    rwa [of_decide_eq_true hpath]
  have hleft : ([⟨"/src/a.ts"⟩, ⟨"/src/manifest.ts"⟩] : List Path).filter
      (fun path => !decide (path = ⟨"/src/manifest.ts"⟩)) = [⟨"/src/a.ts"⟩] := by decide
  rw [hleft, List.foldlM_cons] at hscan
  rw [hscan]
  cases Scan.step Script.declarations generatedProject ⟨"/"⟩ {} ⟨"/src/a.ts"⟩ <;> rfl

end RouteManifest.Command
