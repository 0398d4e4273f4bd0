import RouteManifest.Proofs.FileSystem.Walks
import RouteManifest.Proofs.Traversal

/-!
What making directories and writing a file changes. Directories are made where nothing was, each at
a place to which one of the paths leads. A file is written at the place to which its path leads, and
no other place looks different.
-/

namespace RouteManifest

theorem Path.ancestors_eq_cons (path : Path) : path.ancestors = path :: path.ancestors.drop 1 := by
  rw [ancestors]
  cases path.text.length with
  | zero => rfl
  | succ limit =>
    rw [ancestorsUpTo]
    cases path.directory? <;> rfl

namespace FileSystem

open Traversal (bind_eq_ok_iff)

/-! ### What a path leads to -/

section
variable {files : FileSystem} {path : String}

theorem entry_eq_ok_iff {entry : Entry} :
    files.entry path = .ok entry ↔ ∃ place, files.locate true path = .ok (.found place entry) := by
  rw [FileSystem.entry, bind_eq_ok_iff]
  constructor
  · rintro ⟨target, hlocate, h⟩
    cases target with
    | found place _ =>
      cases h
      exact ⟨place, hlocate⟩
    | missing => cases h
  · rintro ⟨place, hlocate⟩
    exact ⟨_, hlocate, rfl⟩

theorem isDirectory_iff :
    files.isDirectory path = true ↔ ∃ place inner,
      files.locate true path = .ok (.found place (.directory inner)) := by
  rw [exists_comm]
  simp only [← entry_eq_ok_iff, isDirectory]
  split
  · next inner hentry => exact iff_of_true rfl ⟨inner, hentry⟩
  · next hother => exact iff_of_false Bool.false_ne_true fun ⟨inner, hentry⟩ => hother inner hentry

theorem readText_eq_ok_iff {text : String} :
    files.readText path = .ok text ↔ ∃ content, files.entry path = .ok (.file content) ∧
      String.fromUTF8? content = some text := by
  rw [readText, bind_eq_ok_iff]
  constructor
  · rintro ⟨entry, hentry, h⟩
    cases entry with
    | directory | link => cases h
    | file content =>
      simp only at h
      split at h
      · next hcontent =>
        cases h
        exact ⟨content, hentry, hcontent⟩
      · cases h
  · rintro ⟨content, hentry, hcontent⟩
    refine ⟨_, hentry, ?_⟩
    simp only [hcontent]
    rfl

theorem readText_of_entry {text : String} (h : files.entry path = .ok (.file text.toUTF8)) :
    files.readText path = .ok text :=
  readText_eq_ok_iff.2 ⟨_, h, dif_pos text.isValidUTF8⟩

end

/-! ### What can be seen of a file system -/

/-- What lies at a place, seen from outside. -/
def look? (files : FileSystem) (place : Location) : Option Look :=
  (files.entries.at? place).map Entry.look

/-- The current directory is there. -/
def HasCurrent (files : FileSystem) : Prop := files.entries.IsDirectory files.current

/-- A path leads to a place where something lies, with links followed. -/
def LeadsTo (files : FileSystem) (path : String) (place : Location) : Prop :=
  ∃ entry, files.locate true path = .ok (.found place entry)

theorem hasCurrent_of_isDirectory {files : FileSystem} (h : files.isDirectory "." = true) :
    files.HasCurrent := by
  obtain ⟨place, inner, hlocate⟩ := isDirectory_iff.1 h
  have hwalk : files.locate true "." = walk files.entries true linkLimit files.current [.stay] :=
    rfl
  rw [hwalk, linkLimit, walk, walkWith, walkWith] at hlocate
  split at hlocate
  · next entry hat =>
    cases hlocate
    exact ⟨inner, hat⟩
  · cases hlocate

theorem locateSteps_eq_ok_iff {files : FileSystem} {follow : Bool} {path : String} {way : List Step}
    {result : Target} :
    files.locateSteps follow path way = .ok result ↔
      pathFault? path = none ∧
        walk files.entries follow linkLimit (startOf path files.current) way = .ok result := by
  rw [locateSteps]
  cases pathFault? path with
  | none => simp
  | some fault => simp

theorem HasCurrent.holds {files : FileSystem} (hcurrent : files.HasCurrent) {follow : Bool}
    {path : String}
    {way : List Step}
    {result : Target} (h : files.locateSteps follow path way = .ok result) :
    result.Holds files.entries follow :=
  walk_holds (isDirectory_startOf path hcurrent) (locateSteps_eq_ok_iff.1 h).2

/-- A walk from the same directory ends at the same place in a file system that holds all of the
first one. -/
theorem locateSteps_keeps {before after : FileSystem} (hkeeps : Keeps before.entries after.entries)
    (hcurrent : after.current = before.current) {follow : Bool} {path : String} {way : List Step}
    {result : Target}
    (h : before.locateSteps follow path way = .ok result)
    (hlinks : LinksNothingNew before.entries after.entries result.location) :
    ∃ result', after.locateSteps follow path way = .ok result' ∧
      result'.location = result.location := by
  obtain ⟨hpath, hwalk⟩ := locateSteps_eq_ok_iff.1 h
  obtain ⟨result', hwalk', hlocation⟩ := walk_keeps hkeeps hwalk hlinks
  exact ⟨result', locateSteps_eq_ok_iff.2 ⟨hpath, hcurrent ▸ hwalk'⟩, hlocation⟩

/-- What lies at the place of a target is what is found there. -/
theorem Target.Holds.eq_found {entries : Entries} {follow : Bool} {result : Target}
    (h : result.Holds entries follow)
    {entry : Entry} (hentry : entries.at? result.location = some entry) :
    result = .found result.location entry := by
  cases result with
  | found location found =>
    have hfound : entries.at? location = some entry := hentry
    rw [h.1] at hfound
    cases hfound
    rfl
  | missing directory name =>
    have hmissing : entries.at? (directory ++ [name]) = some entry := hentry
    rw [h.2] at hmissing
    cases hmissing

/-! ### Adding directories -/

section
variable {before middle after : FileSystem} {paths more : List Path}

/-- The second file system is the first one with directories added where nothing was. One of the
paths leads to each. -/
structure Adds (paths : List Path) (before after : FileSystem) : Prop where
  current : after.current = before.current
  closed : after.closed = before.closed
  look : ∀ place, after.look? place = before.look? place ∨
    before.look? place = none ∧ after.look? place = some .directory ∧ ∃ path ∈ paths,
      after.LeadsTo path.text place

/-- An entry that looks as another one did is treated alike. -/
theorem exists_alike {place : Location} {entry : Entry}
    (hentry : before.entries.at? place = some entry)
    (h : after.look? place = before.look? place) : ∃ entry', after.entries.at? place = some entry' ∧
      Alike entry entry' := by
  have hlook : after.look? place = some entry.look := by rw [h, look?, hentry]; rfl
  obtain ⟨entry', hentry', heq⟩ := Option.map_eq_some_iff.1 hlook
  refine ⟨entry', hentry', ?_⟩
  cases entry <;> cases entry' <;> cases heq <;> constructor

theorem Adds.keeps (h : Adds paths before after) : Keeps before.entries after.entries := by
  intro place entry hentry
  rcases h.look place with hsame | ⟨hnone, -⟩
  · exact exists_alike hentry hsame
  · simp [look?, hentry] at hnone

theorem HasCurrent.of_keeps (hcurrent : before.HasCurrent)
    (hkeeps : Keeps before.entries after.entries)
    (hsame : after.current = before.current) : after.HasCurrent := by
  obtain ⟨inner, hinner⟩ := hcurrent
  obtain ⟨entry, hentry, halike⟩ := hkeeps _ _ hinner
  cases halike with
  | directory _ inner' => exact ⟨inner', hsame ▸ hentry⟩

/-- A path that leads somewhere leads there in a file system that holds all of the first one. -/
theorem LeadsTo.of_keeps {path : String} {place : Location} (h : before.LeadsTo path place)
    (hcurrent : before.HasCurrent)
    (hkeeps : Keeps before.entries after.entries) (hsame : after.current = before.current) :
      after.LeadsTo path place := by
  obtain ⟨entry, hlocate⟩ := h
  have hat : before.entries.at? place = some entry := (hcurrent.holds hlocate).1
  obtain ⟨result, hresult, rfl⟩ := locateSteps_keeps hkeeps hsame hlocate fun hnone => by
    rw [show Target.location (.found place entry) = place from rfl, hat] at hnone
    cases hnone
  obtain ⟨entry', hentry', -⟩ := hkeeps _ _ hat
  have hfound := ((hcurrent.of_keeps hkeeps hsame).holds hresult).eq_found hentry'
  exact ⟨entry', hfound ▸ hresult⟩

theorem Adds.refl (files : FileSystem) : Adds paths files files :=
  ⟨rfl, rfl, fun _ => .inl rfl⟩

theorem Adds.mono (h : Adds paths before after) (hpaths : ∀ path ∈ paths, path ∈ more) :
    Adds more before after := by
  refine ⟨h.current, h.closed, fun place => (h.look place).imp_right ?_⟩
  rintro ⟨hnone, hdirectory, path, hpath, hleads⟩
  exact ⟨hnone, hdirectory, path, hpaths path hpath, hleads⟩

theorem Adds.trans (hcurrent : before.HasCurrent) (hfirst : Adds paths before middle)
    (hsecond : Adds paths middle after) :
    Adds paths before after := by
  refine ⟨hsecond.current.trans hfirst.current, hsecond.closed.trans hfirst.closed,
    fun place => ?_⟩
  rcases hfirst.look place with hsame | ⟨hnone, hdirectory, path, hpath, hleads⟩
  · rw [← hsame]
    exact hsecond.look place
  · refine .inr ⟨hnone, ?_, path, hpath, ?_⟩
    · rcases hsecond.look place with hsame | ⟨hnone', -⟩
      · rw [hsame, hdirectory]
      · rw [hdirectory] at hnone'
        cases hnone'
    · exact hleads.of_keeps (hcurrent.of_keeps hfirst.keeps hfirst.current) hsecond.keeps
        hsecond.current

/-- The name of a missing entry that is given an empty one is the one place that looks different. -/
theorem look?_place {files : FileSystem} {directory : Location} {name : FileName} {entry : Entry}
    (hdistinct : entry.Distinct)
    (hdirectory : files.entries.IsDirectory directory) (hentry : entry.IsEmpty)
    (hold : ∀ old, files.entries.at? (directory ++ [name]) = some old → old.IsEmpty) :
    (files.place directory name entry hdistinct).entries.at? (directory ++ [name]) = some entry ∧
      ∀ place, place ≠ directory ++ [name] →
        (files.place directory name entry hdistinct).look? place =
        files.look? place :=
  Entries.at?_put hdirectory hentry hold

/-- The steps of a path are those of its names, and one that asks for a directory if it ends in a
slash. -/
theorem steps_eq_append (path : String) : ∃ final, (final = [] ∨ final = [.stay]) ∧
    steps path = (Path.pieces path.toList).filterMap Step.ofPiece? ++ final := by
  refine ⟨if endsInSlash path then [.stay] else [], ?_, rfl⟩
  split
  · exact .inr rfl
  · exact .inl rfl

/-- The steps of a path to a directory that is made. Slashes at its end do not count. -/
theorem createDirectory_cases {files made : FileSystem} {path : String}
    (h : files.createDirectory path = .ok made) :
    ∃ directory name,
      files.locateSteps false path ((Path.pieces path.toList).filterMap Step.ofPiece?) =
          .ok (.missing directory name) ∧
        made = files.place directory name (.directory []) (by trivial) := by
  obtain ⟨target, hlocate, h⟩ := bind_eq_ok_iff.1 h
  cases target with
  | found => cases h
  | missing directory name => exact ⟨directory, name, hlocate, (Except.ok.inj h).symm⟩

/-- A directory that is made is one that was missing, at the place to which its path leads. -/
theorem adds_of_createDirectory {path : Path} (hcurrent : before.HasCurrent)
    (h : before.createDirectory path.text = .ok after) : Adds [path] before after := by
  obtain ⟨directory, name, hlocate, rfl⟩ := createDirectory_cases h
  obtain ⟨hdirectory, hmissing⟩ := hcurrent.holds hlocate
  have hnone : before.look? (directory ++ [name]) = none := by rw [look?, hmissing]; rfl
  obtain ⟨hnew, hother⟩ :=
    look?_place (show Entry.Distinct (.directory []) by trivial) hdirectory rfl fun old hold => by
      rw [hmissing] at hold
      cases hold
  have hkeeps : Keeps before.entries
      (before.place directory name (.directory []) (by trivial)).entries := by
    intro place entry hentry
    refine exists_alike hentry (hother place ?_)
    rintro rfl
    rw [hmissing] at hentry
    cases hentry
  -- Making a directory looks for a name without following it. As a directory is there now,
  -- following it leads to the same place.
  have hleads : (before.place directory name (.directory []) (by trivial)).LeadsTo path.text
      (directory ++ [name]) := by
    obtain ⟨result, hresult, hlocation⟩ :=
        locateSteps_keeps hkeeps rfl hlocate fun _ target hlink => by
      rw [show Target.location (.missing directory name) = directory ++ [name] from rfl,
        hnew] at hlink
      cases hlink
    have hlocation' : result.location = directory ++ [name] := hlocation
    have hfound := ((hcurrent.of_keeps hkeeps rfl).holds hresult).eq_found (hlocation' ▸ hnew)
    rw [hfound, hlocation'] at hresult
    obtain ⟨final, hfinal, hsteps⟩ := steps_eq_append path.text
    obtain ⟨hpath, hwalk⟩ := locateSteps_eq_ok_iff.1 hresult
    refine ⟨.directory [], locateSteps_eq_ok_iff.2 ⟨hpath, ?_⟩⟩
    rw [hsteps]
    exact walk_directory hfinal hwalk
  refine ⟨rfl, rfl, fun place => ?_⟩
  by_cases hplace : place = directory ++ [name]
  · subst hplace
    exact .inr ⟨hnone, by rw [look?, hnew]; rfl, path, List.mem_singleton_self path, hleads⟩
  · exact .inl (hother place hplace)

theorem adds_of_ensureDirectory {path : Path} (hcurrent : before.HasCurrent)
    (h : before.ensureDirectory path.text = .ok after) : Adds [path] before after := by
  rw [ensureDirectory] at h
  split at h
  · next made hmade =>
    cases h
    exact adds_of_createDirectory hcurrent hmade
  · split at h
    · cases h
      exact Adds.refl _
    · cases h

/-- Making a directory and those above it adds the missing ones among them. The induction is on the
paths above. -/
theorem adds_of_createDirectoriesFrom {path : Path} {above : List Path}
    (hcurrent : before.HasCurrent)
    (h : before.createDirectoriesFrom path above = (after, none)) :
    Adds (path :: above) before after := by
  have hone : ∀ {files made : FileSystem}, files.HasCurrent →
      files.ensureDirectory path.text = .ok made →
      Adds (path :: above) files made := fun hfiles hmade =>
    (adds_of_ensureDirectory hfiles hmade).mono fun other hother => by simp_all
  induction above generalizing before after path with
  | nil =>
    rw [createDirectoriesFrom] at h
    split at h
    · next made hmade =>
      cases h
      exact hone hcurrent hmade
    · cases h
  | cons next above ih =>
    rw [createDirectoriesFrom] at h
    split at h
    · next made hmade =>
      cases h
      exact hone hcurrent hmade
    · split at h
      · cases h
      · next between hbetween =>
        have habove : Adds (path :: next :: above) before between := by
          split at hbetween
          · cases hbetween
            exact Adds.refl _
          · refine (ih hcurrent hbetween ?_).mono fun other hother =>
              List.mem_cons_of_mem path hother
            intro files made hfiles hmade
            exact (adds_of_ensureDirectory hfiles hmade).mono fun other hother => by simp_all
        split at h
        · next made hmade =>
          cases h
          exact habove.trans hcurrent (hone (hcurrent.of_keeps habove.keeps habove.current) hmade)
        · cases h
    · cases h

theorem adds_of_createDirectories {path : Path} (hcurrent : before.HasCurrent)
    (h : before.createDirectories path = (after, none)) : Adds path.ancestors before after := by
  rw [createDirectories] at h
  split at h
  · cases h
    exact Adds.refl _
  · rw [Path.ancestors_eq_cons]
    exact adds_of_createDirectoriesFrom hcurrent h

/-! ### Writing a file -/

/-- A path leads to a place for a file: to a missing name in a directory, or to a file. -/
def Places (files : FileSystem) (path : String) (directory : Location) (name : FileName) : Prop :=
  files.locate true path = .ok (.missing directory name) ∨
    ∃ old, files.locate true path = .ok (.found (directory ++ [name]) (.file old))

/-- A file can only be written to a place for one, by a path without a slash at its end. -/
theorem write_cases {files written : FileSystem} {path : String} {content : ByteArray}
    (h : files.write path content = .ok written) :
    endsInSlash path = false ∧ ∃ directory name, files.Places path directory name ∧
      written = files.placeFile directory name content := by
  rw [write] at h
  cases hslash : endsInSlash path with
  | true =>
    rw [hslash, if_pos rfl] at h
    obtain ⟨target, -, h⟩ := bind_eq_ok_iff.1 h
    cases target <;> cases h
  | false =>
    rw [hslash, if_neg Bool.false_ne_true] at h
    obtain ⟨target, hlocate, h⟩ := bind_eq_ok_iff.1 h
    refine ⟨rfl, ?_⟩
    cases target with
    | missing directory name => exact ⟨directory, name, .inl hlocate, (Except.ok.inj h).symm⟩
    | found location entry =>
      cases entry with
      | directory | link => cases h
      | file old =>
        obtain rfl | ⟨above, name, rfl⟩ := List.eq_nil_or_concat location
        · cases h
        · simp only [List.concat_eq_append] at hlocate h
          rw [List.getLast?_concat, List.dropLast_concat] at h
          exact ⟨above, name, .inr ⟨old, hlocate⟩, (Except.ok.inj h).symm⟩

theorem write_of_places {files : FileSystem} {path : String} {directory : Location}
    {name : FileName}
    (hslash : endsInSlash path = false) (h : files.Places path directory name)
    (content : ByteArray) :
    files.write path content = .ok (files.placeFile directory name content) := by
  rw [write, hslash, if_neg Bool.false_ne_true]
  rcases h with hlocate | ⟨old, hlocate⟩
  · simp [hlocate, bind, Except.bind, pure, Except.pure]
  · simp [hlocate, bind, Except.bind, pure, Except.pure]

/-- A file that is put at a place for one lies where the path leads, and no other place looks
different. -/
theorem placed_of_places {path : String} {directory : Location} {name : FileName}
    (hcurrent : before.HasCurrent)
    (h : before.Places path directory name) (content : ByteArray) :
    Keeps before.entries (before.placeFile directory name content).entries ∧
      (before.placeFile directory name content).locate true path =
        .ok (.found (directory ++ [name]) (.file content)) ∧
      ∀ place, place ≠ directory ++ [name] →
        (before.placeFile directory name content).look? place = before.look? place := by
  -- Both kinds of place are a name in a directory that holds a file or nothing.
  have hplace : before.entries.IsDirectory directory ∧
      (∀ entry, before.entries.at? (directory ++ [name]) = some entry → ∃ old, entry = .file old) ∧
        ∃ result, before.locate true path = .ok result ∧ result.location = directory ++ [name] := by
    rcases h with hmissing | ⟨old, hfound⟩
    · obtain ⟨hdirectory, hnone⟩ := hcurrent.holds hmissing
      refine ⟨hdirectory, fun entry hentry => ?_, _, hmissing, rfl⟩
      rw [hnone] at hentry
      cases hentry
    · obtain ⟨hat, -⟩ := hcurrent.holds hfound
      refine ⟨Entries.isDirectory_of_at?_append hat (List.cons_ne_nil name []),
        fun entry hentry => ?_, _, hfound, rfl⟩
      rw [hat] at hentry
      cases hentry
      exact ⟨old, rfl⟩
  obtain ⟨hdirectory, hold, result, hlocate, hlocation⟩ := hplace
  obtain ⟨hnew, hother⟩ :=
    look?_place (show Entry.Distinct (.file content) by trivial) hdirectory trivial
    fun entry hentry => by
      obtain ⟨old, rfl⟩ := hold entry hentry
      trivial
  have hkeeps : Keeps before.entries (before.placeFile directory name content).entries := by
    intro place entry hentry
    by_cases hplace : place = directory ++ [name]
    · subst hplace
      obtain ⟨old, rfl⟩ := hold entry hentry
      exact ⟨_, hnew, .file _ _⟩
    · exact exists_alike hentry (hother place hplace)
  refine ⟨hkeeps, ?_, hother⟩
  have hnew' : (before.placeFile directory name content).entries.at? result.location =
      some (.file content) :=
    hlocation ▸ hnew
  obtain ⟨result', hresult', hlocation'⟩ :=
      locateSteps_keeps hkeeps rfl hlocate fun _ target hlink => by
    rw [hnew'] at hlink
    cases hlink
  have hfound := ((hcurrent.of_keeps hkeeps rfl).holds hresult').eq_found (hlocation' ▸ hnew')
  rwa [hfound, hlocation', hlocation] at hresult'

/-- A file that is written lies where its path leads, in place of a file or of nothing, and no other
place looks different. -/
theorem exists_of_write {path : String} {content : ByteArray} (hcurrent : before.HasCurrent)
    (h : before.write path content = .ok after) :
    after.current = before.current ∧ after.closed = before.closed ∧
      Keeps before.entries after.entries ∧ ∃ target,
        after.locate true path = .ok (.found target (.file content)) ∧
          ∀ place, place ≠ target → after.look? place = before.look? place := by
  obtain ⟨-, directory, name, hplaces, rfl⟩ := write_cases h
  obtain ⟨hkeeps, hlocate, hother⟩ := placed_of_places hcurrent hplaces content
  exact ⟨rfl, rfl, hkeeps, _, hlocate, hother⟩

/-- The directory above a path, or the empty path if there is none. -/
def directoryOf (path : Path) : Path := (path.directory?).getD ⟨""⟩

/-- A path can be written to: the directories above it are there or can be made, and then some
content is taken. -/
def CanWrite (files : FileSystem) (output : Path) : Prop :=
  ∃ made, files.createDirectories (directoryOf output) = (made, none) ∧
    ∃ content written, made.write output.text content = .ok written

/-- The second file system is the first one with a file of the given content where a path leads, and
with directories above that path added where nothing was. -/
structure Stores (output : Path) (content : ByteArray) (before after : FileSystem) : Prop where
  current : after.current = before.current
  closed : after.closed = before.closed
  look : ∃ target, after.locate true output.text = .ok (.found target (.file content)) ∧
    ∀ place, place ≠ target → after.look? place = before.look? place ∨
      before.look? place = none ∧ after.look? place = some .directory ∧
        ∃ path ∈ (directoryOf output).ancestors, after.LeadsTo path.text place

/-- A file that is stored is what its path leads to. -/
theorem Stores.entry {output : Path} {content : ByteArray}
    (h : Stores output content before after) :
    after.entry output.text = .ok (.file content) := by
  obtain ⟨target, hlocate, -⟩ := h.look
  exact entry_eq_ok_iff.2 ⟨target, hlocate⟩

/-- Where a path can be written to, every content can be, and nothing else changes. -/
theorem exists_stores {output : Path} (hcurrent : before.HasCurrent) (h : before.CanWrite output)
    (content : ByteArray) :
    ∃ made after, before.createDirectories (directoryOf output) = (made, none) ∧
      made.write output.text content = .ok after ∧ Stores output content before after := by
  obtain ⟨made, hmade, content', written, hwritten⟩ := h
  obtain ⟨hslash, directory, name, hplaces, -⟩ := write_cases hwritten
  have hwrite := write_of_places hslash hplaces content
  have hadds := adds_of_createDirectories hcurrent hmade
  have hmadeCurrent := hcurrent.of_keeps hadds.keeps hadds.current
  obtain ⟨hsame, hclosed, hkeeps, target, hlocate, hother⟩ := exists_of_write hmadeCurrent hwrite
  refine ⟨made, _, hmade, hwrite, hsame.trans hadds.current, hclosed.trans hadds.closed, target,
    hlocate, fun place hplace => ?_⟩
  rw [hother place hplace]
  refine (hadds.look place).imp_right ?_
  rintro ⟨hnone, hdirectory, path, hpath, hleads⟩
  exact ⟨hnone, hdirectory, path, hpath, hleads.of_keeps hmadeCurrent hkeeps hsame⟩

end

end FileSystem

end RouteManifest
