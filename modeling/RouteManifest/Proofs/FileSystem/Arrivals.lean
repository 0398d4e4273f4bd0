import RouteManifest.Proofs.FileSystem.Writing
import RouteManifest.Proofs.Path.Below

/-!
Where a way through directories and links arrives, however many links it takes. A walk that is not
stopped by the limit on links arrives there, so two walks that go on in the same way from one
directory end at the same place, no matter how many links each of them had followed before.
-/

namespace RouteManifest.FileSystem

/-- A way from a directory arrives at a target, with all links on it followed. -/
inductive Arrives (entries : Entries) : Location → List Step → Target → Prop
  | here {place : Location} {entry : Entry} (hentry : entries.at? place = some entry) :
      Arrives entries place [] (.found place entry)
  | stay {place : Location} {rest : List Step} {target : Target}
      (hrest : Arrives entries place rest target) :
      Arrives entries place (.stay :: rest) target
  | up {place : Location} {rest : List Step} {target : Target}
      (hrest : Arrives entries place.dropLast rest target) :
      Arrives entries place (.up :: rest) target
  | missing {place : Location} {name : FileName} {rest : List Step}
      (hnone : entries.at? (place ++ [name]) = none)
      (hend : rest = []) : Arrives entries place (.into name :: rest) (.missing place name)
  | file {place : Location} {name : FileName} {content : ByteArray} {rest : List Step}
      (hfile : entries.at? (place ++ [name]) = some (.file content)) (hend : rest = []) :
      Arrives entries place (.into name :: rest) (.found (place ++ [name]) (.file content))
  | directory {place : Location} {name : FileName} {inner : Entries} {rest : List Step}
      {target : Target}
      (hdirectory : entries.at? (place ++ [name]) = some (.directory inner))
      (hrest : Arrives entries (place ++ [name]) rest target) :
      Arrives entries place (.into name :: rest) target
  | link {place : Location} {name : FileName} {text : String} {rest : List Step} {target : Target}
      (hlink : entries.at? (place ++ [name]) = some (.link text))
      (hrest : Arrives entries (startOf text place) (steps text ++ rest) target) :
      Arrives entries place (.into name :: rest) target

section
variable {entries : Entries} {place location : Location} {way more : List Step} {target : Target}

/-! ### Walks -/

theorem arrives_of_walkWith {onLink : Location → String → List Step → Except Fault Target}
    (honLink : ∀ place text rest target, onLink place text rest = .ok target →
      Arrives entries (startOf text place) (steps text ++ rest) target)
    (h : walkWith entries true onLink place way = .ok target) :
    Arrives entries place way target := by
  induction way generalizing place with
  | nil =>
    rw [walkWith] at h
    cases hat : entries.at? place with
    | none =>
      rw [hat] at h
      cases h
    | some entry =>
      rw [hat] at h
      cases h
      exact .here hat
  | cons step rest ih =>
    cases step with
    | stay => exact .stay (ih h)
    | up => exact .up (ih h)
    | into name =>
      rw [walkWith] at h
      split at h
      · cases h
      · cases hat : entries.at? (place ++ [name]) with
        | none =>
          simp only [hat] at h
          split at h
          · next hend =>
            cases h
            exact .missing hat (List.isEmpty_iff.1 hend)
          · cases h
        | some entry =>
          cases entry with
          | directory inner =>
            simp only [hat] at h
            exact .directory hat (ih h)
          | file content =>
            simp only [hat] at h
            split at h
            · next hend =>
              cases h
              exact .file hat (List.isEmpty_iff.1 hend)
            · cases h
          | link text =>
            simp only [hat, Bool.not_true, Bool.and_false, Bool.false_eq_true, if_false] at h
            exact .link hat (honLink place text rest target h)

/-- A walk that ends ends where its way arrives. The induction is on the links that may be
followed. -/
theorem arrives_of_walk {links : Nat} (h : walk entries true links place way = .ok target) :
    Arrives entries place way target := by
  induction links generalizing place way target with
  | zero => exact arrives_of_walkWith (fun _ _ _ _ h => by cases h) h
  | succ links ih => exact arrives_of_walkWith (fun _ _ _ _ h => ih h) h

/-! ### Ways -/

/-- A way arrives at one target only. -/
theorem Arrives.unique {target' : Target} (h : Arrives entries place way target)
    (h' : Arrives entries place way target') : target = target' := by
  induction h with
  | here hentry =>
    cases h' with
    | here hentry' =>
      rw [hentry] at hentry'
      cases hentry'
      rfl
  | stay _ ih =>
    cases h' with
    | stay hrest => exact ih hrest
  | up _ ih =>
    cases h' with
    | up hrest => exact ih hrest
  | missing hnone hend => cases h' <;> simp_all
  | file hfile hend => cases h' <;> simp_all
  | directory hdirectory _ ih =>
    cases h' with
    | directory _ hrest => exact ih hrest
    | missing hat | file hat | link hat =>
      rw [hdirectory] at hat
      cases hat
  | link hlink _ ih =>
    cases h' with
    | link hlink' hrest =>
      rw [hlink] at hlink'
      cases hlink'
      exact ih hrest
    | missing hat | file hat | directory hat =>
      rw [hlink] at hat
      cases hat

/-- What is found lies at its place. -/
theorem Arrives.at?_eq {entry : Entry} (h : Arrives entries place way (.found location entry)) :
    entries.at? location = some entry := by
  generalize htarget : Target.found location entry = target at h
  induction h with
  | here hentry =>
    cases htarget
    exact hentry
  | missing => cases htarget
  | file hfile =>
    cases htarget
    exact hfile
  | stay _ ih | up _ ih | directory _ _ ih | link _ _ ih => exact ih htarget

/-- A way that goes on behind a directory goes on from there. -/
theorem Arrives.of_append {inner : Entries}
    (h : Arrives entries place way (.found location (.directory inner)))
    (hmore : Arrives entries place (way ++ more) target) :
    Arrives entries location more target := by
  generalize hfound : Target.found location (.directory inner) = found at h
  induction h with
  | here hentry =>
    cases hfound
    exact hmore
  | stay _ ih =>
    rw [List.cons_append] at hmore
    cases hmore with
    | stay hrest => exact ih hrest hfound
  | up _ ih =>
    rw [List.cons_append] at hmore
    cases hmore with
    | up hrest => exact ih hrest hfound
  | missing => cases hfound
  | file => cases hfound
  | directory hdirectory _ ih =>
    rw [List.cons_append] at hmore
    cases hmore with
    | directory _ hrest => exact ih hrest hfound
    | missing hat | file hat | link hat =>
      rw [hdirectory] at hat
      cases hat
  | link hlink _ ih =>
    rw [List.cons_append] at hmore
    cases hmore with
    | link hlink' hrest =>
      rw [hlink] at hlink'
      cases hlink'
      rw [← List.append_assoc] at hrest
      exact ih hrest hfound
    | missing hat | file hat | directory hat =>
      rw [hlink] at hat
      cases hat

theorem cons_of_append_stay {step : Step} {rest : List Step} (h : way ++ [.stay] = step :: rest) :
    (step = .stay ∧ way = [] ∧ rest = []) ∨ ∃ tail,
      way = step :: tail ∧ rest = tail ++ [.stay] := by
  rcases List.append_eq_cons_iff.1 h with ⟨hway, hstep⟩ | htail
  · obtain ⟨rfl, rfl⟩ := List.cons.inj hstep
    exact .inl ⟨rfl, hway, rfl⟩
  · exact .inr htail

/-- A step on the spot at the end makes no difference to where a way arrives. -/
theorem Arrives.of_stay (h : Arrives entries place (way ++ [.stay]) target) :
    Arrives entries place way target := by
  generalize hway : way ++ [Step.stay] = whole at h
  induction h generalizing way with
  | here => simp at hway
  | stay hrest ih =>
    rcases cons_of_append_stay hway with ⟨-, rfl, rfl⟩ | ⟨tail, rfl, rfl⟩
    · exact hrest
    · exact .stay (ih rfl)
  | up _ ih =>
    rcases cons_of_append_stay hway with ⟨hstep, -⟩ | ⟨tail, rfl, rfl⟩
    · cases hstep
    · exact .up (ih rfl)
  | missing _ hend | file _ hend =>
    rcases cons_of_append_stay hway with ⟨hstep, -⟩ | ⟨tail, rfl, rfl⟩
    · cases hstep
    · simp at hend
  | directory hdirectory _ ih =>
    rcases cons_of_append_stay hway with ⟨hstep, -⟩ | ⟨tail, rfl, rfl⟩
    · cases hstep
    · exact .directory hdirectory (ih rfl)
  | link hlink _ ih =>
    rcases cons_of_append_stay hway with ⟨hstep, -⟩ | ⟨tail, rfl, rfl⟩
    · cases hstep
    · refine .link hlink (ih ?_)
      rw [List.append_assoc]

end

/-! ### Paths -/

section
variable {files : FileSystem} {path root : Path} {place location : Location} {inner : Entries}
  {target : Target}

theorem exists_file_of_readText {path text : String} (h : files.readText path = .ok text) :
    ∃ place content, files.locate true path = .ok (.found place (.file content)) ∧
      String.fromUTF8? content = some text := by
  obtain ⟨content, hentry, hcontent⟩ := readText_eq_ok_iff.1 h
  obtain ⟨place, hlocate⟩ := entry_eq_ok_iff.1 hentry
  exact ⟨place, content, hlocate, hcontent⟩

/-- The steps that the pieces of a path stand for. -/
def wayOf (path : Path) : List Step := (Path.pieces path.text.toList).filterMap Step.ofPiece?

theorem arrives_of_locate (h : files.locate true path.text = .ok target) :
    Arrives files.entries (startOf path.text files.current) (wayOf path) target := by
  have hwalk := arrives_of_walk (locateSteps_eq_ok_iff.1 h).2
  obtain ⟨final, hfinal, hsteps⟩ := steps_eq_append path.text
  rw [hsteps] at hwalk
  rcases hfinal with rfl | rfl
  · rwa [List.append_nil] at hwalk
  · exact hwalk.of_stay

theorem at?_of_locate {entry : Entry}
    (h : files.locate true path.text = .ok (.found location entry)) :
    files.entries.at? location = some entry :=
  (arrives_of_locate h).at?_eq

/-- A path that goes on from another one arrives where its further steps arrive from the directory
of that one. -/
theorem arrives_of_locate_beyond {more : List Step}
    (hroot : Arrives files.entries (startOf root.text files.current) (wayOf root)
      (.found place (.directory inner)))
    (habsolute : path.isAbsolute = root.isAbsolute) (hway : wayOf path = wayOf root ++ more)
    (h : files.locate true path.text = .ok target) : Arrives files.entries place more target := by
  have hpath := arrives_of_locate h
  have hstart : startOf path.text files.current = startOf root.text files.current := by
    rw [startOf, startOf, show Path.isAbsolute ⟨path.text⟩ =
      Path.isAbsolute ⟨root.text⟩ from habsolute]
  rw [hstart, hway] at hpath
  exact hroot.of_append hpath

theorem wayOf_join {rest : String} (hrest : Path.isAbsolute ⟨rest⟩ = false) :
    wayOf (path.join rest) = wayOf path ++ wayOf ⟨rest⟩ :=
  Path.filterMap_pieces_join (by decide) hrest

theorem wayOf_below (names : List FileName) :
    wayOf (path.below names) = wayOf path ++ names.filterMap fun name =>
      Step.ofPiece? name.text.toList :=
  Path.filterMap_pieces_below (by decide) path names

/-- A root names the directory at a place. The empty path stands for the current directory. -/
def IsRootAt (files : FileSystem) (root : Path) (place : Location) : Prop :=
  ∃ inner, files.locate true (if root.text = "" then "." else root.text) =
    .ok (.found place (.directory inner))

theorem IsRootAt.arrives (h : files.IsRootAt root place) :
    ∃ inner, Arrives files.entries (startOf root.text files.current) (wayOf root)
      (.found place (.directory inner)) := by
  obtain ⟨inner, hlocate⟩ := h
  refine ⟨inner, ?_⟩
  by_cases hempty : root.text = ""
  · rw [if_pos hempty] at hlocate
    obtain ⟨text⟩ := root
    subst hempty
    have hdot : Arrives files.entries (startOf "." files.current) (wayOf ⟨"."⟩) _ :=
      arrives_of_locate hlocate
    have hstay : Arrives files.entries files.current ([] ++ [.stay]) _ := hdot
    exact hstay.of_stay
  · rw [if_neg hempty] at hlocate
    exact arrives_of_locate hlocate

/-- From every root at a place the same path leads to the same target, if it leads anywhere. -/
theorem IsRootAt.locate_unique {other : Path} {rest : String} {names : List FileName}
    {target' : Target}
    (hroot : files.IsRootAt root place) (hother : files.IsRootAt other place)
    (hrest : Path.isAbsolute ⟨rest⟩ = false)
    (h : files.locate true ((root.join rest).below names).text = .ok target)
    (h' : files.locate true ((other.join rest).below names).text = .ok target') :
    target = target' := by
  have harrives : ∀ {root : Path} {target : Target}, files.IsRootAt root place →
      files.locate true ((root.join rest).below names).text = .ok target →
        Arrives files.entries place
        (wayOf ⟨rest⟩ ++ names.filterMap fun name => Step.ofPiece? name.text.toList) target := by
    intro root target hroot h
    obtain ⟨inner, hinner⟩ := hroot.arrives
    refine arrives_of_locate_beyond hinner ?_ ?_ h
    · rw [Path.isAbsolute_below, Path.isAbsolute_join hrest]
    · rw [wayOf_below, wayOf_join hrest, List.append_assoc]
  exact (harrives hroot h).unique (harrives hother h')

end

end RouteManifest.FileSystem
