import RouteManifest.Proofs.Declaration.Merging
import RouteManifest.Proofs.Path.Folding
import RouteManifest.Proofs.Scan.Listing

/-!
Scans of one directory whose path is written in different ways. From all of these roots the same
files are found in the same order, and what is found in them goes into the manifest under the same
paths, provided that the directories to scan do not climb above the root.
-/

namespace RouteManifest.Scan

open FileSystem (IsRootAt)
open RouteManifest.Path (Folds IsName StaysBelow isAbsolute route segments)

/-! ### Paths below a root -/

/-- A path that lies below every root: it is relative, and it never climbs above its start. -/
structure IsInside (rest : String) : Prop where
  relative : isAbsolute ⟨rest⟩ = false
  staysBelow : StaysBelow (segments ⟨rest⟩)

theorem route_below_of_folds {rest : String} {folded : List String}
    (hrest : isAbsolute ⟨rest⟩ = false)
    (h : Folds (segments ⟨rest⟩) folded) (root : Path) (names : List FileName) :
    route root ((root.join rest).below names) =
      "/" ++ String.intercalate "/" (folded ++ names.map FileName.text) := by
  apply Path.route_of_resolve
  rw [Path.resolve_below, Path.resolve_join_of_folds root hrest h, List.append_assoc,
    List.map_append]

/-- What is left of a path that stays below the root is all that its path in a manifest holds. -/
theorem IsInside.exists_route {rest : String} (h : IsInside rest) :
    ∃ folded, (∀ other, Folds (segments ⟨rest⟩) other ↔ other = folded) ∧
      (∀ name ∈ folded, IsName name) ∧
      ∀ root : Path, route root (root.join rest) = "/" ++ String.intercalate "/" folded := by
  obtain ⟨folded, hfolds⟩ := Path.exists_folds (Path.root_not_mem_segments h.relative) h.staysBelow
  refine ⟨folded, fun other => ⟨fun hother => hother.unique hfolds, ?_⟩,
    Path.isName_of_folds hfolds, ?_⟩
  · rintro rfl
    exact hfolds
  · intro root
    have hroute := route_below_of_folds h.relative hfolds root []
    rwa [List.map_nil, List.append_nil] at hroute

/-! ### Two roots -/

/-- Two paths lead from their roots into one of the directories to scan and on over the same
names. -/
inductive Twins (root other : Path) (directories : List String) : Path → Path → Prop
  | intro {directory : String} (hmem : directory ∈ directories) (names : List FileName) :
      Twins root other directories ((root.join directory).below names)
        ((other.join directory).below names)

/-- Two scans find the same records and read as many files, and no path in a manifest has `..` in
it. -/
structure SameBelow (first second : Outcome) : Prop where
  registry : first.registry = second.registry
  empty : first.empty = second.empty
  scanned : first.scanned = second.scanned
  below : ∀ path ∈ first.registry.map Record.path ++ first.empty, .parent ∉ segments ⟨path⟩

theorem SameBelow.append {first first' second second' : Outcome} (h : SameBelow first first')
    (h' : SameBelow second second') : SameBelow (first.append second) (first'.append second') := by
  refine ⟨?_, ?_, ?_, ?_⟩
  · rw [Outcome.append, Outcome.append, h.registry, h'.registry]
  · rw [Outcome.append, Outcome.append, h.empty, h'.empty]
  · rw [Outcome.append, Outcome.append, h.scanned, h'.scanned]
  · intro path hpath
    have hsplit : path ∈ first.registry.map Record.path ++ first.empty ∨
        path ∈ second.registry.map Record.path ++ second.empty := by
      simp only [Outcome.append, List.map_append, List.mem_append] at hpath ⊢
      tauto
    exact hsplit.elim (h.below path) (h'.below path)

theorem SameBelow.concat {parts parts' : List Outcome} (h : List.Forall₂ SameBelow parts parts') :
    SameBelow (.concat parts) (.concat parts') := by
  induction h with
  | nil => exact ⟨rfl, rfl, rfl, by simp [Outcome.concat]⟩
  | cons hpart _ ih => exact hpart.append ih

/-- What a file adds depends on its path in the manifest and on what is declared in it. -/
theorem sameBelow_add {path : String} {found found' : Extraction}
    (hpath : .parent ∉ segments ⟨path⟩)
    (hpatterns : found.patterns = found'.patterns)
    (htarget : found.matchTarget = found'.matchTarget)
    (hcount : found.siteCount = found'.siteCount) :
    SameBelow (Outcome.add {} path found) (Outcome.add {} path found') := by
  unfold Outcome.add
  rw [← hpatterns, ← htarget, ← hcount]
  split
  · split
    · exact ⟨rfl, rfl, rfl, by simp⟩
    · exact ⟨rfl, rfl, rfl, by simpa using hpath⟩
  · exact ⟨rfl, rfl, rfl, by simpa using hpath⟩

section
variable {read : DeclarationReader} {files : FileSystem} {root other : Path} {place : Location}
  {directories : List String}
  (hroot : files.IsRootAt root place) (hother : files.IsRootAt other place)
  (hinside : ∀ directory ∈ directories, IsInside directory)

theorem exists_add_of_contributes {path : Path} {part : Outcome}
    (h : Contributes read files root path part) :
    ∃ text sites, files.readText path.text = .ok text ∧ read text = .ok sites ∧
      part = Outcome.add {} (route root path) (.ofDeclarations path.text sites) := by
  have hstep := step_empty_eq_ok_iff.2 h
  rw [step] at hstep
  cases hextract : extract read files path with
  | error fault =>
    rw [hextract] at hstep
    cases hstep
  | ok found =>
    rw [hextract] at hstep
    obtain ⟨text, sites, htext, hsites, rfl⟩ := extract_eq_ok_iff.1 hextract
    refine ⟨text, sites, htext, ?_, (Except.ok.inj hstep).symm⟩
    simp only [DeclarationReader.toParser] at hsites
    cases hread : read text with
    | error line =>
      rw [hread] at hsites
      cases hsites
    | ok found =>
      rw [hread] at hsites
      cases hsites
      rfl

include hroot hother hinside

/-- The same text is read by both paths. -/
theorem Twins.readText_unique {path path' : Path} {text text' : String}
    (h : Twins root other directories path path')
    (htext : files.readText path.text = .ok text) (htext' : files.readText path'.text = .ok text') :
    text = text' := by
  cases h with
  | intro hmem names =>
    obtain ⟨location, content, hlocate, hcontent⟩ := FileSystem.exists_file_of_readText htext
    obtain ⟨location', content', hlocate', hcontent'⟩ := FileSystem.exists_file_of_readText htext'
    cases hroot.locate_unique hother (hinside _ hmem).relative hlocate hlocate'
    rw [hcontent] at hcontent'
    exact Option.some.inj hcontent'

theorem Twins.sameBelow {path path' : Path} {part part' : Outcome}
    (h : Twins root other directories path path')
    (hpart : Contributes read files root path part)
    (hpart' : Contributes read files other path' part') :
    SameBelow part part' := by
  obtain ⟨text, sites, htext, hsites, rfl⟩ := exists_add_of_contributes hpart
  obtain ⟨text', sites', htext', hsites', rfl⟩ := exists_add_of_contributes hpart'
  cases h.readText_unique hroot hother hinside htext htext'
  rw [hsites] at hsites'
  cases hsites'
  cases h with
  | @intro directory hmem names =>
    have hdirectory := hinside directory hmem
    obtain ⟨folded, hfolds, hfolded, -⟩ := hdirectory.exists_route
    have hroute := route_below_of_folds hdirectory.relative ((hfolds folded).2 rfl)
    rw [hroute, hroute]
    apply sameBelow_add
    · apply Path.parent_not_mem_written
      intro name hname
      rcases List.mem_append.1 hname with hname | hname
      · exact hfolded name hname
      · obtain ⟨file, -, rfl⟩ := List.mem_map.1 hname
        exact FileSystem.isName_of_fileName file
    · rw [Extraction.patterns_ofDeclarations, Extraction.patterns_ofDeclarations]
    · rw [Extraction.matchTarget_ofDeclarations, Extraction.matchTarget_ofDeclarations]
    · rw [siteCount_ofDeclarations, siteCount_ofDeclarations]

/-- From both roots the same files are found below a directory. -/
theorem twins_of_candidates {directory : String} (hmem : directory ∈ directories)
    {paths paths' : List Path}
    (h : candidates files (root.join directory) = .ok paths)
    (h' : candidates files (other.join directory) = .ok paths') :
    List.Forall₂ (Twins root other directories) paths paths' := by
  obtain ⟨location, inner, hlocate, -, rfl⟩ := candidates_eq_ok_iff.1 h
  obtain ⟨location', inner', hlocate', -, rfl⟩ := candidates_eq_ok_iff.1 h'
  rw [← Path.below_nil (root.join directory)] at hlocate
  rw [← Path.below_nil (other.join directory)] at hlocate'
  cases hroot.locate_unique hother (hinside directory hmem).relative hlocate hlocate'
  rw [List.forall₂_map_left_iff, List.forall₂_map_right_iff, List.forall₂_same]
  exact fun names _ => .intro hmem names

theorem twins_of_collected {scanned : List String} (hscanned : scanned ⊆ directories)
    {paths paths' : List Path}
    (h : Collected files root scanned paths) (h' : Collected files other scanned paths') :
    List.Forall₂ (Twins root other directories) paths paths' := by
  obtain ⟨found, hfound, rfl⟩ := h
  obtain ⟨found', hfound', rfl⟩ := h'
  induction hfound generalizing found' with
  | nil =>
    cases hfound'
    exact .nil
  | cons hfirst _ ih =>
    cases hfound' with
    | cons hfirst' hrest' =>
      have htwins := twins_of_candidates hroot hother hinside
        (hscanned List.mem_cons_self) hfirst hfirst'
      exact List.rel_append htwins (ih (List.subset_of_cons_subset hscanned) _ hrest')

/-- Two scans that succeed find the same, file by file. -/
theorem sameBelow_of_run {race race' : Race} {outcome outcome' : Outcome}
    (h : run read files root directories race = .ok outcome)
    (h' : run read files other directories race' = .ok outcome') : SameBelow outcome outcome' := by
  obtain ⟨paths, parts, hpaths, hparts, rfl⟩ := run_eq_ok_iff.1 h
  obtain ⟨paths', parts', hpaths', hparts', rfl⟩ := run_eq_ok_iff.1 h'
  have htwins := twins_of_collected hroot hother hinside
    (List.Subset.refl directories) hpaths hpaths'
  apply SameBelow.concat
  clear h h' hpaths hpaths'
  induction htwins generalizing parts parts' with
  | nil =>
    cases hparts
    cases hparts'
    exact .nil
  | cons htwin _ ih =>
    cases hparts with
    | cons hpart hparts =>
      cases hparts' with
      | cons hpart' hparts' =>
        have hsame := htwin.sameBelow hroot hother hinside hpart hpart'
        exact .cons hsame (ih _ hparts _ hparts')

end

/-- The paths in a manifest of what lies below the root do not depend on how the root is written. A
path that never climbs above its start is folded to names in one way, and whatever the root, these
names are its path in the manifest. So two scans from roots that name the same directory, over
directories that stay below it, find the same records under the same paths, and no path has `..` in
it. -/
theorem routes_independent_of_root :
    (∀ rest, IsInside rest → ∃ folded, (∀ other, Folds (segments ⟨rest⟩) other ↔ other = folded) ∧
      (∀ name ∈ folded, IsName name) ∧
      ∀ root : Path, route root (root.join rest) = "/" ++ String.intercalate "/" folded) ∧
    ∀ (read : DeclarationReader) (files : FileSystem) root other place directories race race'
      outcome outcome', files.IsRootAt root place → files.IsRootAt other place →
      (∀ directory ∈ directories, IsInside directory) →
      run read files root directories race = .ok outcome →
      run read files other directories race' = .ok outcome' → SameBelow outcome outcome' :=
  ⟨fun _ => IsInside.exists_route, fun _ _ _ _ _ _ _ _ _ _ hroot hother hinside h h' =>
    sameBelow_of_run hroot hother hinside h h'⟩

/-- A project in the current directory. -/
def siteProject : FileSystem where
  entries := [(⟨"site", by decide⟩, .directory [
    (⟨"pages", by decide⟩, .directory [(⟨"index.ts", by decide⟩, .file "x".toUTF8)])])]
  current := [⟨"site", by decide⟩]
  distinct := by simp [Entries.Distinct, Entry.Distinct]

/-- A reader that takes every text for a pattern. -/
def literalReader : DeclarationReader := fun text => .ok [⟨.namedExport, 1, .literal text⟩]

theorem run_siteProject {root file : Path} {directories : List String}
    (hpaths : candidatesOfAll siteProject root directories = .ok [file])
    (htext : siteProject.readText file.text = .ok "x") :
    run literalReader siteProject root directories =
      .ok { registry := [⟨[.literal "x"], route root file, none⟩], scanned := 1 } := by
  have hvalue : Declared.contribution (.literal "x") = .ok ⟨[.literal "x"], none⟩ := by
    rw [Declared.contribution, Declared.collect]
    rfl
  simp only [run, hpaths, bind, Except.bind, List.foldlM, step, extract, htext, literalReader,
    DeclarationReader.toParser, Except.map, Except.mapError, Extraction.ofDeclarations, List.foldl,
    Extraction.add, hvalue]
  rfl

/-- The current directory under its two names, scanned on a detour. -/
theorem routes_independent_of_root_current :
    siteProject.IsRootAt ⟨"."⟩ [⟨"site", by decide⟩] ∧
      siteProject.IsRootAt ⟨"/site"⟩ [⟨"site", by decide⟩] ∧
      IsInside "pages/./../pages" ∧
      ∃ outcome outcome', run literalReader siteProject ⟨"."⟩ ["pages/./../pages"] = .ok outcome ∧
        run literalReader siteProject ⟨"/site"⟩ ["pages/./../pages"] = .ok outcome' ∧
        outcome.registry = [⟨[.literal "x"], "/pages/index.ts", none⟩] ∧
        SameBelow outcome outcome' ∧
        ∀ root : Path, route root (root.join "pages/./../pages") = "/pages" := by
  have hroot : siteProject.IsRootAt ⟨"."⟩ [⟨"site", by decide⟩] := ⟨_, rfl⟩
  have hother : siteProject.IsRootAt ⟨"/site"⟩ [⟨"site", by decide⟩] := ⟨_, rfl⟩
  have hinside : IsInside "pages/./../pages" := by
    refine ⟨by decide, ?_⟩
    intro front hfront
    rw [← List.mem_inits] at hfront
    revert front
    decide
  have hpaths : candidatesOfAll siteProject ⟨"."⟩ ["pages/./../pages"] =
      .ok [⟨"./pages/./../pages/index.ts"⟩] := by
    decide +kernel
  have hpaths' : candidatesOfAll siteProject ⟨"/site"⟩ ["pages/./../pages"] =
      .ok [⟨"/site/pages/./../pages/index.ts"⟩] := by
    decide +kernel
  have hrun := run_siteProject hpaths (by decide +kernel)
  have hrun' := run_siteProject hpaths' (by decide +kernel)
  obtain ⟨hroutes, hscans⟩ := routes_independent_of_root
  obtain ⟨folded, hfolds, -, hroute⟩ := hroutes _ hinside
  have hfolded : Folds ([] ++ .name "pages" :: .parent :: [.name "pages"]) ["pages"] :=
    .parent (.names ["pages"])
  refine ⟨hroot, hother, hinside, _, _, hrun, hrun', ?_, ?_, ?_⟩
  · have hpath : route ⟨"."⟩ ⟨"./pages/./../pages/index.ts"⟩ = "/pages/index.ts" := by
      decide +kernel
    rw [hpath]
  · apply hscans literalReader siteProject _ _ _ _ _ _ _ _ hroot hother _ hrun hrun'
    intro directory hmem
    rw [List.mem_singleton.1 hmem]
    exact hinside
  · cases (hfolds _).1 hfolded
    exact hroute

end RouteManifest.Scan
