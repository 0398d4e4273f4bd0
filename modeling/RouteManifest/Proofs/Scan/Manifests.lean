import RouteManifest.Proofs.FileSystem.Writing
import RouteManifest.Proofs.Manifest.Source
import RouteManifest.Proofs.Scan.Contributions

/-!
Scans over what a manifest writes. A file that exports the patterns of an entry yields these
patterns, and a file that holds a manifest yields nothing: a scan goes over it as if it were not
there, but for the number of files.
-/

namespace RouteManifest

open Manifest (Writable Legible written patternTexts)

/-! ### The patterns of an entry -/

theorem Manifest.accepts_of_written {ps : List Pattern} (hps : ∀ p ∈ ps, Writable p) :
    ∀ p ∈ ps.map written, ∀ source flags,
      p = .regex source flags → RegexFlags.accepts flags = true := by
  intro p hp source flags hregex
  obtain ⟨q, hq, rfl⟩ := List.mem_map.1 hp
  cases q with
  | literal text => cases hregex
  | regex source flags =>
    cases hregex
    exact (hps _ hq).2

/-- One declaration whose value declares patterns yields them. -/
theorem Extraction.ofDeclarations_patterns {ps : List Pattern}
    (hps : ∀ p ∈ ps, ∀ source flags, p = .regex source flags → RegexFlags.accepts flags = true)
    (file : String)
    (kind : SiteKind) (line : Nat) :
    ofDeclarations file [⟨kind, line, .array (ps.map Pattern.toDeclared)⟩] =
      { patterns := ps, siteCount := 1 } := by
  have hvalue : Declared.contribution (.array (ps.map Pattern.toDeclared)) =
      .ok { patterns := ps } := by
    rw [Declared.contribution, Declared.collect, Declared.collectAll_toDeclared hps]
    rfl
  rw [ofDeclarations, List.foldl_cons, List.foldl_nil, add, hvalue]
  rfl

namespace Scan

/-- Extraction undoes what a manifest writes for patterns. The text between the brackets of an
entry, put between those of an exported array, is found as one declaration of the same patterns in
the same order. Nothing else is found, and only the sources of regular expressions differ: they are
as the manifest writes them. -/
theorem extract_patternTexts {ps : List Pattern} (hps : ∀ p ∈ ps, Writable p) :
    (∀ path target, Manifest.render [⟨ps, path, target⟩] =
      "export const RoutableRegistry = [\n\x7b match: [" ++ patternTexts ps ++
        "], loader: () => import(" ++ Text.quote path ++ ") \x7d\n];") ∧
      ∀ files file, FileSystem.readText files file.text =
          .ok ("export const ROUTABLE_TARGETS = [" ++ patternTexts ps ++ "];") →
        extract Script.declarations files file =
          .ok { patterns := ps.map written,
                matchTarget := none,
                diagnostics := [],
                siteCount := 1 } := by
  constructor
  · intro path target
    rw [← String.toList_inj]
    simp [Manifest.render, Manifest.exportName, Manifest.entry, patternTexts]
  · intro files file htext
    obtain ⟨line, hdeclarations⟩ := Manifest.declarations_patternTexts hps
    refine extract_eq_ok_iff.2
      ⟨_, _, htext, ?_, (Extraction.ofDeclarations_patterns (Manifest.accepts_of_written hps)
      file.text .namedExport line).symm⟩
    simp only [DeclarationReader.toParser, hdeclarations, Except.mapError]

/-- Patterns with a quote, a line separator, an empty body, slashes inside and outside brackets, and
a character beyond the first plane. -/
def awkwardPatterns : List Pattern :=
  [.literal "\"], /\u2028\n😀", .regex "" "", .regex "a/[/]\n" "gu"]

theorem extract_awkwardPatterns :
    (∀ p ∈ awkwardPatterns, Writable p) ∧
      extract Script.declarations
        { entries := [(⟨"a.ts", by decide⟩,
            .file ("export const ROUTABLE_TARGETS = [" ++ patternTexts awkwardPatterns ++
            "];").toUTF8)]
          distinct := by simp [Entries.Distinct, Entry.Distinct] } ⟨"a.ts"⟩ =
        .ok { patterns := [.literal "\"], /\u2028\n😀", .regex "(?:)" "",
            .regex "a\\/[/]\\n" "gu"], siteCount := 1 } :=
  have hwritable : ∀ p ∈ awkwardPatterns, Writable p := by decide
  ⟨hwritable, (extract_patternTexts hwritable).2 _ _ (FileSystem.readText_of_entry rfl)⟩

/-! ### Manifests among the files -/

section
variable {files : FileSystem}

/-- A file holds a manifest, with the line end behind it that is written with it. -/
def HoldsManifest (files : FileSystem) (path : Path) : Prop :=
  ∃ registry, Legible registry ∧ files.readText path.text = .ok (Manifest.render registry ++ "\n")

theorem declarations_manifest {registry : Registry} (hregistry : Legible registry) :
    Script.declarations (Manifest.render registry ++ "\n") = .ok [] :=
  Manifest.declarations_render hregistry (by decide)

theorem HoldsManifest.declarations_eq {path : Path} (h : HoldsManifest files path) :
    ∃ text, files.readText path.text = .ok text ∧
      (DeclarationReader.toParser Script.declarations).declarations text path.text = .ok [] := by
  obtain ⟨registry, hregistry, htext⟩ := h
  refine ⟨_, htext, ?_⟩
  simp only [DeclarationReader.toParser, declarations_manifest hregistry, Except.mapError]

theorem HoldsManifest.extract_eq {path : Path} (h : HoldsManifest files path) :
    extract Script.declarations files path = .ok {} := by
  obtain ⟨text, htext, hsites⟩ := h.declarations_eq
  exact extract_eq_ok_iff.2 ⟨text, [], htext, hsites, rfl⟩

theorem HoldsManifest.contributes {path : Path} (h : HoldsManifest files path) (root : Path) :
    Contributes Script.declarations files root path { scanned := 1 } := by
  obtain ⟨text, htext, hsites⟩ := h.declarations_eq
  exact .nothing htext hsites

/-- An outcome after more files were read that contribute nothing. -/
def Outcome.countMore (count : Nat) (outcome : Outcome) : Outcome :=
  { outcome with scanned := outcome.scanned + count }

theorem Outcome.countMore_countMore (first second : Nat) (outcome : Outcome) :
    (outcome.countMore first).countMore second = outcome.countMore (first + second) := by
  simp [countMore, Nat.add_assoc]

theorem Outcome.add_countMore (outcome : Outcome) (count : Nat) (path : String)
    (found : Extraction) :
    (outcome.countMore count).add path found = (outcome.add path found).countMore count := by
  unfold add countMore
  by_cases hpatterns : found.patterns.isEmpty = true
  · by_cases hsites : found.siteCount = 0
    · simp [hpatterns, hsites, Nat.add_right_comm]
    · simp [hpatterns, hsites, Nat.add_right_comm]
  · simp [hpatterns, Nat.add_right_comm]

variable {read : Parser} {root : Path}

theorem foldlM_step_countMore (paths : List Path) (start : Outcome) (count : Nat) :
    paths.foldlM (step read files root) (start.countMore count) =
      (paths.foldlM (step read files root) start).map (.countMore count) := by
  induction paths generalizing start with
  | nil => rfl
  | cons path paths ih =>
    rw [List.foldlM_cons, List.foldlM_cons, step, step]
    cases extract read files path with
    | error fault => rfl
    | ok found =>
      simp only [Except.map, bind, Except.bind, Outcome.add_countMore]
      exact ih _

theorem step_of_contributes_nothing {path : Path}
    (h : Contributes read files root path { scanned := 1 })
    (start : Outcome) :
    step read files root start path = .ok (start.countMore 1) := by
  rw [step_eq_append, step_empty_eq_ok_iff.2 h]
  simp [Except.map, Outcome.append, Outcome.countMore]

/-- Files that contribute nothing can be left out of a scan, but for their number. The induction is
on the files and takes every beginning; a file that is kept may end the scan with a fault, and then
it ends both. -/
theorem foldlM_step_filter {skipped : Path → Bool} {paths : List Path}
    (h : ∀ path ∈ paths, skipped path = true → Contributes read files root path { scanned := 1 })
    (start : Outcome) :
    paths.foldlM (step read files root) start =
      ((paths.filter (!skipped ·)).foldlM (step read files root) start).map
          (.countMore (paths.countP skipped)) := by
  induction paths generalizing start with
  | nil => rfl
  | cons path paths ih =>
    have hrest := ih fun other hother => h other (List.mem_cons_of_mem path hother)
    rw [List.foldlM_cons]
    cases hskipped : skipped path with
    | true =>
      rw [step_of_contributes_nothing (h path List.mem_cons_self hskipped),
        List.filter_cons_of_neg (by simp [hskipped]), List.countP_cons_of_pos hskipped]
      simp only [bind, Except.bind, hrest, foldlM_step_countMore]
      cases (paths.filter (!skipped ·)).foldlM (step read files root) start with
      | error fault => rfl
      | ok outcome => exact congrArg Except.ok (by rw [Outcome.countMore_countMore, Nat.add_comm])
    | false =>
      rw [List.filter_cons_of_pos (by simp [hskipped]),
        List.countP_cons_of_neg (by simp [hskipped]), List.foldlM_cons]
      cases step read files root start path with
      | error fault => rfl
      | ok outcome => exact hrest outcome

/-- A scan goes over manifests as if they were not there, but for the number of files. -/
theorem run_over_manifests {directories : List String} {race : Race} {paths : List Path}
    {skipped : Path → Bool} (hpaths : candidatesOfAll files root directories race = .ok paths)
    (h : ∀ path ∈ paths, skipped path = true → HoldsManifest files path) :
    run Script.declarations files root directories race =
      ((paths.filter (!skipped ·)).foldlM (step Script.declarations files root) {}).map
        (.countMore (paths.countP skipped)) := by
  rw [run, hpaths]
  exact foldlM_step_filter (fun path hpath hskipped => (h path hpath hskipped).contributes root) {}

end

end Scan

end RouteManifest
