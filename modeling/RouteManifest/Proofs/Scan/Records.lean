import RouteManifest.Proofs.Declaration.Meaning
import RouteManifest.Proofs.Pattern.Flags
import RouteManifest.Proofs.Scan.Contributions

/-!
What a scan guarantees of every record that it finds: the record has patterns, and their regular
expressions have accepted flags. The flags are checked where a declaration is read, and nothing on
the way to the registry adds another pattern.
-/

namespace RouteManifest

/-- A record as every scan finds it. -/
structure Record.WellFormed (record : Record) : Prop where
  somePattern : record.patterns ≠ []
  flags : FlagsAccepted record.patterns

namespace Extraction

theorem flagsAccepted_add (file : String) {soFar : Extraction} (h : FlagsAccepted soFar.patterns)
    (site : Declaration) :
    FlagsAccepted (add file soFar site).patterns := by
  unfold add
  cases hsite : site.value.contribution with
  | error reason => exact h
  | ok found => exact h.append fun _ _ hmem => Declared.accepts_of_contribution hsite hmem

theorem flagsAccepted_ofDeclarations (file : String) (sites : List Declaration) :
    FlagsAccepted (ofDeclarations file sites).patterns := by
  have hfrom : ∀ start : Extraction, FlagsAccepted start.patterns →
      FlagsAccepted (sites.foldl (add file) start).patterns := by
    induction sites with
    | nil =>
      intro start h
      exact h
    | cons site sites ih =>
      intro start h
      exact ih _ (flagsAccepted_add file h site)
  exact hfrom {} fun _ _ hmem => nomatch hmem

end Extraction

namespace Scan

theorem wellFormed_of_contributes {read : Parser} {files : FileSystem} {root path : Path}
    {part : Outcome}
    (h : Contributes read files root path part) {record : Record}
    (hrecord : record ∈ part.registry) :
    record.WellFormed := by
  cases h with
  | record htext hsites hfound hpatterns =>
    cases List.mem_singleton.1 hrecord
    exact ⟨hpatterns, hfound ▸ Extraction.flagsAccepted_ofDeclarations _ _⟩
  | empty => cases hrecord
  | nothing => cases hrecord

theorem mem_registry_concat {parts : List Outcome} {record : Record} :
    record ∈ (Outcome.concat parts).registry ↔ ∃ part ∈ parts, record ∈ part.registry := by
  induction parts with
  | nil => simp [Outcome.concat]
  | cons part parts ih =>
    simp only [List.mem_cons, exists_eq_or_imp, ← ih]
    exact List.mem_append

/-- Every record that a scan finds is well-formed. -/
theorem wellFormed_of_run {read : Parser} {files : FileSystem} {root : Path}
    {directories : List String} {race : Race} {outcome : Outcome}
    (h : run read files root directories race = .ok outcome) {record : Record}
    (hrecord : record ∈ outcome.registry) : record.WellFormed := by
  obtain ⟨paths, parts, -, hparts, rfl⟩ := run_eq_ok_iff.1 h
  obtain ⟨part, hpart, hmem⟩ := mem_registry_concat.1 hrecord
  obtain ⟨path, -, hcontributes⟩ := Traversal.exists_left_of_mem hparts hpart
  exact wellFormed_of_contributes hcontributes hmem

end Scan

end RouteManifest
