import RouteManifest.Manifest
import RouteManifest.Proofs.Pattern.Flags
import RouteManifest.Proofs.Script.Literals
import RouteManifest.Proofs.Text.Lines

/-!
The lines of a manifest. Texts and paths are quoted without control characters, bodies of regular
expressions are written without line ends, whether a literal can carry them or not, and accepted
flags are letters. So an entry is one line, and the lines of a manifest are its first one, one for
each record and its last one.
-/

namespace RouteManifest.Manifest

open Text (lines lines_append_lineFeed lines_intercalate lines_of_not_mem)

/-- The two line ends that separate lines everywhere. -/
def lineEnds : List Char := ['\n', '\r']

variable {lineEnd : Char}

theorem not_mem_quote (hend : lineEnd ∈ lineEnds) (text : String) :
    lineEnd ∉ (Text.quote text).toList := by
  have hcontrol : ∀ c ∈ lineEnds, c.toNat < 32 := by simp [lineEnds]
  exact fun hmem => Nat.not_le_of_lt (hcontrol lineEnd hend) (Text.le_toNat_of_mem_quote hmem)

theorem not_mem_regexSource (hend : lineEnd ∈ lineEnds) (source : String) :
    lineEnd ∉ (regexSource source).toList := by
  have hlineEnd : ∀ c ∈ lineEnds, Script.isLineEnd c = true := by simp [lineEnds, Script.isLineEnd]
  intro hmem
  have hnone := Script.isLineEnd_regexSource hmem
  rw [hlineEnd lineEnd hend] at hnone
  cases hnone

theorem not_mem_flags (hend : lineEnd ∈ lineEnds) {flags : String}
    (hflags : RegexFlags.accepts flags = true) :
    lineEnd ∉ flags.toList := by
  have hletters : ∀ c ∈ lineEnds, c ∉ ['d', 'g', 'i', 'm', 's', 'u', 'v', 'y'] := by simp [lineEnds]
  exact fun hmem => hletters lineEnd hend
    ((RegexFlags.accepts_eq_true_iff.1 hflags).known lineEnd hmem)

/-- No line ends in an entry. -/
theorem not_mem_entry (hend : lineEnd ∈ lineEnds) {record : Record}
    (hflags : FlagsAccepted record.patterns) :
    lineEnd ∉ (entry record).toList := by
  have hpattern : ∀ p ∈ record.patterns, lineEnd ∉ (pattern p).toList := by
    intro p hp
    have hslash : ∀ c ∈ lineEnds, c ∉ "/".toList := by simp [lineEnds]
    cases p with
    | literal text => exact not_mem_quote hend text
    | regex source flags =>
      simp only [pattern, String.toList_append, List.mem_append, not_or]
      exact ⟨⟨⟨hslash lineEnd hend, not_mem_regexSource hend source⟩, hslash lineEnd hend⟩,
        not_mem_flags hend (hflags source flags hp)⟩
  have hmarks : ∀ c ∈ lineEnds, c ∉ "\x7b match: [".toList ∧ c ∉ ", ".toList ∧
      c ∉ "], loader: () => import(".toList ∧
      c ∉ ") \x7d".toList := by simp [lineEnds]
  obtain ⟨hopening, hcomma, hloader, hclosing⟩ := hmarks lineEnd hend
  simp only [entry, String.toList_append, List.mem_append, not_or, String.toList_intercalate,
    List.map_map]
  refine ⟨⟨⟨⟨hopening, ?_⟩, hloader⟩, not_mem_quote hend record.path⟩, hclosing⟩
  exact Text.not_mem_intercalate hcomma (List.forall_mem_map.2 hpattern)

/-! ### Whole manifests -/

def firstLine : String := "export const " ++ exportName ++ " = ["

def lastLine : String := "];"

theorem toList_render_lines (registry : Registry) :
    (render registry).toList =
      firstLine.toList ++ '\n' ::
        (([','] ++ ['\n']).intercalate (registry.map fun record => (entry record).toList) ++
        '\n' :: lastLine.toList) := by
  have hopening : " = [\n" = " = [" ++ "\n" := rfl
  have hclosing : "\n];" = "\n" ++ lastLine := rfl
  have hrender : render registry =
      firstLine ++
          ("\n" ++ (String.intercalate ",\n" (registry.map entry) ++ ("\n" ++ lastLine))) := by
    unfold render firstLine
    rewrite [hopening, hclosing]
    simp only [String.append_assoc]
  rw [hrender]
  simp only [String.toList_append, String.toList_intercalate, List.map_map]
  rfl

/-- The lines of the records, each with what stands behind it. -/
def entryLines (registry : Registry) : List (List Char) :=
  (registry.dropLast.map fun record => (entry record).toList ++ [',']) ++
    [(registry.getLast?.elim "" entry).toList]

theorem lines_entries {registry : Registry}
    (hflags : ∀ record ∈ registry, FlagsAccepted record.patterns) :
    lines (([','] ++ ['\n']).intercalate (registry.map fun record => (entry record).toList)) =
      entryLines registry := by
  have hentries : ∀ text ∈ registry.map fun record => (entry record).toList, '\n' ∉ text :=
    List.forall_mem_map.2 fun record hrecord => not_mem_entry (by decide) (hflags record hrecord)
  rw [lines_intercalate (by decide) hentries, entryLines, ← List.map_dropLast, List.map_map,
    List.getLast?_map]
  cases registry.getLast? <;> rfl

/-- How the line of a record begins. -/
def opening : List Char := "\x7b match:".toList

theorem opening_isPrefixOf_entry (record : Record) (behind : List Char) :
    opening.isPrefixOf ((entry record).toList ++ behind) = true := by
  have hopening : "\x7b match: [".toList = opening ++ " [".toList := rfl
  simp only [entry, String.toList_append, hopening, List.append_assoc, List.isPrefixOf_iff_prefix]
  exact List.prefix_append _ _

theorem countP_entryLines (registry : Registry) :
    (entryLines registry).countP opening.isPrefixOf = registry.length := by
  obtain rfl | ⟨before, last, rfl⟩ := List.eq_nil_or_concat registry
  · rfl
  · have hlast : opening.isPrefixOf (entry last).toList = true := by
      rw [← List.append_nil (entry last).toList]
      exact opening_isPrefixOf_entry last []
    have hbefore : (before.map fun record => (entry record).toList ++ [',']).countP
        opening.isPrefixOf = before.length := by
      rw [List.countP_map, List.countP_eq_length]
      exact fun record _ => opening_isPrefixOf_entry record [',']
    rw [List.concat_eq_append, entryLines, List.dropLast_concat, List.getLast?_concat,
      List.countP_append, hbefore, List.length_append]
    simp [hlast]

/-- The lines of a manifest, whatever the texts, the paths and the bodies of its regular expressions
are. There is no carriage return in it. Between its first and its last line there is one line for
each record, in order, with a comma behind all but the last; without records it is one empty line.
The line of a record is an entry between braces. So there are as many lines that begin like an entry
as there are records. -/
theorem render_lines {registry : Registry}
    (hflags : ∀ record ∈ registry, FlagsAccepted record.patterns) :
    '\r' ∉ (render registry).toList ∧
    lines (render registry).toList =
      "export const RoutableRegistry = [".toList ::
        ((registry.dropLast.map fun record => (entry record).toList ++ [',']) ++
          [(registry.getLast?.elim "" entry).toList, "];".toList]) ∧
    (∀ record ∈ registry, '\n' ∉ (entry record).toList ∧
      ∃ inside, entry record = "\x7b match: [" ++ inside ++ " \x7d") ∧
    (lines (render registry).toList).countP "\x7b match:".toList.isPrefixOf = registry.length := by
  have hlines : lines (render registry).toList =
      firstLine.toList :: (entryLines registry ++ [lastLine.toList]) := by
    have hfirst : '\n' ∉ firstLine.toList := by decide
    have hlast : '\n' ∉ lastLine.toList := by decide
    rw [toList_render_lines, lines_append_lineFeed, lines_append_lineFeed, lines_of_not_mem hfirst,
      lines_of_not_mem hlast, lines_entries hflags, List.singleton_append]
  refine ⟨?_, ?_, ?_, ?_⟩
  · have hentries : '\r' ∉ ([','] ++ ['\n']).intercalate
        (registry.map fun record => (entry record).toList) :=
      Text.not_mem_intercalate (by decide)
        (List.forall_mem_map.2 fun record hrecord =>
          not_mem_entry (by decide) (hflags record hrecord))
    have hmarks : '\r' ∉ firstLine.toList ∧ '\r' ≠ '\n' ∧ '\r' ∉ lastLine.toList := by decide
    rw [toList_render_lines]
    simp only [List.mem_append, List.mem_cons, not_or]
    exact ⟨hmarks.1, hmarks.2.1, by simpa using hentries, hmarks.2⟩
  · rw [hlines, entryLines, List.append_assoc]
    rfl
  · intro record hrecord
    refine ⟨not_mem_entry (by decide) (hflags record hrecord), ?_⟩
    have hclosing : ") \x7d" = ")" ++ " \x7d" := rfl
    refine ⟨String.intercalate ", " (record.patterns.map pattern) ++
      "], loader: () => import(" ++ Text.quote record.path ++ ")", ?_⟩
    simp only [entry, hclosing, String.append_assoc]
  · have hfirst : ¬opening.isPrefixOf firstLine.toList = true := by decide
    have hlast : [lastLine.toList].countP opening.isPrefixOf = 0 := by decide
    have hcount : (firstLine.toList :: (entryLines registry ++ [lastLine.toList])).countP
        opening.isPrefixOf =
        registry.length := by
      rw [List.countP_cons_of_neg hfirst, List.countP_append, countP_entryLines, hlast,
        Nat.add_zero]
    rw [hlines]
    exact hcount

/-- Line ends wherever a value can hold them, and a body that no literal can carry. -/
def brokenRegistry : Registry :=
  [⟨[.literal "a\n]\r", .regex "[/\n\\" "gi"], "/x\n.ts", none⟩, ⟨[], "", some .path⟩]

theorem render_lines_brokenRegistry :
    (∀ record ∈ brokenRegistry, FlagsAccepted record.patterns) ∧
    '\r' ∉ (render brokenRegistry).toList ∧
    lines (render brokenRegistry).toList =
      ["export const RoutableRegistry = [".toList,
        "\x7b match: [\"a\\n]\\r\", /[/\\n\\/gi], loader: () => import(\"/x\\n.ts\") \x7d,".toList,
        "\x7b match: [], loader: () => import(\"\") \x7d".toList, "];".toList] := by
  have hflags : ∀ record ∈ brokenRegistry, FlagsAccepted record.patterns := by
    intro record hrecord source flags hmem
    simp only [brokenRegistry, List.mem_cons, List.not_mem_nil, or_false] at hrecord
    rcases hrecord with rfl | rfl
    · have hregex : source = "[/\n\\" ∧ flags = "gi" := by simpa using hmem
      rw [hregex.2]
      decide
    · cases hmem
  obtain ⟨hreturn, hlines, -, -⟩ := render_lines hflags
  exact ⟨hflags, hreturn, hlines.trans rfl⟩

end RouteManifest.Manifest
