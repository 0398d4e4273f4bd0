import RouteManifest.Proofs.Text.Lines
import RouteManifest.Registry.Listing

/-!
The listing of a registry without colours. There is a row for each record, in order, with the path
in a column that is as wide as the widest path. Paths and patterns are shown as they are: a row is
one line unless one of them holds a line feed, and each line feed in them starts a line that belongs
to no record.
-/

namespace RouteManifest

open Text (Span lines ofRows width)
open Text.Styled (render)

namespace Record

/-- What the listing shows of a record, in a column of that width. -/
def row (columns : Nat) (record : Record) : String :=
  record.path ++ record.padding columns ++ "  " ++ record.targetMark ++
    String.intercalate ", " (record.patterns.map Pattern.display)

/-- How many line feeds there are in the path and the patterns of a record. -/
def lineFeeds (record : Record) : Nat :=
  record.path.toList.count '\n' + (record.patterns.map (·.display.toList.count '\n')).sum

theorem render_line (columns : Nat) (record : Record) :
    (record.line columns).flatMap (Span.render false) = (record.row columns).toList ++ ['\n'] := by
  have hend : "\n".toList = ['\n'] := rfl
  simp [line, row, Text.Styled.inColour, Text.Styled.styled, Text.Styled.plain, Span.render, hend]

/-- The line feeds of a row are those of the path and the patterns. -/
theorem count_row (columns : Nat) (record : Record) :
    (record.row columns).toList.count '\n' = record.lineFeeds := by
  have hpadding : '\n' ∉ (record.padding columns).toList := by simp [padding]
  have hmark : '\n' ∉ record.targetMark.toList := by
    rw [targetMark]
    cases record.matchTarget with
    | none => decide
    | some target => cases target <;> decide
  have hcomma : '\n' ∉ ", ".toList := by decide
  have hgap : '\n' ∉ "  ".toList := by decide
  simp only [row, lineFeeds, String.toList_append, List.count_append, String.toList_intercalate,
    Text.count_intercalate hcomma, List.count_eq_zero.2 hpadding, List.count_eq_zero.2 hmark,
    List.count_eq_zero.2 hgap, List.map_map]
  rfl

theorem lineFeeds_eq_zero_iff {record : Record} :
    record.lineFeeds = 0 ↔
      '\n' ∉ record.path.toList ∧ ∀ pattern ∈ record.patterns, '\n' ∉ pattern.display.toList := by
  rw [lineFeeds, Nat.add_eq_zero_iff, List.count_eq_zero, List.sum_eq_zero_iff_forall_eq_nat]
  simp only [List.forall_mem_map, List.count_eq_zero]

end Record

namespace Registry
variable {registry : Registry}

theorem pathWidth_eq (registry : Registry) :
    registry.pathWidth = (registry.map fun record => width record.path).max?.getD 0 := by
  rw [pathWidth, List.foldl_max]
  exact Nat.zero_max _

/-- The column is as wide as some path, and no path is wider. -/
theorem pathWidth_spec (h : registry ≠ []) :
    (∃ record ∈ registry, width record.path = registry.pathWidth) ∧
      ∀ record ∈ registry, width record.path ≤ registry.pathWidth := by
  obtain ⟨widest, hwidest⟩ : ∃ widest,
      (registry.map fun record => width record.path).max? = some widest := by
    rw [← Option.isSome_iff_exists, List.isSome_max?_iff]
    simpa using h
  rw [pathWidth_eq, hwidest, Option.getD_some]
  obtain ⟨hmem, hle⟩ := List.max?_eq_some_iff.1 hwidest
  exact ⟨List.mem_map.1 hmem, fun record hrecord => hle _ (List.mem_map_of_mem hrecord)⟩

/-- The rows of all records. -/
def rows (registry : Registry) : List (List Char) :=
  registry.map fun record => (record.row registry.pathWidth).toList

theorem render_listing (registry : Registry) :
    (render false registry.listing).toList = ofRows registry.rows := by
  rw [render, listing, String.toList_ofList, List.flatMap_assoc, ofRows, rows, List.flatMap_map]
  simp only [Record.render_line]

/-- The listing shows the records in rows, in order. A row begins with the path, which spaces fill
up to the width of the widest path, and goes on behind two spaces with the target in brackets, if
there is one, and the patterns. The rows are the lines if and only if no path and no pattern holds a
line feed. Each line feed that one of them holds makes one line more. -/
theorem listing_rows (registry : Registry) :
    (render false registry.listing).toList = ofRows registry.rows ∧
    (∀ record ∈ registry, ∃ spaces, width record.path + spaces = registry.pathWidth ∧
      record.row registry.pathWidth =
        record.path ++ String.ofList (List.replicate spaces ' ') ++ "  " ++
          (record.matchTarget.elim "" fun target => "[" ++ target.word ++ "] ") ++
            String.intercalate ", " (record.patterns.map Pattern.display)) ∧
    (registry ≠ [] → ∃ record ∈ registry, width record.path = registry.pathWidth) ∧
    (lines (render false registry.listing).toList = registry.rows ++ [[]] ↔
      ∀ record ∈ registry, '\n' ∉ record.path.toList ∧ ∀ pattern ∈ record.patterns,
        '\n' ∉ pattern.display.toList) ∧
    (lines (render false registry.listing).toList).length =
      registry.length + (registry.map Record.lineFeeds).sum + 1 := by
  rw [render_listing]
  refine ⟨rfl, fun record hrecord => ?_, fun h => (pathWidth_spec h).1, ?_, ?_⟩
  · have hle := (pathWidth_spec (List.ne_nil_of_mem hrecord)).2 record hrecord
    refine ⟨registry.pathWidth - width record.path, Nat.add_sub_cancel' hle, ?_⟩
    cases htarget : record.matchTarget <;>
      simp [Record.row, Record.padding, Record.targetMark, htarget]
  · rw [Text.lines_ofRows_eq_iff, rows, List.forall_mem_map]
    simp only [← Record.lineFeeds_eq_zero_iff, ← Record.count_row registry.pathWidth,
      List.count_eq_zero]
  · rw [Text.length_lines, Text.count_ofRows, rows, List.length_map, List.map_map]
    simp only [Function.comp_def, Record.count_row]

/-- Two records with paths of different widths. -/
def unevenRegistry : Registry :=
  [⟨[.literal "a", .regex "^b" "i"], "/src/a.ts", some .path⟩,
    ⟨[.literal "c"], "/src/longer.ts", none⟩]

theorem listing_rows_uneven :
    (∃ spaces, width "/src/a.ts" + spaces = unevenRegistry.pathWidth ∧
      Record.row unevenRegistry.pathWidth
        ⟨[.literal "a", .regex "^b" "i"], "/src/a.ts", some .path⟩ =
        "/src/a.ts" ++ String.ofList (List.replicate spaces ' ') ++ "  " ++ "[path] " ++
          "\"a\", /^b/i") ∧
      (lines (render false unevenRegistry.listing).toList).length = 3 := by
  obtain ⟨-, hrows, -, -, hlength⟩ := listing_rows unevenRegistry
  obtain ⟨spaces, hspaces, hrow⟩ :=
    hrows ⟨[.literal "a", .regex "^b" "i"], "/src/a.ts", some .path⟩ (by decide)
  refine ⟨⟨spaces, hspaces, hrow⟩, ?_⟩
  rw [hlength]
  decide

/-- A string with a line feed: the listing has one record and two lines. -/
theorem listing_lineFeed :
    render false (Registry.listing [⟨[.literal "a\nb"], "/a.ts", none⟩]) = "/a.ts  \"a\nb\"\n" ∧
      lines (render false (Registry.listing [⟨[.literal "a\nb"], "/a.ts", none⟩])).toList =
        ["/a.ts  \"a".toList, "b\"".toList, []] := by
  decide +kernel

end Registry

end RouteManifest
