import RouteManifest.Proofs.Report.Escapes
import RouteManifest.Report

/-!
What a report says does not depend on how it is shown. Colours add nothing but colour sequences, and
none to what other programs read. Naming the empty declarations adds one row for each of them,
between the complaints and the remark.
-/

namespace RouteManifest

open Text (IsClear isClear_append isClear_ofList)
open Text.Styled
  (AllClear allClear_append allClear_flatMap allClear_nil render render_append render_flatMap
  render_plain)

/-! ### The texts of a report -/

/-- The texts in a malformation. -/
def Malformation.texts : Malformation → List String
  | .missingMatch | .nonStringMatchTarget => []
  | .unknownMatchTarget value => [value]
  | .invalidRegexFlags flags => [flags]

/-- The texts in a diagnostic. -/
def Diagnostic.texts (diagnostic : Diagnostic) : List String :=
  diagnostic.file :: diagnostic.reason.texts

/-- The texts in a pattern. -/
def Pattern.texts : Pattern → List String
  | .literal text => [text]
  | .regex source flags => [source, flags]

/-- The texts in a record. -/
def Record.texts (record : Record) : List String :=
  record.path :: record.patterns.flatMap Pattern.texts

/-- The texts in what a command came to. -/
def Summary.texts : Summary → List String
  | .generated manifest output _ => manifest :: (output.map Path.text).toList
  | .listed registry _ => registry.flatMap Record.texts
  | .resolved id target => id :: target.toList
  | .initialised _ => []

/-- Whether the result is for other programs to read. -/
def Summary.isForPrograms : Summary → Bool
  | .generated .. => true
  | .listed _ asJson => asJson
  | .resolved .. | .initialised _ => false

/-- All texts in a report. -/
def Report.texts (report : Report) : List String :=
  report.root.text ::
    (report.summary.texts ++ report.diagnostics.flatMap Diagnostic.texts ++ report.empty)

/-! ### Texts without escape characters -/

theorem isClear_message {reason : Malformation} (h : ∀ text ∈ reason.texts, IsClear text) :
    IsClear reason.message := by
  unfold Malformation.message
  cases reason with
  | missingMatch | nonStringMatchTarget => decide
  | unknownMatchTarget value | invalidRegexFlags flags => simp +decide [h _ List.mem_cons_self]

theorem isClear_display {pattern : Pattern} (h : ∀ text ∈ pattern.texts, IsClear text) :
    IsClear pattern.display := by
  cases pattern with
  | literal text => simp +decide [Pattern.display, h _ List.mem_cons_self]
  | regex source flags =>
    obtain ⟨hsource, hflags⟩ := List.forall_mem_cons.1 h
    simp +decide [Pattern.display, hsource, List.forall_mem_singleton.1 hflags]

namespace Report

theorem isClear_counted (count : Nat) {one many : String} (hone : IsClear one)
    (hmany : IsClear many) :
    IsClear (counted count one many) := by
  rw [counted]
  split <;> simp +decide [hone, hmany]

theorem allClear_success {text : String} (h : IsClear text) : AllClear (success text) := by
  simp +decide [success, h]

theorem allClear_warning {text : String} (h : IsClear text) : AllClear (warning text) := by
  simp +decide [warning, h]

theorem allClear_complaint (root : Path) {diagnostic : Diagnostic}
    (h : ∀ text ∈ diagnostic.texts, IsClear text) :
    AllClear (complaint root diagnostic) := by
  obtain ⟨hfile, hreason⟩ := List.forall_mem_cons.1 h
  have hsite : IsClear diagnostic.site.describe := by cases diagnostic.site <;> decide
  have hplace :
      IsClear (String.ofList ((Path.route root ⟨diagnostic.file⟩).toList.dropWhile (· == '/'))) :=
    isClear_ofList.2 fun hmem =>
      Path.isClear_route root hfile ((List.dropWhile_sublist _).subset hmem)
  simp +decide [complaint, hsite, isClear_message hreason, hplace]

theorem allClear_skipped (count : Nat) : AllClear (skipped count) := by
  cases count with
  | zero => exact allClear_nil
  | succ count => simp +decide [skipped, isClear_counted]

theorem allClear_complaints (root : Path) {diagnostics : List Diagnostic}
    (h : ∀ text ∈ diagnostics.flatMap Diagnostic.texts, IsClear text) :
    AllClear (complaints root diagnostics) := by
  refine allClear_append.2 ⟨allClear_flatMap fun diagnostic hdiagnostic => ?_, allClear_skipped _⟩
  exact allClear_complaint root fun text htext => h text (List.mem_flatMap_of_mem hdiagnostic htext)

theorem allClear_emptyDeclarations {paths : List String} (h : ∀ path ∈ paths, IsClear path) :
    AllClear (emptyDeclarations paths) := by
  refine allClear_flatMap fun path hpath => allClear_warning ?_
  exact isClear_append.2 ⟨h path hpath, by decide⟩

theorem allClear_listing {registry : Registry}
    (h : ∀ text ∈ registry.flatMap Record.texts, IsClear text) :
    AllClear registry.listing := by
  refine allClear_flatMap fun record hrecord => ?_
  obtain ⟨hpath, hpatterns⟩ := List.forall_mem_cons.1 (List.forall_mem_flatMap.1 h record hrecord)
  have hpadding : IsClear (record.padding registry.pathWidth) := by
    rw [Record.padding, isClear_ofList]
    exact fun hmem => absurd (List.eq_of_mem_replicate hmem) (by decide)
  have hmark : IsClear record.targetMark := by
    rw [Record.targetMark]
    cases record.matchTarget with
    | none => decide
    | some target => cases target <;> decide
  have hdisplays : IsClear (String.intercalate ", " (record.patterns.map Pattern.display)) := by
    refine Text.isClear_intercalate (by decide) (List.forall_mem_map.2 fun pattern hpattern => ?_)
    exact isClear_display (List.forall_mem_flatMap.1 hpatterns pattern hpattern)
  simp +decide [Record.line, hpath, hpadding, hmark, hdisplays]

theorem allClear_output {report : Report} (h : ∀ text ∈ report.summary.texts, IsClear text) :
    AllClear report.output := by
  obtain ⟨summary, root, diagnostics, empty, scanned⟩ := report
  cases summary with
  | generated manifest output entries =>
    have hmanifest : IsClear manifest := h manifest List.mem_cons_self
    cases output <;> simp +decide [output, hmanifest]
  | listed registry asJson =>
    cases asJson with
    | true => simp +decide [output]
    | false => exact allClear_listing h
  | resolved id target => cases target <;> simp +decide [output]
  | initialised created =>
    cases created with
    | true => exact allClear_success (by decide)
    | false => exact allClear_nil

theorem allClear_remark {report : Report} (h : ∀ text ∈ report.summary.texts, IsClear text) :
    AllClear report.remark := by
  obtain ⟨summary, root, diagnostics, empty, scanned⟩ := report
  cases summary with
  | generated manifest output entries =>
    cases output with
    | none => exact allClear_nil
    | some path =>
      have hpath : IsClear path.text := h path.text (List.mem_cons_of_mem _ List.mem_cons_self)
      exact allClear_success (by simp +decide [hpath, isClear_counted])
  | listed registry asJson =>
    cases asJson with
    | true => exact allClear_nil
    | false => exact allClear_success (by simp +decide [isClear_counted])
  | resolved id target =>
    cases target with
    | some target => exact allClear_nil
    | none =>
      have hid : IsClear id := h id List.mem_cons_self
      exact allClear_warning (by simp +decide [hid])
  | initialised created =>
    cases created with
    | true => exact allClear_nil
    | false => simp +decide [remark, Config.fileName]

theorem allClear_remarks {report : Report} (h : ∀ text ∈ report.texts, IsClear text)
    (verbose : Bool) :
    AllClear (report.remarks verbose) := by
  obtain ⟨-, h⟩ := List.forall_mem_cons.1 h
  obtain ⟨h, hempty⟩ := List.forall_mem_append.1 h
  obtain ⟨hsummary, hdiagnostics⟩ := List.forall_mem_append.1 h
  rw [remarks, allClear_append, allClear_append]
  refine ⟨⟨allClear_complaints report.root hdiagnostics, ?_⟩, allClear_remark hsummary⟩
  cases verbose with
  | true => exact allClear_emptyDeclarations hempty
  | false => exact allClear_nil

/-! ### What is shown -/

/-- What the user of a command is left with. -/
structure Transcript where
  /-- What goes to the standard output. -/
  output : String
  /-- What goes beside it. -/
  remarks : String
  status : Nat
  deriving DecidableEq

/-- A transcript without the colour sequences in it. -/
def Transcript.uncolour (transcript : Transcript) : Transcript :=
  { transcript with
    output := Text.uncolour transcript.output
    remarks := Text.uncolour transcript.remarks }

/-- A report as it is shown, in colours or not. -/
def transcript (report : Report) (verbose coloured : Bool) : Transcript where
  output := render coloured report.output
  remarks := render coloured (report.remarks verbose)
  status := report.exitStatus

/-- The row that names a file whose declarations yield no pattern. -/
def emptyRow (coloured : Bool) (path : String) : String :=
  (if coloured then "\x1b[1;33mwarning:\x1b[0m" else "warning:") ++ " " ++ path ++
    " declares routable targets but no string or regex patterns were found\n"

theorem render_emptyDeclarations (coloured : Bool) (paths : List String) :
    render coloured (emptyDeclarations paths) = String.join (paths.map (emptyRow coloured)) := by
  have hlabel : render coloured (.inBold .yellow "warning:") =
      if coloured then "\x1b[1;33mwarning:\x1b[0m" else "warning:" := by
    cases coloured <;> decide
  have hrow : ∀ path, render coloured
      (warning (path ++ " declares routable targets but no string or regex patterns were found")) =
      emptyRow coloured path := by
    intro path
    rw [warning, render_append, render_plain, hlabel, emptyRow]
    simp only [String.append_assoc]
    rfl
  rw [emptyDeclarations, render_flatMap]
  simp only [hrow]

theorem render_remarks (report : Report) (verbose coloured : Bool) :
    render coloured (report.remarks verbose) =
      render coloured (complaints report.root report.diagnostics) ++
        String.join (if verbose then report.empty.map (emptyRow coloured) else []) ++
          render coloured report.remark := by
  rw [remarks, render_append, render_append]
  cases verbose with
  | true => rw [if_pos rfl, if_pos rfl, render_emptyDeclarations]
  | false => rfl

/-- What other programs read is written without a style. -/
theorem render_output_of_isForPrograms {report : Report} (h : report.summary.isForPrograms = true)
    (coloured : Bool) :
    render coloured report.output = render false report.output := by
  obtain ⟨summary, root, diagnostics, empty, scanned⟩ := report
  cases summary with
  | generated manifest output entries =>
    cases output with
    | none => exact (render_plain coloured _).trans (render_plain false _).symm
    | some path => rfl
  | listed registry asJson =>
    cases asJson with
    | true => exact (render_plain coloured _).trans (render_plain false _).symm
    | false => cases h
  | resolved id target => cases h
  | initialised created => cases h

/-- Neither colours nor the empty declarations change what a report says. Naming the empty
declarations leaves the output and the exit status as they are, and it puts a row for each of them,
in order, between the complaints and the remark. The colours take nothing but colour sequences: in a
report without escape characters of its own they are all that has to go. What other programs read
has no colours, whatever is in it. -/
theorem transcript_content (report : Report) :
    (∀ coloured,
      (report.transcript true coloured).output = (report.transcript false coloured).output ∧
      (report.transcript true coloured).status = (report.transcript false coloured).status ∧
      (report.transcript false coloured).remarks =
        render coloured (complaints report.root report.diagnostics) ++
          render coloured report.remark ∧
      (report.transcript true coloured).remarks =
        render coloured (complaints report.root report.diagnostics) ++
          String.join (report.empty.map (emptyRow coloured)) ++ render coloured report.remark) ∧
    ((∀ text ∈ report.texts, IsClear text) →
      ∀ verbose, (report.transcript verbose true).uncolour = report.transcript verbose false) ∧
    (report.summary.isForPrograms = true →
      ∀ verbose, (report.transcript verbose true).output =
        (report.transcript verbose false).output) := by
  refine ⟨fun coloured => ⟨rfl, rfl, ?_, ?_⟩, fun h verbose => ?_, fun h verbose => ?_⟩
  · exact (render_remarks report false coloured).trans (by simp)
  · exact render_remarks report true coloured
  · have houtput : AllClear report.output :=
      allClear_output fun text htext =>
        h text (List.mem_cons_of_mem _ (List.mem_append_left _ (List.mem_append_left _ htext)))
    rw [Transcript.uncolour, transcript, transcript, Text.Styled.uncolour_render houtput,
      Text.Styled.uncolour_render (allClear_remarks h verbose)]
  · exact render_output_of_isForPrograms h true

/-- A listing with a malformed declaration and two empty ones. -/
def troubled : Report where
  summary := .listed [⟨[.literal "a"], "/src/a.ts", some .path⟩,
    ⟨[.regex "^b" "i"], "/src/bb.ts", none⟩] false
  root := ⟨"/app"⟩
  diagnostics := [⟨"/app/src/c.ts", 3, .decorator, .invalidRegexFlags "gg"⟩]
  empty := ["/src/d.ts", "/src/e.ts"]
  scanned := 5

/-- A manifest that holds a colour sequence. -/
def sequenced : Report where
  summary := .generated "\x1b[0m" none 1

theorem transcript_content_troubled :
    (∀ text ∈ troubled.texts, IsClear text) ∧
    (troubled.transcript true true).uncolour = troubled.transcript true false ∧
    Text.uncolour (troubled.transcript true true).output =
      "/src/a.ts   [path] \"a\"\n/src/bb.ts  /^b/i\n" ∧
    sequenced.summary.isForPrograms = true ∧
    (sequenced.transcript true true).output = "\x1b[0m\n" := by
  have hclear : ∀ text ∈ troubled.texts, IsClear text := by decide
  have hprograms : sequenced.summary.isForPrograms = true := by decide
  obtain ⟨-, huncoloured, -⟩ := transcript_content troubled
  have hsame := huncoloured hclear true
  refine ⟨hclear, hsame, (congrArg Transcript.output hsame).trans ?_, hprograms,
    ((transcript_content sequenced).2.2 hprograms true).trans ?_⟩
  · decide +kernel
  · decide +kernel

end Report

end RouteManifest
