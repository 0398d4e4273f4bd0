import RouteManifest.FileSystem
import RouteManifest.Proofs.Path.Ancestors

/-!
What lies below a directory. Names that are joined to its path add themselves to its steps and
nothing else, however the path is written, so different names lead to different paths.
-/

namespace RouteManifest

namespace FileSystem

/-! ### Names of files -/

theorem ofText?_text (name : FileName) : FileName.ofText? name.text = some name :=
  dif_pos name.valid

theorem isName_of_fileName (name : FileName) : Path.IsName name.text := by
  have hvalid := name.valid
  simp only [isFileName, Bool.and_eq_true, bne_iff_ne, Bool.not_eq_true', List.contains_eq_mem,
    decide_eq_false_iff_not] at hvalid
  obtain ⟨⟨⟨hempty, hdot⟩, hdots⟩, hslash⟩ := hvalid
  exact ⟨hempty, hdot, hdots, hslash⟩

theorem pieces_text (name : FileName) : Path.pieces name.text.toList = [name.text.toList] :=
  Path.pieces_of_slash_not_mem (isName_of_fileName name).2.2.2

theorem isAbsolute_text (name : FileName) : Path.isAbsolute ⟨name.text⟩ = false := by
  obtain ⟨-, -, -, hslash⟩ := isName_of_fileName name
  rw [Path.isAbsolute]
  cases htext : name.text.toList with
  | nil => rfl
  | cons c rest => simpa using fun heq : c = '/' => hslash (by simp [htext, heq])

end FileSystem

namespace Path

open FileSystem (isAbsolute_text isName_of_fileName pieces_text)

/-- The path that leads from a directory over the given names. -/
def below (directory : Path) (names : List FileName) : Path :=
  names.foldl (fun path name => path.join name.text) directory

theorem below_nil (directory : Path) : directory.below [] = directory := rfl

theorem below_cons (directory : Path) (name : FileName) (names : List FileName) :
    directory.below (name :: names) = (directory.join name.text).below names := rfl

theorem isAbsolute_below (directory : Path) (names : List FileName) :
    (directory.below names).isAbsolute = directory.isAbsolute := by
  induction names generalizing directory with
  | nil => rfl
  | cons name names ih => rw [below_cons, ih, isAbsolute_join (isAbsolute_text name)]

/-- The pieces of a path below a directory are those of the directory, but for empty ones, and then
the names. -/
theorem filterMap_pieces_below {β : Type} {f : List Char → Option β} (hf : f [] = none)
    (directory : Path)
    (names : List FileName) :
    (pieces (directory.below names).text.toList).filterMap f =
      (pieces directory.text.toList).filterMap f ++ names.filterMap fun name =>
        f name.text.toList := by
  induction names generalizing directory with
  | nil => rw [below_nil, List.filterMap_nil, List.append_nil]
  | cons name names ih =>
    rw [below_cons, ih, filterMap_pieces_join hf (isAbsolute_text name), pieces_text,
      List.append_assoc]
    congr 1
    rw [List.filterMap_cons, List.filterMap_cons, List.filterMap_nil]
    cases f name.text.toList <;> rfl

theorem ofPiece?_fileName (name : FileName) :
    Segment.ofPiece? name.text.toList = some (.name name.text) :=
  ofPiece?_text (.name (isName_of_fileName name))

theorem stepsOf_below (directory : Path) (names : List FileName) :
    stepsOf (directory.below names).text = stepsOf directory.text ++ names.map fun name =>
      .name name.text := by
  rw [stepsOf, filterMap_pieces_below rfl]
  simp only [ofPiece?_fileName, List.filterMap_eq_map']
  rfl

/-- The steps of a path can be told from its segments. -/
theorem filter_segments (path : Path) :
    path.segments.filter (fun step => step ≠ .root ∧ step ≠ .current) = stepsOf path.text := by
  have hsteps : (stepsOf path.text).filter (fun step => step ≠ .root ∧ step ≠ .current) =
      stepsOf path.text := by
    rw [List.filter_eq_self]
    intro step hstep
    cases isStep_of_mem_stepsOf hstep with
    | parent => rfl
    | name _ => rfl
  cases habsolute : path.isAbsolute with
  | true => rwa [segments_of_isAbsolute habsolute, List.filter_cons_of_neg (by simp)]
  | false =>
    rcases segments_of_relative habsolute with hsegments | hsegments
    · rwa [hsegments]
    · rwa [hsegments, List.filter_cons_of_neg (by simp)]

/-- Different names lead to different paths, and no two of them are spellings of one. -/
theorem below_injective (directory : Path) {names names' : List FileName}
    (h : (directory.below names).segments = (directory.below names').segments) :
    names = names' := by
  have hsteps : stepsOf (directory.below names).text = stepsOf (directory.below names').text := by
    rw [← filter_segments, h, filter_segments]
  rw [stepsOf_below, stepsOf_below, List.append_cancel_left_eq] at hsteps
  have hinjective : Function.Injective fun name : FileName => Segment.name name.text := by
    intro first second heq
    obtain ⟨text, hvalid⟩ := first
    obtain ⟨text', hvalid'⟩ := second
    cases Segment.name.inj heq
    rfl
  exact hinjective.list_map hsteps

/-- A relative path is written behind the path that it is joined to, with a slash before it where
there is none. -/
theorem text_join {base : Path} {rest : String} (hrest : isAbsolute ⟨rest⟩ = false) :
    (base.join rest).text = base.text ++ rest ∨
      (base.join rest).text = base.text ++ "/" ++ rest := by
  rw [join, if_neg (by simp [hrest])]
  split
  · exact .inl rfl
  · exact .inr rfl

/-- The text of a path goes on from that of the directory. -/
theorem exists_text_below (directory : Path) (names : List FileName) :
    ∃ tail, (directory.below names).text = directory.text ++ tail := by
  induction names generalizing directory with
  | nil => exact ⟨"", by simp [below]⟩
  | cons name names ih =>
    obtain ⟨tail, htail⟩ := ih (directory.join name.text)
    rw [below_cons, htail]
    rcases text_join (isAbsolute_text name) with hjoin | hjoin
    · exact ⟨name.text ++ tail, by rw [hjoin, String.append_assoc]⟩
    · exact ⟨"/" ++ name.text ++ tail, by
        rw [hjoin, String.append_assoc, String.append_assoc, String.append_assoc]⟩

end Path

end RouteManifest
