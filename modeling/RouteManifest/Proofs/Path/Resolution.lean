import Mathlib.Data.List.Basic
import RouteManifest.Path

/-!
What is left of a path once its dots are resolved. It is a floor, which is the root of the file
system or a run of `..`, with names above it. Resolving more segments on top of a path takes names
away and adds some, but it never goes below the floor it started from, and a path that is written
from its resolved segments resolves to them again.
-/

namespace RouteManifest.Path

/-! ### Pieces -/

theorem pieces_eq_splitOn (text : List Char) : pieces text = text.splitOn '/' := by
  induction text with
  | nil => rfl
  | cons c text ih =>
    rw [pieces, ih, List.splitOn_cons_eq_if_modifyHead]
    cases hsplit : text.splitOn '/' with
    | nil => exact absurd hsplit (List.splitOn_ne_nil '/' text)
    | cons piece others => by_cases hslash : c = '/' <;> simp [hslash]

theorem pieces_cons_slash (text : List Char) : pieces ('/' :: text) = [] :: pieces text := by
  rw [pieces_eq_splitOn, pieces_eq_splitOn, List.splitOn_cons_eq_if_modifyHead]
  rfl

theorem pieces_cons_of_ne {c : Char} (hc : c ≠ '/') (text : List Char) :
    pieces (c :: text) = (pieces text).modifyHead (c :: ·) := by
  rw [pieces_eq_splitOn, pieces_eq_splitOn, List.splitOn_cons_eq_if_modifyHead, beq_false_of_ne hc]
  rfl

theorem pieces_append_slash (first second : List Char) :
    pieces (first ++ '/' :: second) = pieces first ++ pieces second := by
  simp only [pieces_eq_splitOn, List.splitOn_append_cons_self]

/-- Text that holds no slash is joined to the first piece of what follows. -/
theorem pieces_append {front : List Char} (hfront : '/' ∉ front) (text : List Char) :
    pieces (front ++ text) = (pieces text).modifyHead (front ++ ·) := by
  induction front with
  | nil => exact (congrFun List.modifyHead_id (pieces text)).symm
  | cons c front ih =>
    obtain ⟨hc, hrest⟩ := not_or.1 (mt List.mem_cons.2 hfront)
    rw [List.cons_append, pieces_cons_of_ne (Ne.symm hc), ih hrest, List.modifyHead_modifyHead]
    rfl

theorem pieces_intercalate {texts : List (List Char)} (htexts : ∀ text ∈ texts, '/' ∉ text)
    (hne : texts ≠ []) :
    pieces (['/'].intercalate texts) = texts := by
  rw [pieces_eq_splitOn, List.splitOn_intercalate '/' htexts hne]

/-- A piece has its characters from the text, and no slash is among them. -/
theorem mem_of_mem_piece {text piece : List Char} {c : Char} (hpiece : piece ∈ pieces text)
    (hc : c ∈ piece) : c ∈ text ∧ c ≠ '/' := by
  induction text generalizing piece with
  | nil =>
    rw [pieces, List.mem_singleton] at hpiece
    rw [hpiece] at hc
    cases hc
  | cons first text ih =>
    have hlater : ∀ {other}, other ∈ pieces text → c ∈ other → c ∈ first :: text ∧ c ≠ '/' :=
      fun hother hmem => (ih hother hmem).imp_left (List.mem_cons_of_mem first)
    by_cases hslash : first = '/'
    · rw [hslash, pieces_cons_slash] at hpiece
      rcases List.mem_cons.1 hpiece with rfl | hpiece
      · cases hc
      · exact hlater hpiece hc
    · rw [pieces_cons_of_ne hslash] at hpiece
      cases hpieces : pieces text with
      | nil => simp [hpieces] at hpiece
      | cons next others =>
        rw [hpieces] at hpiece hlater
        rcases List.mem_cons.1 hpiece with rfl | hpiece
        · rcases List.mem_cons.1 hc with rfl | hc
          · exact ⟨List.mem_cons_self, hslash⟩
          · exact hlater List.mem_cons_self hc
        · exact hlater (List.mem_cons_of_mem next hpiece) hc

theorem slash_not_mem_of_mem_pieces {text piece : List Char} (h : piece ∈ pieces text) :
    '/' ∉ piece :=
  fun hslash => (mem_of_mem_piece h hslash).2 rfl

/-! ### Steps -/

/-- A text that stands for itself between two slashes. -/
def IsName (text : String) : Prop := text ≠ "" ∧ text ≠ "." ∧ text ≠ ".." ∧ '/' ∉ text.toList

/-- A segment that a piece of text can stand for: a name, or `..`. -/
inductive IsStep : Segment → Prop
  | parent : IsStep .parent
  | name {text : String} (htext : IsName text) : IsStep (.name text)

/-- The segments that the pieces of a text stand for, whatever stands before them. -/
def stepsOf (text : String) : List Segment := (pieces text.toList).filterMap Segment.ofPiece?

theorem ofPiece?_text {step : Segment} (h : IsStep step) :
    Segment.ofPiece? step.text.toList = some step := by
  cases h with
  | parent => decide
  | @name text htext =>
    obtain ⟨hempty, hdot, hdots, -⟩ := htext
    have hempty' : text.toList ≠ [] := fun heq => hempty (String.toList_injective heq)
    have hdot' : text.toList ≠ ['.'] := fun heq => hdot (String.toList_injective heq)
    have hdots' : text.toList ≠ ['.', '.'] := fun heq => hdots (String.toList_injective heq)
    simp [Segment.ofPiece?, Segment.text, hempty', hdot', hdots']

theorem isStep_of_ofPiece? {piece : List Char} {step : Segment} (hpiece : '/' ∉ piece)
    (h : Segment.ofPiece? piece = some step) : IsStep step := by
  rw [Segment.ofPiece?] at h
  split at h
  · cases h
  · next hsome =>
    split at h
    · cases h
      exact .parent
    · next hdots =>
      cases h
      obtain ⟨hempty, hdot⟩ := not_or.1 hsome
      refine .name ⟨?_, ?_, ?_, by simpa using hpiece⟩
      · exact fun heq => hempty (by simpa using congrArg String.toList heq)
      · exact fun heq => hdot (by simpa using congrArg String.toList heq)
      · exact fun heq => hdots (by simpa using congrArg String.toList heq)

theorem isStep_of_mem_stepsOf {text : String} {step : Segment} (h : step ∈ stepsOf text) :
    IsStep step := by
  obtain ⟨piece, hpiece, hstep⟩ := List.mem_filterMap.1 h
  exact isStep_of_ofPiece? (slash_not_mem_of_mem_pieces hpiece) hstep

/-- The characters of a name are characters of the text. -/
theorem subset_of_mem_stepsOf {text name : String} (h : .name name ∈ stepsOf text) :
    name.toList ⊆ text.toList := by
  obtain ⟨piece, hpiece, hname⟩ := List.mem_filterMap.1 h
  rw [Segment.ofPiece?] at hname
  split at hname
  · cases hname
  · split at hname
    · cases hname
    · cases hname
      rw [String.toList_ofList]
      exact fun c hc => (mem_of_mem_piece hpiece hc).1

theorem segments_of_isAbsolute {path : Path} (h : path.isAbsolute = true) :
    path.segments = .root :: stepsOf path.text := by
  rw [segments, if_pos h]
  rfl

theorem segments_of_relative {path : Path} (h : path.isAbsolute = false) :
    path.segments = stepsOf path.text ∨ path.segments = .current :: stepsOf path.text := by
  rw [segments, if_neg (Bool.eq_false_iff.1 h)]
  split
  · exact .inr rfl
  · exact .inl rfl

theorem name_mem_stepsOf {path : Path} {name : String} (h : .name name ∈ path.segments) :
    .name name ∈ stepsOf path.text := by
  cases habsolute : path.isAbsolute with
  | true => simpa [segments_of_isAbsolute habsolute] using h
  | false =>
    rcases segments_of_relative habsolute with hsegments | hsegments
    · rwa [hsegments] at h
    · simpa [hsegments] using h

theorem slash_not_mem_text {step : Segment} (h : IsStep step) : '/' ∉ step.text.toList := by
  cases h with
  | parent => decide
  | name htext => exact htext.2.2.2

theorem text_ne_nil {step : Segment} (h : IsStep step) : step.text.toList ≠ [] := by
  cases h with
  | parent => decide
  | name htext => exact fun heq => htext.1 (String.toList_injective heq)

/-- Steps that are written with a slash between them are the pieces of what is written. -/
theorem pieces_written {steps : List Segment} (h : ∀ step ∈ steps, IsStep step) (hne : steps ≠ []) :
    pieces (String.intercalate "/" (steps.map Segment.text)).toList =
      steps.map (·.text.toList) := by
  have hslash : ∀ text ∈ steps.map (·.text.toList), '/' ∉ text := by
    intro text htext
    obtain ⟨step, hstep, rfl⟩ := List.mem_map.1 htext
    exact slash_not_mem_text (h step hstep)
  have hseparator : "/".toList = ['/'] := rfl
  rw [String.toList_intercalate, hseparator, List.map_map]
  exact pieces_intercalate hslash (by simpa using hne)

/-- Steps that are written with a slash between them are read again. -/
theorem stepsOf_intercalate {steps : List Segment} (h : ∀ step ∈ steps, IsStep step) :
    stepsOf (String.intercalate "/" (steps.map Segment.text)) = steps := by
  by_cases hne : steps = []
  · subst hne
    rfl
  · have hread : ∀ step ∈ steps, Segment.ofPiece? step.text.toList = some step :=
      fun step hstep => ofPiece?_text (h step hstep)
    rw [stepsOf, pieces_written h hne, List.filterMap_map]
    exact (List.filterMap_congr hread).trans List.filterMap_some

/-- Steps that are written with a slash between them do not begin at the root. -/
theorem isAbsolute_intercalate {steps : List Segment} (h : ∀ step ∈ steps, IsStep step) :
    isAbsolute ⟨String.intercalate "/" (steps.map Segment.text)⟩ = false := by
  cases steps with
  | nil => rfl
  | cons first rest =>
    have hfirst := h first List.mem_cons_self
    obtain ⟨c, text, htext⟩ := List.exists_cons_of_ne_nil (text_ne_nil hfirst)
    have hslash : c ≠ '/' := by
      have hmem := slash_not_mem_text hfirst
      rw [htext] at hmem
      exact fun heq => hmem (heq ▸ List.mem_cons_self)
    cases rest with
    | nil => simp [isAbsolute, htext, hslash]
    | cons second rest => simp [isAbsolute, htext, hslash]

/-! ### Joining -/

theorem isAbsolute_join {base : Path} {rest : String} (hrest : isAbsolute ⟨rest⟩ = false) :
    (base.join rest).isAbsolute = base.isAbsolute := by
  by_cases hbase : base.text = ""
  · have hfalse : base.isAbsolute = false := by simp [isAbsolute, hbase]
    have hjoin : base.join rest = ⟨rest⟩ := by simp [join, hrest, hbase]
    rw [hjoin, hrest, hfalse]
  · have hhead : base.text.toList ≠ [] := fun heq => hbase (String.toList_injective heq)
    obtain ⟨c, text, htext⟩ := List.exists_cons_of_ne_nil hhead
    rw [join, if_neg (by simp [hrest])]
    split <;> simp [isAbsolute, htext]

theorem stepsOf_append_slash (first second : String) :
    stepsOf (first ++ "/" ++ second) = stepsOf first ++ stepsOf second := by
  have htext : (first ++ "/" ++ second).toList = first.toList ++ '/' :: second.toList := by simp
  rw [stepsOf, htext, pieces_append_slash, List.filterMap_append]
  rfl

theorem stepsOf_slash (text : String) : stepsOf ("/" ++ text) = stepsOf text := by
  have happend := stepsOf_append_slash "" text
  rwa [String.empty_append] at happend

/-- The pieces of a joined path are those of its two parts, but for empty ones. -/
theorem filterMap_pieces_join {β : Type} {f : List Char → Option β} (hf : f [] = none) {base : Path}
    {rest : String}
    (hrest : isAbsolute ⟨rest⟩ = false) :
    (pieces (base.join rest).text.toList).filterMap f =
      (pieces base.text.toList).filterMap f ++ (pieces rest.toList).filterMap f := by
  rw [join, if_neg (by simp [hrest])]
  split
  · next hend =>
    rcases Bool.or_eq_true_iff.1 hend with hempty | hslash
    · have hbase : base.text = "" := by simpa using hempty
      simp [hbase, pieces, hf]
    · -- The slash at the end of the base separates; behind it the base has one empty piece.
      obtain ⟨before, hbefore⟩ := List.getLast?_eq_some_iff.1 (eq_of_beq hslash)
      rw [String.toList_append, hbefore, List.append_assoc, List.singleton_append,
        pieces_append_slash, pieces_append_slash]
      simp [pieces, hf]
  · simp only [String.toList_append, List.append_assoc]
    exact (congrArg _ (pieces_append_slash _ _)).trans List.filterMap_append

/-- The steps of a joined path are those of its two parts. -/
theorem stepsOf_join {base : Path} {rest : String} (hrest : isAbsolute ⟨rest⟩ = false) :
    stepsOf (base.join rest).text = stepsOf base.text ++ stepsOf rest :=
  filterMap_pieces_join rfl hrest

/-! ### Resolving -/

/-- What is resolved before the first step of a path. -/
def bottom (path : Path) : List Segment := if path.isAbsolute then [.root] else []

/-- Only the root and the steps of a path matter once its dots are resolved. -/
theorem resolve_segments (path : Path) :
    resolve path.segments = ((stepsOf path.text).foldl resolveStep path.bottom).reverse := by
  rw [resolve, bottom]
  cases habsolute : path.isAbsolute with
  | true =>
    rw [segments_of_isAbsolute habsolute]
    rfl
  | false =>
    rcases segments_of_relative habsolute with hsegments | hsegments <;> rw [hsegments] <;> rfl

/-- What is joined to a path meets the resolved path only. -/
theorem resolve_join (base : Path) {rest : String} (hrest : isAbsolute ⟨rest⟩ = false) :
    resolve (base.join rest).segments =
      ((stepsOf rest).foldl resolveStep (resolve base.segments).reverse).reverse := by
  have hbottom : (base.join rest).bottom = base.bottom := by
    rw [bottom, bottom, isAbsolute_join hrest]
  rw [resolve_segments, hbottom, stepsOf_join hrest, List.foldl_append, resolve_segments,
    List.reverse_reverse]

/-- What a resolved path rests on, be it read forwards or backwards. -/
inductive IsFloor : Bool → List Segment → Prop
  | root : IsFloor true [.root]
  | parents (count : Nat) : IsFloor false (List.replicate count .parent)

/-- The segments of a resolved path: names above a floor. -/
inductive RestsOn (absolute : Bool) (floor : List Segment) : List Segment → Prop
  | above {names : List String} (hfloor : IsFloor absolute floor)
      (hnames : ∀ name ∈ names, IsName name) :
      RestsOn absolute floor (floor ++ names.map .name)

theorem IsFloor.reverse {absolute : Bool} {floor : List Segment} (h : IsFloor absolute floor) :
    floor.reverse = floor := by
  cases h with
  | root => rfl
  | parents count => exact List.reverse_replicate

/-- Nothing is taken away from a floor; a run of `..` grows. -/
theorem IsFloor.parent {absolute : Bool} {floor : List Segment} (h : IsFloor absolute floor) :
    IsFloor absolute (resolveStep floor .parent) ∧ floor <:+ resolveStep floor .parent := by
  cases h with
  | root => exact ⟨.root, List.suffix_refl _⟩
  | parents count =>
    have hstep : resolveStep (List.replicate count .parent) .parent =
        List.replicate (count + 1) .parent := by
      cases count <;> rfl
    rw [hstep]
    exact ⟨.parents (count + 1), List.suffix_cons _ _⟩

/-- Further steps change the names above a floor, and the floor only grows. Here the last segment
comes first. -/
theorem foldl_resolveStep_above {absolute : Bool} {floor : List Segment} {names : List String}
    {steps : List Segment} (hfloor : IsFloor absolute floor) (hnames : ∀ name ∈ names, IsName name)
    (hsteps : ∀ step ∈ steps, IsStep step) :
    ∃ (floor' : List Segment) (names' : List String), IsFloor absolute floor' ∧ floor <:+ floor' ∧
      (∀ name ∈ names', IsName name) ∧
      steps.foldl resolveStep (names.map .name ++ floor) = names'.map .name ++ floor' := by
  induction steps generalizing floor names with
  | nil => exact ⟨floor, names, hfloor, List.suffix_refl _, hnames, rfl⟩
  | cons step steps ih =>
    have hrest : ∀ step ∈ steps, IsStep step :=
      fun later hlater => hsteps later (List.mem_cons_of_mem step hlater)
    cases hsteps step List.mem_cons_self with
    | @name text htext =>
      have hmore : ∀ name ∈ text :: names, IsName name := List.forall_mem_cons.2 ⟨htext, hnames⟩
      exact ih hfloor hmore hrest
    | parent =>
      cases names with
      | cons name names => exact ih hfloor (List.forall_mem_cons.1 hnames).2 hrest
      | nil =>
        obtain ⟨hgrown, hsuffix⟩ := hfloor.parent
        obtain ⟨floor', names', hfloor', hsuffix', hnames', hfold⟩ := ih hgrown hnames hrest
        exact ⟨floor', names', hfloor', hsuffix.trans hsuffix', hnames', hfold⟩

theorem isFloor_bottom (path : Path) : IsFloor path.isAbsolute path.bottom := by
  rw [bottom]
  cases path.isAbsolute with
  | true => exact .root
  | false => exact .parents 0

theorem RestsOn.of_reverse {absolute : Bool} {floor : List Segment} {names : List String}
    (hfloor : IsFloor absolute floor) (hnames : ∀ name ∈ names, IsName name) :
    RestsOn absolute floor (names.map Segment.name ++ floor).reverse := by
  rw [List.reverse_append, hfloor.reverse, ← List.map_reverse]
  exact .above hfloor fun name hname => hnames name (List.mem_reverse.1 hname)

/-- A path that is joined to another one is resolved to names above the floor of that one, or above
a higher floor. -/
theorem restsOn_resolve_join (base : Path) {rest : String} (hrest : isAbsolute ⟨rest⟩ = false) :
    ∃ floor floor', RestsOn base.isAbsolute floor (resolve base.segments) ∧
      RestsOn base.isAbsolute floor' (resolve (base.join rest).segments) ∧ floor <+: floor' := by
  have hsteps : ∀ text : String, ∀ step ∈ stepsOf text, IsStep step :=
    fun _ _ => isStep_of_mem_stepsOf
  have hnone : ∀ name ∈ ([] : List String), IsName name := by simp
  obtain ⟨floor, names, hfloor, -, hnames, hbase⟩ :=
    foldl_resolveStep_above (isFloor_bottom base) hnone (hsteps base.text)
  obtain ⟨floor', names', hfloor', hsuffix, hnames', hjoined⟩ :=
    foldl_resolveStep_above hfloor hnames (hsteps rest)
  rw [List.map_nil, List.nil_append] at hbase
  have hbottom : (base.join rest).bottom = base.bottom := by
    rw [bottom, bottom, isAbsolute_join hrest]
  refine ⟨floor, floor', ?_, ?_, ?_⟩
  · rw [resolve_segments, hbase]
    exact .of_reverse hfloor hnames
  · rw [resolve_segments, hbottom, stepsOf_join hrest, List.foldl_append, hbase, hjoined]
    exact .of_reverse hfloor' hnames'
  · have hreverse := List.reverse_prefix.2 hsuffix
    rwa [hfloor.reverse, hfloor'.reverse] at hreverse

/-- Every path is resolved to names above a floor. -/
theorem restsOn_resolve (path : Path) :
    ∃ floor, RestsOn path.isAbsolute floor (resolve path.segments) := by
  have hempty : isAbsolute ⟨""⟩ = false := rfl
  obtain ⟨floor, -, hbase, -, -⟩ := restsOn_resolve_join path hempty
  exact ⟨floor, hbase⟩

/-- Names are added as they stand. -/
theorem foldl_names (names : List String) (done : List Segment) :
    (names.map Segment.name).foldl resolveStep done = (names.map Segment.name).reverse ++ done := by
  induction names generalizing done with
  | nil => rfl
  | cons name names ih =>
    rw [List.map_cons, List.foldl_cons, ih, List.reverse_cons, List.append_assoc]
    rfl

/-- Resolved segments are resolved as they stand, and so is everything they begin with. -/
theorem RestsOn.foldl_take {absolute : Bool} {floor segments : List Segment}
    (h : RestsOn absolute floor segments)
    (count : Nat) : (segments.take count).foldl resolveStep [] = (segments.take count).reverse := by
  have hparents : ∀ count, (List.replicate count Segment.parent).foldl resolveStep [] =
      List.replicate count .parent := by
    intro count
    induction count with
    | zero => rfl
    | succ count ih =>
      rw [List.replicate_succ', List.foldl_append, ih, ← List.replicate_succ']
      cases count <;> rfl
  cases h with
  | @above names hfloor _ =>
    rw [List.take_append, List.foldl_append, ← List.map_take, foldl_names, List.reverse_append]
    cases hfloor with
    | root =>
      cases count with
      | zero => rfl
      | succ count => simp [resolveStep]
    | parents height => rw [List.take_replicate, hparents, List.reverse_replicate]

/-! ### Written paths -/

theorem RestsOn.isStep {floor segments : List Segment} (h : RestsOn false floor segments) :
    ∀ step ∈ segments, IsStep step := by
  cases h with
  | above hfloor hnames =>
    cases hfloor with
    | parents count =>
      intro step hstep
      rcases List.mem_append.1 hstep with hparent | hname
      · rw [List.eq_of_mem_replicate hparent]
        exact .parent
      · obtain ⟨name, hmem, rfl⟩ := List.mem_map.1 hname
        exact .name (hnames name hmem)

theorem ofSegments_root (segments : List Segment) :
    ofSegments (.root :: segments) =
      ⟨"/" ++ String.intercalate "/" (segments.map Segment.text)⟩ := by
  cases segments with
  | nil => rfl
  | cons first rest => simp [ofSegments, Segment.text]

theorem ofSegments_of_isStep {segments : List Segment} (h : ∀ step ∈ segments, IsStep step) :
    ofSegments segments = ⟨String.intercalate "/" (segments.map Segment.text)⟩ := by
  rw [ofSegments]
  rintro rfl
  cases h .root List.mem_cons_self

theorem segments_of_steps {steps : List Segment} (h : ∀ step ∈ steps, IsStep step) :
    segments ⟨String.intercalate "/" (steps.map Segment.text)⟩ = steps := by
  have hdot : (pieces (String.intercalate "/" (steps.map Segment.text)).toList).head? ≠
      some ['.'] := by
    cases steps with
    | nil => decide
    | cons first rest =>
      rw [pieces_written h (List.cons_ne_nil first rest), List.map_cons, List.head?_cons, ne_eq,
        Option.some.injEq]
      cases h first List.mem_cons_self with
      | parent => decide
      | name htext => exact fun heq => htext.2.1 (String.toList_injective heq)
  have hrelative := isAbsolute_intercalate h
  rw [segments, if_neg (Bool.eq_false_iff.1 hrelative), if_neg (by simpa using hdot),
    List.nil_append]
  exact stepsOf_intercalate h

theorem segments_of_root_steps {steps : List Segment} (h : ∀ step ∈ steps, IsStep step) :
    segments ⟨"/" ++ String.intercalate "/" (steps.map Segment.text)⟩ = .root :: steps := by
  have habsolute : isAbsolute ⟨"/" ++ String.intercalate "/" (steps.map Segment.text)⟩ = true := by
    simp [isAbsolute]
  rw [segments_of_isAbsolute habsolute, stepsOf_slash, stepsOf_intercalate h]

theorem isStep_of_names {names : List String} (h : ∀ name ∈ names, IsName name) :
    ∀ step ∈ names.map Segment.name, IsStep step := by
  intro step hstep
  obtain ⟨name, hname, rfl⟩ := List.mem_map.1 hstep
  exact .name (h name hname)

/-- A path that is written from its resolved segments has them as its segments. -/
theorem RestsOn.segments_ofSegments {absolute : Bool} {floor segments : List Segment}
    (h : RestsOn absolute floor segments) : (ofSegments segments).segments = segments := by
  cases absolute with
  | true =>
    cases h with
    | @above names hfloor hnames =>
      cases hfloor with
      | root =>
        rw [List.singleton_append, ofSegments_root, segments_of_root_steps (isStep_of_names hnames)]
  | false => rw [ofSegments_of_isStep h.isStep, segments_of_steps h.isStep]

/-- Resolved segments are resolved as they stand. -/
theorem RestsOn.resolve_eq {absolute : Bool} {floor segments : List Segment}
    (h : RestsOn absolute floor segments) :
    resolve segments = segments := by
  have hfold := h.foldl_take segments.length
  rw [List.take_length] at hfold
  rw [resolve, hfold, List.reverse_reverse]

/-- A path that is written from its resolved segments resolves to them. -/
theorem RestsOn.resolve_ofSegments {absolute : Bool} {floor segments : List Segment}
    (h : RestsOn absolute floor segments) : resolve (ofSegments segments).segments = segments := by
  rw [h.segments_ofSegments, h.resolve_eq]

/-- Two paths are written alike without their dots just when their resolved segments are the
same. -/
theorem normalize_eq_iff {first second : Path} :
    normalize first = normalize second ↔ resolve first.segments = resolve second.segments := by
  constructor
  · intro h
    obtain ⟨_, hfirst⟩ := restsOn_resolve first
    obtain ⟨_, hsecond⟩ := restsOn_resolve second
    have hwritten : ofSegments (resolve first.segments) = ofSegments (resolve second.segments) := h
    rw [← hfirst.resolve_ofSegments, hwritten, hsecond.resolve_ofSegments]
  · exact fun h => congrArg ofSegments h

end RouteManifest.Path
