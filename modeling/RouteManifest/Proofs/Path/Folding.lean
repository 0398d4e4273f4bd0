import Mathlib.Data.List.Infix
import RouteManifest.Proofs.Path.Below
import RouteManifest.Proofs.Path.Route

/-!
Paths that stay below the directory they start from. Each `..` in them folds a name of their own, so
that nothing of the directory is taken back. What is left of them is their path in a manifest, and
it does not depend on the directory.
-/

namespace RouteManifest.Path

/-! ### Folding -/

/-- Segments are folded to names: dots are dropped, and a `..` goes with the name that comes to
stand before it. -/
inductive Folds : List Segment → List String → Prop
  | names (names : List String) : Folds (names.map .name) names
  | dot {before after : List Segment} {names : List String} (h : Folds (before ++ after) names) :
      Folds (before ++ .current :: after) names
  | parent {before after : List Segment} {name : String} {names : List String}
      (h : Folds (before ++ after) names) :
      Folds (before ++ .name name :: .parent :: after) names

def Segment.isName : Segment → Bool
  | .name _ => true
  | _ => false

/-- Nothing the segments begin with has more `..` than names. -/
def StaysBelow (segments : List Segment) : Prop :=
  ∀ front, front <+: segments → front.count .parent ≤ front.countP Segment.isName

section
variable {segments : List Segment} {names : List String}

/-- On top of any path, folded segments add their names to what is resolved of it. -/
theorem Folds.foldl (h : Folds segments names) (done : List Segment) :
    segments.foldl resolveStep done = (names.map Segment.name).reverse ++ done := by
  induction h with
  | names names => exact foldl_names names done
  | dot _ ih | parent _ ih =>
    rw [← ih, List.foldl_append, List.foldl_append]
    rfl

theorem Folds.unique {names' : List String} (h : Folds segments names)
    (h' : Folds segments names') :
    names = names' := by
  have hnames := h.foldl []
  rw [h'.foldl, List.append_nil, List.append_nil, List.reverse_inj] at hnames
  exact (List.map_injective_iff.2 fun _ _ => Segment.name.inj) hnames.symm

theorem Folds.append (h : Folds segments names) (more : List String) :
    Folds (segments ++ more.map .name) (names ++ more) := by
  induction h with
  | names names =>
    rw [← List.map_append]
    exact .names _
  | dot _ ih =>
    rw [List.append_assoc] at ih ⊢
    exact .dot ih
  | parent _ ih =>
    rw [List.append_assoc] at ih ⊢
    exact .parent ih

theorem Folds.mem (h : Folds segments names) {name : String} (hname : name ∈ names) :
    .name name ∈ segments := by
  induction h with
  | names names => exact List.mem_map_of_mem hname
  | dot _ ih | parent _ ih =>
    rcases List.mem_append.1 (ih hname) with hbefore | hafter
    · exact List.mem_append_left _ hbefore
    · simp [hafter]

/-- Nothing the segments begin with has more `..` than names, together with as many names as are
open before them. -/
def StaysWithin (opened : Nat) (segments : List Segment) : Prop :=
  ∀ front, front <+: segments → front.count .parent ≤ opened + front.countP Segment.isName

theorem StaysWithin.of_current {opened : Nat} (h : StaysWithin opened (.current :: segments)) :
    StaysWithin opened segments := by
  intro front hfront
  have hcount := h (.current :: front) (List.cons_prefix_cons.2 ⟨rfl, hfront⟩)
  rwa [List.count_cons_of_ne Segment.noConfusion,
    List.countP_cons_of_neg Bool.false_ne_true] at hcount

theorem StaysWithin.of_name {opened : Nat} {text : String}
    (h : StaysWithin opened (.name text :: segments)) :
    StaysWithin (opened + 1) segments := by
  intro front hfront
  have hcount := h (.name text :: front) (List.cons_prefix_cons.2 ⟨rfl, hfront⟩)
  rw [List.count_cons_of_ne Segment.noConfusion, List.countP_cons_of_pos rfl] at hcount
  omega

theorem StaysWithin.of_parent {opened : Nat} (h : StaysWithin opened (.parent :: segments)) :
    ∃ fewer, opened = fewer + 1 ∧ StaysWithin fewer segments := by
  have hcount : ∀ front, front <+: segments →
      front.count .parent + 1 ≤ opened + front.countP Segment.isName := by
    intro front hfront
    have hcount := h (.parent :: front) (List.cons_prefix_cons.2 ⟨rfl, hfront⟩)
    rwa [List.count_cons_self, List.countP_cons_of_neg Bool.false_ne_true] at hcount
  have hopened : 1 ≤ opened := by simpa using hcount [] List.nil_prefix
  refine ⟨opened - 1, by omega, ?_⟩
  intro front hfront
  have := hcount front hfront
  omega

/-- What stays below the start can be folded. The induction is on the segments, with the names that
are open before them. -/
theorem exists_folds_above (opened : List String) (hroot : .root ∉ segments)
    (hwithin : StaysWithin opened.length segments) : ∃ names,
    Folds (opened.map .name ++ segments) names := by
  induction segments generalizing opened with
  | nil =>
    rw [List.append_nil]
    exact ⟨opened, .names opened⟩
  | cons segment segments ih =>
    have hroot' : Segment.root ∉ segments := fun hmem => hroot (List.mem_cons_of_mem segment hmem)
    cases segment with
    | root => exact absurd List.mem_cons_self hroot
    | current =>
      obtain ⟨names, hnames⟩ := ih opened hroot' hwithin.of_current
      exact ⟨names, .dot hnames⟩
    | name text =>
      have hmore : StaysWithin (opened ++ [text]).length segments := by
        rw [List.length_append]
        exact hwithin.of_name
      obtain ⟨names, hnames⟩ := ih (opened ++ [text]) hroot' hmore
      rw [List.map_append, List.append_assoc] at hnames
      exact ⟨names, hnames⟩
    | parent =>
      obtain ⟨fewer, hlength, hrest⟩ := hwithin.of_parent
      obtain rfl | ⟨opened, last, rfl⟩ := List.eq_nil_or_concat opened
      · cases hlength
      · rw [List.length_concat, Nat.add_right_cancel_iff] at hlength
        obtain ⟨names, hnames⟩ := ih opened hroot' (hlength ▸ hrest)
        rw [List.concat_eq_append, List.map_append, List.append_assoc]
        exact ⟨names, .parent hnames⟩

theorem exists_folds (hroot : .root ∉ segments) (hbelow : StaysBelow segments) :
    ∃ names, Folds segments names := by
  apply exists_folds_above [] hroot
  intro front hfront
  rw [List.length_nil, Nat.zero_add]
  exact hbelow front hfront

end

/-! ### Paths in a manifest -/

section
variable {names : List String}

theorem root_not_mem_segments {rest : String} (hrest : isAbsolute ⟨rest⟩ = false) :
    .root ∉ segments ⟨rest⟩ := by
  have hsteps : Segment.root ∉ stepsOf rest := fun hmem => nomatch isStep_of_mem_stepsOf hmem
  rcases segments_of_relative hrest with h | h
  · rwa [h]
  · simp [h, hsteps]

theorem isName_of_folds {rest : String} (h : Folds (segments ⟨rest⟩) names) :
    ∀ name ∈ names, IsName name := by
  intro name hname
  cases isStep_of_mem_stepsOf (name_mem_stepsOf (h.mem hname)) with
  | name htext => exact htext

/-- A path that stays below the start is resolved to its names, above whatever it starts from. -/
theorem resolve_join_of_folds (base : Path) {rest : String} (hrest : isAbsolute ⟨rest⟩ = false)
    (h : Folds (segments ⟨rest⟩) names) :
    resolve (base.join rest).segments = resolve base.segments ++ names.map .name := by
  have hfold : ∀ done, (stepsOf rest).foldl resolveStep done =
      (names.map Segment.name).reverse ++ done := by
    intro done
    rw [← h.foldl]
    rcases segments_of_relative hrest with hsegments | hsegments
    · rw [hsegments]
    · rw [hsegments]
      rfl
  rw [resolve_join base hrest, hfold, List.reverse_append, List.reverse_reverse,
    List.reverse_reverse]

theorem resolve_below (directory : Path) (names : List FileName) :
    resolve (directory.below names).segments =
      resolve directory.segments ++ (names.map FileName.text).map .name := by
  have hbottom : (directory.below names).bottom = directory.bottom := by
    rw [bottom, bottom, isAbsolute_below]
  have htexts : (names.map fun name => Segment.name name.text) =
      (names.map FileName.text).map .name :=
    List.map_map.symm
  rw [resolve_segments, resolve_segments, hbottom, stepsOf_below, htexts, List.foldl_append,
    foldl_names, List.reverse_append, List.reverse_reverse]

theorem commonLength_append (first more : List Segment) :
    commonLength first (first ++ more) = first.length := by
  induction first with
  | nil => cases more <;> rfl
  | cons segment first ih => rw [List.cons_append, commonLength, if_pos rfl, ih, List.length_cons]

/-- The path in a manifest of what lies below the root holds the names behind the root. -/
theorem route_of_resolve {root file : Path}
    (h : resolve file.segments = resolve root.segments ++ names.map .name) :
    route root file = "/" ++ String.intercalate "/" names := by
  have hwords : (names.map Segment.name).filterMap Segment.step? = names := by
    rw [List.filterMap_map]
    exact List.filterMap_some
  rw [route, h, stepsBetween, commonLength_append, List.drop_length, List.drop_left, hwords]
  rfl

/-- A path in a manifest that is written with names has these names as its segments, and so no `..`
among them. -/
theorem segments_written (hnames : ∀ name ∈ names, IsName name) :
    segments ⟨"/" ++ String.intercalate "/" names⟩ = .root :: names.map .name := by
  have htexts : (names.map Segment.name).map Segment.text = names := by
    rw [List.map_map]
    exact List.map_id names
  have hread := segments_of_root_steps (isStep_of_names hnames)
  rwa [htexts] at hread

theorem parent_not_mem_written (hnames : ∀ name ∈ names, IsName name) :
    .parent ∉ segments ⟨"/" ++ String.intercalate "/" names⟩ := by
  rw [segments_written hnames]
  simp

end

end RouteManifest.Path
