import Mathlib.Data.List.Induction
import RouteManifest.Proofs.Path.Resolution

/-!
The canonical form of a path. It climbs first, unless it begins at the root, and then goes down by
names. A path that already has this form is kept, and dots may be resolved before two paths are
joined, in either of them, as well as behind.
-/

namespace RouteManifest.Path

/-! ### Resolving before joining -/

theorem isStep_of_mem_foldl {steps : List Segment} (h : ∀ step ∈ steps, IsStep step) :
    ∀ step ∈ steps.foldl resolveStep [], IsStep step := by
  have hnone : ∀ name ∈ ([] : List String), IsName name := by simp
  obtain ⟨floor, names, hfloor, -, hnames, hfold⟩ := foldl_resolveStep_above (.parents 0) hnone h
  have habove : RestsOn false floor (steps.foldl resolveStep []).reverse := by
    rw [← List.append_nil []]
    exact hfold ▸ .of_reverse hfloor hnames
  exact fun step hstep => habove.isStep step (List.mem_reverse.2 hstep)

/-- A step does to resolved steps what it does to them on top of any path: a name is put on them,
and a `..` takes back the name that comes last or is put on them too. -/
theorem foldl_resolveStep_step {found : List Segment} {step : Segment}
    (hfound : ∀ step ∈ found, IsStep step)
    (hstep : IsStep step) (done : List Segment) :
    (resolveStep found step).reverse.foldl resolveStep done =
      resolveStep (found.reverse.foldl resolveStep done) step := by
  have hput : ∀ step : Segment, (step :: found).reverse.foldl resolveStep done =
      resolveStep (found.reverse.foldl resolveStep done) step := by
    intro step
    rw [List.reverse_cons, List.foldl_append, List.foldl_cons, List.foldl_nil]
  cases hstep with
  | name => exact hput _
  | parent =>
    cases found with
    | nil => rfl
    | cons last before =>
      cases hfound last List.mem_cons_self with
      | parent => exact hput .parent
      | name =>
        rw [List.reverse_cons, List.foldl_append]
        rfl

/-- On top of any path, resolved steps do what the steps do. The induction takes the last step
off. -/
theorem foldl_resolve {steps : List Segment} (h : ∀ step ∈ steps, IsStep step)
    (done : List Segment) :
    (resolve steps).foldl resolveStep done = steps.foldl resolveStep done := by
  rw [resolve]
  induction steps using List.reverseRecOn with
  | nil => rfl
  | append_singleton steps step ih =>
    have hbefore : ∀ step ∈ steps, IsStep step :=
      fun earlier hearlier => h earlier (List.mem_append_left _ hearlier)
    have hstep : IsStep step := h step (by simp)
    rw [List.foldl_concat, List.foldl_concat,
      foldl_resolveStep_step (isStep_of_mem_foldl hbefore) hstep, ih hbefore]

/-! ### The canonical form -/

/-- A resolved path is written with the steps up and the names that it is resolved to. -/
theorem exists_written (path : Path) :
    ∃ (climbs : Nat) (names : List String), (∀ name ∈ names, IsName name) ∧
      (path.isAbsolute = true → climbs = 0) ∧
      path.normalize.text =
        (if path.isAbsolute then "/" else "") ++
          String.intercalate "/" (List.replicate climbs ".." ++ names) ∧
      path.normalize.segments =
        (if path.isAbsolute then [.root] else []) ++ List.replicate climbs .parent ++
          names.map .name := by
  obtain ⟨floor, hfloor⟩ := restsOn_resolve path
  have hsegments : path.normalize.segments = resolve path.segments := hfloor.segments_ofSegments
  rw [hsegments, normalize]
  generalize resolve path.segments = resolved at hfloor
  generalize path.isAbsolute = absolute at hfloor
  cases hfloor with
  | @above names hkind hnames =>
    have htexts : (names.map Segment.name).map Segment.text = names := by
      rw [List.map_map]
      exact List.map_id names
    cases hkind with
    | root => exact ⟨0, names, hnames, fun _ => rfl, by simp [ofSegments_root, htexts], rfl⟩
    | parents count =>
      have hrelative : RestsOn false (List.replicate count .parent) _ :=
        .above (.parents count) hnames
      refine ⟨count, names, hnames, nofun, ?_, rfl⟩
      rw [ofSegments_of_isStep hrelative.isStep, List.map_append, List.map_replicate, htexts]
      rfl

theorem isAbsolute_normalize (path : Path) : path.normalize.isAbsolute = path.isAbsolute := by
  obtain ⟨floor, hfloor⟩ := restsOn_resolve path
  rw [normalize]
  generalize resolve path.segments = resolved at hfloor
  cases habsolute : path.isAbsolute with
  | true =>
    rw [habsolute] at hfloor
    cases hfloor with
    | above hkind =>
      cases hkind with
      | root =>
        rw [List.singleton_append, ofSegments_root]
        simp [isAbsolute]
  | false =>
    rw [habsolute] at hfloor
    rw [ofSegments_of_isStep hfloor.isStep, isAbsolute_intercalate hfloor.isStep]

/-- The steps of a relative path in canonical form are its resolved steps. -/
theorem stepsOf_normalize {rest : String} (hrest : isAbsolute ⟨rest⟩ = false) :
    stepsOf (normalize ⟨rest⟩).text = resolve (stepsOf rest) := by
  obtain ⟨floor, hfloor⟩ := restsOn_resolve ⟨rest⟩
  have hresolve : resolve (segments ⟨rest⟩) = resolve (stepsOf rest) := by
    rw [resolve_segments, bottom, hrest]
    rfl
  rw [hrest] at hfloor
  rw [normalize, ofSegments_of_isStep hfloor.isStep, stepsOf_intercalate hfloor.isStep, hresolve]

/-- The canonical form of a path, and how it goes together with joining. It is written with a slash
if the path begins at the root, steps up if it does not, and names; so there are no other dots in
it. Resolving dots again changes nothing, and they may be resolved before a relative path is joined,
in the path in front or in the one that is joined. -/
theorem normalize_canonical (path : Path) {rest : String} (hrest : isAbsolute ⟨rest⟩ = false) :
    (∃ (climbs : Nat) (names : List String), (∀ name ∈ names, IsName name) ∧
      (path.isAbsolute = true → climbs = 0) ∧
      path.normalize.text =
        (if path.isAbsolute then "/" else "") ++
          String.intercalate "/" (List.replicate climbs ".." ++ names) ∧
      path.normalize.segments =
        (if path.isAbsolute then [.root] else []) ++ List.replicate climbs .parent ++
          names.map .name) ∧
    path.normalize.isAbsolute = path.isAbsolute ∧
    path.normalize.normalize = path.normalize ∧
    (path.normalize.join rest).normalize = (path.join rest).normalize ∧
    (path.join (normalize ⟨rest⟩).text).normalize = (path.join rest).normalize := by
  have hresolve : ∀ path : Path, resolve path.normalize.segments = resolve path.segments := by
    intro path
    obtain ⟨_, hfloor⟩ := restsOn_resolve path
    exact hfloor.resolve_ofSegments
  refine ⟨exists_written path, isAbsolute_normalize path,
    normalize_eq_iff.2 (hresolve path), ?_, ?_⟩
  · rw [normalize_eq_iff, resolve_join _ hrest, resolve_join _ hrest, hresolve]
  · have hrelative : isAbsolute ⟨(normalize ⟨rest⟩).text⟩ = false :=
      (isAbsolute_normalize ⟨rest⟩).trans hrest
    rw [normalize_eq_iff, resolve_join _ hrelative, resolve_join _ hrest, stepsOf_normalize hrest,
      foldl_resolve]
    exact fun step hstep => isStep_of_mem_stepsOf hstep

/-- Both paths climb out of what they start from, and the one in front begins at the root. -/
theorem normalize_canonical_climbing :
    isAbsolute ⟨"./b/..//../c/"⟩ = false ∧ normalize ⟨"/../a/./x/.."⟩ = ⟨"/a"⟩ ∧
      normalize ⟨"./b/..//../c/"⟩ = ⟨"../c"⟩ ∧
      normalize (join ⟨"/../a/./x/.."⟩ "./b/..//../c/") = ⟨"/c"⟩ ∧
      normalize (join ⟨"/a"⟩ "./b/..//../c/") = ⟨"/c"⟩ ∧
      normalize (join ⟨"/../a/./x/.."⟩ "../c") = ⟨"/c"⟩ := by
  have hrest : isAbsolute ⟨"./b/..//../c/"⟩ = false := by decide
  have hbase : normalize ⟨"/../a/./x/.."⟩ = ⟨"/a"⟩ := by decide
  have hnormal : normalize ⟨"./b/..//../c/"⟩ = ⟨"../c"⟩ := by decide
  have hjoined : normalize (join ⟨"/../a/./x/.."⟩ "./b/..//../c/") = ⟨"/c"⟩ := by decide
  obtain ⟨-, -, -, hbefore, hbehind⟩ := normalize_canonical ⟨"/../a/./x/.."⟩ hrest
  rw [hbase] at hbefore
  rw [hnormal] at hbehind
  exact ⟨hrest, hbase, hnormal, hjoined, hbefore.trans hjoined, hbehind.trans hjoined⟩

end RouteManifest.Path
