import RouteManifest.Proofs.Path.Resolution

/-!
Ways between paths. The steps from a directory to a file that was reached from it lead back to the
file, whatever dots the two were written with. They climb first and then go down by names, and these
are names of the file's own.
-/

namespace RouteManifest.Path

/-! ### What two paths share -/

theorem take_commonLength (first second : List Segment) :
    first.take (commonLength first second) = second.take (commonLength first second) := by
  induction first generalizing second with
  | nil => simp [commonLength]
  | cons a first ih =>
    cases second with
    | nil => simp [commonLength]
    | cons b second =>
      rw [commonLength]
      by_cases hsame : a = b
      · simp [hsame, ih second]
      · simp [hsame]

theorem length_le_commonLength {shared first second : List Segment} (hfirst : shared <+: first)
    (hsecond : shared <+: second) : shared.length ≤ commonLength first second := by
  induction shared generalizing first second with
  | nil => exact Nat.zero_le _
  | cons a shared ih =>
    obtain ⟨rest, rfl, hrest⟩ := List.cons_prefix_iff.1 hfirst
    obtain ⟨rest', rfl, hrest'⟩ := List.cons_prefix_iff.1 hsecond
    have hlength := ih hrest hrest'
    simp only [commonLength, if_true, List.length_cons]
    omega

theorem RestsOn.begins {absolute : Bool} {floor segments : List Segment}
    (h : RestsOn absolute floor segments) :
    floor <+: segments := by
  cases h with
  | above => exact List.prefix_append _ _

/-! ### The way from a directory to a file -/

/-- The segments that lead from a resolved directory to a resolved file: up to what both share, and
down from there. -/
def wayBetween (root file : List Segment) : List Segment :=
  List.replicate (root.drop (commonLength root file)).length .parent ++
    file.drop (commonLength root file)

/-- What is left of a resolved path behind at least its floor. -/
theorem RestsOn.drop {absolute : Bool} {floor segments : List Segment}
    (h : RestsOn absolute floor segments)
    {count : Nat} (hcount : floor.length ≤ count) :
    ∃ names : List String, (∀ name ∈ names, IsName name) ∧
      segments.drop count = names.map .name := by
  cases h with
  | @above names hfloor hnames =>
    refine ⟨names.drop (count - floor.length),
      fun name hname => hnames name (List.mem_of_mem_drop hname), ?_⟩
    rw [List.drop_append, List.drop_eq_nil_of_le hcount, List.nil_append, List.map_drop]

/-- What is left of a resolved path behind at least some floor of its kind: a run of `..` may be
left of its own. -/
theorem RestsOn.drop_above {absolute : Bool} {floor floor' segments : List Segment}
    (hfloor : IsFloor absolute floor)
    (h : RestsOn absolute floor' segments) {count : Nat} (hcount : floor.length ≤ count) :
    ∃ (climbs : Nat) (names : List String), (∀ name ∈ names, IsName name) ∧
      segments.drop count = List.replicate climbs .parent ++ names.map .name := by
  cases h with
  | @above names hfloor' hnames =>
    have hkept : ∀ name ∈ names.drop (count - floor'.length), IsName name :=
      fun name hname => hnames name (List.mem_of_mem_drop hname)
    rw [List.drop_append, ← List.map_drop]
    cases hfloor' with
    | root =>
      cases hfloor with
      | root =>
        refine ⟨0, _, hkept, ?_⟩
        rw [List.drop_eq_nil_of_le hcount]
        rfl
    | parents height => exact ⟨height - count, _, hkept, by rw [List.drop_replicate]⟩

/-- Each `..` takes back a name. -/
theorem foldl_parents (names : List String) (done : List Segment) :
    (List.replicate names.length Segment.parent).foldl resolveStep (names.map .name ++ done) =
      done := by
  induction names with
  | nil => rfl
  | cons name names ih => exact ih

/-- The way from a directory to a file leads to the file. -/
theorem foldl_wayBetween {absolute : Bool} {floor floor' root file : List Segment}
    (hroot : RestsOn absolute floor root) (hfile : RestsOn absolute floor' file)
    (hbegins : floor <+: floor') :
    (wayBetween root file).foldl resolveStep root.reverse = file.reverse := by
  have hcount : floor.length ≤ commonLength root file :=
    length_le_commonLength hroot.begins (hbegins.trans hfile.begins)
  obtain ⟨names, -, hnames⟩ := hroot.drop hcount
  have hback : root.reverse =
      names.reverse.map .name ++ (root.take (commonLength root file)).reverse := by
    rw [List.map_reverse, ← hnames, ← List.reverse_append, List.take_append_drop]
  have hclimbs : (root.drop (commonLength root file)).length = names.reverse.length := by
    simp [hnames]
  have hwhole := hfile.foldl_take file.length
  rw [List.take_length, ← List.take_append_drop (commonLength root file) file, List.foldl_append,
    hfile.foldl_take, List.take_append_drop] at hwhole
  rw [wayBetween, List.foldl_append, hback, hclimbs, foldl_parents, take_commonLength, hwhole]

/-- The way from a directory to a file climbs first and then goes down by names, and it is written
so. -/
theorem wayBetween_eq {absolute : Bool} {floor floor' root file : List Segment}
    (hroot : RestsOn absolute floor root) (hfile : RestsOn absolute floor' file)
    (hbegins : floor <+: floor') :
    ∃ (climbs : Nat) (names : List String), (∀ name ∈ names, IsName name) ∧
      wayBetween root file = List.replicate climbs .parent ++ names.map .name ∧
      stepsBetween root file = List.replicate climbs ".." ++ names := by
  have hfloor : IsFloor absolute floor := by
    cases hroot with
    | above hfloor => exact hfloor
  obtain ⟨climbs, names, hnames, hdown⟩ := hfile.drop_above hfloor
    (length_le_commonLength hroot.begins (hbegins.trans hfile.begins))
  refine ⟨(root.drop (commonLength root file)).length + climbs, names, hnames, ?_, ?_⟩
  · rw [wayBetween, hdown, ← List.append_assoc, ← List.replicate_add]
  · have hparents : (List.replicate climbs Segment.parent).filterMap Segment.step? =
        List.replicate climbs ".." := by
      have hparent : Segment.step? .parent = some ".." := rfl
      rw [List.filterMap_replicate_of_some hparent]
    have hwords : (names.map Segment.name).filterMap Segment.step? = names := by
      rw [List.filterMap_map]
      exact List.filterMap_some
    rw [stepsBetween, hdown, List.filterMap_append, hparents, hwords,
      List.map_const', ← List.append_assoc, ← List.replicate_add]

theorem resolve_join_way {root : Path} {way : List Segment} (h : ∀ step ∈ way, IsStep step) :
    resolve (root.join (String.intercalate "/" (way.map Segment.text))).segments =
      (way.foldl resolveStep (resolve root.segments).reverse).reverse := by
  rw [resolve_join root (isAbsolute_intercalate h), stepsOf_intercalate h]

/-- Further steps take some of what is resolved away and put steps of their own on top. -/
theorem exists_foldl_eq (steps done : List Segment) :
    ∃ added count, steps.foldl resolveStep done = added ++ done.drop count ∧
      ∀ step ∈ added, step ∈ steps := by
  induction steps generalizing done with
  | nil => exact ⟨[], 0, rfl, nofun⟩
  | cons step steps ih =>
    have hkeep : (∃ count, resolveStep done step = done.drop count) ∨
        resolveStep done step = step :: done := by
      unfold resolveStep
      split
      · exact .inl ⟨0, rfl⟩
      · split
        · exact .inl ⟨1, rfl⟩
        · exact .inl ⟨0, rfl⟩
        · exact .inr rfl
      · exact .inr rfl
    obtain ⟨added, count, hfold, hadded⟩ := ih (resolveStep done step)
    rw [List.foldl_cons, hfold]
    rcases hkeep with ⟨taken, hstep⟩ | hstep
    · refine ⟨added, taken + count, by rw [hstep, List.drop_drop], ?_⟩
      exact fun other hother => List.mem_cons_of_mem step (hadded other hother)
    · cases count with
      | zero =>
        refine ⟨added ++ [step], 0, by simp [hstep], ?_⟩
        intro other hother
        rcases List.mem_append.1 hother with hother | hother
        · exact List.mem_cons_of_mem step (hadded other hother)
        · exact List.mem_singleton.1 hother ▸ List.mem_cons_self
      | succ count =>
        refine ⟨added, count, by rw [hstep, List.drop_succ_cons], ?_⟩
        exact fun other hother => List.mem_cons_of_mem step (hadded other hother)

/-- Resolving dots keeps or drops segments and makes none. -/
theorem mem_of_mem_resolve {segments : List Segment} {step : Segment}
    (h : step ∈ resolve segments) : step ∈ segments := by
  obtain ⟨added, count, hfold, hadded⟩ := exists_foldl_eq segments []
  rw [resolve, hfold, List.drop_nil, List.append_nil] at h
  exact hadded step (List.mem_reverse.1 h)

/-- Where a file goes on alone, its steps are those that were joined to the root. -/
theorem mem_stepsOf_of_mem_drop (root : Path) {file : String} (hfile : isAbsolute ⟨file⟩ = false)
    {step : Segment} (h : step ∈ (resolve (root.join file).segments).drop
      (commonLength (resolve root.segments) (resolve (root.join file).segments))) :
    step ∈ stepsOf file := by
  obtain ⟨added, count, hfold, hadded⟩ :=
    exists_foldl_eq (stepsOf file) (resolve root.segments).reverse
  have hjoined : resolve (root.join file).segments =
      ((resolve root.segments).reverse.drop count).reverse ++ added.reverse := by
    rw [resolve_join root hfile, hfold, List.reverse_append]
  have hshared : ((resolve root.segments).reverse.drop count).reverse <+: resolve
      root.segments := by
    have hsuffix := List.reverse_prefix.2 (List.drop_suffix count (resolve root.segments).reverse)
    rwa [List.reverse_reverse] at hsuffix
  have hlength := length_le_commonLength hshared (hjoined ▸ List.prefix_append _ added.reverse)
  rw [hjoined, List.drop_append, List.drop_eq_nil_of_le (hjoined ▸ hlength), List.nil_append] at h
  exact hadded step (List.mem_reverse.1 (List.mem_of_mem_drop h))

/-- A file has a way from the root that climbs first and then goes down by names of its own. These
are the steps of its path in a manifest, and the way leads to the file again. -/
theorem exists_way (root : Path) {file : String} (hfile : isAbsolute ⟨file⟩ = false) :
    ∃ (climbs : Nat) (names : List String), (∀ name ∈ names, IsName name) ∧
      (∀ name ∈ names, .name name ∈ stepsOf file) ∧
      stepsBetween (resolve root.segments) (resolve (root.join file).segments) =
        List.replicate climbs ".." ++ names ∧
      normalize (root.join (String.intercalate "/" (List.replicate climbs ".." ++ names))) =
        normalize (root.join file) := by
  obtain ⟨floor, floor', hroot, hjoined, hbegins⟩ := restsOn_resolve_join root hfile
  obtain ⟨climbs, names, hnames, hway, hwritten⟩ := wayBetween_eq hroot hjoined hbegins
  have hsteps : ∀ step ∈ List.replicate climbs Segment.parent ++ names.map Segment.name,
      IsStep step := by
    have hrelative : RestsOn false (List.replicate climbs .parent) _ :=
      .above (.parents climbs) hnames
    exact hrelative.isStep
  have htexts : (List.replicate climbs Segment.parent ++ names.map Segment.name).map Segment.text =
      List.replicate climbs ".." ++ names := by
    rw [List.map_append, List.map_replicate, List.map_map]
    exact congrArg _ (List.map_id names)
  refine ⟨climbs, names, hnames, fun name hname => ?_, hwritten, ?_⟩
  · have hmem : Segment.name name ∈
        wayBetween (resolve root.segments) (resolve (root.join file).segments) := by
      rw [hway]
      exact List.mem_append_right _ (List.mem_map_of_mem hname)
    rcases List.mem_append.1 hmem with hparent | hdown
    · cases List.eq_of_mem_replicate hparent
    · exact mem_stepsOf_of_mem_drop root hfile hdown
  · rw [normalize_eq_iff, ← htexts, resolve_join_way hsteps, ← hway,
      foldl_wayBetween hroot hjoined hbegins, List.reverse_reverse]

end RouteManifest.Path
