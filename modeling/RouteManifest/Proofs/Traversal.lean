import Mathlib.Data.List.Forall2

/-!
Steps that are taken one after another until one of them fails, for two steps and for one step over
the items of a list: when that succeeds, with what results, and which fault it ends with.
-/

namespace RouteManifest.Traversal

/-! ### Two steps -/

section
variable {α β ε : Type} {result : Except ε α} {next : α → Except ε β} {g : α → β} {y : β}
  {fault : ε}

theorem bind_eq_ok_iff : result >>= next = .ok y ↔ ∃ x, result = .ok x ∧ next x = .ok y := by
  cases result <;> simp [bind, Except.bind]

theorem bind_eq_error_iff :
    result >>= next = .error fault ↔
      result = .error fault ∨ ∃ x, result = .ok x ∧ next x = .error fault := by
  cases result <;> simp [bind, Except.bind]

theorem map_eq_ok_iff : result.map g = .ok y ↔ ∃ x, result = .ok x ∧ g x = y := by
  cases result <;> simp [Except.map]

theorem map_eq_error_iff : result.map g = .error fault ↔ result = .error fault := by
  cases result <;> simp [Except.map]

end

/-! ### The items of a list -/

variable {α β ε : Type} {f : α → Except ε β}

theorem mapM_eq_ok_iff {xs : List α} {ys : List β} :
    xs.mapM f = .ok ys ↔ List.Forall₂ (fun x y => f x = .ok y) xs ys := by
  induction xs generalizing ys with
  | nil =>
    rw [List.mapM_nil, List.forall₂_nil_left_iff]
    exact ⟨fun h => (Except.ok.inj h).symm, fun h => congrArg Except.ok h.symm⟩
  | cons x xs ih =>
    rw [List.mapM_cons, List.forall₂_cons_left_iff]
    simp only [bind_eq_ok_iff, ih]
    constructor
    · rintro ⟨y, hy, rest, hrest, h⟩
      exact ⟨y, rest, hy, hrest, (Except.ok.inj h).symm⟩
    · rintro ⟨y, rest, hy, hrest, rfl⟩
      exact ⟨y, hy, rest, hrest, rfl⟩

theorem exists_left_of_mem {R : α → β → Prop} {xs : List α} {ys : List β}
    (h : List.Forall₂ R xs ys) {y : β}
    (hy : y ∈ ys) : ∃ x ∈ xs, R x y := by
  induction h with
  | nil => cases hy
  | @cons x _ xs _ hx _ ih =>
    rcases List.mem_cons.1 hy with rfl | hy
    · exact ⟨x, List.mem_cons_self, hx⟩
    · obtain ⟨x', hmem, hx'⟩ := ih hy
      exact ⟨x', List.mem_cons_of_mem x hmem, hx'⟩

theorem exists_mapM_eq_ok_iff {xs : List α} :
    (∃ ys, xs.mapM f = .ok ys) ↔ ∀ x ∈ xs, ∃ y, f x = .ok y := by
  simp only [mapM_eq_ok_iff]
  induction xs with
  | nil => simp
  | cons x xs ih =>
    rw [List.forall_mem_cons, ← ih]
    simp only [List.forall₂_cons_left_iff]
    constructor
    · rintro ⟨_, y, ys, hy, hys, rfl⟩
      exact ⟨⟨y, hy⟩, ys, hys⟩
    · rintro ⟨⟨y, hy⟩, ys, hys⟩
      exact ⟨y :: ys, y, ys, hy, hys, rfl⟩

theorem forall₂_append_left_iff {R : α → β → Prop} {first second : List α} {ys : List β} :
    List.Forall₂ R (first ++ second) ys ↔
      ∃ front back, List.Forall₂ R first front ∧ List.Forall₂ R second back ∧
        ys = front ++ back := by
  constructor
  · intro h
    induction first generalizing ys with
    | nil => exact ⟨[], ys, .nil, h, rfl⟩
    | cons x first ih =>
      obtain ⟨y, ys, hy, hys, rfl⟩ := List.forall₂_cons_left_iff.1 h
      obtain ⟨front, back, hfront, hback, rfl⟩ := ih hys
      exact ⟨y :: front, back, .cons hy hfront, hback, rfl⟩
  · rintro ⟨front, back, hfront, hback, rfl⟩
    exact List.rel_append hfront hback

/-- What stands in the lists that the items give comes from one of the items. -/
theorem mem_flatten_iff {give : α → Except ε (List β)} {xs : List α} {lists : List (List β)}
    (h : List.Forall₂ (fun x list => give x = .ok list) xs lists) {y : β} :
    y ∈ lists.flatten ↔ ∃ x ∈ xs, ∃ list, give x = .ok list ∧ y ∈ list := by
  induction h with
  | nil => simp
  | cons hx _ ih => simp [ih, hx]

/-- A traversal fails with the fault of the first item that has one. -/
theorem mapM_eq_error_iff {xs : List α} {fault : ε} :
    xs.mapM f = .error fault ↔
      ∃ before x after, xs = before ++ x :: after ∧ (∀ earlier ∈ before, ∃ y, f earlier = .ok y) ∧
        f x = .error fault := by
  induction xs with
  | nil => simp [pure, Except.pure]
  | cons x xs ih =>
    rw [List.mapM_cons]
    simp only [bind_eq_error_iff, ih]
    constructor
    · rintro (hx | ⟨y, hy, ⟨before, z, after, rfl, hbefore, hz⟩ | ⟨ys, -, h⟩⟩)
      · exact ⟨[], x, xs, rfl, by simp, hx⟩
      · exact ⟨x :: before, z, after, rfl, List.forall_mem_cons.2 ⟨⟨y, hy⟩, hbefore⟩, hz⟩
      · cases h
    · rintro ⟨before, z, after, hsplit, hbefore, hz⟩
      cases before with
      | nil =>
        obtain ⟨rfl, rfl⟩ := List.cons.inj hsplit
        exact .inl hz
      | cons first before =>
        obtain ⟨rfl, rfl⟩ := List.cons.inj hsplit
        obtain ⟨⟨y, hy⟩, hlater⟩ := List.forall_mem_cons.1 hbefore
        exact .inr ⟨y, hy, .inl ⟨before, z, after, rfl, hlater, hz⟩⟩

/-- A fold depends on what its step does with the items only. -/
theorem foldlM_congr {σ : Type} {step step' : σ → α → Except ε σ} {xs : List α}
    (h : ∀ x ∈ xs, ∀ soFar, step soFar x = step' soFar x) (start : σ) :
    xs.foldlM step start = xs.foldlM step' start := by
  induction xs generalizing start with
  | nil => rfl
  | cons x xs ih =>
    have hrest := ih fun y hy => h y (List.mem_cons_of_mem x hy)
    rw [List.foldlM_cons, List.foldlM_cons, h x List.mem_cons_self]
    exact congrArg _ (funext hrest)

end RouteManifest.Traversal
