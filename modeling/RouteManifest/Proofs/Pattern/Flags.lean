import Mathlib.Data.List.Perm.Basic
import RouteManifest.Proofs.Declaration.Meaning

/-!
Flags of regular expressions. They are read one by one, against those that were read before. What is
accepted in the end does not depend on that order: all flags are known ones, no two are the same,
and there is at most one Unicode mode.
-/

namespace RouteManifest

namespace RegexFlags

/-- The flags that a script allows behind a regular expression. -/
structure Allowed (flags : List Char) : Prop where
  known : ∀ flag ∈ flags, flag ∈ ['d', 'g', 'i', 'm', 's', 'u', 'v', 'y']
  nodup : flags.Nodup
  /-- `u` and `v` are two Unicode modes. -/
  oneMode : ¬('u' ∈ flags ∧ 'v' ∈ flags)

section
variable {flags other seen : List Char}

theorem Allowed.sublist (h : Allowed flags) (hother : other.Sublist flags) : Allowed other where
  known flag hflag := h.known flag (hother.subset hflag)
  nodup := h.nodup.sublist hother
  oneMode hboth := h.oneMode ⟨hother.subset hboth.1, hother.subset hboth.2⟩

theorem allowed_congr (h : other.Perm flags) : Allowed other ↔ Allowed flags := by
  have hallowed : ∀ {first second : List Char}, first.Perm second → Allowed first →
      Allowed second := by
    intro first second hperm hfirst
    refine ⟨fun flag hflag => hfirst.known flag (hperm.mem_iff.2 hflag),
      hperm.nodup_iff.1 hfirst.nodup, ?_⟩
    rw [← hperm.mem_iff, ← hperm.mem_iff]
    exact hfirst.oneMode
  exact ⟨hallowed h, hallowed h.symm⟩

/-- The flags that are read, the last one first, together with those that were read before. The
induction is on what is left to read; what was read has no fault but perhaps a second mode, which is
looked for at the end. -/
theorem acceptsFrom_eq_true_iff (hknown : ∀ flag ∈ seen, flag ∈ known) (hnodup : seen.Nodup) :
    acceptsFrom seen flags = true ↔ Allowed (flags.reverse ++ seen) := by
  induction flags generalizing seen with
  | nil =>
    have hmode : acceptsFrom seen [] = true ↔ ¬('u' ∈ seen ∧ 'v' ∈ seen) := by
      simp [acceptsFrom, imp_iff_not_or]
    rw [hmode]
    exact ⟨fun h => ⟨hknown, hnodup, h⟩, fun h => h.oneMode⟩
  | cons flag flags ih =>
    have hsplit : (flag :: flags).reverse ++ seen = flags.reverse ++ (flag :: seen) := by simp
    rw [hsplit]
    by_cases hflag : flag ∈ known ∧ flag ∉ seen
    · have hstep : acceptsFrom seen (flag :: flags) = acceptsFrom (flag :: seen) flags := by
        simp [acceptsFrom, hflag]
      rw [hstep]
      exact ih (List.forall_mem_cons.2 ⟨hflag.1, hknown⟩) (List.nodup_cons.2 ⟨hflag.2, hnodup⟩)
    · have hstep : acceptsFrom seen (flag :: flags) = false := by
        rw [not_and_not_right] at hflag
        by_cases hfresh : flag ∈ known <;> simp [acceptsFrom, hfresh, hflag]
      rw [hstep, Bool.false_eq_true, false_iff]
      intro hallowed
      have hread : Allowed (flag :: seen) := hallowed.sublist (List.sublist_append_right _ _)
      exact hflag ⟨hread.known flag List.mem_cons_self, (List.nodup_cons.1 hread.nodup).1⟩

end

theorem accepts_eq_true_iff {flags : String} : accepts flags = true ↔ Allowed flags.toList := by
  have hknown : ∀ flag ∈ ([] : List Char), flag ∈ known := by simp
  rw [accepts, acceptsFrom_eq_true_iff hknown List.nodup_nil, List.append_nil]
  exact allowed_congr (List.reverse_perm _)

theorem accepts_eq_false_iff {flags : String} : accepts flags = false ↔ ¬Allowed flags.toList := by
  rw [← accepts_eq_true_iff, Bool.not_eq_true]

end RegexFlags

/-- All flags in a list of patterns are accepted. -/
def FlagsAccepted (patterns : List Pattern) : Prop :=
  ∀ source flags, .regex source flags ∈ patterns → RegexFlags.accepts flags = true

theorem FlagsAccepted.append {first second : List Pattern} (hfirst : FlagsAccepted first)
    (hsecond : FlagsAccepted second) : FlagsAccepted (first ++ second) := by
  intro source flags hmem
  rcases List.mem_append.1 hmem with hmem | hmem
  · exact hfirst source flags hmem
  · exact hsecond source flags hmem

namespace Declared

/-- A declaration is rejected for its first fault. -/
theorem contribution_eq_error_iff {root : Declared} {reason : Malformation} :
    contribution root = .error reason ↔ FirstOf (preorder root) HasFault reason := by
  rw [← findSome?_eq_some_iff_firstOf ownFault?_eq_some_iff, contribution, collect_eq_outcome,
    outcome]
  cases (preorder root).findSome? ownFault? <;> simp

theorem hasFault_flags_iff {value : Declared} {flags : String} :
    HasFault value (.invalidRegexFlags flags) ↔
      ∃ source, value = .regex source flags ∧ ¬RegexFlags.Allowed flags.toList := by
  rw [← RegexFlags.accepts_eq_false_iff]
  constructor
  · rintro ⟨hflags⟩
    exact ⟨_, rfl, hflags⟩
  · rintro ⟨source, rfl, hflags⟩
    exact .flags hflags

end Declared

/-- Flags are accepted if and only if they are known ones, no two are the same, and `u` and `v` do
not come together. So their order does not matter, and what is left of accepted flags is accepted. A
declaration is rejected for its flags if and only if they break one of the three rules, and no value
that is visited before their regular expression has a fault. -/
theorem RegexFlags.accepts_exactly (flags : String) :
    (accepts flags = true ↔ Allowed flags.toList) ∧
    (∀ other : String, other.toList.Perm flags.toList → accepts other = accepts flags) ∧
    (∀ part : String, part.toList.Sublist flags.toList → accepts flags = true →
      accepts part = true) ∧
    ∀ root : Declared, root.contribution = .error (.invalidRegexFlags flags) ↔
      ∃ before source after, root.preorder = before ++ .regex source flags :: after ∧
        ¬Allowed flags.toList ∧
        ∀ earlier ∈ before, ∀ reason, ¬earlier.HasFault reason := by
  refine ⟨accepts_eq_true_iff, ?_, ?_, ?_⟩
  · intro other hother
    rw [Bool.eq_iff_iff, accepts_eq_true_iff, accepts_eq_true_iff]
    exact allowed_congr hother
  · intro part hpart hflags
    exact accepts_eq_true_iff.2 ((accepts_eq_true_iff.1 hflags).sublist hpart)
  · intro root
    rw [Declared.contribution_eq_error_iff, Declared.FirstOf]
    simp only [Declared.hasFault_flags_iff]
    constructor
    · rintro ⟨before, _, after, hvisits, ⟨source, rfl, hflags⟩, hbefore⟩
      exact ⟨before, source, after, hvisits, hflags, hbefore⟩
    · rintro ⟨before, source, after, hvisits, hflags, hbefore⟩
      exact ⟨before, _, after, hvisits, ⟨source, rfl, hflags⟩, hbefore⟩

/-- Both modes, far apart and below a `match`. The object behind them has a fault of its own, which
does not count. -/
def doubledMode : Declared :=
  .array [.regex "a" "gi", .object [("match", .regex "b" "ugv")], .object []]

theorem RegexFlags.accepts_exactly_doubledMode :
    accepts "gui" = true ∧ accepts "iug" = true ∧ accepts "ui" = true ∧ accepts "ugv" = false ∧
      doubledMode.contribution = .error (.invalidRegexFlags "ugv") := by
  have hgui : accepts "gui" = true := by decide
  have hugv : accepts "ugv" = false := by decide
  obtain ⟨-, horder, hpart, -⟩ := accepts_exactly "gui"
  obtain ⟨-, -, -, hrejects⟩ := accepts_exactly "ugv"
  refine ⟨hgui, (horder "iug" (by decide)).trans hgui, hpart "ui" (by decide) hgui, hugv, ?_⟩
  have hvisits : doubledMode.preorder =
      [doubledMode, .regex "a" "gi", .object [("match", .regex "b" "ugv")]] ++
      .regex "b" "ugv" :: [.object []] := by
    have hmatch : Declared.property? [("match", .regex "b" "ugv")] "match" =
      some (.regex "b" "ugv") := rfl
    have hempty : Declared.property? [] "match" = none := rfl
    simp [doubledMode, Declared.preorder_eq, Declared.inspected, hmatch, hempty]
  refine (hrejects doubledMode).2 ⟨_, "b", _, hvisits, accepts_eq_false_iff.1 hugv, ?_⟩
  intro earlier hearlier reason hfault
  rw [← Declared.ownFault?_eq_some_iff] at hfault
  simp only [List.mem_cons, List.not_mem_nil, or_false] at hearlier
  rcases hearlier with rfl | rfl | rfl <;> cases hfault

end RouteManifest
