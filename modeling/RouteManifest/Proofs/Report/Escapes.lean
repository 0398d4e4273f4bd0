import RouteManifest.Proofs.Path.Route
import RouteManifest.Proofs.Registry.RoundTrip
import RouteManifest.Proofs.Text.Colours
import RouteManifest.Proofs.Text.Lines
import RouteManifest.Text.Visible

/-!
Where escape characters can come from. Numbers have none, and both ways of writing text between
quotes hide them, so that the JSON of a registry has none whatever its texts are. The path of a file
in a manifest has only those of the file.
-/

namespace RouteManifest

open Text (IsClear escapeChar isClear_append isClear_ofList)

namespace Text

/-! ### Numbers -/

theorem digitChar_ne {n : Nat} (h : n < 16) : Nat.digitChar n ≠ escapeChar := by
  revert n
  decide

theorem not_mem_toDigits {base : Nat} (hbase : 1 < base) (hdigits : base ≤ 16) (n : Nat) :
    escapeChar ∉ Nat.toDigits base n := by
  induction n using Nat.strongRecOn with
  | ind n ih =>
    rw [Nat.toDigits_eq_if hbase]
    split
    · next hn => exact fun h => digitChar_ne (by omega) (List.mem_singleton.1 h).symm
    · next hn =>
      have hlast : n % base < 16 := (Nat.mod_lt n (by omega)).trans_le hdigits
      rw [List.mem_append, not_or]
      exact ⟨ih (n / base) (Nat.div_lt_self (by omega) hbase),
        fun h => digitChar_ne hlast (List.mem_singleton.1 h).symm⟩

@[simp] theorem isClear_repr (n : Nat) : IsClear n.repr := by
  rw [Nat.repr_eq_ofList_toDigits, isClear_ofList]
  exact not_mem_toDigits (by decide) (by decide) n

/-! ### Text between quotes -/

theorem isClear_quote (text : String) : IsClear (quote text) :=
  fun hmem => absurd (le_toNat_of_mem_quote hmem) (by decide)

section Visible

open Visible

variable {hides : Char → Bool}

theorem not_mem_escapeWith (hhides : hides escapeChar = true) (c : Char) :
    escapeChar ∉ escapeWith hides c := by
  unfold escapeWith
  iterate 6
    split
    · decide
  split
  · have hopening : escapeChar ∉ ['\\', 'u', '\x7b'] := by decide
    have hclosing : escapeChar ∉ ['\x7d'] := by decide
    simp only [codePoint, List.mem_append, not_or]
    exact ⟨⟨hopening, not_mem_toDigits (by decide) (by decide) c.toNat⟩, hclosing⟩
  · next hshown =>
    rw [List.mem_singleton]
    rintro rfl
    exact hshown hhides

theorem not_mem_escapeBoth (hhides : hides escapeChar = true) (c : Char) :
    escapeChar ∉ escapeBoth hides c := by
  unfold escapeBoth
  split
  · decide
  · exact not_mem_escapeWith hhides c

@[simp] theorem isClear_escaped (text : String) : IsClear (escaped text) := by
  have hfirst : ∀ c, escapeChar ∉ escapeBoth isHidden c := not_mem_escapeBoth (by decide)
  have hlater : ∀ c, escapeChar ∉ escapeBoth isUnprintable c := not_mem_escapeBoth (by decide)
  cases htext : text.toList with
  | nil =>
    simp only [escaped, htext]
    decide
  | cons first later =>
    simp only [escaped, htext, isClear_ofList, List.mem_append, List.mem_flatMap, not_or]
    refine ⟨hfirst first, ?_⟩
    rintro ⟨c, -, hmem⟩
    exact hlater c hmem

end Visible

end Text

/-! ### JSON -/

namespace Json

open Decoder

theorem not_mem_of_isBlank {blank : List Char} (h : IsBlank blank) : escapeChar ∉ blank :=
  fun hmem => absurd (h _ hmem) (by decide)

theorem not_mem_enclosed {gap last : List Char} {opening closing : Char} {texts : List (List Char)}
    (hgap : IsBlank gap)
    (hlast : IsBlank last) (hopening : escapeChar ≠ opening) (hclosing : escapeChar ≠ closing)
    (htexts : ∀ text ∈ texts, escapeChar ∉ text) :
    escapeChar ∉ enclosed gap last opening closing texts := by
  have hcomma : escapeChar ∉ [','] := by decide
  have hitems : escapeChar ∉ joined gap true texts := by
    rw [joined_true]
    refine Text.not_mem_intercalate hcomma (List.forall_mem_map.2 fun text htext => ?_)
    exact List.not_mem_append (not_mem_of_isBlank hgap) (htexts text htext)
  simp only [enclosed, List.mem_cons, List.mem_append, List.not_mem_nil, or_false, not_or]
  exact ⟨hopening, hitems, not_mem_of_isBlank hlast, hclosing⟩

/-- A value that is made of strings, truth values and nulls has no escape character in it. -/
theorem not_mem_of_spelled {value : Value} {text : List Char} (h : Spelled value text) {depth : Nat}
    (hfits : Fits depth value) : escapeChar ∉ text := by
  induction h generalizing depth with
  | null => decide
  | @bool value => cases value <;> decide
  | number => cases hfits
  | string => exact Text.isClear_quote _
  | array hgap hlast _ ih =>
    cases hfits with
    | array hfits =>
      refine not_mem_enclosed hgap hlast (by decide) (by decide)
        (List.forall_mem_map.2 fun x hx => ?_)
      exact ih x hx (hfits x hx)
  | object hgap hspace hlast _ ih =>
    cases hfits with
    | object hfits =>
      refine not_mem_enclosed hgap hlast (by decide) (by decide)
        (List.forall_mem_map.2 fun m hm => ?_)
      have hcolon : escapeChar ≠ ':' := by decide
      simp only [memberText, List.mem_append, List.mem_cons, not_or]
      exact ⟨Text.isClear_quote m.1, hcolon, not_mem_of_isBlank hspace, ih m hm (hfits m hm)⟩

@[simp] theorem isClear_registry (registry : Registry) (indent : Nat) :
    IsClear (registry.toJson.pretty indent) :=
  not_mem_of_spelled (spelled_pretty registry.toJson indent) (fits_registry 0 registry)

end Json

/-! ### Paths -/

namespace Path

/-- The path of a file in a manifest is written with slashes, dots and names of the file. -/
theorem isClear_route (root : Path) {file : Path} (h : IsClear file.text) :
    IsClear (route root file) := by
  rw [route, isClear_append]
  refine ⟨by decide, Text.isClear_intercalate (by decide) fun step hstep => ?_⟩
  obtain hclimb | hdown := List.mem_append.1 hstep
  · obtain ⟨_, -, rfl⟩ := List.mem_map.1 hclimb
    decide
  · obtain ⟨segment, hsegment, hname⟩ := List.mem_filterMap.1 hdown
    cases segment with
    | root | current => cases hname
    | parent =>
      cases hname
      decide
    | name text =>
      cases hname
      have hown := name_mem_stepsOf (mem_of_mem_resolve (List.mem_of_mem_drop hsegment))
      exact fun hmem => h (subset_of_mem_stepsOf hown hmem)

end Path

end RouteManifest
