import RouteManifest.Proofs.Json.Takes

/-!
Lists, objects and whole texts are taken exactly where the grammar has them, if their items are.
-/

namespace RouteManifest.Json.Decoder

/-! ### Ends and colons -/

section
variable {α : Type} {value : α} {text inner rest : List Char}

theorem takes_bracketed_iff {ending : Decoder Unit} {past : List Char → List Char}
    {inside : Decoder α} (c : Char) :
    Takes (bracketed ending past inside) (c :: inner) value rest ↔
      ∃ middle, inside.Takes inner value middle ∧ ending.Takes middle () rest := by
  rw [Takes, bracketed, List.drop_succ_cons, List.drop_zero]
  constructor
  · intro h
    split at h
    · next found middle hinside =>
      cases hending : ending middle with
      | error failure =>
        rw [hending] at h
        cases h
      | ok ended =>
        rw [hending] at h
        cases h
        exact ⟨middle, hinside, hending⟩
    · cases h
    · cases h
  · rintro ⟨middle, hinside, hending⟩
    rw [Takes] at hinside hending
    simp only [hinside, hending, Except.map]

/-- A decoder that steps over one character and fails at every other takes that character behind any
blanks. -/
theorem takes_mark_iff {c : Char} {next : Option Char → Decoder Unit} (hc : isBlank c = false)
    (hmark : next (some c) = skip)
    (hother : ∀ {found text rest}, found ≠ some c → ¬Takes (next found) text () rest) :
    Takes (peek >>= next) text () rest ↔ Gap text (c :: rest) := by
  rw [takes_peek_bind_iff]
  constructor
  · rintro (⟨-, h⟩ | ⟨d, others, hgap, -, h⟩)
    · exact absurd h (hother nofun)
    · by_cases hd : d = c
      · subst hd
        rw [hmark] at h
        cases h
        exact hgap
      · exact absurd h (hother fun heq => hd (Option.some.inj heq))
  · intro hgap
    refine .inr ⟨c, rest, hgap, hc, ?_⟩
    rw [hmark]
    exact takes_skip c rest

theorem takes_colon_iff : Takes colon text () rest ↔ Gap text (':' :: rest) := by
  refine takes_mark_iff rfl rfl fun hfound h => ?_
  split at h
  · exact hfound rfl
  all_goals exact not_takes_failNext _ h

theorem takes_objectEnd_iff : Takes objectEnd text () rest ↔ Gap text ('}' :: rest) := by
  refine takes_mark_iff rfl rfl fun hfound h => ?_
  split at h
  · exact hfound rfl
  all_goals exact not_takes_failNext _ h

theorem takes_listEnd_iff : Takes listEnd text () rest ↔ Gap text (']' :: rest) := by
  refine takes_mark_iff rfl rfl fun hfound h => ?_
  split at h
  · exact hfound rfl
  -- Behind a comma only the message depends on what comes next.
  · obtain ⟨_, _, -, h⟩ := takes_bind_iff.1 h
    obtain ⟨_, _, -, h⟩ := takes_bind_iff.1 h
    split at h <;> exact not_takes_failNext _ h
  · exact not_takes_failNext _ h
  · exact not_takes_failNext _ h

end

/-! ### Items between brackets -/

section
variable {α : Type} {text front rest : List Char}

/-- Before an element there is what leads to it, and it does not begin like the end of a list. -/
theorem takes_nextElement_iff {first found : Bool} :
    Takes (nextElement first) text found front ↔
      (found = false ∧ ∃ rest, Gap text (']' :: rest) ∧ front = ']' :: rest) ∨
      (found = true ∧ ∃ middle c rest,
        Lead first text middle ∧ Gap middle (c :: rest) ∧ isBlank c = false ∧ c ≠ ']' ∧
        front = c :: rest) := by
  rw [nextElement, takes_peek_bind_iff]
  constructor
  · rintro (⟨-, h⟩ | ⟨c, others, hgap, hc, h⟩)
    · exact absurd h (not_takes_failNext _)
    split at h
    · next heq =>
      cases heq
      cases h
      exact .inl ⟨rfl, others, hgap, rfl⟩
    · next heq => cases heq
    next hend heq =>
    cases heq
    cases first with
    | true =>
      cases h
      exact .inr ⟨rfl, text, c, others, rfl, hgap, hc, hend, rfl⟩
    | false =>
      rw [if_neg Bool.false_ne_true] at h
      obtain ⟨hcomma, h⟩ := (takes_unless_iff (not_takes_failNext _)).1 h
      obtain ⟨_, _, hskip, h⟩ := takes_bind_iff.1 h
      cases eq_of_beq hcomma
      cases hskip
      obtain ⟨-, h⟩ | ⟨d, after, hgap', hd, h⟩ := takes_peek_bind_iff.1 h
      · exact absurd h (not_takes_failNext _)
      split at h
      · exact absurd h (not_takes_failNext _)
      · next hend' heq =>
        cases heq
        cases h
        exact .inr ⟨rfl, others, d, after, hgap, hgap', hd, hend', rfl⟩
      · next heq => cases heq
  · rintro (⟨rfl, others, hgap, rfl⟩ | ⟨rfl, middle, c, others, hlead, hgap, hc, hend, rfl⟩)
    · exact .inr ⟨']', others, hgap, rfl, Takes.pure false _⟩
    cases first with
    | true =>
      cases hlead
      refine .inr ⟨c, others, hgap, hc, ?_⟩
      split
      · next heq => exact absurd (Option.some.inj heq) hend
      · next heq => cases heq
      · exact Takes.pure true _
    | false =>
      refine .inr ⟨',', middle, hlead, rfl, (takes_skip ',' middle).bind
        (takes_peek_bind_iff.2 (.inr ⟨c, others, hgap, hc, ?_⟩))⟩
      split
      · next heq => exact absurd (Option.some.inj heq) hend
      · exact Takes.pure true _
      · next heq => cases heq

/-- Before a member there is what leads to it, and it begins with a quote. -/
theorem takes_nextMember_iff {first found : Bool} :
    Takes (nextMember first) text found front ↔
      (found = false ∧ ∃ rest, Gap text ('}' :: rest) ∧ front = '}' :: rest) ∨
      (found = true ∧ ∃ middle rest,
        Lead first text middle ∧ Gap middle ('"' :: rest) ∧ front = '"' :: rest) := by
  rw [nextMember, takes_peek_bind_iff]
  constructor
  · rintro (⟨-, h⟩ | ⟨c, others, hgap, hc, h⟩)
    · exact absurd h (not_takes_failNext _)
    split at h
    · next heq =>
      cases heq
      cases h
      exact .inl ⟨rfl, others, hgap, rfl⟩
    · next heq => cases heq
    next heq =>
    cases heq
    cases first with
    | true =>
      rw [if_pos rfl] at h
      obtain ⟨hquote, h⟩ := (takes_unless_iff (not_takes_failNext _)).1 h
      cases eq_of_beq hquote
      cases h
      exact .inr ⟨rfl, text, others, rfl, hgap, rfl⟩
    | false =>
      rw [if_neg Bool.false_ne_true] at h
      obtain ⟨hcomma, h⟩ := (takes_unless_iff (not_takes_failNext _)).1 h
      obtain ⟨_, _, hskip, h⟩ := takes_bind_iff.1 h
      cases eq_of_beq hcomma
      cases hskip
      obtain ⟨-, h⟩ | ⟨d, after, hgap', hd, h⟩ := takes_peek_bind_iff.1 h
      · exact absurd h (not_takes_failNext _)
      split at h
      · next heq =>
        cases heq
        cases h
        exact .inr ⟨rfl, others, after, hgap, hgap', rfl⟩
      all_goals exact absurd h (not_takes_failNext _)
  · rintro (⟨rfl, others, hgap, rfl⟩ | ⟨rfl, middle, others, hlead, hgap, rfl⟩)
    · exact .inr ⟨'}', others, hgap, rfl, Takes.pure false _⟩
    cases first with
    | true =>
      cases hlead
      exact .inr ⟨'"', others, hgap, rfl, Takes.pure true _⟩
    | false =>
      have hquote : Takes peek middle (some '"') ('"' :: others) := takes_peek_of_gap hgap rfl
      exact .inr ⟨',', middle, hlead, rfl,
        (takes_skip ',' middle).bind (hquote.bind (Takes.pure true _))⟩

/-- What stands in a list: blanks may come before it, it does not begin like the end of the list,
and it is not empty. -/
structure IsItem (P : α → List Char → List Char → Prop) : Prop where
  opens : ∀ {x text rest}, P x text rest →
    ∃ c front, Gap text (c :: front) ∧ isBlank c = false ∧ c ≠ ']' ∧ P x (c :: front) rest
  blanks : ∀ {x text front rest}, Gap text front → P x front rest → P x text rest
  shorter : ∀ {x text rest}, P x text rest → rest.length < text.length

theorem isItem_parsesString : IsItem ParsesString where
  opens := by
    rintro value text rest ⟨inner, hgap, hchars⟩
    exact ⟨'"', inner, hgap, rfl, by decide, inner, .refl _, hchars⟩
  blanks := by
    rintro value text front rest hgap ⟨inner, hfront, hchars⟩
    exact ⟨inner, hgap.trans hfront, hchars⟩
  shorter := ParsesString.length_lt

/-- A listing is taken element by element. The limit has to cover the elements and the end. -/
theorem takes_elements_of_listing {item : Decoder α} {P : α → List Char → List Char → Prop}
    (hP : IsItem P)
    (hitem : ∀ {x text rest}, P x text rest → item.Takes text x rest) {first : Bool} {xs : List α}
    (h : Listing P ']' first xs text rest) {limit : Nat} (hlimit : xs.length < limit) :
    Takes (elements item limit first) text xs (']' :: rest) := by
  induction h generalizing limit with
  | @nil first text rest hend =>
    obtain ⟨limit, rfl⟩ : ∃ n, limit = n + 1 := ⟨limit - 1, by omega⟩
    exact (takes_nextElement_iff.2 (.inl ⟨rfl, rest, hend, rfl⟩)).bind (Takes.pure [] _)
  | @cons first x xs text front after rest hlead hx _ ih =>
    obtain ⟨limit, rfl⟩ : ∃ n, limit = n + 1 := ⟨limit - 1, by omega⟩
    obtain ⟨c, others, hgap, hc, hend, hx⟩ := hP.opens hx
    have hnext := takes_nextElement_iff.2 (.inr ⟨rfl, front, c, others, hlead, hgap, hc, hend, rfl⟩)
    exact hnext.bind ((hitem hx).bind ((ih (Nat.lt_of_succ_lt_succ hlimit)).bind (Takes.pure _ _)))

/-- What is taken as elements is a listing. The induction is on the limit. -/
theorem listing_of_takes_elements {item : Decoder α} {P : α → List Char → List Char → Prop}
    (hP : IsItem P)
    (hitem : ∀ {x text rest}, item.Takes text x rest → P x text rest) {limit : Nat} {first : Bool}
    {xs : List α}
    (h : Takes (elements item limit first) text xs front) :
    ∃ rest, front = ']' :: rest ∧ Listing P ']' first xs text rest := by
  induction limit generalizing first xs text with
  | zero => exact absurd h (not_takes_failHere _)
  | succ limit ih =>
    obtain ⟨found, middle, hnext, h⟩ := takes_bind_iff.1 h
    obtain ⟨rfl, rest, hend, rfl⟩ | ⟨rfl, _, c, others, hlead, hgap, -, -, rfl⟩ :=
      takes_nextElement_iff.1 hnext
    · cases h
      exact ⟨rest, rfl, .nil hend⟩
    · obtain ⟨x, after, hx, h⟩ := takes_bind_iff.1 h
      obtain ⟨xs, _, hxs, h⟩ := takes_bind_iff.1 h
      cases h
      obtain ⟨rest, rfl, hlisting⟩ := ih hxs
      exact ⟨rest, rfl, .cons hlead (hP.blanks hgap (hitem hx)) hlisting⟩

theorem takes_allElements_of_listing {item : Decoder α} {P : α → List Char → List Char → Prop}
    (hP : IsItem P)
    (hitem : ∀ {x text rest}, P x text rest → item.Takes text x rest) {first : Bool} {xs : List α}
    (h : Listing P ']' first xs text rest) :
    Takes (allElements item first) text xs (']' :: rest) := by
  have hlength := h.length_lt hP.shorter
  exact (takes_get text).bind (takes_elements_of_listing hP hitem h (by omega))

/-- The elements of a list are taken exactly where the grammar has them. -/
theorem takes_list_iff {item : Decoder α} {P : α → List Char → List Char → Prop} (hP : IsItem P)
    (hitem : ∀ {x text rest}, item.Takes text x rest ↔ P x text rest) {xs : List α} (c : Char) :
    Takes (inList (allElements item true)) (c :: text) xs rest ↔
      Listing P ']' true xs text rest := by
  rw [inList, takes_bracketed_iff]
  constructor
  · rintro ⟨middle, hinside, hend⟩
    obtain ⟨_, _, hget, hinside⟩ := takes_bind_iff.1 hinside
    cases hget
    obtain ⟨after, rfl, hlisting⟩ := listing_of_takes_elements hP hitem.1 hinside
    obtain ⟨-, rfl⟩ := (Gap.refl _).unique rfl (takes_listEnd_iff.1 hend) rfl
    exact hlisting
  · intro h
    exact ⟨_, takes_allElements_of_listing hP hitem.2 h, takes_listEnd_iff.2 (.refl _)⟩

/-- The members of an object are taken one after another: one is taken, and the others follow. -/
theorem takes_members_iff {member : α → String → Decoder α} {limit : Nat} {first : Bool}
    {found final : α} :
    Takes (members member (limit + 1) first found) text final front ↔
      (final = found ∧ ∃ rest, Gap text ('}' :: rest) ∧ front = '}' :: rest) ∨
      ∃ start key middle next after, Lead first text start ∧ ParsesString key start middle ∧
        Takes (member found key) middle next after ∧
        Takes (members member limit false next) after final front := by
  rw [members, takes_bind_iff]
  constructor
  · rintro ⟨more, middle, hnext, h⟩
    obtain ⟨rfl, rest, hend, rfl⟩ | ⟨rfl, start, inner, hlead, hgap, rfl⟩ :=
      takes_nextMember_iff.1 hnext
    · cases h
      exact .inl ⟨rfl, rest, hend, rfl⟩
    · obtain ⟨key, middle, hkey, h⟩ := takes_bind_iff.1 h
      obtain ⟨next, after, hmember, h⟩ := takes_bind_iff.1 h
      exact .inr ⟨start, key, middle, next, after, hlead,
        ⟨inner, hgap, (takes_string_iff '"').1 hkey⟩, hmember, h⟩
  · rintro (⟨rfl, rest, hend, rfl⟩ | ⟨start, key, middle, next, after, hlead, ⟨inner, hgap, hkey⟩,
      hmember, h⟩)
    · exact ⟨false, _, takes_nextMember_iff.2 (.inl ⟨rfl, rest, hend, rfl⟩), Takes.pure _ _⟩
    · exact ⟨true, _, takes_nextMember_iff.2 (.inr ⟨rfl, start, inner, hlead, hgap, rfl⟩),
        ((takes_string_iff '"').2 hkey).bind (hmember.bind h)⟩

end

/-! ### Whole texts -/

section
variable {α : Type} {value : α} {text rest : List Char}

theorem takes_textEnd_iff : Takes textEnd text () rest ↔ IsBlank text ∧ rest = [] := by
  rw [textEnd, takes_peek_bind_iff]
  constructor
  · rintro (⟨hblank, h⟩ | ⟨c, others, -, -, h⟩)
    · cases h
      exact ⟨hblank, rfl⟩
    · exact absurd h (not_takes_failNext _)
  · rintro ⟨hblank, rfl⟩
    exact .inl ⟨hblank, Takes.pure () []⟩

/-- A text is read to what is taken from it if only blanks are left. -/
theorem run_eq_ok_iff {decoder : Decoder α} {text : String} :
    decoder.run text = .ok value ↔ ∃ after,
      decoder.Takes text.toList value after ∧ IsBlank after := by
  rw [Decoder.run]
  constructor
  · intro h
    split at h
    · next found rest hwhole =>
      cases h
      obtain ⟨_, after, htaken, hrest⟩ := takes_bind_iff.1 hwhole
      obtain ⟨_, _, hend, hpure⟩ := takes_bind_iff.1 hrest
      cases hpure
      exact ⟨after, htaken, (takes_textEnd_iff.1 hend).1⟩
    · cases h
    · cases h
  · rintro ⟨after, h, hafter⟩
    have hwhole : Takes (do let value ← decoder; textEnd; return value) text.toList value [] :=
      h.bind ((takes_textEnd_iff.2 ⟨hafter, rfl⟩).bind (Takes.pure value []))
    rw [Takes] at hwhole
    rw [hwhole]

end

end RouteManifest.Json.Decoder
