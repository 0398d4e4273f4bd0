import RouteManifest.Proofs.Json.Grammar

/-!
What decoders take. A decoder takes a value from the front of a text and leaves the rest, and
nothing if it fails. What two decoders take one after another is told by what each of them takes,
and a string is taken exactly where the grammar has it.
-/

namespace RouteManifest.Json.Decoder

open Text.Quoted (hexDigit letters)

section
variable {α β : Type} {a : α} {b : β} {text middle rest : List Char}

/-- The decoder takes the value and leaves the rest. -/
def Takes (decoder : Decoder α) (text : List Char) (value : α) (rest : List Char) : Prop :=
  decoder text = .ok (value, rest)

theorem Takes.pure (value : α) (text : List Char) : Takes (pure value) text value text := rfl

theorem Takes.bind {first : Decoder α} {next : α → Decoder β} (hfirst : first.Takes text a middle)
    (hnext : (next a).Takes middle b rest) : Takes (first >>= next) text b rest := by
  change (first text >>= fun (a, middle) => next a middle) = _
  rw [hfirst]
  exact hnext

theorem Takes.map {decoder : Decoder α} (f : α → β) (h : decoder.Takes text a rest) :
    Takes (f <$> decoder) text (f a) rest := by
  rw [map_eq_pure_bind]
  exact h.bind (Takes.pure (f a) rest)

theorem takes_get (text : List Char) : Takes get text text text := rfl

theorem takes_skip (c : Char) (rest : List Char) : Takes skip (c :: rest) () rest := rfl

/-- A run of two decoders is taken apart where the first one stops. -/
theorem takes_bind_iff {first : Decoder α} {next : α → Decoder β} :
    Takes (first >>= next) text b rest ↔
      ∃ a middle, first.Takes text a middle ∧ (next a).Takes middle b rest := by
  constructor
  · intro h
    change (first text >>= fun (a, middle) => next a middle) = _ at h
    cases hfirst : first text with
    | error failure =>
      rw [hfirst] at h
      cases h
    | ok found =>
      rw [hfirst] at h
      exact ⟨found.1, found.2, hfirst, h⟩
  · rintro ⟨a, middle, hfirst, hnext⟩
    exact hfirst.bind hnext

theorem takes_map_iff {decoder : Decoder α} {f : α → β} :
    Takes (f <$> decoder) text b rest ↔ ∃ a, decoder.Takes text a rest ∧ f a = b := by
  rw [map_eq_pure_bind, takes_bind_iff]
  constructor
  · rintro ⟨a, middle, h, hpure⟩
    cases hpure
    exact ⟨a, h, rfl⟩
  · rintro ⟨a, h, rfl⟩
    exact ⟨a, rest, h, Takes.pure _ rest⟩

theorem not_takes_failHere (cause : Cause) : ¬Takes (failHere cause) text a rest := nofun

theorem not_takes_failNext (cause : Cause) : ¬Takes (failNext cause) text a rest := nofun

theorem not_takes_mismatch (cause : Mismatch) : ¬Takes (mismatch cause) text a rest := nofun

theorem not_takes_wrongType (expected : String) : ¬Takes (wrongType expected) text a rest := by
  intro h
  obtain ⟨found?, middle, -, h⟩ := takes_bind_iff.1 h
  cases found? with
  | some found => exact not_takes_failHere _ h
  | none =>
    obtain ⟨front, after, -, h⟩ := takes_bind_iff.1 h
    split at h
    · exact not_takes_failHere _ h
    · exact not_takes_failHere _ h
    · exact not_takes_failNext _ h

/-- What fails unless a condition is met takes something only if it is met. -/
theorem takes_unless_iff {condition : Prop} [Decidable condition] {failing : Decoder PUnit}
    {next : Decoder α}
    (hfailing : ∀ {text middle}, ¬Takes failing text () middle) :
    Takes (if condition then next else failing >>= fun _ => next) text a rest ↔
      condition ∧ next.Takes text a rest := by
  by_cases hcondition : condition
  · rw [if_pos hcondition, and_iff_right hcondition]
  · rw [if_neg hcondition]
    refine iff_of_false (fun h => ?_) (fun h => hcondition h.1)
    obtain ⟨_, middle, h, -⟩ := takes_bind_iff.1 h
    exact hfailing h

end

/-! ### Blanks and words -/

section
variable {text front rest : List Char} {c : Char}

theorem takes_peek_iff {found : Option Char} :
    Takes peek text found front ↔ dropBlanks text = front ∧ front.head? = found := by
  have hpeek : peek text = .ok ((dropBlanks text).head?, dropBlanks text) := rfl
  rw [Takes, hpeek, Except.ok.injEq, Prod.mk.injEq]
  constructor
  · rintro ⟨rfl, rfl⟩
    exact ⟨rfl, rfl⟩
  · rintro ⟨rfl, rfl⟩
    exact ⟨rfl, rfl⟩

/-- Peeking finds the end of the text, or a character that is not blank. -/
theorem takes_peek_cases {found : Option Char} (h : Takes peek text found front) :
    (found = none ∧ front = [] ∧ IsBlank text) ∨
      ∃ c rest, found = some c ∧ front = c :: rest ∧ isBlank c = false ∧ Gap text (c :: rest) := by
  obtain ⟨hfront, rfl⟩ := takes_peek_iff.1 h
  cases front with
  | nil => exact .inl ⟨rfl, rfl, List.dropWhile_eq_nil_iff.1 hfront⟩
  | cons c rest =>
      exact .inr ⟨c, rest, rfl, rfl, isBlank_of_dropBlanks hfront, hfront ▸ gap_dropBlanks text⟩

theorem takes_peek_of_gap (h : Gap text (c :: rest)) (hc : isBlank c = false) :
    Takes peek text (some c) (c :: rest) :=
  takes_peek_iff.2 ⟨(gap_iff_dropBlanks hc).1 h, rfl⟩

/-- What is done behind a peek depends on the character that was found. -/
theorem takes_peek_bind_iff {α : Type} {next : Option Char → Decoder α} {value : α} :
    Takes (peek >>= next) text value rest ↔
      (IsBlank text ∧ (next none).Takes [] value rest) ∨
      ∃ c others, Gap text (c :: others) ∧ isBlank c = false ∧
        (next (some c)).Takes (c :: others) value rest := by
  rw [takes_bind_iff]
  constructor
  · rintro ⟨found, front, hpeek, hnext⟩
    obtain ⟨rfl, rfl, hblank⟩ | ⟨c, others, rfl, rfl, hc, hgap⟩ := takes_peek_cases hpeek
    · exact .inl ⟨hblank, hnext⟩
    · exact .inr ⟨c, others, hgap, hc, hnext⟩
  · rintro (⟨hblank, hnext⟩ | ⟨c, others, hgap, hc, hnext⟩)
    · exact ⟨none, [], takes_peek_iff.2 ⟨List.dropWhile_eq_nil_iff.2 hblank, rfl⟩, hnext⟩
    · exact ⟨some c, c :: others, takes_peek_of_gap hgap hc, hnext⟩

theorem takes_word (letters rest : List Char) : Takes (word letters) (letters ++ rest) () rest := by
  induction letters with
  | nil => rfl
  | cons c letters ih =>
    rw [word]
    refine (takes_get _).bind ?_
    rw [List.cons_append]
    dsimp only
    rw [if_pos rfl]
    exact (takes_skip c _).bind ih

end

/-! ### Strings -/

theorem hexValue?_eq_some_iff {digit : Char} {value : Nat} :
    hexValue? digit = some value ↔ IsHexDigit value digit := by
  constructor
  · intro h
    have hupper : ∀ n < 16, 10 ≤ n → (hexDigit n).toUpper = Char.ofNat (55 + n) := by decide
    simp only [hexValue?, Char.le_def, UInt32.le_iff_toNat_le] at h
    split at h
    · next hrange =>
      have hlow : 48 ≤ digit.toNat := hrange.1
      have hhigh : digit.toNat ≤ 57 := hrange.2
      cases h
      refine ⟨by omega, .inl ?_⟩
      rw [hexDigit, if_pos (by omega), Nat.add_sub_cancel' hlow, Char.ofNat_toNat]
    split at h
    · next hrange =>
      have hlow : 97 ≤ digit.toNat := hrange.1
      have hhigh : digit.toNat ≤ 102 := hrange.2
      cases h
      refine ⟨by omega, .inl ?_⟩
      rw [hexDigit, if_neg (by omega), Nat.add_sub_cancel' (by omega), Char.ofNat_toNat]
    split at h
    · next hrange =>
      have hlow : 65 ≤ digit.toNat := hrange.1
      have hhigh : digit.toNat ≤ 70 := hrange.2
      cases h
      refine ⟨by omega, .inr ?_⟩
      rw [hupper _ (by omega) (by omega), Nat.add_sub_cancel' (by omega), Char.ofNat_toNat]
    · cases h
  · rintro ⟨hvalue, rfl | rfl⟩
    · have hall : ∀ n < 16, hexValue? (hexDigit n) = some n := by decide
      exact hall value hvalue
    · have hall : ∀ n < 16, hexValue? (hexDigit n).toUpper = some n := by decide
      exact hall value hvalue

theorem fourDigits_eq_ok_iff {text rest : List Char} {number : Nat} :
    fourDigits text = .ok (number, rest) ↔ ParsesUnit number text rest := by
  constructor
  · intro h
    unfold fourDigits at h
    split at h
    · next hfound =>
      cases h
      unfold fourDigits? at hfound
      split at hfound
      · simp only [Option.pure_def, Option.bind_eq_bind, Option.bind_eq_some_iff, Option.some.injEq,
          Prod.mk.injEq, hexValue?_eq_some_iff] at hfound
        obtain ⟨first, ha, second, hb, third, hc, fourth, hd, rfl, rfl⟩ := hfound
        exact .mk ha hb hc hd
      · cases hfound
    · split at h <;> cases h
  · rintro ⟨ha, hb, hc, hd⟩
    rw [← hexValue?_eq_some_iff] at ha hb hc hd
    simp only [fourDigits, fourDigits?, ha, hb, hc, hd, Option.bind_eq_bind, Option.bind_some,
      Option.pure_def]

theorem simpleEscape?_eq_some_iff {letter c : Char} :
    simpleEscape? letter = some c ↔ (c, letter) ∈ escapes := by
  constructor
  · intro h
    unfold simpleEscape? at h
    split at h <;> cases h <;> decide
  · intro h
    simp only [escapes, letters, List.mem_cons, Prod.mk.injEq, List.not_mem_nil, or_false] at h
    rcases h with ⟨rfl, rfl⟩ | ⟨rfl, rfl⟩ | ⟨rfl, rfl⟩ | ⟨rfl, rfl⟩ | ⟨rfl, rfl⟩ | ⟨rfl,
      rfl⟩ | ⟨rfl, rfl⟩ |
      ⟨rfl, rfl⟩ <;> rfl

theorem toNat_ofNat {number : Nat} (h : number.isValidChar) :
    (Char.ofNat number).toNat = number := by
  rw [Char.ofNat, dif_pos h]
  rfl

theorem parsesChar_of_unicodeEscape {c : Char} {text rest : List Char}
    (h : unicodeEscape text = .ok (c, rest)) :
    ParsesChar c ('\\' :: 'u' :: text) rest := by
  unfold unicodeEscape at h
  cases hfirst : fourDigits text with
  | error failure =>
    rw [hfirst] at h
    cases h
  | ok found =>
    obtain ⟨first, after⟩ := found
    have hunit := fourDigits_eq_ok_iff.1 hfirst
    have hlt := hunit.lt
    simp only [hfirst, bind, Except.bind, Bool.and_eq_true, Bool.or_eq_true, decide_eq_true_eq] at h
    split at h
    · cases h
    next hlow =>
    split at h
    · next hplain =>
      cases h
      have hvalid : first.isValidChar := by
        simp only [Nat.isValidChar]
        omega
      exact .unit ((toNat_ofNat hvalid).symm ▸ hunit)
    -- Here the number is a first half, and the second one has to follow.
    next hhalf =>
    split at h
    · next middle =>
      cases hsecond : fourDigits middle with
      | error failure =>
        rw [hsecond] at h
        cases h
      | ok found =>
        obtain ⟨second, after⟩ := found
        have hunit' := fourDigits_eq_ok_iff.1 hsecond
        simp only [hsecond] at h
        split at h
        · cases h
        next hrange =>
        simp only [pure, Except.pure, Except.ok.injEq, Prod.mk.injEq] at h
        obtain ⟨rfl, rfl⟩ := h
        refine .pair hunit hunit' (by omega) (by omega) (toNat_ofNat ?_)
        simp only [Nat.isValidChar]
        omega
    · split at h <;> cases h
    · split at h <;> cases h

theorem unicodeEscape_of_parsesChar {c : Char} {text rest : List Char}
    (h : ParsesChar c ('\\' :: 'u' :: text) rest) :
    unicodeEscape text = .ok (c, rest) := by
  cases h with
  | plain _ _ hslash => exact absurd rfl hslash
  | letter h => simp [escapes, letters] at h
  | unit h =>
    have hvalid : c.toNat < 0xd800 ∨ 0xdfff < c.toNat ∧ c.toNat < 0x110000 := c.valid
    have hlow : ¬(0xdc00 ≤ c.toNat ∧ c.toNat < 0xe000) := by omega
    have hplain : c.toNat < 0xd800 ∨ 0xe000 ≤ c.toNat := by omega
    simp only [unicodeEscape, fourDigits_eq_ok_iff.2 h, bind, Except.bind, pure, Except.pure,
      Bool.and_eq_true, Bool.or_eq_true, decide_eq_true_eq, if_neg hlow, if_pos hplain,
      Char.ofNat_toNat]
  | @pair high low _ _ _ hhigh hlow hhighHalf hlowHalf hc =>
    have hlead : ¬(0xdc00 ≤ high ∧ high < 0xe000) := by omega
    have hhalf : ¬(high < 0xd800 ∨ 0xe000 ≤ high) := by omega
    have htrail : ¬(low < 0xdc00 ∨ 0xe000 ≤ low) := by omega
    simp only [unicodeEscape, fourDigits_eq_ok_iff.2 hhigh, fourDigits_eq_ok_iff.2 hlow, bind,
      Except.bind, pure, Except.pure, Bool.and_eq_true, Bool.or_eq_true, decide_eq_true_eq,
      if_neg hlead, if_neg hhalf, if_neg htrail, ← hc, Char.ofNat_toNat]

theorem escape_eq_ok_iff {c : Char} {text rest : List Char} :
    escape text = .ok (c, rest) ↔ ParsesChar c ('\\' :: text) rest := by
  unfold escape
  split
  · constructor
    · nofun
    · intro h
      cases h with
      | plain _ _ hslash => exact absurd rfl hslash
  · exact ⟨parsesChar_of_unicodeEscape, unicodeEscape_of_parsesChar⟩
  · next letter after hletter =>
    constructor
    · intro h
      split at h
      · next hsimple =>
        cases h
        exact .letter (simpleEscape?_eq_some_iff.1 hsimple)
      · cases h
    · intro h
      cases h with
      | plain _ _ hslash => exact absurd rfl hslash
      | letter h => simp only [simpleEscape?_eq_some_iff.2 h]
      | unit => exact (hletter rfl).elim
      | pair => exact (hletter rfl).elim

theorem stringRest_of_parsesChar {c : Char} {text middle : List Char}
    (h : ParsesChar c text middle) :
    stringRest text = (stringRest middle).map fun (others, rest) => (c :: others, rest) := by
  have hbackslash : ∀ after, escape after = .ok (c, middle) →
      stringRest ('\\' :: after) = (stringRest middle).map fun (others, rest) =>
          (c :: others, rest) := by
    intro after hescape
    rw [stringRest]
    simp only [Char.reduceEq, if_false, if_true]
    split
    · next herror => rw [hescape] at herror; cases herror
    · next hok =>
      rw [hescape] at hok
      cases hok
      rfl
  cases h with
  | plain hcontrol hquote hslash =>
      rw [stringRest, if_neg hquote, if_neg hslash, if_neg (Nat.not_lt.2 hcontrol)]
  | letter h => exact hbackslash _ (escape_eq_ok_iff.2 (.letter h))
  | unit h => exact hbackslash _ (escape_eq_ok_iff.2 (.unit h))
  | pair hhigh hlow hhighHalf hlowHalf hc =>
    exact hbackslash _ (escape_eq_ok_iff.2 (.pair hhigh hlow hhighHalf hlowHalf hc))

/-- The rest of a string is taken exactly where the grammar has it. Both directions go from one
character to the next. -/
theorem stringRest_eq_ok_iff {chars text rest : List Char} :
    stringRest text = .ok (chars, rest) ↔ ParsesChars chars text rest := by
  constructor
  · intro h
    fun_induction stringRest text generalizing chars rest with
    | case1 => cases h
    | case2 =>
      cases h
      exact .nil
    | case3 => cases h
    | case4 after c middle hescape _ ih =>
      cases hothers : stringRest middle with
      | error failure =>
        rw [hothers] at h
        cases h
      | ok others =>
        rw [hothers] at h
        cases h
        exact .cons (escape_eq_ok_iff.1 hescape) (ih hothers)
    | case5 => cases h
    | case6 c after hquote hslash hcontrol ih =>
      cases hothers : stringRest after with
      | error failure =>
        rw [hothers] at h
        cases h
      | ok others =>
        rw [hothers] at h
        cases h
        exact .cons (.plain (Nat.le_of_not_lt hcontrol) hquote hslash) (ih hothers)
  · intro h
    induction h with
    | nil =>
      rw [stringRest]
      exact if_pos rfl
    | cons hc _ ih => rw [stringRest_of_parsesChar hc, ih, Except.map]

section
variable {text inner rest : List Char} {value : String}

theorem takes_string_iff (c : Char) :
    Takes string (c :: inner) value rest ↔ ParsesChars value.toList inner rest := by
  constructor
  · intro h
    obtain ⟨_, _, hskip, h⟩ := takes_bind_iff.1 h
    cases hskip
    obtain ⟨_, _, hget, h⟩ := takes_bind_iff.1 h
    cases hget
    split at h
    · cases h
    · next found after hrest =>
      obtain ⟨_, _, hset, h⟩ := takes_bind_iff.1 h
      cases hset
      cases h
      rw [String.toList_ofList]
      exact stringRest_eq_ok_iff.1 hrest
  · intro h
    refine (takes_skip c inner).bind ((takes_get inner).bind ?_)
    rw [stringRest_eq_ok_iff.2 h]
    dsimp only
    rw [String.ofList_toList]
    rfl

theorem takes_text_iff {expected : String} :
    Takes (Decoder.text expected) text value rest ↔ ParsesString value text rest := by
  rw [Decoder.text, takes_peek_bind_iff]
  constructor
  · rintro (⟨-, h⟩ | ⟨c, others, hgap, -, h⟩)
    · exact absurd h (not_takes_failNext _)
    · split at h
      · next heq =>
        cases heq
        exact ⟨others, hgap, (takes_string_iff '"').1 h⟩
      · exact absurd h (not_takes_failNext _)
      · exact absurd h (not_takes_wrongType _)
  · rintro ⟨inner, hgap, hchars⟩
    exact .inr ⟨'"', inner, hgap, rfl, (takes_string_iff '"').2 hchars⟩

end

end RouteManifest.Json.Decoder
