import RouteManifest.Proofs.Json.Acceptance

/-!
The grammar of JSON is unambiguous: a text begins with at most one term, if a numeral is followed by
something that cannot go on with it, and so a document holds one term only.
-/

namespace RouteManifest.Json

open Decoder (IsBlank isBlank dropBlanks)

/-! ### Openings -/

/-- What a term begins with. -/
def Term.OpensWith : Term → Char → Prop
  | .null, c => c = 'n'
  | .bool true, c => c = 't'
  | .bool false, c => c = 'f'
  | .number _, c => c = '-' ∨ c.isDigit = true
  | .string _, c => c = '"'
  | .array _, c => c = '['
  | .object _, c => c = '{'

section
variable {term other : Term} {text front rest : List Char} {c : Char}

theorem isBlank_of_isDigit (hc : c.isDigit = true) : isBlank c = false := by
  by_contra hblank
  simp only [isBlank, Bool.not_eq_false, Bool.or_eq_true, beq_iff_eq] at hblank
  rcases hblank with ((rfl | rfl) | rfl) | rfl <;> cases hc

theorem Term.OpensWith.isBlank_eq_false (h : term.OpensWith c) : isBlank c = false := by
  cases term with
  | bool value => cases value <;> cases h <;> rfl
  | number =>
    obtain rfl | hdigit := h
    · rfl
    · exact isBlank_of_isDigit hdigit
  | _ =>
    cases h
    rfl

theorem Term.OpensWith.ne {d : Char} (h : term.OpensWith c) (hd : d = ']' ∨ d = '}') : c ≠ d := by
  rintro rfl
  rcases hd with rfl | rfl <;> cases term with
  | bool value => cases value <;> cases h
  | number => simp [Term.OpensWith] at h
  | _ => cases h

theorem IsNumeral.opens {numeral : List Char} (h : IsNumeral numeral) :
    ∃ c others, numeral = c :: others ∧ (Term.number numeral).OpensWith c := by
  obtain ⟨rfl | rfl, hwhole, -, -⟩ := h
  · cases hwhole with
    | zero => exact ⟨'0', _, rfl, .inr rfl⟩
    | @digits c others hdigits => exact ⟨c, _, rfl, .inr (hdigits.2 c List.mem_cons_self)⟩
  · exact ⟨'-', _, rfl, .inl rfl⟩

theorem Parses.opens (h : Parses term text rest) :
    ∃ c front, Gap text (c :: front) ∧ term.OpensWith c := by
  cases h with
  | null hgap => exact ⟨'n', _, hgap, rfl⟩
  | yes hgap => exact ⟨'t', _, hgap, rfl⟩
  | no hgap => exact ⟨'f', _, hgap, rfl⟩
  | number hgap hnumeral =>
    obtain ⟨c, others, rfl, hc⟩ := hnumeral.opens
    exact ⟨c, _, hgap, hc⟩
  | string h =>
    obtain ⟨inner, hgap, -⟩ := h
    exact ⟨'"', inner, hgap, rfl⟩
  | array hgap => exact ⟨'[', _, hgap, rfl⟩
  | object hgap => exact ⟨'{', _, hgap, rfl⟩

/-- The first character tells what kind of term it is. -/
theorem Parses.opensWith (h : Parses term text rest) (hgap : Gap text (c :: front))
    (hc : isBlank c = false) :
    term.OpensWith c := by
  obtain ⟨d, others, hother, hd⟩ := h.opens
  obtain ⟨rfl, -⟩ := hgap.unique hc hother hd.isBlank_eq_false
  exact hd

end

/-! ### Numerals -/

def isNumeralChar (c : Char) : Bool := c.isDigit || ['-', '+', '.', 'e', 'E'].contains c

/-- Nothing that a numeral could go on with comes next. -/
def Stops (rest : List Char) : Prop := ∀ c ∈ rest.head?, isNumeralChar c = false

section
variable {text rest : List Char}

theorem IsDigits.isNumeralChar (h : IsDigits text) : ∀ c ∈ text, isNumeralChar c = true := by
  intro c hc
  rw [Json.isNumeralChar, h.2 c hc, Bool.true_or]

theorem IsWhole.isNumeralChar (h : IsWhole text) : ∀ c ∈ text, isNumeralChar c = true := by
  cases h with
  | zero => exact List.forall_mem_singleton.2 rfl
  | digits hdigits => exact hdigits.isNumeralChar

theorem IsFraction.isNumeralChar (h : IsFraction text) : ∀ c ∈ text, isNumeralChar c = true := by
  cases h with
  | none => exact nofun
  | some hdigits => exact List.forall_mem_cons.2 ⟨rfl, hdigits.isNumeralChar⟩

theorem IsExponent.isNumeralChar (h : IsExponent text) : ∀ c ∈ text, isNumeralChar c = true := by
  cases h with
  | none => exact nofun
  | some hletter hsign hdigits =>
    refine List.forall_mem_cons.2 ⟨?_, List.forall_mem_append.2 ⟨?_, hdigits.isNumeralChar⟩⟩
    · rcases hletter with rfl | rfl <;> rfl
    · rcases hsign with rfl | rfl | rfl
      · exact nofun
      · exact List.forall_mem_singleton.2 rfl
      · exact List.forall_mem_singleton.2 rfl

theorem IsNumeral.isNumeralChar (h : IsNumeral text) : ∀ c ∈ text, isNumeralChar c = true := by
  obtain ⟨hsign, hwhole, hfraction, hexponent⟩ := h
  have hparts := List.forall_mem_append.2 ⟨hfraction.isNumeralChar, hexponent.isNumeralChar⟩
  refine List.forall_mem_append.2 ⟨?_, List.forall_mem_append.2 ⟨hwhole.isNumeralChar, hparts⟩⟩
  rcases hsign with rfl | rfl
  · exact nofun
  · exact List.forall_mem_singleton.2 rfl

/-- A numeral goes as far as it can. -/
theorem IsNumeral.takeWhile_append (h : IsNumeral text) (hrest : Stops rest) :
    (text ++ rest).takeWhile Json.isNumeralChar = text := by
  rw [List.takeWhile_append_of_pos h.isNumeralChar]
  cases rest with
  | nil => exact List.append_nil text
  | cons c rest =>
    rw [List.takeWhile_cons_of_neg (by simp [hrest c rfl]), List.append_nil]

theorem IsNumeral.unique {other after front : List Char} (h : IsNumeral text)
    (hother : IsNumeral other)
    (hgap : Gap front (text ++ rest)) (hgap' : Gap front (other ++ after)) (hrest : Stops rest)
    (hafter : Stops after) :
    text = other ∧ rest = after := by
  have heq : text ++ rest = other ++ after := by
    obtain ⟨c, text, rfl, hc⟩ := h.opens
    obtain ⟨d, other, rfl, hd⟩ := hother.opens
    exact List.cons_eq_cons.2 (hgap.unique hc.isBlank_eq_false hgap' hd.isBlank_eq_false)
  have hnumeral : text = other := by
    rw [← h.takeWhile_append hrest, heq, hother.takeWhile_append hafter]
  subst hnumeral
  exact ⟨rfl, List.append_cancel_left heq⟩

theorem isNumeralChar_of_isBlank {c : Char} (hc : isBlank c = true) :
    Json.isNumeralChar c = false := by
  simp only [isBlank, Bool.or_eq_true, beq_iff_eq] at hc
  rcases hc with ((rfl | rfl) | rfl) | rfl <;> rfl

theorem stops_of_isBlank (h : IsBlank text) : Stops text :=
  fun c hc => isNumeralChar_of_isBlank (h c (List.mem_of_mem_head? hc))

theorem Gap.stops {c : Char} (h : Gap text (c :: rest)) (hc : Json.isNumeralChar c = false) :
    Stops text := by
  obtain ⟨blank, hblank, rfl⟩ := h
  cases blank with
  | nil =>
    intro d hd
    cases hd
    exact hc
  | cons d blank =>
    intro e he
    cases he
    exact isNumeralChar_of_isBlank (hblank d List.mem_cons_self)

end

/-! ### Strings -/

section
variable {chars others text rest after : List Char}

/-- A string is read to its characters, so there are no others. -/
theorem ParsesChars.unique (h : ParsesChars chars text rest)
    (hothers : ParsesChars others text after) :
    chars = others ∧ rest = after := by
  rw [← Decoder.stringRest_eq_ok_iff] at h hothers
  rw [h] at hothers
  cases hothers
  exact ⟨rfl, rfl⟩

theorem ParsesString.unique {value other : String} (h : ParsesString value text rest)
    (hother : ParsesString other text after) : value = other ∧ rest = after := by
  obtain ⟨inner, hgap, hchars⟩ := h
  obtain ⟨inner', hgap', hchars'⟩ := hother
  obtain ⟨-, rfl⟩ := hgap.unique rfl hgap' rfl
  obtain ⟨heq, rfl⟩ := hchars.unique hchars'
  exact ⟨String.toList_inj.1 heq, rfl⟩

end

/-! ### Listings -/

section
variable {α : Type} {P Q : α → List Char → List Char → Prop} {closing : Char} {first : Bool}
  {text rest after : List Char}

/-- Behind an item there is a comma or what closes the listing, so a numeral does not go on. -/
theorem Listing.stops {xs : List α} (hclosing : closing = ']' ∨ closing = '}')
    (h : Listing P closing false xs text rest) :
    Stops text := by
  cases h with
  | nil hend => exact hend.stops (by rcases hclosing with rfl | rfl <;> rfl)
  | cons hlead => exact Gap.stops hlead rfl

/-- Listings are unambiguous if their items are. The items of the first listing may be known to
satisfy more. -/
theorem Listing.unique {xs ys : List α} (hclosing : closing = ']' ∨ closing = '}')
    (hopens : ∀ {x text rest}, P x text rest →
      ∃ c front, Gap text (c :: front) ∧ isBlank c = false ∧ c ≠ closing)
    (hitem : ∀ {x text rest}, Q x text rest → P x text rest)
    (hunique : ∀ {x y text rest after}, Q x text rest → P y text after → Stops rest → Stops after →
      x = y ∧ rest = after)
    (hxs : Listing Q closing first xs text rest) (hys : Listing P closing first ys text after) :
    xs = ys ∧ rest = after := by
  have hblank : isBlank closing = false := by rcases hclosing with rfl | rfl <;> rfl
  have hcomma : closing ≠ ',' := by rcases hclosing with rfl | rfl <;> decide
  -- The end of a listing is not an item of another.
  have hend : ∀ {first y text rest front after}, Gap text (closing :: rest) →
      Lead first text front →
      ¬P y front after := by
    intro first y text rest front after hgap hlead hy
    cases first with
    | true =>
      cases hlead
      obtain ⟨c, others, hother, hc, hne⟩ := hopens hy
      exact hne (hgap.unique hblank hother hc).1.symm
    | false => exact hcomma (hgap.unique hblank hlead rfl).1
  induction hxs generalizing ys after with
  | nil hgap =>
    cases hys with
    | nil hgap' => exact ⟨rfl, (hgap.unique hblank hgap' hblank).2⟩
    | cons hlead hy => exact (hend hgap hlead hy).elim
  | @cons first x xs text front middle rest hlead hx hxs ih =>
    cases hys with
    | nil hgap => exact (hend hgap hlead (hitem hx)).elim
    | @cons _ y ys _ front' middle' _ hlead' hy hys =>
      have hfront : front = front' := by
        cases first with
        | true => exact hlead.symm.trans hlead'
        | false => exact (Gap.unique hlead rfl hlead' rfl).2
      subst hfront
      obtain ⟨rfl, rfl⟩ := hunique hx hy (hxs.stops hclosing) (hys.stops hclosing)
      obtain ⟨rfl, rfl⟩ := ih hys
      exact ⟨rfl, rfl⟩

end

/-! ### Terms -/

/-- Induction on how a text begins with a term. The hypothesis on the parts of an array or an object
is a listing too. -/
@[elab_as_elim]
theorem Parses.induction {motive : ∀ term text rest, Parses term text rest → Prop}
    (null : ∀ {text rest} (hgap : Gap text ('n' :: 'u' :: 'l' :: 'l' :: rest)),
      motive _ _ _ (.null hgap))
    (yes : ∀ {text rest} (hgap : Gap text ('t' :: 'r' :: 'u' :: 'e' :: rest)),
      motive _ _ _ (.yes hgap))
    (no : ∀ {text rest} (hgap : Gap text ('f' :: 'a' :: 'l' :: 's' :: 'e' :: rest)),
      motive _ _ _ (.no hgap))
    (number : ∀ {numeral text rest} (hgap : Gap text (numeral ++ rest))
      (hnumeral : IsNumeral numeral),
      motive _ _ _ (.number hgap hnumeral))
    (string : ∀ {value text rest} (h : ParsesString value text rest), motive _ _ _ (.string h))
    (array : ∀ {elements text inner rest} (hgap : Gap text ('[' :: inner))
      (helements : Listing Parses ']' true elements inner rest),
      Listing (fun x text rest => ∃ h, motive x text rest h) ']' true elements inner rest →
      motive _ _ _ (.array hgap helements))
    (object : ∀ {members text inner rest} (hgap : Gap text ('{' :: inner))
      (hmembers : Listing (ParsesMember Parses) '}' true members inner rest),
      Listing (ParsesMember fun x text rest => ∃ h, motive x text rest h) '}' true members
      inner rest →
      motive _ _ _ (.object hgap hmembers))
    {term : Term} {text rest : List Char} (h : Parses term text rest) : motive term text rest h :=
  @Parses.rec motive
    (fun first xs text rest _ =>
      Listing (fun x text rest => ∃ h, motive x text rest h) ']' first xs text rest)
    (fun first xs text rest _ =>
      Listing (ParsesMember fun x text rest => ∃ h, motive x text rest h) '}' first xs text rest)
    (fun m text rest _ => ParsesMember (fun x text rest => ∃ h, motive x text rest h) m text rest)
    null yes no number string array object
    .nil (fun hlead hx _ ihx ih => .cons hlead ⟨hx, ihx⟩ ih)
    .nil (fun hlead _ _ ihx ih => .cons hlead ihx ih)
    (fun hkey hcolon hx ihx => .mk hkey hcolon ⟨hx, ihx⟩) _ _ _ h

/-- A number is taken as long as it can be, so something else has to follow it. -/
def Term.EndsBefore : Term → List Char → Prop
  | .number _, rest => Stops rest
  | _, _ => True

theorem Term.endsBefore_of_stops {rest : List Char} (term : Term) (h : Stops rest) :
    term.EndsBefore rest := by
  cases term with
  | number => exact h
  | _ => trivial

theorem ParsesMember.opens {α : Type} {P : α → List Char → List Char → Prop} {m : String × α}
    {text rest : List Char}
    (h : ParsesMember P m text rest) : ∃ front, Gap text ('"' :: front) := by
  obtain ⟨⟨inner, hgap, -⟩⟩ := h
  exact ⟨inner, hgap⟩

theorem ParsesMember.unique {α : Type} {P Q : α → List Char → List Char → Prop} {m n : String × α}
    {text rest after : List Char}
    (hunique : ∀ {x y text rest after}, Q x text rest → P y text after → Stops rest → Stops after →
      x = y ∧ rest = after)
    (hm : ParsesMember Q m text rest) (hn : ParsesMember P n text after) (hrest : Stops rest)
    (hafter : Stops after) :
    m = n ∧ rest = after := by
  obtain ⟨hkey, hcolon, hx⟩ := hm
  obtain ⟨hkey', hcolon', hy⟩ := hn
  obtain ⟨rfl, rfl⟩ := hkey.unique hkey'
  obtain ⟨-, rfl⟩ := hcolon.unique rfl hcolon' rfl
  obtain ⟨rfl, rfl⟩ := hunique hx hy hrest hafter
  exact ⟨rfl, rfl⟩

/-- No other term stands where this one does. -/
def IsOnly (term : Term) (text rest : List Char) : Prop :=
  ∀ {other after}, Parses other text after → term.EndsBefore rest → other.EndsBefore after →
    term = other ∧ rest = after

section
variable {inner rest after : List Char}

theorem elements_unique {xs ys : List Term}
    (hxs : Listing (fun x text rest => ∃ _ : Parses x text rest, IsOnly x text rest) ']' true xs
      inner rest)
    (hys : Listing Parses ']' true ys inner after) : xs = ys ∧ rest = after := by
  refine Listing.unique (.inl rfl) ?_ ?_ ?_ hxs hys
  · intro x text rest hx
    obtain ⟨c, front, hgap, hc⟩ := hx.opens
    exact ⟨c, front, hgap, hc.isBlank_eq_false, hc.ne (.inl rfl)⟩
  · rintro x text rest ⟨hx, -⟩
    exact hx
  · rintro x y text rest after ⟨-, hx⟩ hy hrest hafter
    exact hx hy (x.endsBefore_of_stops hrest) (y.endsBefore_of_stops hafter)

theorem members_unique {ms ns : List (String × Term)}
    (hms : Listing (ParsesMember fun x text rest => ∃ _ : Parses x text rest, IsOnly x text rest)
      '}' true ms inner rest)
    (hns : Listing (ParsesMember Parses) '}' true ns inner after) : ms = ns ∧ rest = after := by
  refine Listing.unique (.inr rfl) ?_ ?_ ?_ hms hns
  · intro m text rest hm
    obtain ⟨front, hgap⟩ := hm.opens
    exact ⟨'"', front, hgap, rfl, by decide⟩
  · rintro m text rest ⟨hkey, hcolon, hx, -⟩
    exact ⟨hkey, hcolon, hx⟩
  · intro m n text rest after hm hn
    refine ParsesMember.unique ?_ hm hn
    rintro x y text rest after ⟨-, hx⟩ hy hrest hafter
    exact hx hy (x.endsBefore_of_stops hrest) (y.endsBefore_of_stops hafter)

end

/-- The induction is on how the text begins with the term. Another one opens with the same
character, so it is of the same kind. -/
theorem Parses.isOnly {term : Term} {text rest : List Char} (h : Parses term text rest) :
    IsOnly term text rest := by
  induction h using Parses.induction with intro other after hother hrest hafter
  | null hgap =>
    have hopens := hother.opensWith hgap rfl
    -- No other kind of term opens with that character.
    cases hother with
    | null hgap' => exact ⟨rfl, by simpa using (hgap.unique rfl hgap' rfl).2⟩
    | number => simp [Term.OpensWith] at hopens
    | _ => cases hopens
  | yes hgap =>
    have hopens := hother.opensWith hgap rfl
    cases hother with
    | yes hgap' => exact ⟨rfl, by simpa using (hgap.unique rfl hgap' rfl).2⟩
    | number => simp [Term.OpensWith] at hopens
    | _ => cases hopens
  | no hgap =>
    have hopens := hother.opensWith hgap rfl
    cases hother with
    | no hgap' => exact ⟨rfl, by simpa using (hgap.unique rfl hgap' rfl).2⟩
    | number => simp [Term.OpensWith] at hopens
    | _ => cases hopens
  | number hgap hnumeral =>
    obtain ⟨c, others, hopen, hc⟩ := hnumeral.opens
    have hopens := hother.opensWith (hopen ▸ hgap) hc.isBlank_eq_false
    cases hother with
    | number hgap' hnumeral' =>
      obtain ⟨rfl, rfl⟩ := hnumeral.unique hnumeral' hgap hgap' hrest hafter
      exact ⟨rfl, rfl⟩
    | _ =>
      cases hopens
      simp [Term.OpensWith] at hc
  | string h =>
    obtain ⟨inner, hgap, -⟩ := id h
    have hopens := hother.opensWith hgap rfl
    cases hother with
    | string h' =>
      obtain ⟨rfl, rfl⟩ := h.unique h'
      exact ⟨rfl, rfl⟩
    | number => simp [Term.OpensWith] at hopens
    | _ => cases hopens
  | array hgap _ ih =>
    have hopens := hother.opensWith hgap rfl
    cases hother with
    | array hgap' helements =>
      obtain ⟨-, rfl⟩ := hgap.unique rfl hgap' rfl
      obtain ⟨rfl, rfl⟩ := elements_unique ih helements
      exact ⟨rfl, rfl⟩
    | number => simp [Term.OpensWith] at hopens
    | _ => cases hopens
  | object hgap _ ih =>
    have hopens := hother.opensWith hgap rfl
    cases hother with
    | object hgap' hmembers =>
      obtain ⟨-, rfl⟩ := hgap.unique rfl hgap' rfl
      obtain ⟨rfl, rfl⟩ := members_unique ih hmembers
      exact ⟨rfl, rfl⟩
    | number => simp [Term.OpensWith] at hopens
    | _ => cases hopens

/-- A text begins with one term only. -/
theorem Parses.unique {a b : Term} {text rest after : List Char} (ha : Parses a text rest)
    (hb : Parses b text after)
    (hrest : a.EndsBefore rest) (hafter : b.EndsBefore after) : a = b ∧ rest = after := by
  exact ha.isOnly hb hrest hafter

theorem Document.unique {a b : Term} {text : List Char} (ha : Document a text)
    (hb : Document b text) : a = b := by
  obtain ⟨rest, ha, hrest⟩ := ha
  obtain ⟨after, hb, hafter⟩ := hb
  have hstops := a.endsBefore_of_stops (stops_of_isBlank hrest)
  exact (ha.unique hb hstops (b.endsBefore_of_stops (stops_of_isBlank hafter))).1

end RouteManifest.Json
