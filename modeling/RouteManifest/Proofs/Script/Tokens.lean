import RouteManifest.Proofs.Script.Literals
import RouteManifest.Script.Lexeme

/-!
Tokens of texts whose first characters are known: the gap before a token, and the token that a word,
a mark or an encoded text is read to. The statements leave open what follows, so that a text can be
read token by token.
-/

namespace RouteManifest.Script

open Text.Identifier (isStart isPart)

/-! ### Gaps -/

theorem gap_cons {c : Char} {rest : Place} (lineEnd : Bool) (fault : Option Place)
    (hslash : c ≠ '/')
    (hless : c ≠ '<') (hminus : c ≠ '-') :
    gap lineEnd fault (c :: rest) =
      if isLineEnd c then gap true fault rest
      else if isSpace c then gap lineEnd fault rest
      else if lineEnd && isConflictMark (c :: rest) then
        gap lineEnd (fault.or (some (c :: rest))) (dropLine rest)
      else ⟨c :: rest, lineEnd, fault⟩ := by
  rw [gap]
  · intro _ h
    exact absurd h hslash
  · intro _ h
    exact absurd h hslash
  · intro _ h
    exact absurd h hless
  · intro _ h
    exact absurd h hminus

/-- Spaces and line feeds. -/
def IsBlank (blank : List Char) : Prop := ∀ c ∈ blank, c = ' ' ∨ c = '\n'

instance (blank : List Char) : Decidable (IsBlank blank) := List.decidableBAll _ blank

theorem isBlank_nil : IsBlank [] := by decide

theorem isBlank_space : IsBlank [' '] := by decide

theorem gap_blank {blank : List Char} (h : IsBlank blank) (lineEnd : Bool) (text : Place) :
    ∃ ended, gap lineEnd none (blank ++ text) = gap ended none text := by
  induction blank generalizing lineEnd with
  | nil => exact ⟨lineEnd, rfl⟩
  | cons c blank ih =>
    have hrest := ih fun d hd => h d (List.mem_cons_of_mem c hd)
    rcases h c List.mem_cons_self with rfl | rfl
    · obtain ⟨ended, hgap⟩ := hrest lineEnd
      refine ⟨ended, ?_⟩
      rw [List.cons_append, gap_cons _ _ (by decide) (by decide) (by decide)]
      exact hgap
    · obtain ⟨ended, hgap⟩ := hrest true
      refine ⟨ended, ?_⟩
      rw [List.cons_append, gap_cons _ _ (by decide) (by decide) (by decide)]
      exact hgap

/-- A character that is no blank and begins no comment. -/
def isVisible (c : Char) : Bool :=
  c != '/' && c != '<' && c != '-' && !isLineEnd c && !isSpace c

/-- A token begins where the text does. -/
def EndsGap (text : Place) : Prop := ∀ lineEnd, gap lineEnd none text = ⟨text, lineEnd, none⟩

theorem endsGap_visible {c : Char} {rest : Place} (hc : isVisible c = true)
    (hconflict : isConflictMark (c :: rest) = false) : EndsGap (c :: rest) := by
  intro lineEnd
  simp only [isVisible, Bool.and_eq_true, bne_iff_ne, Bool.not_eq_true'] at hc
  obtain ⟨⟨⟨⟨hslash, hless⟩, hminus⟩, hend⟩, hspace⟩ := hc
  rw [gap_cons _ _ hslash hless hminus, hend, hspace, hconflict, Bool.and_false]
  rfl

theorem isConflictMark_cons {c : Char} {rest : Place} (hless : c ≠ '<') (hequal : c ≠ '=')
    (hgreater : c ≠ '>') :
    isConflictMark (c :: rest) = false := by
  simp [isConflictMark, List.isPrefixOf, hless.symm, hequal.symm, hgreater.symm]

theorem endsGap_nil : EndsGap [] := fun _ => by rw [gap]

/-- A slash begins a comment only before another slash or a star. -/
theorem endsGap_slash {c : Char} {rest : Place} (hslash : c ≠ '/') (hstar : c ≠ '*') :
    EndsGap ('/' :: c :: rest) := by
  intro lineEnd
  rw [gap]
  · have hconflict : isConflictMark ('/' :: c :: rest) = false := rfl
    rw [hconflict, Bool.and_false]
    rfl
  · intro _ _ h
    exact absurd (List.cons.inj h).1 hslash
  · intro _ _ h
    exact absurd (List.cons.inj h).1 hstar
  · intro _ h
    cases h
  · intro _ h
    cases h

/-! ### Words -/

/-- What follows a word and does not belong to it. -/
def EndsWord (rest : Place) : Prop := ∀ c ∈ rest.head?, isPart c = false ∧ c ≠ '\\'

theorem endsWord_cons {c : Char} {rest : Place} (h : isPart c = false ∧ c ≠ '\\') :
    EndsWord (c :: rest) := by
  rintro d ⟨⟩
  exact h

theorem isPart_of_isStart {c : Char} (h : isStart c = true) : isPart c = true := by
  unfold isStart at h
  unfold isPart
  split at h
  · next hascii =>
    rw [if_pos hascii]
    simp only [Char.isAlphanum, Bool.or_eq_true] at h ⊢
    exact h.imp_left fun hstart => hstart.imp_left Or.inl
  · next hascii => rw [if_neg hascii, h, Bool.true_or]

theorem ne_backslash_of_isPart {c : Char} (h : isPart c = true) : c ≠ '\\' := by
  rintro rfl
  revert h
  decide

theorem wordFrom_cons {c : Char} (hback : c ≠ '\\') (first escaped : Bool) (rest : Place) :
    wordFrom first escaped (c :: rest) =
      if (if first then isStart c else isPart c) then
        (wordFrom false escaped rest).map fun (word, escaped, rest) => (c :: word, escaped, rest)
      else some ([], escaped, c :: rest) := by
  rw [wordFrom]
  · exact fun _ h => absurd h hback
  · exact hback

theorem wordFrom_append {word rest : List Char} (hword : ∀ c ∈ word, isPart c = true)
    (hrest : EndsWord rest)
    (escaped : Bool) : wordFrom false escaped (word ++ rest) = some (word, escaped, rest) := by
  induction word with
  | nil =>
    cases rest with
    | nil => rw [List.nil_append, wordFrom]
    | cons c rest =>
      obtain ⟨hpart, hback⟩ := hrest c rfl
      rw [List.nil_append, wordFrom_cons hback]
      simp [hpart]
  | cons c word ih =>
    have hpart := hword c List.mem_cons_self
    have hback := ne_backslash_of_isPart hpart
    rw [List.cons_append, wordFrom_cons hback,
      ih fun d hd => hword d (List.mem_cons_of_mem c hd)]
    simp [hpart]

/-- A word is read from its first character to where it ends. -/
theorem wordFrom_start {first : Char} {word rest : List Char} (hfirst : isStart first = true)
    (hword : ∀ c ∈ word, isPart c = true) (hrest : EndsWord rest) :
    wordFrom true false (first :: (word ++ rest)) = some (first :: word, false, rest) := by
  have hback := ne_backslash_of_isPart (isPart_of_isStart hfirst)
  rw [wordFrom_cons hback, wordFrom_append hword hrest]
  simp [hfirst]

/-- Whether a word is written as it is read: without escapes, and so that nothing else can begin
with its first character. -/
def isPlainWord : List Char → Bool
  | [] => false
  | first :: rest =>
      isStart first && first != '"' && first != '\'' && first != '.' && !isDigitOf 10 first &&
        isVisible first &&
        rest.all isPart

theorem isPlainWord_cons {first : Char} {rest : List Char}
    (h : isPlainWord (first :: rest) = true) :
    isStart first = true ∧ first ≠ '"' ∧ first ≠ '\'' ∧ first ≠ '.' ∧ isDigitOf 10 first = false ∧
      isVisible first = true ∧ ∀ c ∈ rest, isPart c = true := by
  simpa [isPlainWord, and_assoc] using h

theorem tokenAt_word {word rest : List Char} (hword : isPlainWord word = true)
    (hrest : EndsWord rest) (strict : Bool) :
    Lexeme.tokenAt strict (word ++ rest) = (.word (String.ofList word) false, rest, none) := by
  cases word with
  | nil => cases hword
  | cons first word =>
    obtain ⟨hstart, hquote, hsingle, hdot, hdigit, -, hparts⟩ := isPlainWord_cons hword
    have hback := ne_backslash_of_isPart (isPart_of_isStart hstart)
    have hread := wordFrom_start hstart hparts hrest
    simp [Lexeme.tokenAt, hquote, hsingle, hdot, hdigit, hstart, hread, Lexeme.wordToken, hback]

theorem endsGap_word {word : List Char} (hword : isPlainWord word = true) (rest : List Char) :
    EndsGap (word ++ rest) := by
  cases word with
  | nil => cases hword
  | cons first word =>
    obtain ⟨hstart, -, -, -, -, hvisible, -⟩ := isPlainWord_cons hword
    have hmark : first ≠ '<' ∧ first ≠ '=' ∧ first ≠ '>' := by
      refine ⟨?_, ?_, ?_⟩ <;> (rintro rfl; revert hstart; decide)
    exact endsGap_visible hvisible (isConflictMark_cons hmark.1 hmark.2.1 hmark.2.2)

/-! ### Marks and texts -/

/-- A character with which neither a word nor a literal begins. -/
def beginsMark (c : Char) : Bool :=
  isVisible c && !isStart c && c != '"' && c != '\'' && c != '\\' && c != '.' && !isDigitOf 10 c

theorem tokenAt_mark {c : Char} {rest after : Place} {mark : Mark} (hc : beginsMark c = true)
    (hmark : mark? (c :: rest) = some (mark, after)) (strict : Bool) :
    Lexeme.tokenAt strict (c :: rest) = (.mark mark, after, none) := by
  simp only [beginsMark, Bool.and_eq_true, bne_iff_ne, Bool.not_eq_true'] at hc
  obtain ⟨⟨⟨⟨⟨⟨-, hstart⟩, hquote⟩, hsingle⟩, hback⟩, hdot⟩, hdigit⟩ := hc
  simp [Lexeme.tokenAt, hquote, hsingle, hdot, hdigit, hstart, hback, hmark]

theorem endsGap_mark {c : Char} {rest : Place} (hc : beginsMark c = true)
    (hconflict : isConflictMark (c :: rest) = false) : EndsGap (c :: rest) := by
  simp only [beginsMark, Bool.and_eq_true] at hc
  exact endsGap_visible hc.1.1.1.1.1.1 hconflict

theorem endsGap_encode (text rest : List Char) : EndsGap (Text.Quoted.encode text ++ rest) :=
  endsGap_visible (by decide) (isConflictMark_cons (by decide) (by decide) (by decide))

theorem tokenAt_encode (text rest : List Char) (strict : Bool) :
    Lexeme.tokenAt strict (Text.Quoted.encode text ++ rest) =
      (.text (some (String.ofList text)), rest, none) := by
  have hread := quotedText_encode text rest
  simp [Lexeme.tokenAt, Text.Quoted.encode, hread, QuotedText.value?, joinHalves?_toNat]

/-! ### Tokens of known texts -/

/-- The first token of a text, and what follows it. Nothing is wrong with the token or with the
blanks before it. -/
def Begins (text : Place) (token : Token) (rest : Place) : Prop :=
  ∃ start lineEnd, Lexeme.read false true text = ⟨token, start, rest, lineEnd, none⟩

theorem begins_of_tokenAt {blank text rest : Place} {token : Token} (hblank : IsBlank blank)
    (htext : EndsGap text)
    (htoken : Lexeme.tokenAt true text = (token, rest, none)) :
    Begins (blank ++ text) token rest := by
  obtain ⟨lineEnd, hgap⟩ := gap_blank hblank false text
  exact ⟨text, lineEnd, by simp [Lexeme.read, hgap, htext lineEnd, htoken]⟩

theorem begins_word {blank rest : List Char} (word : String) (hblank : IsBlank blank)
    (hword : isPlainWord word.toList = true) (hrest : EndsWord rest) :
    Begins (blank ++ (word.toList ++ rest)) (.word word false) rest := by
  have htoken := tokenAt_word hword hrest true
  rw [String.ofList_toList] at htoken
  exact begins_of_tokenAt hblank (endsGap_word hword rest) htoken

theorem begins_mark {blank rest after : Place} {c : Char} {mark : Mark} (hblank : IsBlank blank)
    (hc : beginsMark c = true) (hconflict : isConflictMark (c :: rest) = false)
    (hmark : mark? (c :: rest) = some (mark, after)) :
    Begins (blank ++ c :: rest) (.mark mark) after :=
  begins_of_tokenAt hblank (endsGap_mark hc hconflict) (tokenAt_mark hc hmark true)

theorem begins_text {blank : List Char} (value : String) (hblank : IsBlank blank) (rest : Place) :
    Begins (blank ++ ((Text.quote value).toList ++ rest)) (.text (some value)) rest := by
  have htoken := tokenAt_encode value.toList rest true
  rw [String.ofList_toList] at htoken
  rw [Text.quote, String.toList_ofList]
  exact begins_of_tokenAt hblank (endsGap_encode value.toList rest) htoken

end RouteManifest.Script
