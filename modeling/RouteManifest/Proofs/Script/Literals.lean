import RouteManifest.Manifest.RegexBody
import RouteManifest.Script.Literal.Quoted
import RouteManifest.Text.Quoted

/-!
What the manifest writes between quotes and between slashes is read back by the literal readers of
scripts. A quoted text is read to the same characters. The body of a regular expression is read to
what was written, provided that its source ends neither behind a lone backslash nor inside a
character class: other sources swallow the closing slash.
-/

namespace RouteManifest.Script

open Text.Quoted (hexDigit escape letters escape_cases)

/-! ### Quoted texts -/

theorem hexValue?_hexDigit : ∀ n < 16, hexValue? (hexDigit n) = some n := by
  decide

/-- The four digits after `\u` give the code point of a control character. -/
theorem unicodePoint?_control {n : Nat} (hn : n < 32) (rest : Place) :
    unicodePoint? ('0' :: '0' :: hexDigit (n / 16) :: hexDigit (n % 16) :: rest) =
      some (n, rest) := by
  have hzero : hexValue? '0' = some 0 := by decide
  have hhigh : hexValue? (hexDigit (n / 16)) = some (n / 16) := hexValue?_hexDigit _ (by omega)
  have hlow : hexValue? (hexDigit (n % 16)) = some (n % 16) := hexValue?_hexDigit _ (by omega)
  rw [unicodePoint?]
  · simp only [hzero, hhigh, hlow, Option.bind_eq_bind, Option.bind_some, Option.pure_def,
      Option.some.injEq, Prod.mk.injEq, and_true]
    omega
  · intro heq
    cases heq

/-- The escape of a control character names its code point, which is no half of a surrogate pair. -/
theorem escape?_control {n : Nat} (hn : n < 32) (rest : Place) :
    escape? ('u' :: '0' :: '0' :: hexDigit (n / 16) :: hexDigit (n % 16) :: rest) =
      some ⟨[n], false, rest⟩ := by
  have hlead : isLeadHalf n = false := by
    rw [isLeadHalf, Bool.and_eq_false_imp]
    intro h
    have := of_decide_eq_true h
    omega
  have hliteral : literalPoint? ('0' :: '0' :: hexDigit (n / 16) :: hexDigit (n % 16) :: rest) =
      some (n, rest) := by
    unfold literalPoint?
    rw [unicodePoint?_control hn]
    simp only
    split
    · next heq => cases heq
    · rw [hlead]
      rfl
    · rfl
  rw [escape?, hliteral]
  rfl

/-- An escape that stands for one code point puts it in front of the literal's remainder. -/
theorem quotedText_backslash {text rest : Place} {point : Nat}
    (h : escape? text = some ⟨[point], false, rest⟩) :
    quotedText '"' ('\\' :: text) =
      (quotedText '"' rest).map fun after => { after with points := point :: after.points } := by
  rw [quotedText]
  simp only [Char.reduceEq, if_false, if_true, or_self]
  split
  · next hnone => rw [h] at hnone; cases hnone
  · next escape hsome =>
    rw [h] at hsome
    cases hsome
    rfl

/-- A character that is neither a quote nor the start of an escape nor the end of a line stands for
itself. -/
theorem quotedText_plain {c : Char} (rest : Place) (hquote : c ≠ '"') (hfeed : c ≠ '\n')
    (hreturn : c ≠ '\r')
    (hslash : c ≠ '\\') :
    quotedText '"' (c :: rest) =
      (quotedText '"' rest).map fun after => { after with points := c.toNat :: after.points } := by
  rw [quotedText]
  simp only [hquote, hfeed, hreturn, hslash, if_false, or_self]

theorem escape?_letter {c letter : Char} (h : (c, letter) ∈ letters) (rest : Place) :
    escape? (letter :: rest) = some ⟨[c.toNat], false, rest⟩ := by
  simp only [letters, List.mem_cons, Prod.mk.injEq, List.not_mem_nil, or_false] at h
  rcases h with ⟨rfl, rfl⟩ | ⟨rfl, rfl⟩ | ⟨rfl, rfl⟩ | ⟨rfl, rfl⟩ | ⟨rfl, rfl⟩ | ⟨rfl, rfl⟩ | ⟨rfl,
    rfl⟩ <;> rfl

/-- Reading one escaped character puts it in front of what the rest is read to. -/
theorem quotedText_escape (c : Char) (rest : Place) :
    quotedText '"' (escape c ++ rest) =
      (quotedText '"' rest).map fun after => { after with points := c.toNat :: after.points } := by
  rcases escape_cases c with ⟨letter, hletter, hescape⟩ | ⟨hcontrol, hescape⟩ | ⟨hquote, hslash,
    hcontrol, hescape⟩
  · rw [hescape]
    exact quotedText_backslash (escape?_letter hletter rest)
  · rw [hescape]
    exact quotedText_backslash (escape?_control hcontrol rest)
  · have hfeed : c ≠ '\n' := by rintro rfl; exact absurd hcontrol (by decide)
    have hreturn : c ≠ '\r' := by rintro rfl; exact absurd hcontrol (by decide)
    rw [hescape]
    exact quotedText_plain rest hquote hfeed hreturn hslash

theorem quotedText_quote (rest : Place) :
    quotedText '"' ('"' :: rest) = .ok ⟨[], none, false, rest⟩ := by
  rw [quotedText]
  simp

/-- An encoded text is read up to its closing quote, to its own code points. -/
theorem quotedText_encode (text : List Char) (rest : Place) :
    quotedText '"' (text.flatMap escape ++ '"' :: rest) =
      .ok ⟨text.map Char.toNat, none, false, rest⟩ := by
  induction text with
  | nil => exact quotedText_quote rest
  | cons c text ih =>
    rw [List.flatMap_cons, List.append_assoc, quotedText_escape, ih]
    rfl

theorem isLeadHalf_toNat (c : Char) : isLeadHalf c.toNat = false := by
  have := c.valid
  simp only [UInt32.isValidChar, Nat.isValidChar] at this
  simp only [isLeadHalf, Char.toNat, Bool.and_eq_false_imp, decide_eq_true_eq,
    decide_eq_false_iff_not]
  omega

theorem isTrailHalf_toNat (c : Char) : isTrailHalf c.toNat = false := by
  have := c.valid
  simp only [UInt32.isValidChar, Nat.isValidChar] at this
  simp only [isTrailHalf, Char.toNat, Bool.and_eq_false_imp, decide_eq_true_eq,
    decide_eq_false_iff_not]
  omega

/-- No character is half of a surrogate pair, so the code points of a text are joined to the same
text. -/
theorem joinHalves?_toNat (text : List Char) : joinHalves? (text.map Char.toNat) = some text := by
  induction text with
  | nil => rfl
  | cons c rest ih =>
    cases rest with
    | nil => simp [joinHalves?, isLeadHalf_toNat, isTrailHalf_toNat]
    | cons next rest =>
      simp only [List.map_cons] at ih ⊢
      simp [joinHalves?, isLeadHalf_toNat, isTrailHalf_toNat, ih]

/-! ### Bodies of regular expressions -/

open RegexBody (Scan lineEndEscape? writeFrom)

/-- A piece of a body that is passed over as it stands. The reader enters it outside or inside a
class and leaves it outside or inside one. -/
def Passes (before : Bool) (piece : List Char) (after : Bool) : Prop :=
  ∀ text body rest : List Char, regexBody? after text = some (body, rest) →
    regexBody? before (piece ++ text) = some (piece ++ body, rest)

theorem Passes.nil (inClass : Bool) : Passes inClass [] inClass := fun _ _ _ h => h

theorem Passes.append {before between after : Bool} {first second : List Char}
    (hfirst : Passes before first between)
    (hsecond : Passes between second after) : Passes before (first ++ second) after := by
  intro text body rest h
  rw [List.append_assoc, List.append_assoc]
  exact hfirst _ _ _ (hsecond text body rest h)

theorem passes_escaped {c : Char} (inClass : Bool) (hfeed : c ≠ '\n') (hreturn : c ≠ '\r') :
    Passes inClass ['\\', c] inClass := by
  intro text body rest h
  simp [regexBody?, hfeed, hreturn, h]

/-- A character that is no backslash and ends neither the line nor the body opens a class, closes
one or does neither. -/
theorem passes_single {c : Char} (inClass : Bool) (hfeed : c ≠ '\n') (hreturn : c ≠ '\r')
    (hback : c ≠ '\\')
    (hslash : c ≠ '/' ∨ inClass = true) :
    Passes inClass [c] (if c = '[' then true else if c = ']' then false else inClass) := by
  intro text body rest h
  have hends : ¬(c = '/' ∧ (!inClass) = true) := by grind
  cases text with
  | nil => cases h
  | cons next text =>
    rw [List.singleton_append, regexBody?, if_neg (by grind), if_neg hends, if_neg hback]
    simp only [h, Option.map_some, List.singleton_append]

/-- A character that stands for itself wherever it occurs in a body. -/
def isOrdinary (c : Char) : Bool :=
  c != '\n' && c != '\r' && c != '\\' && c != '/' && c != '[' && c != ']'

theorem passes_ordinary (inClass : Bool) {piece : List Char} (h : piece.all isOrdinary = true) :
    Passes inClass piece inClass := by
  induction piece with
  | nil => exact Passes.nil inClass
  | cons c piece ih =>
    rw [List.all_cons, Bool.and_eq_true] at h
    obtain ⟨hc, hpiece⟩ := h
    simp only [isOrdinary, Bool.and_eq_true, bne_iff_ne] at hc
    obtain ⟨⟨⟨⟨⟨hfeed, hreturn⟩, hback⟩, hslash⟩, hopen⟩, hclose⟩ := hc
    have hsingle := passes_single inClass hfeed hreturn hback (.inl hslash)
    rw [if_neg hopen, if_neg hclose] at hsingle
    exact hsingle.append (ih hpiece)

theorem ne_lineEnd_of_none {c : Char} (h : lineEndEscape? c = none) :
    c ≠ '\n' ∧ c ≠ '\r' ∧ c ≠ '\u2028' ∧ c ≠ '\u2029' := by
  unfold lineEndEscape? at h
  grind

theorem lineEndEscape?_eq {c : Char} {escape : List Char} (h : lineEndEscape? c = some escape) :
    escape = ['n'] ∨ escape = ['r'] ∨ escape = ['u', '2', '0', '2', '8'] ∨
      escape = ['u', '2', '0', '2', '9'] := by
  unfold lineEndEscape? at h
  grind

/-- The escape of a line end is one escaped character and, for the separators beyond ASCII, four
digits. -/
theorem passes_lineEnd {c : Char} {escape : List Char} (inClass : Bool)
    (h : lineEndEscape? c = some escape) :
    Passes inClass ('\\' :: escape) inClass := by
  have hunicode : Passes inClass ['\\', 'u'] inClass :=
    passes_escaped inClass (by decide) (by decide)
  rcases lineEndEscape?_eq h with rfl | rfl | rfl | rfl
  · exact passes_escaped inClass (by decide) (by decide)
  · exact passes_escaped inClass (by decide) (by decide)
  · exact hunicode.append (passes_ordinary inClass rfl)
  · exact hunicode.append (passes_ordinary inClass rfl)

theorem next_unescaped {c : Char} (inClass : Bool) (hback : c ≠ '\\') :
    Scan.next ⟨inClass, false⟩ c =
      ⟨if c = '[' then true else if c = ']' then false else inClass, false⟩ := by
  by_cases hopen : c = '['
  · simp [Scan.next, hopen]
  by_cases hclose : c = ']'
  · simp [Scan.next, hclose]
  · simp [Scan.next, hback, hopen, hclose]

theorem next_escaped (c : Char) (inClass : Bool) :
    Scan.next ⟨inClass, true⟩ c = ⟨inClass, false⟩ := rfl

/-- What is written for a character that no backslash escapes is passed over, and the class that it
opens or closes for the writer it opens or closes for the reader. -/
theorem passes_write {c : Char} (inClass : Bool) (hback : c ≠ '\\') :
    Passes inClass (Scan.write ⟨inClass, false⟩ c)
      (if c = '[' then true else if c = ']' then false else inClass) := by
  cases hend : lineEndEscape? c with
  | some escape =>
    have hopen : c ≠ '[' := by rintro rfl; cases hend
    have hclose : c ≠ ']' := by rintro rfl; cases hend
    simp only [Scan.write, hend, Bool.false_eq_true, if_false, if_neg hopen, if_neg hclose]
    exact passes_lineEnd inClass hend
  | none =>
    obtain ⟨hfeed, hreturn, -, -⟩ := ne_lineEnd_of_none hend
    simp only [Scan.write, hend]
    split
    · next hslash =>
      rw [hslash.1]
      exact passes_escaped inClass (by decide) (by decide)
    · next hslash =>
      exact passes_single inClass hfeed hreturn hback
        (by simpa [Decidable.imp_iff_not_or] using hslash)

/-- What is written for a character behind a backslash is passed over together with the
backslash. -/
theorem passes_write_escaped (c : Char) (inClass : Bool) :
    Passes inClass ('\\' :: Scan.write ⟨inClass, true⟩ c) inClass := by
  cases hend : lineEndEscape? c with
  | some escape =>
    simp only [Scan.write, hend, if_true]
    exact passes_lineEnd inClass hend
  | none =>
    obtain ⟨hfeed, hreturn, -, -⟩ := ne_lineEnd_of_none hend
    simp only [Scan.write, hend, Bool.not_true, Bool.false_eq_true, false_and, and_false, if_false]
    exact passes_escaped inClass hfeed hreturn

/-- What is written for a body is passed over, unless a backslash at its end is left to escape what
comes next. The induction takes the states with and without a pending backslash together. -/
theorem passes_writeFrom (body : List Char) (inClass : Bool) :
    ((body.foldl Scan.next ⟨inClass, false⟩).escaped = false →
      Passes inClass (writeFrom ⟨inClass, false⟩ body)
        (body.foldl Scan.next ⟨inClass, false⟩).inClass) ∧
    ((body.foldl Scan.next ⟨inClass, true⟩).escaped = false →
      Passes inClass ('\\' :: writeFrom ⟨inClass, true⟩ body)
        (body.foldl Scan.next ⟨inClass, true⟩).inClass) := by
  induction body generalizing inClass with
  | nil => exact ⟨fun _ => Passes.nil inClass, fun h => nomatch h⟩
  | cons c body ih =>
    simp only [List.foldl_cons, writeFrom]
    constructor
    · intro h
      by_cases hback : c = '\\'
      · subst hback
        exact (ih inClass).2 h
      · rw [next_unescaped inClass hback] at h ⊢
        exact (passes_write inClass hback).append ((ih _).1 h)
    · rw [next_escaped]
      intro h
      exact (passes_write_escaped c inClass).append ((ih inClass).1 h)

/-! ### Sources as they are written -/

/-- A body without special characters is written as it stands, whatever the state. -/
theorem writeFrom_eq_self {body : List Char} (h : body.any RegexBody.isSpecial = false)
    (scan : Scan) :
    writeFrom scan body = body := by
  induction body generalizing scan with
  | nil => rfl
  | cons c body ih =>
    rw [List.any_cons, Bool.or_eq_false_iff] at h
    have hc : c ≠ '/' ∧ c ≠ '\n' ∧ c ≠ '\r' ∧ c ≠ '\u2028' ∧ c ≠ '\u2029' := by
      simpa [RegexBody.isSpecial, and_assoc] using h.1
    rw [writeFrom, ih h.2]
    simp [Scan.write, lineEndEscape?, hc]

/-- Sources that are kept as they are need no rule of their own: writing them changes nothing. -/
theorem toList_regexSource {source : String} (h : source.toList ≠ []) :
    (regexSource source).toList = writeFrom {} source.toList := by
  have hempty : source.isEmpty = false := by
    simpa using fun heq : source = "" => h (by rw [heq]; rfl)
  rw [regexSource, hempty, if_neg (by simp)]
  cases hspecial : source.toList.any RegexBody.isSpecial with
  | true => rw [if_pos rfl, String.toList_ofList]
  | false => rw [if_neg (by simp), writeFrom_eq_self hspecial]

/-- A source that a literal can carry. It begins no comment, and it ends neither behind a lone
backslash nor inside a character class. -/
structure Carried (source : String) : Prop where
  noComment : source.toList.head? ≠ some '*'
  noEscape : (source.toList.foldl Scan.next {}).escaped = false
  noClass : (source.toList.foldl Scan.next {}).inClass = false

instance (source : String) : Decidable (Carried source) :=
  decidable_of_iff (_ ∧ _ ∧ _) ⟨fun h => ⟨h.1, h.2.1, h.2.2⟩, fun h => ⟨h.1, h.2, h.3⟩⟩

/-- The body that is written for a source is read back up to its closing slash. -/
theorem regexBody?_regexSource {source : String} (h : Carried source) (rest : Place) :
    regexBody? false ((regexSource source).toList ++ '/' :: rest) =
      some ((regexSource source).toList, rest) := by
  have hend : regexBody? false ('/' :: rest) = some ([], rest) := by
    cases rest <;> simp [regexBody?]
  suffices hpasses : Passes false (regexSource source).toList false by
    have hread := hpasses _ _ _ hend
    rwa [List.append_nil] at hread
  by_cases hempty : source.toList = []
  · have hsource : source = "" := String.toList_eq_nil_iff.1 hempty
    subst hsource
    exact passes_ordinary false (by decide)
  · rw [toList_regexSource hempty]
    have hpasses := (passes_writeFrom source.toList false).1 h.noEscape
    rwa [h.noClass] at hpasses

theorem isLineEnd_write {scan : Scan} {c d : Char} (h : d ∈ scan.write c) :
    isLineEnd d = false := by
  unfold Scan.write at h
  cases hend : lineEndEscape? c with
  | some escape =>
    have hall : ('\\' :: escape).all (!isLineEnd ·) = true := by
      rcases lineEndEscape?_eq hend with rfl | rfl | rfl | rfl <;> decide
    have hescape : ∀ e ∈ '\\' :: escape, isLineEnd e = false := by simpa using hall
    simp only [hend] at h
    split at h
    · exact hescape d (List.mem_cons_of_mem _ h)
    · exact hescape d h
  | none =>
    obtain ⟨hfeed, hreturn, hline, hparagraph⟩ := ne_lineEnd_of_none hend
    have hc : isLineEnd c = false := by simp [isLineEnd, hfeed, hreturn, hline, hparagraph]
    simp only [hend] at h
    grind [isLineEnd]

/-- No line ends inside a body that was written. -/
theorem isLineEnd_writeFrom {scan : Scan} {body : List Char} {c : Char}
    (h : c ∈ writeFrom scan body) :
    isLineEnd c = false := by
  induction body generalizing scan with
  | nil => cases h
  | cons d body ih =>
    rcases List.mem_append.1 h with hhead | htail
    · exact isLineEnd_write hhead
    · exact ih htail

theorem isLineEnd_regexSource {source : String} {c : Char} (h : c ∈ (regexSource source).toList) :
    isLineEnd c = false := by
  by_cases hempty : source.toList = []
  · have hsource : source = "" := String.toList_eq_nil_iff.1 hempty
    subst hsource
    have hcases : c = '(' ∨ c = '?' ∨ c = ':' ∨ c = ')' := by simpa [regexSource] using h
    rcases hcases with rfl | rfl | rfl | rfl <;> rfl
  · rw [toList_regexSource hempty] at h
    exact isLineEnd_writeFrom h

/-- Behind the opening slash neither a line comment nor a block comment begins. -/
theorem head_regexSource {source : String} (h : Carried source) :
    ∃ c rest, (regexSource source).toList = c :: rest ∧ c ≠ '/' ∧ c ≠ '*' := by
  cases hsource : source.toList with
  | nil =>
    have hempty : source = "" := String.toList_eq_nil_iff.1 hsource
    subst hempty
    exact ⟨'(', _, rfl, by decide, by decide⟩
  | cons c rest =>
    have hstar : c ≠ '*' := by simpa [hsource] using h.noComment
    have hwrite : ∃ d tail, Scan.write {} c = d :: tail ∧ d ≠ '/' ∧ d ≠ '*' := by
      cases hend : lineEndEscape? c with
      | some escape => exact ⟨'\\', escape, by simp [Scan.write, hend], by decide, by decide⟩
      | none =>
        by_cases hslash : c = '/'
        · exact ⟨'\\', ['/'], by subst hslash; rfl, by decide, by decide⟩
        · exact ⟨c, [], by simp [Scan.write, hend, hslash], hslash, hstar⟩
    obtain ⟨d, tail, heq, hd⟩ := hwrite
    refine ⟨d, tail ++ writeFrom (Scan.next {} c) rest, ?_, hd⟩
    rw [toList_regexSource (by simp [hsource]), hsource, writeFrom, heq]
    rfl

end RouteManifest.Script
