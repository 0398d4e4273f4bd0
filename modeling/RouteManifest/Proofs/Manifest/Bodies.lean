import RouteManifest.Extraction
import RouteManifest.Proofs.Script.Literals
import RouteManifest.Proofs.Script.Reading
import RouteManifest.Script.Grammar.Expression
import RouteManifest.Script.Site

/-!
What writing the body of a regular expression keeps. A body is read from left to right into atoms:
unescaped characters, and backslashes with what they escape. The reader has its own account of
classes and escapes and knows nothing of how bodies are written. Writing goes atom by atom. It
changes none into one that scripts read otherwise, and it changes nothing in a body that can stand
between slashes already.
-/

namespace RouteManifest.RegexBody

open Script

open Script.Read (outcome)

/-! ### Reading a body -/

inductive Form where
  | plain (c : Char)
  /-- A backslash and what it escapes. -/
  | escaped (text : List Char)
  /-- A backslash at the very end. -/
  | backslash
  deriving DecidableEq

/-- A part of a body, and whether it lies inside a character class. -/
structure Atom where
  inClass : Bool
  form : Form
  deriving DecidableEq

def Atom.text (atom : Atom) : List Char :=
  match atom.form with
  | .plain c => [c]
  | .escaped text => '\\' :: text
  | .backslash => ['\\']

/-- Whether a class is open behind an unescaped character. -/
def classAfter (inClass : Bool) (c : Char) : Bool :=
  if c = '[' then true else if c = ']' then false else inClass

/-- Whether a text begins with that many hexadecimal digits. -/
def beginsHex : Nat → List Char → Bool
  | 0, _ => true
  | _ + 1, [] => false
  | count + 1, c :: rest => (hexValue? c).isSome && beginsHex count rest

/-- The atoms of a body. A backslash escapes the next character, and with a `u` the four digits
behind it. -/
def atoms (inClass : Bool) (body : List Char) : List Atom :=
  match body with
  | [] => []
  | c :: rest =>
      if c = '\\' then
        match rest with
        | [] => [⟨inClass, .backslash⟩]
        | next :: after =>
            if next = 'u' ∧ beginsHex 4 after = true then
              ⟨inClass, .escaped (next :: after.take 4)⟩ :: atoms inClass (after.drop 4)
            else ⟨inClass, .escaped [next]⟩ :: atoms inClass after
      else ⟨inClass, .plain c⟩ :: atoms (classAfter inClass c) rest
termination_by body.length
decreasing_by all_goals simp only [List.length_cons, List.length_drop]; omega

section
variable {inClass : Bool} {c : Char} {text : List Char}

@[simp] theorem atoms_nil : atoms inClass [] = [] := by
  rw [atoms]

@[simp] theorem atoms_backslash : atoms inClass ['\\'] = [⟨inClass, .backslash⟩] := by
  rw [atoms, if_pos rfl]

theorem atoms_plain (hc : c ≠ '\\') :
    atoms inClass (c :: text) = ⟨inClass, .plain c⟩ :: atoms (classAfter inClass c) text := by
  cases text <;> simp [atoms, hc]

theorem atoms_digits (h : beginsHex 4 text = true) :
    atoms inClass ('\\' :: 'u' :: text) =
      ⟨inClass, .escaped ('u' :: text.take 4)⟩ :: atoms inClass (text.drop 4) := by
  rw [atoms, if_pos rfl]
  exact if_pos ⟨rfl, h⟩

theorem atoms_escaped (h : ¬(c = 'u' ∧ beginsHex 4 text = true)) :
    atoms inClass ('\\' :: c :: text) = ⟨inClass, .escaped [c]⟩ :: atoms inClass text := by
  rw [atoms, if_pos rfl]
  exact if_neg h

theorem atoms_escaped_of_ne (hc : c ≠ 'u') :
    atoms inClass ('\\' :: c :: text) = ⟨inClass, .escaped [c]⟩ :: atoms inClass text :=
  atoms_escaped fun h => hc h.1

end

/-- Every body is that of its atoms: nothing is lost in reading. -/
theorem flatMap_text_atoms (inClass : Bool) (body : List Char) :
    (atoms inClass body).flatMap Atom.text = body := by
  induction inClass, body using atoms.induct with
  | case1 inClass => rw [atoms_nil, List.flatMap_nil]
  | case2 inClass => simp [Atom.text]
  | case3 inClass c text h ih =>
    obtain ⟨rfl, hdigits⟩ := h
    rw [atoms_digits hdigits]
    simp [Atom.text, ih]
  | case4 inClass c text h ih =>
    rw [atoms_escaped h]
    simp [Atom.text, ih]
  | case5 inClass c text hc ih =>
    rw [atoms_plain hc]
    simp [Atom.text, ih]

/-- A character of an atom stands in the body. -/
theorem mem_of_mem_text {inClass : Bool} {body : List Char} {atom : Atom}
    (hatom : atom ∈ atoms inClass body) {c : Char}
    (hc : c ∈ atom.text) : c ∈ body := by
  rw [← flatMap_text_atoms inClass body]
  exact List.mem_flatMap_of_mem hatom hc

/-! ### Hexadecimal digits -/

/-- No character that a writer or a reader of bodies looks at is a digit. -/
theorem ne_of_isSome_hexValue? {c d : Char} (hc : (hexValue? c).isSome = true)
    (hd : (hexValue? d).isSome = false) :
    c ≠ d := by
  rintro rfl
  rw [hc] at hd
  cases hd

theorem lineEndEscape?_of_hex {c : Char} (hc : (hexValue? c).isSome = true) :
    lineEndEscape? c = none := by
  have hfeed : c ≠ '\n' := ne_of_isSome_hexValue? hc rfl
  have hreturn : c ≠ '\r' := ne_of_isSome_hexValue? hc rfl
  have hline : c ≠ '\u2028' := ne_of_isSome_hexValue? hc rfl
  have hparagraph : c ≠ '\u2029' := ne_of_isSome_hexValue? hc rfl
  simp [lineEndEscape?, hfeed, hreturn, hline, hparagraph]

theorem classAfter_of_hex {c : Char} (hc : (hexValue? c).isSome = true) (inClass : Bool) :
    classAfter inClass c = inClass := by
  have hopen : c ≠ '[' := ne_of_isSome_hexValue? hc rfl
  have hclose : c ≠ ']' := ne_of_isSome_hexValue? hc rfl
  rw [classAfter, if_neg hopen, if_neg hclose]

theorem write_of_hex {c : Char} (hc : (hexValue? c).isSome = true) (scan : Scan) :
    scan.write c = [c] := by
  have hslash : c ≠ '/' := ne_of_isSome_hexValue? hc rfl
  simp [Scan.write, lineEndEscape?_of_hex hc, hslash]

theorem next_of_ne {c : Char} (inClass : Bool) (hc : c ≠ '\\') :
    Scan.next ⟨inClass, false⟩ c = ⟨classAfter inClass c, false⟩ := Script.next_unescaped inClass hc

theorem writeFrom_of_hex {c : Char} (hc : (hexValue? c).isSome = true) (inClass : Bool)
    (rest : List Char) :
    writeFrom ⟨inClass, false⟩ (c :: rest) = c :: writeFrom ⟨inClass, false⟩ rest := by
  have hback : c ≠ '\\' := ne_of_isSome_hexValue? hc rfl
  rw [writeFrom, write_of_hex hc, next_of_ne inClass hback, classAfter_of_hex hc,
    List.singleton_append]

/-- What is written begins with the digits that the body begins with, and with no others. -/
theorem beginsHex_writeFrom (count : Nat) (inClass : Bool) (body : List Char) :
    beginsHex count (writeFrom ⟨inClass, false⟩ body) = beginsHex count body := by
  induction count generalizing body with
  | zero => rfl
  | succ count ih =>
    cases body with
    | nil => rfl
    | cons c rest =>
      cases hc : (hexValue? c).isSome with
      | true => rw [writeFrom_of_hex hc, beginsHex, beginsHex, ih]
      | false =>
        -- The character is written as it is or behind a backslash.
        obtain ⟨d, tail, hwrite, hd⟩ : ∃ d tail, Scan.write ⟨inClass, false⟩ c = d :: tail ∧
            (hexValue? d).isSome = false := by
          cases hend : lineEndEscape? c with
          | some escape => exact ⟨'\\', escape, by simp [Scan.write, hend], rfl⟩
          | none =>
            by_cases hslash : c = '/' ∧ inClass = false
            · obtain ⟨rfl, rfl⟩ := hslash
              exact ⟨'\\', ['/'], rfl, rfl⟩
            · exact ⟨c, [], by simpa [Scan.write, hend] using hslash, hc⟩
        rw [writeFrom, hwrite, List.cons_append, beginsHex, beginsHex, hc, hd, Bool.false_and,
          Bool.false_and]

theorem exists_of_beginsHex {text : List Char} (h : beginsHex 4 text = true) :
    ∃ a b c d rest, text = a :: b :: c :: d :: rest := by
  rcases text with _ | ⟨a, text⟩
  · cases h
  rcases text with _ | ⟨b, text⟩
  · simp [beginsHex] at h
  rcases text with _ | ⟨c, text⟩
  · simp [beginsHex] at h
  rcases text with _ | ⟨d, text⟩
  · simp [beginsHex] at h
  exact ⟨a, b, c, d, text, rfl⟩

/-- Digits are written as they are. -/
theorem writeFrom_of_beginsHex {count : Nat} {body : List Char} (h : beginsHex count body = true)
    (inClass : Bool) :
    writeFrom ⟨inClass, false⟩ body =
      body.take count ++ writeFrom ⟨inClass, false⟩ (body.drop count) := by
  induction count generalizing body with
  | zero => rfl
  | succ count ih =>
    cases body with
    | nil => rfl
    | cons c rest =>
      rw [beginsHex, Bool.and_eq_true] at h
      rw [writeFrom_of_hex h.1, ih h.2, List.take_succ_cons, List.drop_succ_cons, List.cons_append]

/-! ### Writing atom by atom -/

/-- How an atom is written: a line end as its escape, and a slash outside of a class behind a
backslash. -/
def Atom.written (atom : Atom) : Atom :=
  match atom.form with
  | .plain c =>
      match lineEndEscape? c with
      | some escape => { atom with form := .escaped escape }
      | none =>
          if c = '/' ∧ atom.inClass = false then { atom with form := .escaped ['/'] } else atom
  | .escaped [c] =>
      match lineEndEscape? c with
      | some escape => { atom with form := .escaped escape }
      | none => atom
  | _ => atom

section
variable {inClass : Bool} {c : Char} {text : List Char}

/-- The escape of a line end is one atom, whatever follows it. -/
theorem atoms_lineEnd {escape : List Char} (h : lineEndEscape? c = some escape) :
    atoms inClass ('\\' :: (escape ++ text)) =
      ⟨inClass, .escaped escape⟩ :: atoms inClass text := by
  rcases Script.lineEndEscape?_eq h with rfl | rfl | rfl | rfl
  · exact atoms_escaped_of_ne (by decide)
  · exact atoms_escaped_of_ne (by decide)
  · exact atoms_digits rfl
  · exact atoms_digits rfl

theorem atoms_write_plain (hc : c ≠ '\\') :
    atoms inClass (Scan.write ⟨inClass, false⟩ c ++ text) =
      Atom.written ⟨inClass, .plain c⟩ :: atoms (classAfter inClass c) text := by
  cases hend : lineEndEscape? c with
  | some escape =>
    have hclass : classAfter inClass c = inClass := by
      have hopen : c ≠ '[' := by rintro rfl; cases hend
      have hclose : c ≠ ']' := by rintro rfl; cases hend
      rw [classAfter, if_neg hopen, if_neg hclose]
    simp only [Scan.write, Atom.written, hend, hclass, Bool.false_eq_true, if_false,
      List.cons_append]
    exact atoms_lineEnd hend
  | none =>
    by_cases hslash : c = '/' ∧ inClass = false
    · obtain ⟨rfl, rfl⟩ := hslash
      exact atoms_escaped_of_ne (by decide)
    · have hwrite : Scan.write ⟨inClass, false⟩ c = [c] := by simpa [Scan.write, hend] using hslash
      simp only [Atom.written, hend, if_neg hslash, hwrite]
      exact atoms_plain hc

theorem atoms_write_escaped (h : ¬(c = 'u' ∧ beginsHex 4 text = true)) :
    atoms inClass ('\\' :: (Scan.write ⟨inClass, true⟩ c ++ text)) =
      Atom.written ⟨inClass, .escaped [c]⟩ :: atoms inClass text := by
  cases hend : lineEndEscape? c with
  | some escape =>
    simp only [Scan.write, Atom.written, hend, if_true]
    exact atoms_lineEnd hend
  | none =>
    have hwrite : Scan.write ⟨inClass, true⟩ c = [c] := by simp [Scan.write, hend]
    simp only [Atom.written, hend, hwrite]
    exact atoms_escaped h

end

theorem writeFrom_backslash (inClass : Bool) (c : Char) (rest : List Char) :
    writeFrom ⟨inClass, false⟩ ('\\' :: c :: rest) =
      '\\' :: (Scan.write ⟨inClass, true⟩ c ++ writeFrom ⟨inClass, false⟩ rest) := rfl

/-- What is written for a body has the atoms of the body, each as it is written. The induction
follows the reader, which takes a backslash together with what it escapes. -/
theorem atoms_writeFrom (inClass : Bool) (body : List Char) :
    atoms inClass (writeFrom ⟨inClass, false⟩ body) = (atoms inClass body).map Atom.written := by
  induction inClass, body using atoms.induct with
  | case1 inClass => simp [writeFrom]
  | case2 inClass =>
    have hwrite : writeFrom ⟨inClass, false⟩ ['\\'] = ['\\'] := rfl
    rw [hwrite, atoms_backslash]
    rfl
  | case3 inClass c text h ih =>
    obtain ⟨rfl, hdigits⟩ := h
    obtain ⟨a, b, c, d, rest, rfl⟩ := exists_of_beginsHex hdigits
    have hwrite : Scan.write ⟨inClass, true⟩ 'u' = ['u'] := rfl
    have hbegins : beginsHex 4 (writeFrom ⟨inClass, false⟩ (a :: b :: c :: d :: rest)) = true := by
      rw [beginsHex_writeFrom, hdigits]
    rw [writeFrom_backslash, hwrite, List.singleton_append, atoms_digits hbegins,
      atoms_digits hdigits, writeFrom_of_beginsHex hdigits, List.map_cons, ← ih]
    rfl
  | case4 inClass c text h ih =>
    have h' : ¬(c = 'u' ∧ beginsHex 4 (writeFrom ⟨inClass, false⟩ text) = true) := by
      rwa [beginsHex_writeFrom]
    rw [writeFrom_backslash, atoms_write_escaped h', atoms_escaped h, List.map_cons, ih]
  | case5 inClass c text hc ih =>
    rw [writeFrom, next_of_ne inClass hc, atoms_write_plain hc, atoms_plain hc, List.map_cons, ih]

/-- What writing does to an atom: it escapes a line end or a slash outside of a class, and else it
changes nothing. -/
theorem Atom.written_cases (atom : Atom) :
    (∃ c escape, (atom.form = .plain c ∨ atom.form = .escaped [c]) ∧
      lineEndEscape? c = some escape ∧
      atom.written = ⟨atom.inClass, .escaped escape⟩) ∨
    (atom = ⟨false, .plain '/'⟩ ∧ atom.written = ⟨false, .escaped ['/']⟩) ∨
    (atom ≠ ⟨false, .plain '/'⟩ ∧ atom.written = atom) := by
  obtain ⟨inClass, form⟩ := atom
  cases form with
  | backslash => exact .inr (.inr ⟨nofun, rfl⟩)
  | plain c =>
    cases hend : lineEndEscape? c with
    | some escape => exact .inl ⟨c, escape, .inl rfl, hend, by simp only [written, hend]⟩
    | none =>
      by_cases hslash : c = '/' ∧ inClass = false
      · obtain ⟨rfl, rfl⟩ := hslash
        exact .inr (.inl ⟨rfl, rfl⟩)
      · refine .inr (.inr ⟨?_, by simp only [written, hend, if_neg hslash]⟩)
        intro heq
        cases heq
        exact hslash ⟨rfl, rfl⟩
  | escaped text =>
    cases text with
    | nil => exact .inr (.inr ⟨nofun, rfl⟩)
    | cons c rest =>
      cases rest with
      | cons d rest => exact .inr (.inr ⟨nofun, rfl⟩)
      | nil =>
        cases hend : lineEndEscape? c with
        | some escape => exact .inl ⟨c, escape, .inr rfl, hend, by simp only [written, hend]⟩
        | none => exact .inr (.inr ⟨nofun, by simp only [written, hend]⟩)

/-! ### What is read -/

/-- The line end that is meant behind a backslash: the character itself or its escape. -/
def lineEnd? (escaped : List Char) : Option Char :=
  if escaped = ['\n'] ∨ escaped = ['n'] then some '\n'
  else if escaped = ['\r'] ∨ escaped = ['r'] then some '\r'
  else if escaped = ['\u2028'] ∨ escaped = ['u', '2', '0', '2', '8'] then some '\u2028'
  else if escaped = ['\u2029'] ∨ escaped = ['u', '2', '0', '2', '9'] then some '\u2029'
  else none

/-- One spelling for all atoms that scripts read alike: a line end stands for itself, and a slash
outside of a class has no backslash. -/
def Atom.reading (atom : Atom) : Atom :=
  match atom.form with
  | .escaped text =>
      match lineEnd? text with
      | some c => { atom with form := .plain c }
      | none =>
          if text = ['/'] ∧ atom.inClass = false then { atom with form := .plain '/' } else atom
  | _ => atom

theorem lineEnd?_escape {c : Char} {escape : List Char} (h : lineEndEscape? c = some escape) :
    lineEnd? escape = some c ∧ lineEnd? [c] = some c := by
  unfold lineEndEscape? at h
  split at h
  · next hfeed =>
    subst hfeed
    cases h
    exact ⟨rfl, rfl⟩
  split at h
  · next hreturn =>
    subst hreturn
    cases h
    exact ⟨rfl, rfl⟩
  split at h
  · next hline =>
    subst hline
    cases h
    exact ⟨rfl, rfl⟩
  split at h
  · next hparagraph =>
    subst hparagraph
    cases h
    exact ⟨rfl, rfl⟩
  · cases h

/-- An atom is read like what is written for it. -/
theorem Atom.reading_written (atom : Atom) : atom.written.reading = atom.reading := by
  rcases atom.written_cases with ⟨c, escape, hform, hend, hwritten⟩ | ⟨rfl, -⟩ | ⟨-, hwritten⟩
  · obtain ⟨hescape, hself⟩ := lineEnd?_escape hend
    obtain ⟨inClass, form⟩ := atom
    rw [hwritten]
    rcases hform with rfl | rfl
    · simp only [reading, hescape]
    · simp only [reading, hescape, hself]
  · rfl
  · rw [hwritten]

theorem ne_nil_of_ne_empty {source : String} (h : source ≠ "") : source.toList ≠ [] :=
  fun hnil => h (String.toList_eq_nil_iff.1 hnil)

/-- A body that is written is read as the body is, atom by atom. So no escape comes about between
two atoms, no backslash is lost, and classes begin and end where they did. -/
theorem readings_regexSource {source : String} (h : source ≠ "") :
    (atoms false (regexSource source).toList).map Atom.reading =
      (atoms false source.toList).map Atom.reading := by
  rw [Script.toList_regexSource (ne_nil_of_ne_empty h), atoms_writeFrom, List.map_map]
  apply List.map_congr_left
  intro atom _
  exact atom.reading_written

/-- Line ends and slashes behind backslashes, a class that is never closed, and a backslash at the
end. -/
def unbalanced : String := "\\\\/\\\n]\\u2028[/\u2028\\\r\\"

theorem readings_regexSource_unbalanced :
    unbalanced ≠ "" ∧ regexSource unbalanced = "\\\\\\/\\n]\\u2028[/\\u2028\\r\\" ∧
      (atoms false (regexSource unbalanced).toList).map Atom.reading =
        [⟨false, .escaped ['\\']⟩, ⟨false, .plain '/'⟩, ⟨false, .plain '\n'⟩, ⟨false, .plain ']'⟩,
          ⟨false, .plain '\u2028'⟩, ⟨false, .plain '['⟩, ⟨true, .plain '/'⟩,
          ⟨true, .plain '\u2028'⟩, ⟨true, .plain '\r'⟩, ⟨true, .backslash⟩] := by
  have hsource : unbalanced ≠ "" := by decide
  refine ⟨hsource, by decide, (readings_regexSource hsource).trans ?_⟩
  decide +kernel

/-! ### Bodies that can stand between slashes -/

/-- A body that can stand between two slashes: there is something in it, no line ends in it, and
outside of classes every slash is escaped. -/
structure Standing (body : List Char) : Prop where
  nonempty : body ≠ []
  oneLine : ∀ c ∈ body, isLineEnd c = false
  covered : ⟨false, .plain '/'⟩ ∉ atoms false body

theorem lineEndEscape?_of_not_lineEnd {c : Char} (h : isLineEnd c = false) :
    lineEndEscape? c = none := by
  simp only [isLineEnd, Bool.or_eq_false_iff, beq_eq_false_iff_ne] at h
  obtain ⟨⟨⟨hfeed, hreturn⟩, hline⟩, hparagraph⟩ := h
  simp [lineEndEscape?, hfeed, hreturn, hline, hparagraph]

theorem Atom.written_ne_slash (atom : Atom) : atom.written ≠ ⟨false, .plain '/'⟩ := by
  rcases atom.written_cases with ⟨c, escape, -, -, hwritten⟩ | ⟨-, hwritten⟩ | ⟨hslash, hwritten⟩
  · simp [hwritten]
  · simp [hwritten]
  · rwa [hwritten]

/-- An atom without a line end is written as it stands, unless it is a slash outside of a class. -/
theorem Atom.written_eq_self {atom : Atom} (hlines : ∀ c ∈ atom.text, isLineEnd c = false)
    (hslash : atom ≠ ⟨false, .plain '/'⟩) : atom.written = atom := by
  rcases atom.written_cases with ⟨c, escape, hform, hend, -⟩ | ⟨heq, -⟩ | ⟨-, hwritten⟩
  · have hmem : c ∈ atom.text := by
      rcases hform with hform | hform <;> simp [text, hform]
    rw [lineEndEscape?_of_not_lineEnd (hlines c hmem)] at hend
    cases hend
  · exact absurd heq hslash
  · exact hwritten

theorem writeFrom_of_standing {body : List Char} (h : Standing body) :
    writeFrom {} body = body := by
  have hwritten : (atoms false body).map Atom.written = (atoms false body).map id := by
    apply List.map_congr_left
    intro atom hatom
    apply Atom.written_eq_self
    · intro c hc
      exact h.oneLine c (mem_of_mem_text hatom hc)
    · rintro rfl
      exact h.covered hatom
  calc writeFrom {} body
      = (atoms false (writeFrom ⟨false, false⟩ body)).flatMap Atom.text :=
        (flatMap_text_atoms false _).symm
    _ = (atoms false body).flatMap Atom.text := by rw [atoms_writeFrom, hwritten, List.map_id]
    _ = body := flatMap_text_atoms false body

theorem standing_regexSource (source : String) : Standing (regexSource source).toList := by
  by_cases hempty : source = ""
  · subst hempty
    have hgroup : (regexSource "").toList = ['(', '?', ':', ')'] := rfl
    rw [hgroup]
    exact ⟨by simp, by simp [isLineEnd], by simp [atoms_plain]⟩
  · have hatoms : atoms false (regexSource source).toList =
        (atoms false source.toList).map Atom.written := by
      rw [Script.toList_regexSource (ne_nil_of_ne_empty hempty), atoms_writeFrom]
    refine ⟨?_, fun c hc => Script.isLineEnd_regexSource hc, ?_⟩
    · intro hnil
      rw [hnil, atoms_nil, eq_comm, List.map_eq_nil_iff] at hatoms
      have hsource := flatMap_text_atoms false source.toList
      rw [hatoms] at hsource
      exact ne_nil_of_ne_empty hempty hsource.symm
    · rw [hatoms]
      intro hmem
      obtain ⟨atom, -, hatom⟩ := List.mem_map.1 hmem
      exact atom.written_ne_slash hatom

theorem regexSource_eq_self_iff {source : String} :
    regexSource source = source ↔ Standing source.toList := by
  constructor
  · intro h
    rw [← h]
    exact standing_regexSource source
  · intro h
    rw [← String.toList_inj, Script.toList_regexSource h.nonempty]
    exact writeFrom_of_standing h

/-! ### Bodies of literals -/

theorem atoms_of_beginsHex {count : Nat} {body : List Char} (h : beginsHex count body = true)
    (inClass : Bool) :
    atoms inClass body = (body.take count).map (⟨inClass, .plain ·⟩) ++ atoms inClass
      (body.drop count) := by
  induction count generalizing body with
  | zero => rfl
  | succ count ih =>
    cases body with
    | nil => rfl
    | cons c rest =>
      rw [beginsHex, Bool.and_eq_true] at h
      have hback : c ≠ '\\' := ne_of_isSome_hexValue? h.1 rfl
      rw [atoms_plain hback, classAfter_of_hex h.1, ih h.2]
      rfl

/-- A literal ends at the first slash that is neither escaped nor in a class, and no line end of
ASCII stands in it. -/
theorem covered_of_regexBody? {inClass : Bool} {text body rest : List Char}
    (h : regexBody? inClass text = some (body, rest)) :
    ⟨false, .plain '/'⟩ ∉ atoms inClass body ∧ ∀ c ∈ body, c ≠ '\n' ∧ c ≠ '\r' := by
  fun_induction regexBody? inClass text generalizing body with
  | case1 | case2 | case4 | case5 => cases h
  | case3 =>
    cases h
    simp
  | case6 inClass next after hnext _ _ ih =>
    obtain ⟨⟨body, rest⟩, hbody, hpair⟩ := Option.map_eq_some_iff.1 h
    cases hpair
    obtain ⟨hcovered, hlines⟩ := ih hbody
    constructor
    · by_cases hdigits : next = 'u' ∧ beginsHex 4 body = true
      · -- The digits are part of the escape here; without the backslash they are characters of
        -- their own.
        obtain ⟨rfl, hdigits⟩ := hdigits
        rw [atoms_digits hdigits, List.mem_cons, not_or]
        rw [atoms_of_beginsHex hdigits, List.mem_append, not_or] at hcovered
        exact ⟨by simp, hcovered.2⟩
      · rw [atoms_escaped hdigits, List.mem_cons, not_or]
        exact ⟨by simp, hcovered⟩
    · intro c hc
      rcases List.mem_cons.1 hc with rfl | hc
      · decide
      rcases List.mem_cons.1 hc with rfl | hc
      · exact not_or.1 hnext
      · exact hlines c hc
  | case7 inClass c text hline hslash hback =>
    rename_i ih
    obtain ⟨⟨body, rest⟩, hbody, hpair⟩ := Option.map_eq_some_iff.1 h
    cases hpair
    obtain ⟨hcovered, hlines⟩ := ih hbody
    constructor
    · rw [atoms_plain hback, List.mem_cons, not_or]
      refine ⟨?_, hcovered⟩
      intro heq
      cases heq
      exact hslash ⟨rfl, rfl⟩
    · intro d hd
      rcases List.mem_cons.1 hd with rfl | hd
      · exact not_or.1 hline
      · exact hlines d hd

theorem eq_of_regexBody? {inClass : Bool} {text body rest : List Char}
    (h : regexBody? inClass text = some (body, rest)) :
    text = body ++ '/' :: rest := by
  fun_induction regexBody? inClass text generalizing body with
  | case1 | case2 | case4 | case5 => cases h
  | case3 inClass c text _ hslash =>
    cases h
    rw [hslash.1, List.nil_append]
  | case6 inClass next after _ _ _ ih =>
    obtain ⟨⟨body, rest⟩, hbody, hpair⟩ := Option.map_eq_some_iff.1 h
    cases hpair
    rw [ih hbody, List.cons_append, List.cons_append]
  | case7 inClass c text _ _ _ =>
    rename_i ih
    obtain ⟨⟨body, rest⟩, hbody, hpair⟩ := Option.map_eq_some_iff.1 h
    cases hpair
    rw [ih hbody, List.cons_append]

/-- Between the blanks and the next token there is no comment left. -/
theorem rest_gap_ne (lineEnd : Bool) (fault : Option Place) (text rest : Place) :
    (gap lineEnd fault text).rest ≠ '/' :: '/' :: rest := by
  fun_induction gap lineEnd fault text with
  | case1 _ _ _ ih | case2 _ _ _ _ _ _ ih | case4 _ _ _ ih | case5 _ _ ih => exact ih
  | case3 | case6 | case11 => nofun
  | case7 _ _ _ _ _ _ _ _ _ ih | case8 _ _ _ _ _ _ _ _ _ _ ih => exact ih
  | case9 _ _ _ _ _ _ _ _ _ _ hconflict ih => rwa [if_pos hconflict]
  | case10 _ _ _ _ hcomment _ _ _ _ _ hconflict =>
    rw [if_neg hconflict]
    intro h
    cases h
    exact hcomment _ rfl rfl

theorem wordToken_ne_mark {strict escaped : Bool} {text : Place} {word : String} {mark : Mark} :
    Lexeme.wordToken strict text word escaped ≠ .mark mark := by
  unfold Lexeme.wordToken
  split
  · nofun
  split <;> nofun

theorem mark?_of_tokenAt {strict : Bool} {text rest : Place} {mark : Mark} {fault : Option Place}
    (h : Lexeme.tokenAt strict text = (.mark mark, rest, fault)) :
    mark? text = some (mark, rest) := by
  unfold Lexeme.tokenAt at h
  split at h
  · cases h
  split at h
  · split at h <;> cases h
  split at h
  · split at h
    · cases h
    split at h <;> cases h
  split at h
  · split at h
    · exact absurd (Prod.ext_iff.1 h).1 wordToken_ne_mark
    · cases h
  split at h
  · next hmark =>
    cases h
    exact hmark
  · cases h

theorem eq_of_mark?_slash {text rest : Place} (h : mark? text = some (.slash, rest)) :
    text = '/' :: rest := by
  revert h
  fun_cases mark? text
  all_goals
    intro h
    cases h
  rfl

/-- Where the body of the regular expression begins that a state stands at. A token may have taken
its equals sign. -/
def bodyAt (state : State) : Place :=
  if state.current.token = .mark .slashUpdate then '=' :: state.current.rest else state.current.rest

section
variable {context : Context} {state later : State} {source flags : String}

theorem regexBody?_of_regexLiteral
    (h : outcome Grammar.regexLiteral context state = (.ok (.regex source flags), later)) :
    ∃ rest, regexBody? false (bodyAt state) = some (source.toList, rest) := by
  simp only [Grammar.regexLiteral, Read.outcome_bind, Read.outcome_place, Read.outcome_get,
    Read.outcome_at?, decide_eq_true_eq] at h
  split at h
  · cases (congrArg Prod.fst h : (.error _ : Except Place Tree) = _)
  · next body rest hbody =>
    refine ⟨rest, hbody.trans ?_⟩
    split at h
    · cases (congrArg Prod.fst h : (.error _ : Except Place Tree) = _)
    · simp only [Read.outcome_ite, Read.outcome_bind, Read.outcome_pure] at h
      split at h
      · split at h
        · cases h
          simp
        · cases h
      · split at h
        · split at h
          · cases h
            simp
          · cases h
        · cases h

theorem outcome_regexLiteral {body word rest after : List Char}
    (hbody : regexBody? false (bodyAt state) = some (body, rest))
    (hflags : Grammar.regexFlags? rest = some (word, after))
    (hknown : Grammar.areKnownFlags word = true) :
    ∃ later, outcome Grammar.regexLiteral context state =
      (.ok (.regex (String.ofList body) (String.ofList word)), later) := by
  obtain ⟨later, hstep, -⟩ := Read.exists_stepTo context state after
  refine ⟨later, ?_⟩
  rw [bodyAt] at hbody
  simp only [Grammar.regexLiteral, Read.outcome_bind, Read.outcome_place, Read.outcome_get,
    Read.outcome_at?, decide_eq_true_eq, hbody, hflags, hknown, if_true, hstep, Read.outcome_pure]

/-- Of two slashes in a row a script makes a comment, so no body begins with a slash. -/
theorem head?_bodyAt {lineEnd strict : Bool} {text : Place}
    (hcurrent : state.current = Lexeme.read lineEnd strict text)
    (hslash : state.current.token = .mark .slash ∨ state.current.token = .mark .slashUpdate) :
    (bodyAt state).head? ≠ some '/' := by
  rcases hslash with hslash | hslash
  · have htoken : Lexeme.tokenAt strict (gap lineEnd none text).rest =
        (.mark .slash, state.current.rest,
            (Lexeme.tokenAt strict (gap lineEnd none text).rest).2.2) := by
      rw [← hslash, hcurrent]
      rfl
    have htext := eq_of_mark?_slash (mark?_of_tokenAt htoken)
    rw [bodyAt, if_neg (by simp [hslash])]
    intro hhead
    obtain ⟨after, hafter⟩ := List.head?_eq_some_iff.1 hhead
    rw [hafter] at htext
    exact rest_gap_ne _ _ _ _ htext
  · rw [bodyAt, if_pos hslash]
    simp

end

/-- A body of a literal can stand between slashes, apart from the separators that scripts let stand
in literals. Of two slashes in a row a script makes a comment, so no body of a literal is empty. -/
theorem standing_of_regexBody? {text body rest : List Char} (hbegin : text.head? ≠ some '/')
    (h : regexBody? false text = some (body, rest)) (hline : '\u2028' ∉ body)
    (hparagraph : '\u2029' ∉ body) :
    Standing body where
  nonempty := by
    rintro rfl
    rw [eq_of_regexBody? h] at hbegin
    exact hbegin rfl
  oneLine c hc := by
    obtain ⟨hfeed, hreturn⟩ := (covered_of_regexBody? h).2 c hc
    have hline' : c ≠ '\u2028' := by rintro rfl; exact hline hc
    have hparagraph' : c ≠ '\u2029' := by rintro rfl; exact hparagraph hc
    simp [isLineEnd, hfeed, hreturn, hline', hparagraph']
  covered := (covered_of_regexBody? h).1

/-- Writing a body makes of every text one that can stand between slashes, and it keeps those that
can already. So writing twice is writing once, and the short way for bodies without special
characters is the long one. What a script holds between slashes is kept unless there is a separator
of lines or paragraphs in it. -/
theorem regexSource_projects :
    (∀ source, Standing (regexSource source).toList) ∧
    (∀ source, regexSource source = source ↔ Standing source.toList) ∧
    (∀ source, regexSource (regexSource source) = regexSource source) ∧
    (∀ source, source ≠ "" → regexSource source = String.ofList (writeFrom {} source.toList)) ∧
    (∀ context state later lineEnd strict text source flags,
      state.current = Lexeme.read lineEnd strict text →
      state.current.token = .mark .slash ∨ state.current.token = .mark .slashUpdate →
      outcome Grammar.regexLiteral context state = (.ok (.regex source flags), later) →
      (regexSource source = source ↔ '\u2028' ∉ source.toList ∧ '\u2029' ∉ source.toList)) := by
  refine ⟨standing_regexSource, fun source => regexSource_eq_self_iff, ?_, ?_, ?_⟩
  · intro source
    exact regexSource_eq_self_iff.2 (standing_regexSource source)
  · intro source hsource
    rw [← Script.toList_regexSource (ne_nil_of_ne_empty hsource), String.ofList_toList]
  · intro context state later lineEnd strict text source flags hcurrent hslash hread
    obtain ⟨rest, hbody⟩ := regexBody?_of_regexLiteral hread
    rw [regexSource_eq_self_iff]
    constructor
    · intro hstanding
      constructor
      · intro hline
        cases hstanding.oneLine _ hline
      · intro hparagraph
        cases hstanding.oneLine _ hparagraph
    · rintro ⟨hline, hparagraph⟩
      exact standing_of_regexBody? (head?_bodyAt hcurrent hslash) hbody hline hparagraph

/-- A reader that stands at the first token of a text. -/
def standingAt (text : String) : State where
  current := Lexeme.read true true text.toList
  previous := text.toList

theorem regexSource_projects_separated :
    (regexSource "a\u2028b" = "a\u2028b" ↔
      '\u2028' ∉ "a\u2028b".toList ∧ '\u2029' ∉ "a\u2028b".toList) ∧
      regexSource "[/]" = String.ofList (writeFrom {} "[/]".toList) := by
  obtain ⟨-, -, -, hlong, hliteral⟩ := regexSource_projects
  refine ⟨?_, hlong "[/]" (by decide)⟩
  have hbody : regexBody? false (bodyAt (standingAt "/a\u2028b/")) =
    some ("a\u2028b".toList, []) := by decide +kernel
  have hflags : Grammar.regexFlags? [] = some ([], []) := rfl
  obtain ⟨later, hread⟩ :=
    @outcome_regexLiteral { text := [], limit := 0 } _ _ _ _ _ hbody hflags rfl
  rw [String.ofList_toList] at hread
  exact hliteral _ _ later true true "/a\u2028b/".toList _ _ rfl (.inl (by decide +kernel)) hread

set_option maxRecDepth 100000 in
/-- A script may hold a line separator between slashes, but a manifest holds its escape. -/
theorem regexSource_separator :
    (Script.declarations "export const ROUTABLE_TARGETS = /a\u2028b/;").toOption.map
      (Extraction.ofDeclarations "a.ts") =
        some { patterns := [.regex "a\u2028b" ""], siteCount := 1 } ∧
      regexSource "a\u2028b" = "a\\u2028b" ∧ regexSource "a\u2028b" ≠ "a\u2028b" := by
  decide +kernel

end RouteManifest.RegexBody
