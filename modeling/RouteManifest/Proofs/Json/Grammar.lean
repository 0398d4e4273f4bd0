import Mathlib.Data.List.TakeWhile
import RouteManifest.Json.Decode
import RouteManifest.Text.Quoted

/-!
The grammar of JSON. A relation of the grammar holds of a text, of what the text begins with, and of
the rest of the text. A document is a text that holds one term between blanks.
-/

namespace RouteManifest.Json

/-- A JSON value as it is written. Of a number there is its numeral, and the members of an object
keep their order and may repeat. -/
inductive Term where
  | null
  | bool (value : Bool)
  | number (numeral : List Char)
  | string (text : String)
  | array (elements : List Term)
  | object (members : List (String × Term))

/-! ### Blanks -/

namespace Decoder

def IsBlank (text : List Char) : Prop := ∀ c ∈ text, isBlank c = true

theorem isBlank_nil : IsBlank [] := nofun

theorem isBlank_singleton {c : Char} (hc : isBlank c = true) : IsBlank [c] := by
  intro d hd
  rwa [List.mem_singleton.1 hd]

end Decoder

open Decoder

/-- Only blanks stand before the front of the text. -/
def Gap (text front : List Char) : Prop := ∃ blank, IsBlank blank ∧ text = blank ++ front

section
variable {text middle front rest : List Char} {c : Char}

theorem Gap.refl (text : List Char) : Gap text text := ⟨[], isBlank_nil, rfl⟩

theorem Gap.trans (h : Gap text middle) (hmiddle : Gap middle front) : Gap text front := by
  obtain ⟨blank, hblank, rfl⟩ := h
  obtain ⟨blank', hblank', rfl⟩ := hmiddle
  refine ⟨blank ++ blank', fun c hc => ?_, (List.append_assoc ..).symm⟩
  rcases List.mem_append.1 hc with hc | hc
  · exact hblank c hc
  · exact hblank' c hc

theorem Gap.length_le (h : Gap text front) : front.length ≤ text.length := by
  obtain ⟨blank, -, rfl⟩ := h
  simp

theorem gap_dropBlanks (text : List Char) : Gap text (dropBlanks text) :=
  ⟨text.takeWhile isBlank, fun _ hc => List.mem_takeWhile_imp hc,
    List.takeWhile_append_dropWhile.symm⟩

theorem isBlank_of_dropBlanks (h : dropBlanks text = c :: rest) : isBlank c = false := by
  have hhead := List.head?_dropWhile_not isBlank text
  rw [dropBlanks] at h
  rw [h] at hhead
  exact hhead

/-- The front is what is left without blanks, unless it begins with one. -/
theorem gap_iff_dropBlanks (hc : isBlank c = false) :
    Gap text (c :: rest) ↔ dropBlanks text = c :: rest := by
  constructor
  · rintro ⟨blank, hblank, rfl⟩
    rw [dropBlanks, List.dropWhile_append_of_pos hblank, List.dropWhile_cons_of_neg (by simp [hc])]
  · intro h
    exact h ▸ gap_dropBlanks text

theorem Gap.unique {d : Char} {others : List Char} (h : Gap text (c :: rest))
    (hc : isBlank c = false)
    (hother : Gap text (d :: others)) (hd : isBlank d = false) : c = d ∧ rest = others := by
  rw [gap_iff_dropBlanks hc] at h
  rw [gap_iff_dropBlanks hd, h] at hother
  exact List.cons.inj hother

end

/-! ### Strings -/

/-- The letters that stand for characters behind a backslash. -/
def escapes : List (Char × Char) := ('/', '/') :: Text.Quoted.letters

/-- The digit has that value, in lower or in upper case. -/
def IsHexDigit (value : Nat) (digit : Char) : Prop :=
  value < 16 ∧ (digit = Text.Quoted.hexDigit value ∨ digit = (Text.Quoted.hexDigit value).toUpper)

/-- The text begins with the four digits of a number. -/
inductive ParsesUnit : Nat → List Char → List Char → Prop
  | mk {first second third fourth a b c d rest} (ha : IsHexDigit first a) (hb : IsHexDigit second b)
      (hc : IsHexDigit third c) (hd : IsHexDigit fourth d) :
      ParsesUnit (((first * 16 + second) * 16 + third) * 16 + fourth)
        (a :: b :: c :: d :: rest) rest

theorem ParsesUnit.lt {number : Nat} {text rest : List Char} (h : ParsesUnit number text rest) :
    number < 0x10000 := by
  obtain ⟨⟨ha, -⟩, ⟨hb, -⟩, ⟨hc, -⟩, ⟨hd, -⟩⟩ := h
  omega

/-- The text begins with a character of a string: as it is, as a letter behind a backslash, or by
its number, which for the characters beyond four digits is split over the two halves of a surrogate
pair. No character has the number of a half. -/
inductive ParsesChar : Char → List Char → List Char → Prop
  | plain {c rest} (hcontrol : 32 ≤ c.toNat) (hquote : c ≠ '"') (hslash : c ≠ '\\') :
      ParsesChar c (c :: rest) rest
  | letter {c letter rest} (h : (c, letter) ∈ escapes) : ParsesChar c ('\\' :: letter :: rest) rest
  | unit {c text rest} (h : ParsesUnit c.toNat text rest) : ParsesChar c ('\\' :: 'u' :: text) rest
  | pair {c high low text middle rest} (hhigh : ParsesUnit high text ('\\' :: 'u' :: middle))
      (hlow : ParsesUnit low middle rest) (hhighHalf : 0xd800 ≤ high ∧ high < 0xdc00)
      (hlowHalf : 0xdc00 ≤ low ∧ low < 0xe000)
      (hc : c.toNat = 0x10000 + (high - 0xd800) * 0x400 + (low - 0xdc00)) :
      ParsesChar c ('\\' :: 'u' :: text) rest

/-- The text begins with the characters of a string and its closing quote. -/
inductive ParsesChars : List Char → List Char → List Char → Prop
  | nil {rest} : ParsesChars [] ('"' :: rest) rest
  | cons {c others text middle rest} (hc : ParsesChar c text middle)
      (hothers : ParsesChars others middle rest) :
      ParsesChars (c :: others) text rest

/-- Behind its blanks the text begins with the string. -/
def ParsesString (value : String) (text rest : List Char) : Prop :=
  ∃ inner, Gap text ('"' :: inner) ∧ ParsesChars value.toList inner rest

section
variable {text rest : List Char}

theorem ParsesUnit.length_lt {number : Nat} (h : ParsesUnit number text rest) :
    rest.length < text.length := by
  cases h
  simp only [List.length_cons]
  omega

theorem ParsesChar.length_lt {c : Char} (h : ParsesChar c text rest) :
    rest.length < text.length := by
  cases h with
  | plain | letter =>
    simp only [List.length_cons]
    omega
  | unit h =>
    have := h.length_lt
    simp only [List.length_cons]
    omega
  | pair hhigh hlow =>
    have := hhigh.length_lt
    have := hlow.length_lt
    simp only [List.length_cons] at *
    omega

theorem ParsesChars.length_lt {chars : List Char} (h : ParsesChars chars text rest) :
    rest.length < text.length := by
  induction h with
  | nil => exact Nat.lt_succ_self _
  | cons hc _ ih => exact ih.trans hc.length_lt

theorem ParsesString.length_lt {value : String} (h : ParsesString value text rest) :
    rest.length < text.length := by
  obtain ⟨inner, hgap, hchars⟩ := h
  have := hgap.length_le
  have := hchars.length_lt
  rw [List.length_cons] at *
  omega

end

/-! ### Numerals -/

def IsDigits (text : List Char) : Prop := text ≠ [] ∧ ∀ c ∈ text, c.isDigit = true

inductive IsWhole : List Char → Prop
  | zero : IsWhole ['0']
  | digits {c others} (hdigits : IsDigits (c :: others)) (hzero : c ≠ '0') : IsWhole (c :: others)

inductive IsFraction : List Char → Prop
  | none : IsFraction []
  | some {digits} (hdigits : IsDigits digits) : IsFraction ('.' :: digits)

inductive IsExponent : List Char → Prop
  | none : IsExponent []
  | some {letter sign digits} (hletter : letter = 'e' ∨ letter = 'E')
      (hsign : sign = [] ∨ sign = ['+'] ∨ sign = ['-'])
      (hdigits : IsDigits digits) : IsExponent (letter :: (sign ++ digits))

inductive IsNumeral : List Char → Prop
  | mk {sign whole fraction exponent} (hsign : sign = [] ∨ sign = ['-']) (hwhole : IsWhole whole)
      (hfraction : IsFraction fraction) (hexponent : IsExponent exponent) :
      IsNumeral (sign ++ (whole ++ (fraction ++ exponent)))

/-! ### Terms -/

/-- What stands before an item: nothing if it is the first, and otherwise a comma. -/
def Lead (first : Bool) (text front : List Char) : Prop :=
  if first then text = front else Gap text (',' :: front)

/-- The text begins with items that have commas between them, and with what closes them. -/
inductive Listing {α : Type} (P : α → List Char → List Char → Prop) (closing : Char) :
    Bool → List α → List Char → List Char → Prop
  | nil {first text rest} (hend : Gap text (closing :: rest)) : Listing P closing first [] text rest
  | cons {first x xs text front after rest} (hlead : Lead first text front) (hx : P x front after)
      (hxs : Listing P closing false xs after rest) : Listing P closing first (x :: xs) text rest

section
variable {α : Type} {text front rest : List Char} {first : Bool}

theorem Lead.length_le (h : Lead first text front) : front.length ≤ text.length := by
  cases first with
  | true => exact (congrArg List.length h).ge
  | false =>
    have := Gap.length_le h
    rw [List.length_cons] at this
    omega

theorem Listing.length_lt {P : α → List Char → List Char → Prop} {closing : Char} {xs : List α}
    (hshorter : ∀ {x text rest}, P x text rest → rest.length < text.length)
    (h : Listing P closing first xs text rest) : xs.length < text.length := by
  induction h with
  | nil hend =>
    have := hend.length_le
    rw [List.length_cons] at this
    simp only [List.length_nil]
    omega
  | cons hlead hx _ ih =>
    have := Lead.length_le hlead
    have := hshorter hx
    rw [List.length_cons]
    omega

theorem Listing.map_iff {β : Type} {P : β → List Char → List Char → Prop}
    {Q : α → List Char → List Char → Prop}
    {f : α → β} {closing : Char} {xs : List α}
    (h : ∀ {x text rest}, P (f x) text rest ↔ Q x text rest) :
    Listing P closing first (xs.map f) text rest ↔ Listing Q closing first xs text rest := by
  induction xs generalizing first text with
  | nil =>
    constructor
    · rintro ⟨hend⟩
      exact .nil hend
    · rintro ⟨hend⟩
      exact .nil hend
  | cons x xs ih =>
    constructor
    · intro hlisting
      cases hlisting with
      | cons hlead hx hxs => exact .cons hlead (h.1 hx) (ih.1 hxs)
    · intro hlisting
      cases hlisting with
      | cons hlead hx hxs => exact .cons hlead (h.2 hx) (ih.2 hxs)

end

/-- The text begins with a member of an object: its key, a colon and what it holds. -/
inductive ParsesMember {α : Type} (P : α → List Char → List Char → Prop) :
    String × α → List Char → List Char → Prop
  | mk {key x text middle after rest} (hkey : ParsesString key text middle)
      (hcolon : Gap middle (':' :: after))
      (hx : P x after rest) : ParsesMember P (key, x) text rest

/-- Behind its blanks the text begins with the term. -/
inductive Parses : Term → List Char → List Char → Prop
  | null {text rest} (hgap : Gap text ('n' :: 'u' :: 'l' :: 'l' :: rest)) : Parses .null text rest
  | yes {text rest} (hgap : Gap text ('t' :: 'r' :: 'u' :: 'e' :: rest)) :
      Parses (.bool true) text rest
  | no {text rest} (hgap : Gap text ('f' :: 'a' :: 'l' :: 's' :: 'e' :: rest)) :
      Parses (.bool false) text rest
  | number {numeral text rest} (hgap : Gap text (numeral ++ rest)) (hnumeral : IsNumeral numeral) :
      Parses (.number numeral) text rest
  | string {value text rest} (h : ParsesString value text rest) : Parses (.string value) text rest
  | array {elements text inner rest} (hgap : Gap text ('[' :: inner))
      (helements : Listing Parses ']' true elements inner rest) : Parses (.array elements) text rest
  | object {members text inner rest} (hgap : Gap text ('{' :: inner))
      (hmembers : Listing (ParsesMember Parses) '}' true members inner rest) :
      Parses (.object members) text rest

section
variable {text rest : List Char}

theorem parses_string_iff {value : String} :
    Parses (.string value) text rest ↔ ParsesString value text rest := by
  constructor
  · intro h
    cases h with
    | string h => exact h
  · exact .string

theorem parses_array_iff {elements : List Term} :
    Parses (.array elements) text rest ↔
      ∃ inner, Gap text ('[' :: inner) ∧ Listing Parses ']' true elements inner rest := by
  constructor
  · intro h
    cases h with
    | array hgap helements => exact ⟨_, hgap, helements⟩
  · rintro ⟨inner, hgap, helements⟩
    exact .array hgap helements

theorem parses_object_iff {members : List (String × Term)} :
    Parses (.object members) text rest ↔
      ∃ inner, Gap text ('{' :: inner) ∧
        Listing (ParsesMember Parses) '}' true members inner rest := by
  constructor
  · intro h
    cases h with
    | object hgap hmembers => exact ⟨_, hgap, hmembers⟩
  · rintro ⟨inner, hgap, hmembers⟩
    exact .object hgap hmembers

end

/-- The text is one term with nothing but blanks around it. -/
def Document (term : Term) (text : List Char) : Prop :=
  ∃ after, Parses term text after ∧ IsBlank after

end RouteManifest.Json
