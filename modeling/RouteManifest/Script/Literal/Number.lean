import RouteManifest.Script.Literal.Escape

/-!
Number literals. Only their extent matters: no number declares anything.
-/

namespace RouteManifest.Script

structure Number where
  rest : Place
  /-- Whether it is written in a way that modules forbid: in the old octal notation, or with an
  underscore that stands before no digit. -/
  faulty : Bool

def isDigitOf (base : Nat) (c : Char) : Bool :=
  match hexValue? c with
  | some value => value < base
  | none => false

/-- Drops digits to a base and underscores. -/
def dropDigits (base : Nat) : Place → Number
  | [] => ⟨[], false⟩
  | c :: rest =>
      if c = '_' then
        let after := dropDigits base rest
        { after with faulty := after.faulty || !(rest.head?.map (isDigitOf base)).getD false }
      else if isDigitOf base c then dropDigits base rest
      else ⟨c :: rest, false⟩

def dropSomeDigits? (base : Nat) (text : Place) : Option Number :=
  let number := dropDigits base text
  if (text.take (text.length - number.rest.length)).any (isDigitOf base) then some number else none

/-- Goes on after a part of a number. -/
def Number.andThen? (part : Number) (next : Place → Option Number) : Option Number :=
  (next part.rest).map fun number => { number with faulty := part.faulty || number.faulty }

def dropExponent? : Place → Option Number
  | 'e' :: rest | 'E' :: rest =>
      match rest with
      | '+' :: digits | '-' :: digits => dropSomeDigits? 10 digits
      | digits => dropSomeDigits? 10 digits
  | text => some ⟨text, false⟩

/-- Drops a point with the digits after it, which may be missing, and an exponent. -/
def dropFraction? : Place → Option Number
  | '.' :: rest => (dropDigits 10 rest).andThen? dropExponent?
  | text => dropExponent? text

def dropBigSign : Place → Option Number
  | 'n' :: rest => some ⟨rest, false⟩
  | text => some ⟨text, false⟩

/-- Drops what may follow the digits before the point. -/
def dropDecimalTail? : Place → Option Number
  | 'n' :: rest => some ⟨rest, false⟩
  | text => dropFraction? text

/-- Drops a number that begins with zero and goes on with digits or underscores, the zero apart.
With digits up to 7 it is octal; with an 8 or a 9 it is decimal and may have a fraction. -/
def dropLegacy? (text : Place) : Option Number :=
  let number := { dropDigits 10 text with faulty := true }
  let digits := text.take (text.length - number.rest.length)
  if digits.any fun c => c = '8' ∨ c = '9' then number.andThen? dropFraction? else some number

/-- Reads a number literal, which begins with a digit or with a point and a digit. -/
def number? : Place → Option Number
  | '0' :: 'x' :: rest | '0' :: 'X' :: rest =>
      (dropSomeDigits? 16 rest).bind (·.andThen? dropBigSign)
  | '0' :: 'o' :: rest | '0' :: 'O' :: rest =>
      (dropSomeDigits? 8 rest).bind (·.andThen? dropBigSign)
  | '0' :: 'b' :: rest | '0' :: 'B' :: rest =>
      (dropSomeDigits? 2 rest).bind (·.andThen? dropBigSign)
  | '.' :: rest => dropFraction? ('.' :: rest)
  | '0' :: c :: rest =>
      if isDigitOf 10 c ∨ c = '_' then dropLegacy? (c :: rest) else dropDecimalTail? (c :: rest)
  | text => (dropSomeDigits? 10 text).bind (·.andThen? dropDecimalTail?)

end RouteManifest.Script
