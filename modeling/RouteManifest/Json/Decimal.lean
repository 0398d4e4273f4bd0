/-!
Decimal text of binary floating-point numbers: the fewest digits that read back as the same number,
and of those the nearest to it. Numbers from 10^-5 up to 10^16 are written with a point, all others
with an exponent, which always has a sign.
-/

namespace RouteManifest.Json.Decimal

/-- A positive finite number as `significand * 2 ^ exponent`. -/
structure Binary where
  significand : Nat
  exponent : Int

/-- The parts of a finite number without its sign. -/
def Binary.ofFloat (value : Float) : Binary :=
  let bits := value.toBits.toNat
  let field := bits / Nat.pow 2 52 % Nat.pow 2 11
  let fraction := bits % Nat.pow 2 52
  if field = 0 then ⟨fraction, -1074⟩ else ⟨Nat.pow 2 52 + fraction, Int.ofNat field - 1075⟩

/-- Four times the number and the two ends of the interval that reads back as it, all over the same
power of ten: `low`, `middle` and `high` count in units of `10 ^ shift / scale`. -/
structure Interval where
  low : Nat
  middle : Nat
  high : Nat
  /-- How many units make one step of the decimal grid. -/
  step : Nat
  /-- Whether the ends themselves read back as the number. -/
  closed : Bool

/-- The interval of a number against the grid of multiples of `10 ^ power`. -/
def Binary.interval (number : Binary) (power : Int) : Interval :=
  let narrow := number.significand = Nat.pow 2 52 ∧ number.exponent > -1074
  let twos := number.exponent - 2
  let up := Nat.pow 2 twos.toNat * Nat.pow 10 (-power).toNat
  let down := Nat.pow 2 (-twos).toNat * Nat.pow 10 power.toNat
  { low := (4 * number.significand - (if narrow then 1 else 2)) * up
    middle := 4 * number.significand * up
    high := (4 * number.significand + 2) * up
    step := down
    closed := number.significand % 2 == 0 }

/-- Whether a multiple of the grid's step reads back as the number. -/
def Interval.contains (interval : Interval) (count : Nat) : Bool :=
  let place := count * interval.step
  if interval.closed then interval.low ≤ place && place ≤ interval.high
  else interval.low < place && place < interval.high

/-- The multiple of the grid's step that reads back as the number and lies nearest to it. -/
def Interval.nearest? (interval : Interval) : Option Nat :=
  let below := interval.middle / interval.step
  let above := below + 1
  let nearerBelow :=
    interval.middle - below * interval.step ≤ above * interval.step - interval.middle
  match interval.contains below, interval.contains above with
  | true, true => some (if nearerBelow then below else above)
  | true, false => some below
  | false, true => some above
  | false, false => none

/-- The digits of a number and the power of ten of the last one. The grids are tried from coarse to
fine. -/
def Binary.shortest (number : Binary) : Nat → Int → Nat × Int
  | 0, power => (0, power)
  | tries + 1, power =>
      match (number.interval power).nearest? with
      | some 0 | none => number.shortest tries (power - 1)
      | some digits => (digits, power)

/-- Takes trailing zeros off, at most `tries` of them. -/
def trim : Nat → Nat → Int → Nat × Int
  | 0, digits, power => (digits, power)
  | tries + 1, digits, power =>
      if digits ≠ 0 ∧ digits % 10 = 0 then trim tries (digits / 10) (power + 1) else (digits, power)

def layOut (digits : Nat) (power : Int) : String :=
  let text := toString digits
  let count := Int.ofNat text.length
  let point := count + power
  if 0 ≤ power ∧ point ≤ 16 then text ++ String.ofList (List.replicate power.toNat '0') ++ ".0"
  else if 0 < point ∧ point ≤ 16 then
    String.ofList (text.toList.take point.toNat) ++ "." ++
      String.ofList (text.toList.drop point.toNat)
  else if -5 < point ∧ point ≤ 0 then
    "0." ++ String.ofList (List.replicate (-point).toNat '0') ++ text
  else
    let lead := String.ofList (text.toList.take 1)
    let rest := String.ofList (text.toList.drop 1)
    lead ++ (if rest.isEmpty then "" else "." ++ rest) ++ (if 0 < point then "e+" else "e") ++
      toString (point - 1)

def render (value : Float) : String :=
  let sign := if value.toBits.toNat / Nat.pow 2 63 = 1 then "-" else ""
  let number := Binary.ofFloat value
  if number.significand = 0 then sign ++ "0.0"
  else
    let (digits, power) := number.shortest 700 309
    let (digits, power) := trim 20 digits power
    sign ++ layOut digits power

end RouteManifest.Json.Decimal
