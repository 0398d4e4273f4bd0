import RouteManifest.Json.Fault

/-!
Reading JSON. A decoder takes what it wants from the front of a text. It does not build a value
first: what is wrong with a text and where depends on what was asked for.
-/

namespace RouteManifest.Json

def byteCount (text : List Char) : Nat := text.foldl (fun count c => count + c.utf8Size) 0

inductive Failure where
  /-- At a place: `past` bytes after the point from which on `rest` is left. -/
  | placed (cause : Cause) (rest : List Char) (past : Nat)
  /-- At a value whose place is not known yet, with `rest` left. -/
  | unplaced (cause : Cause) (rest : List Char)
  deriving Inhabited

/-- A decoder takes a value from the front of a text. -/
abbrev Decoder (α : Type) := StateT (List Char) (Except Failure) α

namespace Decoder

/-! ### Failing -/

def failHere {α : Type} (cause : Cause) : Decoder α := fun rest => .error (.placed cause rest 0)

def failNext {α : Type} (cause : Cause) : Decoder α := fun rest => .error (.placed cause rest 1)

/-- Fails at a value whose place is settled later. -/
def mismatch {α : Type} (mismatch : Mismatch) : Decoder α :=
  fun rest => .error (.unplaced (.mismatch mismatch) rest)

/-- Places a failure that has no place where the text stands. -/
def placing {α : Type} (decoder : Decoder α) : Decoder α := fun text =>
  match decoder text with
  | .error (.unplaced cause rest) => .error (.placed cause rest 0)
  | result => result

/-! ### Blanks and words -/

def isBlank (c : Char) : Bool := c == ' ' || c == '\n' || c == '\t' || c == '\r'

def dropBlanks (text : List Char) : List Char := text.dropWhile isBlank

/-- Steps over blanks and gives the next character. -/
def peek : Decoder (Option Char) := do
  modify dropBlanks
  return (← get).head?

def skip : Decoder Unit := modify (·.drop 1)

def word : List Char → Decoder Unit
  | [] => return ()
  | expected :: others => do
      match ← get with
      | [] => failHere (.unfinished .value)
      | c :: _ =>
          if c = expected then
            skip
            word others
          else failNext (.malformed .expectedWord)

/-! ### Strings -/

def hexValue? (c : Char) : Option Nat :=
  if '0' ≤ c ∧ c ≤ '9' then some (c.toNat - 48)
  else if 'a' ≤ c ∧ c ≤ 'f' then some (c.toNat - 87)
  else if 'A' ≤ c ∧ c ≤ 'F' then some (c.toNat - 55)
  else none

def fourDigits? : List Char → Option (Nat × List Char)
  | a :: b :: c :: d :: rest => do
      let a ← hexValue? a
      let b ← hexValue? b
      let c ← hexValue? c
      let d ← hexValue? d
      return (((a * 16 + b) * 16 + c) * 16 + d, rest)
  | _ => none

def fourDigits (text : List Char) : Except Failure (Nat × List Char) :=
  match fourDigits? text with
  | some found => .ok found
  | none =>
      if byteCount text < 4 then .error (.placed (.unfinished .string) [] 0)
      else .error (.placed (.malformed .invalidEscape) text 4)

/-- Takes what follows `\u`: the digits of a character, or those of the two halves of a surrogate
pair. -/
def unicodeEscape (text : List Char) : Except Failure (Char × List Char) := do
  let (first, rest) ← fourDigits text
  if 0xdc00 ≤ first && first < 0xe000 then throw (.placed (.malformed .loneHalf) rest 0)
  if first < 0xd800 || 0xe000 ≤ first then return (Char.ofNat first, rest)
  match rest with
  | '\\' :: 'u' :: rest => do
      let (second, rest) ← fourDigits rest
      if second < 0xdc00 || 0xe000 ≤ second then throw (.placed (.malformed .loneHalf) rest 0)
      return (Char.ofNat (0x10000 + (first - 0xd800) * 0x400 + (second - 0xdc00)), rest)
  | '\\' :: rest =>
      if rest.isEmpty then throw (.placed (.unfinished .string) rest 0)
      throw (.placed (.malformed .brokenHalf) rest 1)
  | rest =>
      if rest.isEmpty then throw (.placed (.unfinished .string) rest 0)
      throw (.placed (.malformed .brokenHalf) rest 1)

/-- The character that a one-character escape stands for. -/
def simpleEscape? (c : Char) : Option Char :=
  match c with
  | '"' => some '"'
  | '\\' => some '\\'
  | '/' => some '/'
  | 'b' => some '\x08'
  | 'f' => some '\x0c'
  | 'n' => some '\n'
  | 'r' => some '\r'
  | 't' => some '\t'
  | _ => none

def escape (text : List Char) : Except Failure (Char × List Char) :=
  match text with
  | [] => .error (.placed (.unfinished .string) [] 0)
  | 'u' :: rest => unicodeEscape rest
  | c :: rest =>
      match simpleEscape? c with
      | some plain => .ok (plain, rest)
      | none => .error (.placed (.malformed .invalidEscape) text 1)

theorem length_lt_of_fourDigits {text : List Char} {found : Nat × List Char}
    (h : fourDigits text = .ok found) : found.2.length < text.length := by
  unfold fourDigits at h
  split at h
  · rename_i found' hfound
    cases h
    unfold fourDigits? at hfound
    split at hfound
    · simp only [Option.pure_def, Option.bind_eq_bind, Option.bind_eq_some_iff,
        Option.some.injEq] at hfound
      obtain ⟨_, _, _, _, _, _, _, _, rfl⟩ := hfound
      simp only [List.length_cons]
      omega
    · simp at hfound
  · split at h <;> cases h

theorem length_lt_of_unicodeEscape {text : List Char} {found : Char × List Char}
    (h : unicodeEscape text = .ok found) : found.2.length < text.length := by
  unfold unicodeEscape at h
  cases hfirst : fourDigits text with
  | error failure => simp [hfirst, bind, Except.bind] at h
  | ok first =>
    have hlt := length_lt_of_fourDigits hfirst
    obtain ⟨point, rest⟩ := first
    simp only [hfirst, bind, Except.bind] at h
    split at h
    · simp [throw, throwThe, MonadExceptOf.throw] at h
    split at h
    · simp only [pure, Except.pure, Except.ok.injEq] at h
      subst h
      exact hlt
    split at h
    · rename_i after
      cases hsecond : fourDigits after with
      | error failure => simp [hsecond] at h
      | ok second =>
        have hlt2 := length_lt_of_fourDigits hsecond
        obtain ⟨point2, rest2⟩ := second
        simp only [hsecond] at h
        split at h
        · simp [throw, throwThe, MonadExceptOf.throw] at h
        · simp only [pure, Except.pure, Except.ok.injEq] at h
          subst h
          simp only [List.length_cons] at hlt hlt2 ⊢
          omega
    · split at h <;> simp [throw, throwThe, MonadExceptOf.throw] at h
    · split at h <;> simp [throw, throwThe, MonadExceptOf.throw] at h

theorem length_lt_of_escape {text : List Char} {found : Char × List Char}
    (h : escape text = .ok found) :
    found.2.length < text.length := by
  unfold escape at h
  split at h
  · simp at h
  · have := length_lt_of_unicodeEscape h
    simp only [List.length_cons]
    omega
  · split at h
    · cases h
      simp
    · simp at h

/-- Takes the characters of a string and its closing quote. -/
def stringRest (text : List Char) : Except Failure (List Char × List Char) :=
  match text with
  | [] => .error (.placed (.unfinished .string) [] 0)
  | c :: rest =>
      if c = '"' then .ok ([], rest)
      else if c = '\\' then
        match _h : escape rest with
        | .error failure => .error failure
        | .ok (plain, after) => (stringRest after).map fun (others, rest) => (plain :: others, rest)
      else if c.toNat < 32 then .error (.placed (.malformed .controlCharacter) text 1)
      else (stringRest rest).map fun (others, rest) => (c :: others, rest)
termination_by text.length
decreasing_by
  · have := length_lt_of_escape _h
    simp only [List.length_cons] at this ⊢
    omega
  · simp

def string : Decoder String := do
  skip
  let text ← get
  match stringRest text with
  | .error failure => throw failure
  | .ok (found, rest) =>
      set rest
      return String.ofList found

/-! ### Numbers -/

/-- The largest number that a written significand may reach before further digits are dropped. -/
def significandLimit : Nat := Nat.pow 2 64

/-- Takes digits into a significand as long as it stays below the limit. Gives the significand, the
number of digits taken and what is left. -/
def takeDigits (significand count : Nat) : List Char → Nat × Nat × List Char
  | [] => (significand, count, [])
  | c :: rest =>
      if c.isDigit && significand * 10 + (c.toNat - 48) < significandLimit then
        takeDigits (significand * 10 + (c.toNat - 48)) (count + 1) rest
      else (significand, count, c :: rest)

/-- Scales a number by a power of ten, in steps that a binary number can hold. `none` if the result
is too large. -/
def scale (value : Float) (exponent : Int) : Option Float :=
  if exponent ≥ 0 then
    if exponent ≤ 308 then
      let scaled := value * Float.ofScientific 1 false exponent.toNat
      if scaled.isInf then none else some scaled
    else if value == 0 then some value
    else none
  else
    let steps := ((-exponent).toNat + 307) / 308 - 1
    let last := (-exponent).toNat - 308 * steps
    if steps > 3 then some (value * 0)
    else
      some
        (steps.repeat (· / Float.ofScientific 1 false 308) value / Float.ofScientific 1 false last)

def assemble (negative : Bool) (significand : Nat) (exponent : Int) : Decoder Number := do
  match scale (Float.ofNat significand) exponent with
  | none => failHere (.malformed .numberOutOfRange)
  | some value => return .binary (if negative then -value else value)

/-- The largest exponent that is read as a number. -/
def exponentLimit : Nat := Nat.pow 2 31

/-- Takes the digits of an exponent. Gives none if they reach too far, and what is left. -/
def takeExponent (exponent : Nat) : List Char → Option Nat × List Char
  | [] => (some exponent, [])
  | c :: rest =>
      if c.isDigit then
        if exponent * 10 + (c.toNat - 48) < exponentLimit then
          takeExponent (exponent * 10 + (c.toNat - 48)) rest
        else (none, rest)
      else (some exponent, c :: rest)

/-- Takes an exponent, whose letter comes next. -/
def exponentPart (negative : Bool) (significand : Nat) (start : Int) : Decoder Number := do
  skip
  let shrinks ← (do
    match (← get).head? with
    | some '-' => skip; return true
    | some '+' => skip; return false
    | _ => return false)
  match ← get with
  | [] => failHere (.unfinished .value)
  | c :: _ =>
      unless c.isDigit do failNext (.malformed .invalidNumber)
      let (exponent?, rest) := takeExponent 0 (← get)
      set rest
      match exponent? with
      | some exponent =>
          assemble negative significand
            (if shrinks then start - Int.ofNat exponent else start + Int.ofNat exponent)
      | none =>
          if significand ≠ 0 ∧ !shrinks then failHere (.malformed .numberOutOfRange)
          modify (·.dropWhile Char.isDigit)
          return .binary (if negative then -0.0 else 0.0)

def fractionPart (negative : Bool) (significand : Nat) (start : Int) : Decoder Number := do
  skip
  let (significand, count, rest) := takeDigits significand 0 (← get)
  let overflows := (rest.head?.map Char.isDigit).getD false
  set (if overflows then rest.dropWhile Char.isDigit else rest)
  if count = 0 && !overflows then
    if (← get).isEmpty then failNext (.unfinished .value) else failNext (.malformed .invalidNumber)
  let exponent := start - Int.ofNat count
  match (← get).head? with
  | some 'e' | some 'E' => exponentPart negative significand exponent
  | _ => assemble negative significand exponent

/-- A whole number. A negative one that sixty-four bits cannot hold, and minus zero, become binary
numbers. -/
def whole (negative : Bool) (significand : Nat) : Number :=
  if !negative then .natural significand
  else if significand = 0 ∨ Nat.pow 2 63 < significand then .binary (-(Float.ofNat significand))
  else .negative significand

/-- Takes a number after its sign. -/
def digitsPart (negative : Bool) : Decoder Number := do
  match ← get with
  | [] => failHere (.unfinished .value)
  | c :: rest =>
      unless c.isDigit do failNext (.malformed .invalidNumber)
      if c = '0' && (rest.head?.map Char.isDigit).getD false then
        skip
        failNext (.malformed .invalidNumber)
      let (significand, _, after) := takeDigits 0 0 (c :: rest)
      let dropped := after.takeWhile Char.isDigit
      set (after.dropWhile Char.isDigit)
      let exponent := Int.ofNat dropped.length
      match (← get).head? with
      | some '.' => fractionPart negative significand exponent
      | some 'e' | some 'E' => exponentPart negative significand exponent
      | _ =>
          if dropped.isEmpty then return whole negative significand
          else assemble negative significand exponent

def number : Decoder Number := do
  if (← get).head? == some '-' then
    skip
    digitsPart true
  else digitsPart false

/-! ### Values without parts -/

/-- Takes a value that is neither a list nor an object, if one comes next. -/
def scalar? : Decoder (Option Value) := do
  match ← peek with
  | some 'n' => skip; word ['u', 'l', 'l']; return some .null
  | some 't' => skip; word ['r', 'u', 'e']; return some (.bool true)
  | some 'f' => skip; word ['a', 'l', 's', 'e']; return some (.bool false)
  | some '"' => return some (.string (← string))
  | some c => if c.isDigit || c == '-' then return some (.number (← number)) else return none
  | none => failNext (.unfinished .value)

/-- Fails at the next value, because something else was asked for. A value without parts is taken
first. -/
def wrongType {α : Type} (expected : String) : Decoder α := do
  match ← scalar? with
  | some found => failHere (.mismatch (.wrongType found expected))
  | none =>
      match (← get).head? with
      | some '[' => failHere (.mismatch (.wrongType (.array []) expected))
      | some '{' => failHere (.mismatch (.wrongType (.object []) expected))
      | _ => failNext (.malformed .expectedValue)

/-- Takes a string that `expected` describes. -/
def text (expected : String) : Decoder String := do
  match ← peek with
  | some '"' => string
  | none => failNext (.unfinished .value)
  | some _ => wrongType expected

/-! ### Lists and objects -/

/-- Whether another element of a list follows. Steps over the comma before it. -/
def nextElement (first : Bool) : Decoder Bool := do
  match ← peek with
  | some ']' => return false
  | none => failNext (.unfinished .list)
  | some c =>
      if first then return true
      unless c == ',' do failNext (.malformed .expectedListEnd)
      skip
      match ← peek with
      | some ']' => failNext (.malformed .trailingComma)
      | some _ => return true
      | none => failNext (.unfinished .value)

/-- Whether another member of an object follows. Steps over the comma before it. -/
def nextMember (first : Bool) : Decoder Bool := do
  match ← peek with
  | some '}' => return false
  | none => failNext (.unfinished .object)
  | some c =>
      if first then
        unless c == '"' do failNext (.malformed .keyNotString)
        return true
      unless c == ',' do failNext (.malformed .expectedObjectEnd)
      skip
      match ← peek with
      | some '"' => return true
      | some '}' => failNext (.malformed .trailingComma)
      | some _ => failNext (.malformed .keyNotString)
      | none => failNext (.unfinished .value)

def colon : Decoder Unit := do
  match ← peek with
  | some ':' => skip
  | some _ => failNext (.malformed .expectedColon)
  | none => failNext (.unfinished .object)

def listEnd : Decoder Unit := do
  match ← peek with
  | some ']' => skip
  | some ',' => do
      skip
      match ← peek with
      | some ']' => failNext (.malformed .trailingComma)
      | _ => failNext (.malformed .trailingCharacters)
  | some _ => failNext (.malformed .trailingCharacters)
  | none => failNext (.unfinished .list)

def objectEnd : Decoder Unit := do
  match ← peek with
  | some '}' => skip
  | some ',' => failNext (.malformed .trailingComma)
  | some _ => failNext (.malformed .trailingCharacters)
  | none => failNext (.unfinished .object)

/-- Where the end of a list is looked for, or has been stepped over. -/
def pastListEnd (text : List Char) : List Char :=
  match dropBlanks text with
  | ']' :: rest => rest
  | ',' :: rest => dropBlanks rest
  | rest => rest

/-- Where the end of an object is looked for, or has been stepped over. -/
def pastObjectEnd (text : List Char) : List Char :=
  match dropBlanks text with
  | '}' :: rest => rest
  | rest => rest

/-- Takes what stands between two brackets. A failure without a place gets that of the closing
bracket. -/
def bracketed {α : Type} (ending : Decoder Unit) (past : List Char → List Char)
    (inner : Decoder α) :
    Decoder α := fun text =>
  match inner (text.drop 1) with
  | .ok (value, rest) => (ending rest).map fun ((), rest) => (value, rest)
  | .error (.unplaced cause rest) => .error (.placed cause (past rest) 0)
  | .error failure => .error failure

def inList {α : Type} (inner : Decoder α) : Decoder α := bracketed listEnd pastListEnd inner

def inObject {α : Type} (inner : Decoder α) : Decoder α := bracketed objectEnd pastObjectEnd inner

/-- Takes the elements of a list, at most `limit`. -/
def elements {α : Type} (item : Decoder α) : Nat → Bool → Decoder (List α)
  | 0, _ => failHere (.malformed .tooDeep)
  | limit + 1, first => do
      unless ← nextElement first do return []
      let value ← item
      return value :: (← elements item limit false)

def allElements {α : Type} (item : Decoder α) (first : Bool) : Decoder (List α) := do
  elements item ((← get).length + 1) first

/-- Takes the members of an object, at most `limit`, folding each into what was found before.
`member` is given that and the member's key, and takes the value. -/
def members {α : Type} (member : α → String → Decoder α) : Nat → Bool → α → Decoder α
  | 0, _, _ => failHere (.malformed .tooDeep)
  | limit + 1, first, found => do
      unless ← nextMember first do return found
      let key ← string
      let found ← member found key
      members member limit false found

def allMembers {α : Type} (member : α → String → Decoder α) (found : α) : Decoder α := do
  members member ((← get).length + 1) true found

def value : Nat → Decoder Value
  | 0 => failNext (.malformed .tooDeep)
  | depth + 1 => do
      match ← scalar? with
      | some found => return found
      | none =>
          match (← get).head? with
          | some '[' =>
              if depth = 0 then failNext (.malformed .tooDeep)
              inList (.array <$> allElements (value depth) true)
          | some '{' =>
              if depth = 0 then failNext (.malformed .tooDeep)
              inObject do
                let found ← allMembers (fun found key => do
                  colon
                  return (key, ← value depth) :: found) []
                return .object found.reverse
          | _ => failNext (.malformed .expectedValue)

/-- How many brackets may stand around a value. -/
def depthLimit : Nat := 128

/-! ### Whole texts -/

def textEnd : Decoder Unit := do
  if (← peek).isSome then failNext (.malformed .trailingCharacters)

/-- Takes a value that fills a text. -/
def run {α : Type} (decoder : Decoder α) (text : String) : Except Rejection α :=
  let text := text.toList
  let whole : Decoder α := do
    let value ← decoder
    textEnd
    return value
  match whole text with
  | .ok (value, _) => .ok value
  | .error (.unplaced cause _) => .error ⟨cause, none⟩
  | .error (.placed cause rest past) =>
      .error ⟨cause, some (Position.advance ⟨1, 0⟩ (byteCount text - byteCount rest + past) text)⟩

end Decoder

end RouteManifest.Json
