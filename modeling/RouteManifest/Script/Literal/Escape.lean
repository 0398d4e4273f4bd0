import RouteManifest.Script.Place

/-!
Escapes in string literals, templates and identifiers. What a literal stands for is first a list of
code points in which halves of surrogate pairs may occur; `joinHalves?` makes it text.
-/

namespace RouteManifest.Script

def hexValue? (c : Char) : Option Nat :=
  if '0' ≤ c ∧ c ≤ '9' then some (c.toNat - 48)
  else if 'a' ≤ c ∧ c ≤ 'f' then some (c.toNat - 87)
  else if 'A' ≤ c ∧ c ≤ 'F' then some (c.toNat - 55)
  else none

/-- Reads the digits of a code point up to the closing brace. There is at least one, and the value
stays a code point. -/
def bracedPoint? (value : Option Nat) : Place → Option (Nat × Place)
  | [] => none
  | c :: rest =>
      if c = '}' then value.map (·, rest)
      else
        match hexValue? c with
        | none => none
        | some digit =>
            let next := value.getD 0 * 16 + digit
            if next ≤ 0x10ffff then bracedPoint? (some next) rest else none

/-- Reads what follows `\u`: four digits, or a code point in braces. -/
def unicodePoint? : Place → Option (Nat × Place)
  | '{' :: rest => bracedPoint? none rest
  | a :: b :: c :: d :: rest => do
      let a ← hexValue? a
      let b ← hexValue? b
      let c ← hexValue? c
      let d ← hexValue? d
      return (((a * 16 + b) * 16 + c) * 16 + d, rest)
  | _ => none

structure Escape where
  points : List Nat
  /-- Whether it is an octal escape, which modules forbid. -/
  octal : Bool
  rest : Place

def octalValue? (c : Char) : Option Nat :=
  if '0' ≤ c ∧ c ≤ '7' then some (c.toNat - 48) else none

/-- Reads the digits of an octal escape. At most `digits` more may follow, and the value stays below
256. -/
def octalPoint (digits value : Nat) : Place → Nat × Place
  | [] => (value, [])
  | c :: rest =>
      match digits, octalValue? c with
      | digits + 1, some digit =>
          if value * 8 + digit < 256 then octalPoint digits (value * 8 + digit) rest
          else (value, c :: rest)
      | _, _ => (value, c :: rest)

def isLeadHalf (point : Nat) : Bool := 0xd800 ≤ point && point < 0xdc00

def isTrailHalf (point : Nat) : Bool := 0xdc00 ≤ point && point < 0xe000

/-- Reads what follows `\u` in a literal. After the first half of a pair in four digits, the next
such escape has four digits as well. -/
def literalPoint? (text : Place) : Option (Nat × Place) :=
  match unicodePoint? text with
  | none => none
  | some (point, after) =>
      match text, after with
      | '{' :: _, _ => some (point, after)
      | _, '\\' :: 'u' :: '{' :: _ => if isLeadHalf point then none else some (point, after)
      | _, _ => some (point, after)

def escape? : Place → Option Escape
  | [] => none
  | '\r' :: '\n' :: rest => some ⟨[], false, rest⟩
  | 'n' :: rest => some ⟨[10], false, rest⟩
  | 't' :: rest => some ⟨[9], false, rest⟩
  | 'r' :: rest => some ⟨[13], false, rest⟩
  | 'b' :: rest => some ⟨[8], false, rest⟩
  | 'v' :: rest => some ⟨[11], false, rest⟩
  | 'f' :: rest => some ⟨[12], false, rest⟩
  | 'x' :: rest =>
      match rest with
      | a :: b :: after => do
          let a ← hexValue? a
          let b ← hexValue? b
          return ⟨[a * 16 + b], false, after⟩
      | _ => none
  | 'u' :: rest => (literalPoint? rest).map fun (point, after) => ⟨[point], false, after⟩
  | c :: rest =>
      if isLineEnd c then some ⟨[], false, rest⟩
      else
        match octalValue? c with
        | none => some ⟨[c.toNat], false, rest⟩
        | some digit =>
            if digit = 0 ∧ (rest.head?.bind octalValue?).isNone then some ⟨[0], false, rest⟩
            else
              let (point, after) := octalPoint 2 digit rest
              some ⟨[point], true, after⟩

theorem length_lt_of_bracedPoint? {value : Option Nat} {text : Place} {result : Nat × Place}
    (h : bracedPoint? value text = some result) : result.2.length < text.length := by
  fun_induction bracedPoint? value text with
  | case2 value =>
    obtain ⟨point, _, rfl⟩ := Option.map_eq_some_iff.1 h
    simp
  | _ => grind

theorem length_lt_of_unicodePoint? {text : Place} {result : Nat × Place}
    (h : unicodePoint? text = some result) : result.2.length < text.length := by
  unfold unicodePoint? at h
  split at h
  · have := length_lt_of_bracedPoint? h
    grind
  · simp only [Option.pure_def, Option.bind_eq_bind, Option.bind_eq_some_iff,
      Option.some.injEq] at h
    obtain ⟨_, _, _, _, _, _, _, _, rfl⟩ := h
    simp only [List.length_cons]
    omega
  · simp at h

theorem length_lt_of_literalPoint? {text : Place} {result : Nat × Place}
    (h : literalPoint? text = some result) : result.2.length < text.length := by
  unfold literalPoint? at h
  split at h
  · simp at h
  · next point after hpoint =>
    have := length_lt_of_unicodePoint? hpoint
    split at h <;> grind

theorem length_octalPoint_le (digits value : Nat) (text : Place) :
    (octalPoint digits value text).2.length ≤ text.length := by
  fun_induction octalPoint digits value text <;> grind

theorem length_lt_of_escape? {text : Place} {escape : Escape} (h : escape? text = some escape) :
    escape.rest.length < text.length := by
  unfold escape? at h
  split at h
  case h_9 =>
    split at h
    · simp only [Option.pure_def, Option.bind_eq_bind, Option.bind_eq_some_iff,
        Option.some.injEq] at h
      obtain ⟨_, _, _, _, rfl⟩ := h
      simp only [List.length_cons]
      omega
    · simp at h
  case h_10 =>
    simp only [Option.map_eq_some_iff] at h
    obtain ⟨result, hresult, rfl⟩ := h
    have := length_lt_of_literalPoint? hresult
    simp only [List.length_cons]
    omega
  case h_11 c rest _ _ _ _ _ _ _ _ _ =>
    have := length_octalPoint_le 2
    grind
  all_goals grind

/-- Code points as characters. Two halves that meet form one character, and a half left alone has no
character. -/
def joinHalves? : List Nat → Option (List Char)
  | lead :: trail :: rest =>
      if isLeadHalf lead && isTrailHalf trail then
        (joinHalves? rest).map
          (Char.ofNat (0x10000 + (lead - 0xd800) * 0x400 + (trail - 0xdc00)) :: ·)
      else if isLeadHalf lead || isTrailHalf lead then none
      else (joinHalves? (trail :: rest)).map (Char.ofNat lead :: ·)
  | [point] => if isLeadHalf point || isTrailHalf point then none else some [Char.ofNat point]
  | [] => some []

end RouteManifest.Script
