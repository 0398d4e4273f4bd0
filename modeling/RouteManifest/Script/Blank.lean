import RouteManifest.Script.Place

/-!
The blanks between tokens: white space, line ends and comments, and what is passed over like
comments.
-/

namespace RouteManifest.Script

/-- White space other than line ends. -/
def isSpace (c : Char) : Bool :=
  if c.toNat < 128 then c == ' ' || c == '\t' || c == '\x0b' || c == '\x0c'
  else
    c == '\u0085' || c == '\u00a0' || c == '\u1680' || ('\u2000' ≤ c && c ≤ '\u200a') ||
      c == '\u202f' || c == '\u205f' || c == '\u3000' || c == '\ufeff'

def dropLine (text : Place) : Place := text.dropWhile (!isLineEnd ·)

/-- Drops the rest of a block comment and tells whether it spans lines. A comment that is never
closed has no rest. -/
def dropBlock? (spansLines : Bool) : Place → Option (Bool × Place)
  | '*' :: '/' :: rest => some (spansLines, rest)
  | c :: rest => dropBlock? (spansLines || isLineEnd c) rest
  | [] => none

theorem length_dropLine_le (text : Place) : (dropLine text).length ≤ text.length :=
  (List.dropWhile_suffix _).length_le

theorem length_lt_of_dropBlock? {spansLines : Bool} {text : Place} {result : Bool × Place}
    (h : dropBlock? spansLines text = some result) : result.2.length < text.length := by
  fun_induction dropBlock? spansLines text with
  | case1 => grind
  | case2 => grind
  | case3 => simp at h

/-- Whether a line is left over from a merge that has not been settled. -/
def isConflictMark (line : Place) : Bool :=
  ["<<<<<<< ", "=======", ">>>>>>> "].any (·.toList.isPrefixOf line)

structure Gap where
  /-- Where the next token begins. -/
  rest : Place
  lineEnd : Bool
  /-- The place of a comment that modules do not allow or of a line left over from a merge, or the
  end of a text that ends inside a comment. -/
  fault : Option Place

/-- Reads the gap before a token. `lineEnd` tells whether a line has ended so far, and `fault` is
the first fault found. -/
def gap (lineEnd : Bool) (fault : Option Place) (text : Place) : Gap :=
  match text with
  | '/' :: '/' :: rest => gap lineEnd fault (dropLine rest)
  | '/' :: '*' :: rest =>
      match _h : dropBlock? false rest with
      | some (spansLines, after) => gap (lineEnd || spansLines) fault after
      | none => ⟨[], lineEnd, fault.or (some [])⟩
  | '<' :: '!' :: '-' :: '-' :: rest => gap lineEnd (fault.or (some text)) (dropLine rest)
  | '-' :: '-' :: '>' :: rest =>
      if lineEnd then gap lineEnd (fault.or (some text)) (dropLine rest)
      else ⟨text, lineEnd, fault⟩
  | c :: rest =>
      if isLineEnd c then gap true fault rest
      else if isSpace c then gap lineEnd fault rest
      else if lineEnd && isConflictMark text then gap lineEnd (fault.or (some text)) (dropLine rest)
      else ⟨text, lineEnd, fault⟩
  | [] => ⟨[], lineEnd, fault⟩
termination_by text.length
decreasing_by
  · have := length_dropLine_le rest
    simp only [List.length_cons]
    omega
  · have := length_lt_of_dropBlock? _h
    simp only [List.length_cons] at this ⊢
    omega
  · have := length_dropLine_le rest
    simp only [List.length_cons]
    omega
  · have := length_dropLine_le rest
    simp only [List.length_cons]
    omega
  · simp
  · simp
  · have := length_dropLine_le rest
    simp only [List.length_cons]
    omega

end RouteManifest.Script
