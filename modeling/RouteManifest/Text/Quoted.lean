/-!
Double-quoted text, as both JSON and a script's string literals read it: the quote, the backslash
and the characters below U+0020 are written as escapes, and every other character stands for itself.
-/

namespace RouteManifest.Text.Quoted

def hexDigit (n : Nat) : Char :=
  if n < 10 then Char.ofNat (48 + n) else Char.ofNat (87 + n)

def escape (c : Char) : List Char :=
  if c = '"' then ['\\', '"']
  else if c = '\\' then ['\\', '\\']
  else if c = '\n' then ['\\', 'n']
  else if c = '\r' then ['\\', 'r']
  else if c = '\t' then ['\\', 't']
  else if c = '\x08' then ['\\', 'b']
  else if c = '\x0c' then ['\\', 'f']
  else if c.toNat < 32 then ['\\', 'u', '0', '0', hexDigit (c.toNat / 16), hexDigit (c.toNat % 16)]
  else [c]

/-- The letters that stand for characters behind a backslash. -/
def letters : List (Char × Char) :=
  [('"', '"'), ('\\', '\\'), ('\n', 'n'), ('\r', 'r'), ('\t', 't'), ('\x08', 'b'), ('\x0c', 'f')]

/-- A character is written as a letter behind a backslash, by its number, or as it is. -/
theorem escape_cases (c : Char) :
    (∃ letter, (c, letter) ∈ letters ∧ escape c = ['\\', letter]) ∨
    (c.toNat < 32 ∧ escape c =
      ['\\', 'u', '0', '0', hexDigit (c.toNat / 16), hexDigit (c.toNat % 16)]) ∨
    (c ≠ '"' ∧ c ≠ '\\' ∧ 32 ≤ c.toNat ∧ escape c = [c]) := by
  unfold escape
  split
  · next h => exact .inl ⟨'"', by simp [letters, h], rfl⟩
  next hquote =>
  split
  · next h => exact .inl ⟨'\\', by simp [letters, h], rfl⟩
  next hslash =>
  split
  · next h => exact .inl ⟨'n', by simp [letters, h], rfl⟩
  split
  · next h => exact .inl ⟨'r', by simp [letters, h], rfl⟩
  split
  · next h => exact .inl ⟨'t', by simp [letters, h], rfl⟩
  split
  · next h => exact .inl ⟨'b', by simp [letters, h], rfl⟩
  split
  · next h => exact .inl ⟨'f', by simp [letters, h], rfl⟩
  split
  · next h => exact .inr (.inl ⟨h, rfl⟩)
  · next h => exact .inr (.inr ⟨hquote, hslash, Nat.le_of_not_lt h, rfl⟩)

/-- No control character stands between the quotes. -/
theorem le_toNat_of_mem_escape {c d : Char} (h : d ∈ escape c) : 32 ≤ d.toNat := by
  obtain ⟨letter, hletter, hescape⟩ | ⟨hcontrol, hescape⟩ | ⟨-, -, hshown, hescape⟩ :=
    escape_cases c
  · have hletters : ∀ entry ∈ letters, 32 ≤ entry.2.toNat := by decide
    rw [hescape, List.mem_cons, List.mem_singleton] at h
    rcases h with rfl | rfl
    · decide
    · exact hletters _ hletter
  · have hstart : ∀ d ∈ ['\\', 'u', '0', '0'], 32 ≤ d.toNat := by simp
    have hdigits : ∀ n < 16, 32 ≤ (hexDigit n).toNat := by decide
    have hsplit : escape c = ['\\', 'u', '0', '0'] ++
      [hexDigit (c.toNat / 16), hexDigit (c.toNat % 16)] := hescape
    rw [hsplit, List.mem_append] at h
    rcases h with hmem | hmem
    · exact hstart d hmem
    · rw [List.mem_cons, List.mem_singleton] at hmem
      rcases hmem with rfl | rfl <;> exact hdigits _ (by omega)
  · rw [hescape, List.mem_singleton] at h
    exact h ▸ hshown

def encode (text : List Char) : List Char :=
  '"' :: (text.flatMap escape ++ ['"'])

end RouteManifest.Text.Quoted

namespace RouteManifest.Text

def quote (text : String) : String := String.ofList (Quoted.encode text.toList)

/-- Quoted text has no control characters, whatever the text is. -/
theorem le_toNat_of_mem_quote {text : String} {c : Char} (h : c ∈ (quote text).toList) :
    32 ≤ c.toNat := by
  have hquote : 32 ≤ '"'.toNat := by decide
  rw [quote, String.toList_ofList, Quoted.encode, List.mem_cons, List.mem_append,
    List.mem_singleton, List.mem_flatMap] at h
  rcases h with rfl | ⟨_, -, hescape⟩ | rfl
  · exact hquote
  · exact Quoted.le_toNat_of_mem_escape hescape
  · exact hquote

end RouteManifest.Text
