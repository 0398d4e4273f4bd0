import Mathlib.Algebra.GroupWithZero.Nat
import Mathlib.Data.List.Basic

/-!
Lines. A text is cut at its line feeds. Rows that each end with a line feed are cut into the lines
of the rows, and a row is one line just when it holds no line feed itself.
-/

namespace RouteManifest.Text

/-- What lies between the line feeds of a text. Behind the last one there is one more line, which
may be empty. -/
def lines (text : List Char) : List (List Char) := text.splitOn '\n'

/-- Rows with a line feed behind each. -/
def ofRows (rows : List (List Char)) : List Char := rows.flatMap (· ++ ['\n'])

theorem count_intercalate {c : Char} {separator : List Char} (h : c ∉ separator)
    (texts : List (List Char)) :
    (List.intercalate separator texts).count c = (texts.map (·.count c)).sum := by
  induction texts with
  | nil => rfl
  | cons first texts ih =>
    cases texts with
    | nil => simp
    | cons second texts =>
      rw [List.intercalate_cons_cons, List.count_append, List.count_append, ih,
        List.count_eq_zero.2 h]
      simp

theorem not_mem_intercalate {c : Char} {separator : List Char} {texts : List (List Char)}
    (hseparator : c ∉ separator)
    (h : ∀ text ∈ texts, c ∉ text) : c ∉ List.intercalate separator texts := by
  rw [← List.count_eq_zero, count_intercalate hseparator, List.sum_eq_zero_iff_forall_eq_nat,
    List.forall_mem_map]
  exact fun text htext => List.count_eq_zero.2 (h text htext)

theorem lines_append_lineFeed (first second : List Char) :
    lines (first ++ '\n' :: second) = lines first ++ lines second :=
  List.splitOn_append_cons_self first second

theorem lines_of_not_mem {text : List Char} (h : '\n' ∉ text) : lines text = [text] :=
  List.splitOn_eq_singleton h

/-- Texts without line feeds that a mark and a line feed separate are the lines, with the mark
behind each but the last. -/
theorem lines_intercalate {mark : List Char} (hmark : '\n' ∉ mark) {texts : List (List Char)}
    (h : ∀ text ∈ texts, '\n' ∉ text) :
    lines ((mark ++ ['\n']).intercalate texts) =
      texts.dropLast.map (· ++ mark) ++ [texts.getLast?.getD []] := by
  induction texts with
  | nil => rfl
  | cons first texts ih =>
    obtain ⟨hfirst, hrest⟩ := List.forall_mem_cons.1 h
    cases texts with
    | nil =>
      rw [List.intercalate_singleton, lines_of_not_mem hfirst]
      rfl
    | cons second texts =>
      have hsplit : first ++ ((mark ++ ['\n']) ++ (mark ++ ['\n']).intercalate (second :: texts)) =
          (first ++ mark) ++ '\n' :: (mark ++ ['\n']).intercalate (second :: texts) := by simp
      rw [List.intercalate_cons_cons, List.append_assoc, hsplit, lines_append_lineFeed,
        lines_of_not_mem (List.not_mem_append hfirst hmark), ih hrest]
      rfl

/-- Each line feed starts one more line. -/
theorem length_lines (text : List Char) : (lines text).length = text.count '\n' + 1 := by
  induction text with
  | nil => rfl
  | cons c rest ih =>
    by_cases hc : c = '\n'
    · subst hc
      have hsplit : lines ('\n' :: rest) = [] :: lines rest := lines_append_lineFeed [] rest
      rw [hsplit, List.length_cons, ih, List.count_cons_self]
    · have hsplit : lines (c :: rest) = (lines rest).modifyHead (c :: ·) := by
        simp [lines, List.splitOn_cons_eq_if_modifyHead, hc]
      rw [hsplit, List.length_modifyHead, ih, List.count_cons_of_ne hc]

/-- The lines of rows are those of each row. -/
theorem lines_ofRows (rows : List (List Char)) :
    lines (ofRows rows) = rows.flatMap lines ++ [[]] := by
  induction rows with
  | nil => rfl
  | cons row rows ih =>
    rw [ofRows, List.flatMap_cons, List.append_assoc, List.singleton_append, lines_append_lineFeed,
      List.flatMap_cons, List.append_assoc, ← ih]
    rfl

theorem count_ofRows (rows : List (List Char)) :
    (ofRows rows).count '\n' = rows.length + (rows.map (·.count '\n')).sum := by
  induction rows with
  | nil => rfl
  | cons row rows ih =>
    rw [ofRows] at ih ⊢
    rw [List.flatMap_cons, List.count_append, ih, List.count_append, List.map_cons, List.sum_cons,
      List.length_cons, List.count_singleton_self]
    omega

/-- Rows are lines if and only if there is no line feed in them. -/
theorem lines_ofRows_eq_iff {rows : List (List Char)} :
    lines (ofRows rows) = rows ++ [[]] ↔ ∀ row ∈ rows, '\n' ∉ row := by
  constructor
  · intro h
    have hlength := length_lines (ofRows rows)
    rw [h, List.length_append, List.length_singleton, count_ofRows] at hlength
    have hsum : (rows.map (·.count '\n')).sum = 0 := by omega
    intro row hrow
    rw [List.sum_eq_zero_iff_forall_eq_nat] at hsum
    exact List.count_eq_zero.1 (hsum _ (List.mem_map_of_mem hrow))
  · intro h
    induction rows with
    | nil => rfl
    | cons row rows ih =>
      obtain ⟨hrow, hrows⟩ := List.forall_mem_cons.1 h
      rw [lines_ofRows] at ih ⊢
      rw [List.flatMap_cons, lines_of_not_mem hrow, List.append_assoc, ih hrows]
      rfl

end RouteManifest.Text
