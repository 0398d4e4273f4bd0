import RouteManifest.Proofs.Text.Lines
import RouteManifest.Text.Styled

/-!
Colour sequences. A terminal takes an escape character, a bracket and some numbers up to an `m` for
a change of the style. Without these sequences a styled text is what is written without colours,
provided that no span of it holds an escape character of its own.
-/

namespace RouteManifest.Text

/-- The character that a colour sequence begins with. -/
def escapeChar : Char := '\x1b'

/-- Whether a character may stand between the bracket of a colour sequence and its `m`. -/
def isParameter (c : Char) : Bool := c.isDigit || c == ';'

/-- A text without the colour sequences in it, from left to right. -/
def uncoloured : List Char → List Char
  | [] => []
  | '\x1b' :: '[' :: rest =>
      match _h : rest.dropWhile isParameter with
      | 'm' :: after => uncoloured after
      | _ => '\x1b' :: '[' :: uncoloured rest
  | c :: rest => c :: uncoloured rest
termination_by text => text.length
decreasing_by
  · have hlength := (List.dropWhile_sublist isParameter (l := rest)).length_le
    rw [_h, List.length_cons] at hlength
    simp only [List.length_cons]
    omega
  · simp only [List.length_cons]
    omega
  · exact Nat.lt_succ_self rest.length

theorem uncoloured_cons {c : Char} (h : c ≠ escapeChar) (rest : List Char) :
    uncoloured (c :: rest) = c :: uncoloured rest := by
  rw [uncoloured]
  exact fun _ hc => absurd hc h

/-- A text without escape characters stays as it is. -/
theorem uncoloured_append {text : List Char} (h : escapeChar ∉ text) (rest : List Char) :
    uncoloured (text ++ rest) = text ++ uncoloured rest := by
  induction text with
  | nil => rfl
  | cons c text ih =>
    obtain ⟨hc, htext⟩ := not_or.1 (mt List.mem_cons.2 h)
    rw [List.cons_append, uncoloured_cons (Ne.symm hc), ih htext, List.cons_append]

theorem uncoloured_sequence {parameters : List Char} (h : parameters.all isParameter = true)
    (rest : List Char) :
    uncoloured ('\x1b' :: '[' :: (parameters ++ 'm' :: rest)) = uncoloured rest := by
  have hend : (parameters ++ 'm' :: rest).dropWhile isParameter = 'm' :: rest := by
    rw [List.dropWhile_append_of_pos (List.all_eq_true.1 h)]
    rfl
  rw [uncoloured]
  split
  · next after hafter =>
    rw [hend] at hafter
    cases hafter
    rfl
  · next hnone => exact absurd hend (hnone rest)

/-! ### Styles -/

theorem all_isParameter_codes (style : Style) :
    (String.intercalate ";" style.codes).toList.all isParameter = true := by
  obtain ⟨bold, dimmed, colour⟩ := style
  cases colour with
  | none => cases bold <;> cases dimmed <;> decide
  | some colour => cases bold <;> cases dimmed <;> cases colour <;> decide

theorem uncoloured_opening (style : Style) (rest : List Char) :
    uncoloured (style.opening ++ rest) = uncoloured rest := by
  rw [Style.opening, List.append_assoc, List.append_assoc]
  exact uncoloured_sequence (all_isParameter_codes style) rest

theorem uncoloured_reset (rest : List Char) : uncoloured (Style.reset ++ rest) = uncoloured rest :=
  @uncoloured_sequence ['0'] rfl rest

theorem resume_of_not_mem {text : List Char} (h : escapeChar ∉ text) (opening : List Char) :
    Style.resume opening text = text := by
  induction text with
  | nil => rfl
  | cons c text ih =>
    obtain ⟨hc, htext⟩ := not_or.1 (mt List.mem_cons.2 h)
    rw [Style.resume, ih htext]
    exact fun _ hc' => absurd hc' (Ne.symm hc)

theorem uncoloured_span {span : Span} (h : escapeChar ∉ span.text.toList) (rest : List Char) :
    uncoloured (span.render true ++ rest) = span.render false ++ uncoloured rest := by
  obtain ⟨text, style⟩ := span
  cases style with
  | none => exact uncoloured_append h rest
  | some style =>
    have hstyled : Span.render true ⟨text, some style⟩ =
        style.opening ++ text.toList ++ Style.reset := by
      rw [Span.render, Style.apply, resume_of_not_mem h]
      rfl
    rw [hstyled, List.append_assoc, List.append_assoc, uncoloured_opening, uncoloured_append h,
      uncoloured_reset]
    rfl

/-! ### Whole texts -/

/-- A text without its colour sequences. -/
def uncolour (text : String) : String := String.ofList (uncoloured text.toList)

/-- A text without escape characters. -/
def IsClear (text : String) : Prop := escapeChar ∉ text.toList

instance : DecidablePred IsClear :=
  fun text => inferInstanceAs (Decidable (escapeChar ∉ text.toList))

@[simp] theorem isClear_append {first second : String} :
    IsClear (first ++ second) ↔ IsClear first ∧ IsClear second := by
  rw [IsClear, String.toList_append, List.mem_append, not_or]
  rfl

theorem isClear_ofList {text : List Char} : IsClear (String.ofList text) ↔ escapeChar ∉ text := by
  rw [IsClear, String.toList_ofList]

theorem isClear_intercalate {separator : String} {texts : List String}
    (hseparator : IsClear separator)
    (h : ∀ text ∈ texts, IsClear text) : IsClear (String.intercalate separator texts) := by
  rw [IsClear, String.toList_intercalate]
  exact not_mem_intercalate hseparator (List.forall_mem_map.2 h)

namespace Styled

theorem render_append (coloured : Bool) (first second : Styled) :
    render coloured (first ++ second) = render coloured first ++ render coloured second := by
  rw [render, List.flatMap_append, String.ofList_append]
  rfl

theorem render_flatMap {α : Type} (coloured : Bool) (items : List α) (write : α → Styled) :
    render coloured (items.flatMap write) =
      String.join (items.map fun item => render coloured (write item)) := by
  induction items with
  | nil => rfl
  | cons item items ih =>
    rw [List.flatMap_cons, render_append, ih, List.map_cons, String.join_cons]

/-- No span holds an escape character. -/
def AllClear (spans : Styled) : Prop := ∀ span ∈ spans, IsClear span.text

@[simp] theorem allClear_nil : AllClear [] := List.forall_mem_nil _

@[simp] theorem allClear_append {first second : Styled} :
    AllClear (first ++ second) ↔ AllClear first ∧ AllClear second :=
  List.forall_mem_append

theorem allClear_flatMap {α : Type} {items : List α} {write : α → Styled}
    (h : ∀ item ∈ items, AllClear (write item)) :
    AllClear (items.flatMap write) := by
  intro span hspan
  obtain ⟨item, hitem, hspan⟩ := List.mem_flatMap.1 hspan
  exact h item hitem span hspan

@[simp] theorem allClear_plain {text : String} : AllClear (plain text) ↔ IsClear text :=
  List.forall_mem_singleton

@[simp] theorem allClear_styled {style : Style} {text : String} :
    AllClear (styled style text) ↔ IsClear text :=
  List.forall_mem_singleton

@[simp] theorem allClear_inColour {colour : Colour} {text : String} :
    AllClear (inColour colour text) ↔ IsClear text :=
  allClear_styled

@[simp] theorem allClear_inBold {colour : Colour} {text : String} :
    AllClear (inBold colour text) ↔ IsClear text :=
  allClear_styled

/-- What is written in colours is, without the colour sequences, what is written without colours. -/
theorem uncolour_render {spans : Styled} (h : AllClear spans) :
    uncolour (render true spans) = render false spans := by
  have hspans : uncoloured (spans.flatMap (Span.render true)) =
      spans.flatMap (Span.render false) := by
    induction spans with
    | nil => simp [uncoloured]
    | cons span spans ih =>
      obtain ⟨hspan, hrest⟩ := List.forall_mem_cons.1 h
      rw [List.flatMap_cons, uncoloured_span hspan, ih hrest, List.flatMap_cons]
  rw [uncolour, render, render, String.toList_ofList, hspans]

end Styled

end RouteManifest.Text
