import RouteManifest.Proofs.Json.Reading

/-!
The spellings of a value: between its tokens there may be blanks. Both written forms of a value are
spellings of it, and every spelling of a value without numbers is read back to the value.
-/

namespace RouteManifest.Json

open Decoder

/-! ### Values without numbers -/

@[elab_as_elim]
theorem Value.induction {motive : Value → Prop} (null : motive .null)
    (bool : ∀ value, motive (.bool value))
    (number : ∀ value, motive (.number value)) (string : ∀ text, motive (.string text))
    (array : ∀ elements, (∀ x ∈ elements, motive x) → motive (.array elements))
    (object : ∀ members, (∀ m ∈ members, motive m.2) → motive (.object members)) (value : Value) :
    motive value :=
  match value with
  | .null => null
  | .bool value => bool value
  | .number value => number value
  | .string text => string text
  | .array elements =>
      array elements fun x _ => Value.induction null bool number string array object x
  | .object members =>
      object members fun m _ => Value.induction null bool number string array object m.2
termination_by value
decreasing_by
  · have := List.sizeOf_lt_of_mem ‹x ∈ elements›
    simp only [Value.array.sizeOf_spec]
    omega
  · have := List.sizeOf_lt_of_mem ‹m ∈ members›
    obtain ⟨key, value⟩ := m
    simp only [Value.object.sizeOf_spec, Prod.mk.sizeOf_spec] at this ⊢
    omega

/-- A value without numbers that a reader of that depth can follow. -/
inductive Fits : Nat → Value → Prop
  | null {depth} : Fits (depth + 1) .null
  | bool {depth value} : Fits (depth + 1) (.bool value)
  | string {depth text} : Fits (depth + 1) (.string text)
  | array {depth elements} (h : ∀ x ∈ elements, Fits (depth + 1) x) :
      Fits (depth + 2) (.array elements)
  | object {depth members} (h : ∀ m ∈ members, Fits (depth + 1) m.2) :
      Fits (depth + 2) (.object members)

/-! ### Spellings -/

/-- Items between two brackets. -/
def enclosed (gap last : List Char) (opening closing : Char) (texts : List (List Char)) :
    List Char :=
  opening :: (joined gap true texts ++ (last ++ [closing]))

/-- The text spells the value. Equal parts of an array or an object are spelled alike. -/
inductive Spelled : Value → List Char → Prop
  | null : Spelled .null ['n', 'u', 'l', 'l']
  | bool {value} : Spelled (.bool value) (Value.boolText value).toList
  | number {value} : Spelled (.number value) value.text.toList
  | string {text} : Spelled (.string text) (Text.quote text).toList
  | array {elements gap last} {write : Value → List Char} (hgap : IsBlank gap)
      (hlast : IsBlank last)
      (h : ∀ x ∈ elements, Spelled x (write x)) :
      Spelled (.array elements) (enclosed gap last '[' ']' (elements.map write))
  | object {members gap space last} {write : Value → List Char} (hgap : IsBlank gap)
      (hspace : IsBlank space) (hlast : IsBlank last)
      (h : ∀ m ∈ members, Spelled m.2 (write m.2)) :
      Spelled (.object members)
        (enclosed gap last '{' '}' (members.map fun m => memberText space (m.1, write m.2)))

theorem eq_quote_of_spelled {value : String} {text : List Char} (h : Spelled (.string value) text) :
    text = (Text.quote value).toList := by
  cases h
  rfl

theorem compactAll_eq_map (elements : List Value) :
    Value.compactAll elements = elements.map Value.compact := by
  induction elements with
  | nil => rfl
  | cons value rest ih => rw [Value.compactAll, ih, List.map_cons]

theorem compactMembers_eq_map (members : List (String × Value)) :
    Value.compactMembers members = members.map fun m => Text.quote m.1 ++ ":" ++ m.2.compact := by
  induction members with
  | nil => rfl
  | cons m rest ih => rw [Value.compactMembers, ih, List.map_cons]

theorem prettyAll_eq_map (depth : Nat) (elements : List Value) :
    Value.prettyAll depth elements = elements.map (Value.pretty depth) := by
  induction elements with
  | nil => rfl
  | cons value rest ih => rw [Value.prettyAll, ih, List.map_cons]

theorem prettyMembers_eq_map (depth : Nat) (members : List (String × Value)) :
    Value.prettyMembers depth members = members.map fun m =>
      Text.quote m.1 ++ ": " ++ m.2.pretty depth := by
  induction members with
  | nil => rfl
  | cons m rest ih => rw [Value.prettyMembers, ih, List.map_cons]

theorem toList_compact_items (opening closing : Char) (items : List String) :
    (String.singleton opening ++ String.intercalate "," items ++ String.singleton closing).toList =
      enclosed [] [] opening closing (items.map String.toList) := by
  have hcomma : ",".toList = [','] := rfl
  simp [enclosed, joined_true, String.toList_intercalate, hcomma, Function.comp_def]

theorem isBlank_newLine (depth : Nat) : IsBlank (Value.newLine depth).toList := by
  intro c hc
  simp only [Value.newLine, String.toList_append, String.toList_ofList, List.mem_append,
    List.mem_replicate] at hc
  rcases hc with hc | ⟨-, rfl⟩
  · rw [List.mem_singleton.1 hc]
    rfl
  · rfl

/-- Nothing stands between the brackets of an empty block. -/
theorem toList_block (opening closing : Char) (depth : Nat) (items : List String) :
    ∃ last, IsBlank last ∧
      (Value.block (String.singleton opening) (String.singleton closing) depth items).toList =
      enclosed (Value.newLine (depth + 1)).toList last opening closing
        (items.map String.toList) := by
  cases items with
  | nil => exact ⟨[], isBlank_nil, by simp [Value.block, enclosed, joined]⟩
  | cons item items =>
    refine ⟨(Value.newLine depth).toList, isBlank_newLine depth, ?_⟩
    have hcomma : ",".toList = [','] := rfl
    have hitems : (item :: items).isEmpty = false := rfl
    simp only [Value.block, hitems, Bool.false_eq_true, if_false, enclosed, joined_true,
      String.toList_append, String.toList_singleton, String.toList_intercalate, hcomma,
      List.map_map, Function.comp_def, List.append_assoc, List.cons_append, List.nil_append]

theorem toList_member (space : String) (m : String × Value) (write : Value → String) :
    (Text.quote m.1 ++ (":" ++ space) ++ write m.2).toList =
      memberText space.toList (m.1, (write m.2).toList) := by
  have hcolon : ":".toList = [':'] := rfl
  simp only [memberText, String.toList_append, hcolon, List.append_assoc, List.cons_append,
    List.nil_append]

/-- On one line nothing stands between the items but the commas. -/
theorem spelled_compact (value : Value) : Spelled value value.compact.toList := by
  induction value using Value.induction with
  | null => exact .null
  | bool value => exact .bool
  | number value => exact .number
  | string text => exact .string
  | array elements ih =>
    have htext := toList_compact_items '[' ']' (elements.map Value.compact)
    rw [List.map_map] at htext
    rw [Value.compact, compactAll_eq_map]
    exact htext ▸ Spelled.array isBlank_nil isBlank_nil ih
  | object members ih =>
    have htext := toList_compact_items '{' '}'
      (members.map fun m => Text.quote m.1 ++ ":" ++ m.2.compact)
    have hmember : ∀ m : String × Value, (Text.quote m.1 ++ ":" ++ m.2.compact).toList =
        memberText [] (m.1, m.2.compact.toList) := fun m => toList_member "" m Value.compact
    rw [List.map_map, Function.comp_def] at htext
    simp only [hmember] at htext
    rw [Value.compact, compactMembers_eq_map]
    -- How members are spelled is not seen in the text, so it has to be given.
    have h := @Spelled.object members [] [] []
      (fun value => value.compact.toList) isBlank_nil isBlank_nil isBlank_nil ih
    exact htext ▸ h

theorem spelled_pretty (value : Value) (depth : Nat) :
    Spelled value (value.pretty depth).toList := by
  induction value using Value.induction generalizing depth with
  | null =>
    rw [Value.pretty]
    exact .null
  | bool value =>
    rw [Value.pretty]
    exact .bool
  | number value =>
    rw [Value.pretty]
    exact .number
  | string text =>
    rw [Value.pretty]
    exact .string
  | array elements ih =>
    obtain ⟨last, hlast, htext⟩ :=
      toList_block '[' ']' depth (elements.map (Value.pretty (depth + 1)))
    rw [List.map_map] at htext
    rw [Value.pretty, prettyAll_eq_map]
    exact htext ▸ Spelled.array (isBlank_newLine _) hlast fun x hx => ih x hx (depth + 1)
  | object members ih =>
    obtain ⟨last, hlast, htext⟩ := toList_block '{' '}' depth
      (members.map fun m => Text.quote m.1 ++ ": " ++ m.2.pretty (depth + 1))
    have hmember : ∀ m : String × Value, (Text.quote m.1 ++ ": " ++ m.2.pretty (depth + 1)).toList =
        memberText [' '] (m.1, (m.2.pretty (depth + 1)).toList) :=
          fun m => toList_member " " m (Value.pretty (depth + 1))
    rw [List.map_map, Function.comp_def] at htext
    simp only [hmember] at htext
    rw [Value.pretty, prettyMembers_eq_map]
    have h := @Spelled.object members _ [' '] last (fun value => (value.pretty (depth + 1)).toList)
      (isBlank_newLine (depth + 1)) (isBlank_singleton rfl) hlast fun m hm => ih m hm (depth + 1)
    exact htext ▸ h

/-! ### Reading -/

section
variable {blank rest : List Char}

theorem takes_scalar?_null (hblank : IsBlank blank) :
    Takes scalar? (blank ++ 'n' :: 'u' :: 'l' :: 'l' :: rest) (some .null) rest :=
  (takes_peek hblank rfl).bind
    ((takes_skip 'n' _).bind ((takes_word ['u', 'l', 'l'] rest).bind (Takes.pure _ rest)))

theorem takes_scalar?_bool (hblank : IsBlank blank) (value : Bool) :
    Takes scalar? (blank ++ ((Value.boolText value).toList ++ rest)) (some (.bool value)) rest := by
  cases value with
  | false =>
    exact (takes_peek hblank rfl).bind
      ((takes_skip 'f' _).bind ((takes_word ['a', 'l', 's', 'e'] rest).bind (Takes.pure _ rest)))
  | true =>
    exact (takes_peek hblank rfl).bind
      ((takes_skip 't' _).bind ((takes_word ['r', 'u', 'e'] rest).bind (Takes.pure _ rest)))

theorem takes_peek_quote (hblank : IsBlank blank) (value : String) :
    Takes peek (blank ++ ((Text.quote value).toList ++ rest)) (some '"')
      ((Text.quote value).toList ++ rest) := by
  rw [toList_quote]
  exact takes_peek hblank rfl

theorem takes_scalar?_string (hblank : IsBlank blank) (value : String) :
    Takes scalar? (blank ++ ((Text.quote value).toList ++ rest)) (some (.string value)) rest :=
  (takes_peek_quote hblank value).bind ((takes_string value rest).bind (Takes.pure _ rest))

theorem takes_value_of_scalar {depth : Nat} {text : List Char} {found : Value}
    (h : Takes scalar? text (some found) rest) : Takes (value (depth + 1)) text found rest :=
  h.bind (Takes.pure found rest)

theorem takes_value_list (hblank : IsBlank blank) {depth : Nat} {text : List Char}
    {elements : List Value}
    (h : Takes (allElements (value (depth + 1)) true) text elements (']' :: rest)) :
    Takes (value (depth + 2)) (blank ++ '[' :: text) (.array elements) rest := by
  have hnone : Takes scalar? (blank ++ '[' :: text) none ('[' :: text) :=
    (takes_peek hblank rfl).bind (Takes.pure none _)
  refine hnone.bind ((takes_get _).bind ?_)
  dsimp only [List.head?_cons]
  rw [if_neg (Nat.succ_ne_zero depth)]
  exact (h.map Value.array).bracketed (takes_listEnd rest) '['

/-- What `Decoder.value` does with a member of an object. -/
def collect (depth : Nat) (found : List (String × Value)) (key : String) :
    Decoder (List (String × Value)) := do
  colon
  return (key, ← value depth) :: found

theorem takes_value_object (hblank : IsBlank blank) {depth : Nat} {text : List Char}
    {members : List (String × Value)}
    (h : Takes (allMembers (collect (depth + 1)) []) text members.reverse ('}' :: rest)) :
    Takes (value (depth + 2)) (blank ++ '{' :: text) (.object members) rest := by
  have hnone : Takes scalar? (blank ++ '{' :: text) none ('{' :: text) :=
    (takes_peek hblank rfl).bind (Takes.pure none _)
  refine hnone.bind ((takes_get _).bind ?_)
  dsimp only [List.head?_cons]
  rw [if_neg (Nat.succ_ne_zero depth)]
  have hobject : Takes (pure (.object members.reverse.reverse)) ('}' :: rest) (Value.object members)
      ('}' :: rest) := by
    rw [List.reverse_reverse]
    exact Takes.pure _ _
  exact (h.bind hobject).bracketed (takes_objectEnd rest) '{'

end

/-- Members are collected last first. -/
theorem folds_collect {depth : Nat} {space : List Char} {write : Value → List Char}
    {members : List (String × Value)}
    (hspace : IsBlank space) (h : ∀ m ∈ members, Written (value depth) (write m.2) m.2)
    (found : List (String × Value)) :
    Folds (collect depth) space found (members.map fun m => (m.1, write m.2))
      (members.reverse ++ found) := by
  induction members generalizing found with
  | nil => exact .nil
  | cons m members ih =>
    have hm := h m List.mem_cons_self
    have hrest := ih (fun m' hm' => h m' (List.mem_cons_of_mem m hm')) (m :: found)
    rw [List.map_cons, List.reverse_cons, List.append_assoc, List.singleton_append]
    refine .cons (fun rest => ?_) hrest
    exact (takes_colon _).bind ((hm.takes space rest hspace).bind (Takes.pure _ _))

/-- Every spelling is read to what it spells. The induction is on the spelling, with the depth of
the reader left open. -/
theorem written_value {value : Value} {text : List Char} (h : Spelled value text) {depth : Nat}
    (hfits : Fits depth value) : Written (Decoder.value depth) text value := by
  induction h generalizing depth with
  | null =>
    cases hfits
    refine ⟨⟨'n', _, rfl, rfl, by decide⟩, fun blank rest hblank => ?_⟩
    exact takes_value_of_scalar (takes_scalar?_null hblank)
  | @bool value =>
    cases hfits
    refine ⟨?_, fun blank rest hblank => takes_value_of_scalar (takes_scalar?_bool hblank value)⟩
    cases value with
    | false => exact ⟨'f', _, rfl, rfl, by decide⟩
    | true => exact ⟨'t', _, rfl, rfl, by decide⟩
  | number => cases hfits
  | @string text =>
    cases hfits
    refine ⟨⟨'"', _, toList_quote text, rfl, by decide⟩, fun blank rest hblank => ?_⟩
    exact takes_value_of_scalar (takes_scalar?_string hblank text)
  | @array elements gap last write hgap hlast _ ih =>
    cases hfits with
    | array hfits =>
      refine ⟨⟨'[', _, rfl, rfl, by decide⟩, fun blank rest hblank => ?_⟩
      have hitems : ∀ x ∈ elements, Written (Decoder.value _) (write x) (id x) :=
        fun x hx => ih x hx (hfits x hx)
      have helements := takes_allElements hgap hlast hitems true rest
      rw [List.map_id] at helements
      simp only [enclosed, List.cons_append, List.append_assoc, List.nil_append]
      exact takes_value_list hblank helements
  | @object members gap space last write hgap hspace hlast _ ih =>
    cases hfits with
    | object hfits =>
      refine ⟨⟨'{', _, rfl, rfl, by decide⟩, fun blank rest hblank => ?_⟩
      have hfolds := folds_collect hspace (fun m hm => ih m hm (hfits m hm)) []
      rw [List.append_nil] at hfolds
      have hmembers := takes_allMembers hgap hlast hfolds rest
      rw [List.map_map] at hmembers
      simp only [enclosed, List.cons_append, List.append_assoc, List.nil_append]
      exact takes_value_object hblank hmembers

end RouteManifest.Json
