import RouteManifest.Proofs.Json.Acceptance

/-!
What decoders make of written values. What is written for a value is taken behind any blanks and in
front of any text, and so is a list or an object whose parts are.
-/

namespace RouteManifest.Json.Decoder

open Text.Quoted (hexDigit escape_cases)

theorem takes_peek {blank rest : List Char} {c : Char} (hblank : IsBlank blank)
    (hc : isBlank c = false) :
    Takes peek (blank ++ c :: rest) (some c) (c :: rest) :=
  takes_peek_of_gap ⟨blank, hblank, rfl⟩ hc

/-! ### Strings -/

/-- One escaped character is in the grammar. -/
theorem parsesChar_escape (c : Char) (rest : List Char) :
    ParsesChar c (Text.Quoted.escape c ++ rest) rest := by
  rcases escape_cases c with ⟨letter, hletter, hescape⟩ | ⟨hcontrol, hescape⟩ | ⟨hquote, hslash,
    hcontrol, hescape⟩
  · rw [hescape]
    exact .letter (List.mem_cons_of_mem _ hletter)
  · have hdigit : ∀ n < 16, IsHexDigit n (hexDigit n) := fun n hn => ⟨hn, .inl rfl⟩
    have hzero : IsHexDigit 0 '0' := hdigit 0 (by omega)
    have hpoint : ((0 * 16 + 0) * 16 + c.toNat / 16) * 16 + c.toNat % 16 = c.toNat := by omega
    have hunit : ParsesUnit (((0 * 16 + 0) * 16 + c.toNat / 16) * 16 + c.toNat % 16)
        ('0' :: '0' :: hexDigit (c.toNat / 16) :: hexDigit (c.toNat % 16) :: rest) rest :=
      .mk hzero hzero (hdigit _ (by omega)) (hdigit _ (by omega))
    rw [hpoint] at hunit
    rw [hescape]
    exact .unit hunit
  · rw [hescape]
    exact .plain hcontrol hquote hslash

theorem parsesChars_encode (text rest : List Char) :
    ParsesChars text (text.flatMap Text.Quoted.escape ++ '"' :: rest) rest := by
  induction text with
  | nil => exact .nil
  | cons c text ih =>
    rw [List.flatMap_cons, List.append_assoc]
    exact .cons (parsesChar_escape c _) ih

theorem toList_quote (value : String) :
    (Text.quote value).toList = '"' :: (value.toList.flatMap Text.Quoted.escape ++ ['"']) := by
  rw [Text.quote, String.toList_ofList, Text.Quoted.encode]

theorem parsesString_quote {blank : List Char} (hblank : IsBlank blank) (value : String)
    (rest : List Char) :
    ParsesString value (blank ++ ((Text.quote value).toList ++ rest)) rest := by
  rw [toList_quote, List.cons_append, List.append_assoc, List.singleton_append]
  exact ⟨_, ⟨blank, hblank, rfl⟩, parsesChars_encode value.toList rest⟩

/-- A quoted text is taken to the text. -/
theorem takes_string (value : String) (rest : List Char) :
    Takes string ((Text.quote value).toList ++ rest) value rest := by
  rw [toList_quote, List.cons_append, List.append_assoc, List.singleton_append]
  exact (takes_string_iff '"').2 (parsesChars_encode value.toList rest)

/-! ### Items between brackets -/

/-- What is written for a value. It does not begin like the end of a list. -/
structure Written {α : Type} (decoder : Decoder α) (text : List Char) (value : α) : Prop where
  begins : ∃ c rest, text = c :: rest ∧ isBlank c = false ∧ c ≠ ']'
  takes : ∀ blank rest, IsBlank blank → decoder.Takes (blank ++ (text ++ rest)) value rest

theorem Written.ne_nil {α : Type} {decoder : Decoder α} {text : List Char} {value : α}
    (h : Written decoder text value) :
    text ≠ [] := by
  obtain ⟨c, rest, rfl, -, -⟩ := h.begins
  exact List.cons_ne_nil c rest

/-- What stands before an item: a comma, unless the item is the first, and a gap. -/
def lead (gap : List Char) (first : Bool) : List Char := if first then gap else ',' :: gap

/-- Items with a gap before each of them and commas in between. -/
def joined (gap : List Char) : Bool → List (List Char) → List Char
  | _, [] => []
  | first, text :: texts => lead gap first ++ (text ++ joined gap false texts)

theorem joined_false_cons (gap text : List Char) (texts : List (List Char)) :
    joined gap false (text :: texts) = ',' :: joined gap true (text :: texts) := rfl

theorem joined_true (gap : List Char) (texts : List (List Char)) :
    joined gap true texts = [','].intercalate (texts.map (gap ++ ·)) := by
  induction texts with
  | nil => rfl
  | cons text texts ih =>
    cases texts with
    | nil => simp [joined, lead]
    | cons next texts =>
      rw [List.map_cons, List.map_cons, List.intercalate_cons_cons, ← List.map_cons, ← ih, joined,
        joined_false_cons]
      simp [lead]

theorem length_le_length_joined {texts : List (List Char)} (htexts : ∀ text ∈ texts, text ≠ [])
    (gap : List Char)
    (first : Bool) : texts.length ≤ (joined gap first texts).length := by
  induction texts generalizing first with
  | nil => exact Nat.zero_le _
  | cons text texts ih =>
    have hpos := List.length_pos_iff.2 (htexts text List.mem_cons_self)
    have hrest := ih (fun text htext => htexts text (List.mem_cons_of_mem _ htext)) false
    simp only [joined, List.length_append, List.length_cons]
    omega

section
variable {α β : Type} {gap last rest : List Char}

theorem Takes.bracketed {ending : Decoder Unit} {past : List Char → List Char} {inner : Decoder α}
    {value : α}
    {text middle : List Char} (hinner : inner.Takes text value middle)
    (hending : ending.Takes middle () rest) (c : Char) :
    Takes (bracketed ending past inner) (c :: text) value rest :=
  (takes_bracketed_iff c).2 ⟨middle, hinner, hending⟩

theorem lead_lead (first : Bool) (rest : List Char) :
    Lead first (lead gap first ++ rest) (gap ++ rest) := by
  cases first with
  | true => rfl
  | false => exact Gap.refl _

/-! ### Lists -/

/-- Behind any blanks the text begins with what is written for the value. -/
def BeginsWritten (item : Decoder α) (x : α) (text rest : List Char) : Prop :=
  ∃ body, Written item body x ∧ Gap text (body ++ rest)

theorem isItem_beginsWritten (item : Decoder α) : IsItem (BeginsWritten item) where
  opens := by
    rintro x text rest ⟨body, hbody, hgap⟩
    obtain ⟨c, others, rfl, hc, hend⟩ := hbody.begins
    exact ⟨c, others ++ rest, hgap, hc, hend, _, hbody, .refl _⟩
  blanks := by
    rintro x text front rest hgap ⟨body, hbody, hfront⟩
    exact ⟨body, hbody, hgap.trans hfront⟩
  shorter := by
    rintro x text rest ⟨body, hbody, hgap⟩
    have hpos := List.length_pos_iff.2 hbody.ne_nil
    have hle := hgap.length_le
    rw [List.length_append] at hle
    omega

theorem takes_of_beginsWritten {item : Decoder α} {x : α} {text : List Char}
    (h : BeginsWritten item x text rest) :
    item.Takes text x rest := by
  obtain ⟨body, hbody, blank, hblank, rfl⟩ := h
  exact hbody.takes blank rest hblank

/-- Items with gaps and commas between them are a listing. -/
theorem listing_joined {P : β → List Char → List Char → Prop} {write : α → List Char}
    {value : α → β} {xs : List α}
    (hlast : IsBlank last) (hitem : ∀ x ∈ xs, ∀ rest, P (value x) (gap ++ (write x ++ rest)) rest)
    (first : Bool)
    (rest : List Char) :
    Listing P ']' first (xs.map value) (joined gap first (xs.map write) ++ (last ++ ']' :: rest))
      rest := by
  induction xs generalizing first with
  | nil => exact .nil ⟨last, hlast, rfl⟩
  | cons x xs ih =>
    have hxs := ih (fun y hy => hitem y (List.mem_cons_of_mem x hy)) false
    rw [List.map_cons, List.map_cons, joined, List.append_assoc, List.append_assoc]
    exact .cons (lead_lead first _) (hitem x List.mem_cons_self _) hxs

theorem takes_allElements {item : Decoder β} {write : α → List Char} {value : α → β} {xs : List α}
    (hgap : IsBlank gap)
    (hlast : IsBlank last) (hitem : ∀ x ∈ xs, Written item (write x) (value x)) (first : Bool)
    (rest : List Char) :
    Takes (allElements item first) (joined gap first (xs.map write) ++ (last ++ ']' :: rest))
      (xs.map value)
      (']' :: rest) := by
  have hbegins : ∀ x ∈ xs, ∀ rest, BeginsWritten item (value x) (gap ++ (write x ++ rest)) rest :=
    fun x hx _ => ⟨write x, hitem x hx, gap, hgap, rfl⟩
  exact takes_allElements_of_listing (isItem_beginsWritten item) takes_of_beginsWritten
    (listing_joined hlast hbegins first rest)

theorem takes_listEnd (rest : List Char) : Takes listEnd (']' :: rest) () rest :=
  takes_listEnd_iff.2 (.refl _)

/-! ### Objects -/

/-- What is written for a member of an object. -/
def memberText (space : List Char) (entry : String × List Char) : List Char :=
  (Text.quote entry.1).toList ++ ':' :: (space ++ entry.2)

/-- What the members of an object make of what was found before, one after another. -/
inductive Folds (member : α → String → Decoder α) (space : List Char) :
    α → List (String × List Char) → α → Prop
  | nil {found} : Folds member space found [] found
  | cons {found next final key text entries}
      (htext : ∀ rest, (member found key).Takes (':' :: (space ++ (text ++ rest))) next rest)
      (hentries : Folds member space next entries final) :
      Folds member space found ((key, text) :: entries) final

theorem takes_objectEnd (rest : List Char) : Takes objectEnd ('}' :: rest) () rest :=
  takes_objectEnd_iff.2 (.refl _)

theorem takes_colon (rest : List Char) : Takes colon (':' :: rest) () rest :=
  takes_colon_iff.2 (.refl _)

/-- Members are folded in order. The induction goes over the members, and the limit has to cover
them and the end. -/
theorem takes_members {member : α → String → Decoder α} {space : List Char} {found final : α}
    {entries : List (String × List Char)} (hgap : IsBlank gap) (hlast : IsBlank last)
    (h : Folds member space found entries final) {limit : Nat} (hlimit : entries.length < limit)
    (first : Bool)
    (rest : List Char) :
    Takes (members member limit first found)
      (joined gap first (entries.map (memberText space)) ++ (last ++ '}' :: rest)) final
        ('}' :: rest) := by
  induction h generalizing limit first with
  | nil =>
    obtain ⟨limit, rfl⟩ : ∃ n, limit = n + 1 := ⟨limit - 1, by omega⟩
    exact takes_members_iff.2 (.inl ⟨rfl, rest, ⟨last, hlast, rfl⟩, rfl⟩)
  | @cons found next final key text entries htext _ ih =>
    obtain ⟨limit, rfl⟩ : ∃ n, limit = n + 1 := ⟨limit - 1, by omega⟩
    have hentries := ih (Nat.lt_of_succ_lt_succ hlimit) false
    simp only [List.map_cons, joined, memberText, List.append_assoc, List.cons_append]
    have hkey := parsesString_quote hgap key
    exact takes_members_iff.2
      (.inr ⟨_, key, _, next, _, lead_lead first _, hkey _, htext _, hentries⟩)

theorem takes_allMembers {member : α → String → Decoder α} {space : List Char} {found final : α}
    {entries : List (String × List Char)} (hgap : IsBlank gap) (hlast : IsBlank last)
    (h : Folds member space found entries final) (rest : List Char) :
    Takes (allMembers member found)
      (joined gap true (entries.map (memberText space)) ++ (last ++ '}' :: rest)) final
      ('}' :: rest) := by
  have hne : ∀ text ∈ entries.map (memberText space), text ≠ [] := by
    intro text htext
    obtain ⟨entry, -, rfl⟩ := List.mem_map.1 htext
    simp [memberText, toList_quote]
  have hlength := length_le_length_joined hne gap true
  refine (takes_get _).bind (takes_members hgap hlast h ?_ true rest)
  rw [List.length_map] at hlength
  rw [List.length_append]
  omega

end

/-! ### Whole texts -/

theorem Written.run {α : Type} {decoder : Decoder α} {text after : List Char} {value : α}
    (h : Written decoder text value)
    (hafter : IsBlank after) : decoder.run (String.ofList (text ++ after)) = .ok value := by
  rw [run_eq_ok_iff, String.toList_ofList]
  exact ⟨after, h.takes [] after isBlank_nil, hafter⟩

end RouteManifest.Json.Decoder
