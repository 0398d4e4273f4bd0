import RouteManifest.Pattern
import RouteManifest.Proofs.Script.Tokens

/-!
A reader of manifests. It goes by the lexical grammar of scripts alone: tokens are those of
`Script.Lexeme`, with blanks and comments before them, and a slash where a pattern is due begins a
regular expression. What it reads is the one shape that a manifest has, `export const
RoutableRegistry = [{ match: [...], loader: () => import("...") }, ...];`, up to the end of the
text.

`Reads` says what a reader makes of a text whose beginning is known.
-/

namespace RouteManifest.Manifest

open Script
open Text.Identifier (isPart)

/-- What an entry of a manifest says. -/
structure Entry where
  patterns : List Pattern
  path : String
  deriving DecidableEq

/-- Takes something from the beginning of a text. -/
abbrev Reader (α : Type) := StateT Place Option α

namespace Reader

def token : Reader Token := fun text =>
  let lexeme := Lexeme.read false true text
  if lexeme.fault.isNone then some (lexeme.token, lexeme.rest) else none

/-- Steps over the next token, which must be the given one. -/
def expect (expected : Token) : Reader Unit := do
  guard ((← token) = expected)

def word (text : String) : Reader Unit := expect (.word text false)

def mark (mark : Mark) : Reader Unit := expect (.mark mark)

/-- A string literal. -/
def text : Reader String := do
  match ← token with
  | .text (some value) => return value
  | _ => failure

/-- The body of a regular expression and its flags. The body is not empty, does not begin with a
star and stays on one line, and the flags are the characters of identifiers that follow. -/
def regexAfterSlash : Reader Pattern := fun text => do
  let (body, rest) ← regexBody? false text
  if body.isEmpty || body.head? == some '*' || body.any isLineEnd then failure
  else return (.regex (String.ofList body) (String.ofList (rest.takeWhile isPart)),
    rest.dropWhile isPart)

/-- A regular expression. -/
def regex : Reader Pattern := fun text =>
  match gap false none text with
  | ⟨'/' :: start, _, none⟩ => regexAfterSlash start
  | _ => none

def pattern : Reader Pattern := regex <|> Pattern.literal <$> text

/-- Items with commas between them, and the bracket after them. There are at most `limit` of
them. -/
def itemsUpTo {α : Type} (item : Reader α) : Nat → Reader (List α)
  | 0 => failure
  | limit + 1 => do
      let value ← item
      match ← token with
      | .mark .comma => return value :: (← itemsUpTo item limit)
      | .mark .closeBracket => return [value]
      | _ => failure

/-- Items between brackets. -/
def array {α : Type} (item : Reader α) : Reader (List α) := do
  mark .openBracket
  (do itemsUpTo item (← get).length) <|> (do mark .closeBracket; return [])

def entry : Reader Entry := do
  mark .openBrace
  word "match"
  mark .colon
  let patterns ← array pattern
  mark .comma
  word "loader"
  mark .colon
  mark .openParen
  mark .closeParen
  mark .arrow
  word "import"
  mark .openParen
  let path ← text
  mark .closeParen
  mark .closeBrace
  return ⟨patterns, path⟩

def manifest : Reader (List Entry) := do
  word "export"
  word "const"
  word "RoutableRegistry"
  mark .assign
  let entries ← array entry
  mark .semicolon
  expect .endOfText
  return entries

end Reader

/-- The entries of a manifest, if a text is one. -/
def read? (text : String) : Option (List Entry) := Reader.manifest.run' text.toList

/-! ### What a reader makes of a text -/

namespace Reader

section
variable {α β : Type}

/-- The reader takes a value from the beginning of the text and leaves the rest. -/
def Reads (reader : Reader α) (text : Place) (value : α) (rest : Place) : Prop :=
  reader.run text = some (value, rest)

theorem Reads.pure (value : α) (text : Place) : Reads (pure value) text value text := rfl

theorem Reads.bind {first : Reader α} {next : α → Reader β} {text middle rest : Place}
    {a : α} {b : β}
    (hfirst : first.Reads text a middle) (hnext : (next a).Reads middle b rest) :
    Reads (first >>= next) text b rest := by
  rw [Reads, StateT.run_bind, hfirst]
  exact hnext

theorem Reads.map {reader : Reader α} {text rest : Place} {a : α} (f : α → β)
    (h : reader.Reads text a rest) :
    Reads (f <$> reader) text (f a) rest := by
  rw [Reads, StateT.run_map, h]
  rfl

theorem Reads.orElse {first second : Reader α} {text rest : Place} {a : α}
    (h : first.Reads text a rest) :
    Reads (first <|> second) text a rest := by
  change (first.run text <|> second.run text) = _
  rw [h]
  rfl

theorem Reads.orElse_of_none {first second : Reader α} {text rest : Place} {a : α}
    (hfirst : first.run text = none)
    (hsecond : second.Reads text a rest) : Reads (first <|> second) text a rest := by
  change (first.run text <|> second.run text) = _
  rw [hfirst]
  exact hsecond

end

/-! ### Tokens -/

theorem reads_of_begins {text rest : Place} {next : Token} (h : Begins text next rest) :
    token.Reads text next rest := by
  obtain ⟨start, lineEnd, hread⟩ := h
  simp [Reads, token, StateT.run, hread]

theorem Reads.expect {text rest : Place} {next : Token} (h : token.Reads text next rest) :
    (expect next).Reads text () rest := by
  refine h.bind ?_
  have hguard : (guard (next = next) : Reader Unit) = Pure.pure () := if_pos rfl
  rw [hguard]
  exact Reads.pure () rest

theorem reads_word {blank rest : List Char} (word : String) (hblank : IsBlank blank)
    (hword : isPlainWord word.toList = true) (hrest : EndsWord rest) :
    (Reader.word word).Reads (blank ++ (word.toList ++ rest)) () rest :=
  (reads_of_begins (begins_word word hblank hword hrest)).expect

theorem reads_mark {blank rest after : Place} {c : Char} {mark : Mark} (hblank : IsBlank blank)
    (hc : beginsMark c = true) (hconflict : isConflictMark (c :: rest) = false)
    (hmark : mark? (c :: rest) = some (mark, after)) :
    (Reader.mark mark).Reads (blank ++ c :: rest) () after :=
  (reads_of_begins (begins_mark hblank hc hconflict hmark)).expect

theorem reads_text {blank : List Char} (value : String) (hblank : IsBlank blank) (rest : Place) :
    text.Reads (blank ++ ((Text.quote value).toList ++ rest)) value rest :=
  (reads_of_begins (begins_text value hblank rest)).bind (Reads.pure value rest)

/-! ### Lists -/

section
variable {α β : Type} {item : Reader β} {value : α → β} {write : α → List Char}

theorem endsWord_closing {last : List Char} (hlast : IsBlank last) (rest : Place) :
    EndsWord (last ++ ']' :: rest) := by
  cases last with
  | nil => exact endsWord_cons (by decide)
  | cons blank last =>
    apply endsWord_cons
    rcases hlast blank List.mem_cons_self with rfl | rfl <;> decide

theorem reads_closing {last : List Char} (hlast : IsBlank last) (rest : Place) :
    token.Reads (last ++ ']' :: rest) (.mark .closeBracket) rest :=
  reads_of_begins (begins_mark hlast rfl rfl rfl)

theorem itemsUpTo_eq_none {text : Place} (h : item.run text = none) (limit : Nat) :
    (itemsUpTo item limit).run text = none := by
  cases limit with
  | zero => rfl
  | succ limit =>
    rw [itemsUpTo, StateT.run_bind, h]
    rfl

/-- Behind blanks and in front of whatever ends a word, what is written for an item is read to its
value. -/
def ReadsItem (item : Reader β) (written : List Char) (value : β) : Prop :=
  ∀ blank rest, IsBlank blank → EndsWord rest → item.Reads (blank ++ (written ++ rest)) value rest

/-- Items that can be read one by one are read in order. The induction goes over the items, and the
limit has to cover them. -/
theorem reads_itemsUpTo {first separator last : List Char} {xs : List α} (hfirst : IsBlank first)
    (hseparator : IsBlank separator) (hlast : IsBlank last)
    (hitem : ∀ x ∈ xs, ReadsItem item (write x) (value x))
    (hxs : xs ≠ []) {limit : Nat} (hlimit : xs.length ≤ limit) (rest : Place) :
    (itemsUpTo item limit).Reads
      (first ++ ((',' :: separator).intercalate (xs.map write) ++ (last ++ ']' :: rest)))
        (xs.map value) rest := by
  induction xs generalizing first limit with
  | nil => exact absurd rfl hxs
  | cons x xs ih =>
    obtain ⟨limit, rfl⟩ : ∃ n, limit = n + 1 :=
      ⟨limit - 1, by simp only [List.length_cons] at hlimit; omega⟩
    have hx := hitem x List.mem_cons_self
    cases xs with
    | nil =>
      rw [itemsUpTo, List.map_singleton, List.map_singleton, List.intercalate_singleton]
      exact (hx first _ hfirst (endsWord_closing hlast rest)).bind
        ((reads_closing hlast rest).bind (Reads.pure _ _))
    | cons y ys =>
      have hcomma : ∀ after, EndsWord (',' :: after) := fun _ => endsWord_cons (by decide)
      have hblank : IsBlank [] := by decide
      have htoken : ∀ after, token.Reads (',' :: after) (.mark .comma) after := fun after =>
        reads_of_begins (begins_mark hblank rfl rfl rfl)
      have hlimit' : (y :: ys).length ≤ limit := Nat.le_of_succ_le_succ hlimit
      have hrest := ih hseparator (fun z hz => hitem z (List.mem_cons_of_mem x hz))
        (List.cons_ne_nil y ys) hlimit'
      rw [itemsUpTo, List.map_cons, List.map_cons, List.map_cons, List.intercalate_cons_cons,
        List.append_assoc, List.append_assoc]
      exact (hx first _ hfirst (hcomma _)).bind ((htoken _).bind (hrest.bind (Reads.pure _ _)))

theorem length_le_length_intercalate {separator : List α} (hseparator : separator ≠ [])
    (xs : List (List α)) :
    xs.length ≤ (separator.intercalate xs).length + 1 := by
  have hpos := List.length_pos_iff.2 hseparator
  induction xs with
  | nil => exact Nat.zero_le _
  | cons x xs ih =>
    cases xs with
    | nil => simp
    | cons y ys =>
      rw [List.intercalate_cons_cons, List.length_append, List.length_append, List.length_cons]
      omega

/-- Items between brackets, with blanks around them. -/
theorem reads_array {blank first separator last : List Char} {xs : List α} (hblank : IsBlank blank)
    (hfirst : IsBlank first) (hseparator : IsBlank separator) (hlast : IsBlank last)
    (hitem : ∀ x ∈ xs, ReadsItem item (write x) (value x))
    (hclosing : ∀ blank rest, IsBlank blank → item.run (blank ++ ']' :: rest) = none)
    (rest : Place) :
    (array item).Reads
      (blank ++ '[' ::
        (first ++ ((',' :: separator).intercalate (xs.map write) ++ (last ++ ']' :: rest))))
      (xs.map value) rest := by
  refine (reads_mark hblank rfl rfl rfl).bind ?_
  by_cases hxs : xs = []
  · subst hxs
    have hempty : IsBlank (first ++ last) := fun c hc =>
      (List.mem_append.1 hc).elim (hfirst c) (hlast c)
    rw [List.map_nil, List.intercalate_nil, List.nil_append, ← List.append_assoc]
    apply Reads.orElse_of_none
    · exact itemsUpTo_eq_none (hclosing _ rest hempty) _
    · exact (reads_closing hempty rest).expect.bind (Reads.pure _ _)
  · have hlength := length_le_length_intercalate (List.cons_ne_nil ',' separator) (xs.map write)
    have hget : ∀ text : Place, Reads get text text text := fun _ => rfl
    refine Reads.orElse ((hget _).bind ?_)
    refine reads_itemsUpTo hfirst hseparator hlast hitem hxs ?_ rest
    simp only [List.length_append, List.length_cons, List.length_map] at hlength ⊢
    omega

end

end Reader

end RouteManifest.Manifest
