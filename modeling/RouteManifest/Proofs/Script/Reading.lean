import Mathlib.Data.List.Forall2
import RouteManifest.Proofs.Script.Tokens
import RouteManifest.Script.Reading

/-!
What readers make of scripts whose text is known. A reader is followed from state to state:
`outcome` says what it gives and which state it leaves, and `Gives` says it of all states of one
kind. States are told apart by the text that lies before them, so that the text can be read token by
token, with blanks in between.
-/

namespace RouteManifest.Script

/-! ### States -/

/-- The token at which a state stands, and what follows it. No fault has been noted. -/
structure State.Shows (state : State) (token : Token) (rest : Place) : Prop where
  token : state.current.token = token
  rest : state.current.rest = rest
  fault : state.fault = none

/-- The text that lies before a state. No fault has been noted, unless it is one of the token
there. -/
structure State.At (state : State) (text : Place) : Prop where
  current : state.current = Lexeme.read false true text
  fault : state.current.fault = none → state.fault = none

theorem State.At.shows {state : State} {text rest : Place} {token : Token} (h : state.At text)
    (htext : Begins text token rest) : state.Shows token rest := by
  obtain ⟨start, lineEnd, hread⟩ := htext
  have hcurrent := h.current.trans hread
  exact ⟨by rw [hcurrent], by rw [hcurrent], h.fault (by rw [hcurrent])⟩

namespace Read

section
variable {α β : Type} {context : Context} {state : State}

/-- What a reader makes of a state: a value or the place to blame, and the state that it leaves. -/
def outcome (reader : Read α) (context : Context) (state : State) : Except Place α × State :=
  (reader context).run state

/-! ### Readers put together -/

@[simp]
theorem outcome_pure (value : α) : outcome (pure value) context state = (.ok value, state) := rfl

@[simp]
theorem outcome_bind (first : Read α) (next : α → Read β) :
    outcome (first >>= next) context state =
      match outcome first context state with
      | (.ok value, later) => outcome (next value) context later
      | (.error place, later) => (.error place, later) := by
  simp only [outcome, ExceptT.run, bind, ReaderT.bind, ExceptT.bind, ExceptT.mk, ExceptT.bindCont,
    StateT.bind]
  cases first context state with
  | mk result later => cases result <;> rfl

@[simp]
theorem outcome_map (f : α → β) (reader : Read α) :
    outcome (f <$> reader) context state =
      match outcome reader context state with
      | (.ok value, later) => (.ok (f value), later)
      | (.error place, later) => (.error place, later) := by
  rw [map_eq_pure_bind, outcome_bind]
  rfl

@[simp]
theorem outcome_discard (reader : Read α) :
    outcome (discard reader) context state =
      match outcome reader context state with
      | (.ok _, later) => (.ok (), later)
      | (.error place, later) => (.error place, later) :=
  outcome_map (Function.const α ()) reader

@[simp]
theorem outcome_ite {p : Prop} [Decidable p] (first second : Read α) :
    outcome (if p then first else second) context state =
      if p then outcome first context state else outcome second context state := by
  split <;> rfl

@[simp]
theorem outcome_inContext (change : Context → Context) (reader : Read α) :
    outcome (inContext change reader) context state = outcome reader (change context) state := rfl

@[simp]
theorem outcome_recover (reader : Read α) (goOn : Place → Read α) :
    outcome (recover reader goOn) context state =
      match outcome reader context state with
      | (.ok value, later) => (.ok value, later)
      | (.error place, later) => outcome (goOn place) context later := by
  change outcome (tryCatch reader goOn) context state = _
  simp only [outcome, tryCatch, tryCatchThe, MonadExceptOf.tryCatch, ExceptT.tryCatch, ExceptT.run,
    ExceptT.mk, bind, StateT.bind]
  cases reader context state with
  | mk result later => cases result <;> rfl

@[simp]
theorem outcome_attempt (reader : Read α) :
    outcome (attempt reader) context state =
      match outcome reader { context with trying := true } state with
      | (.ok value, later) => (.ok (some value), later)
      | (.error _, _) => (.ok none, state) := by
  rfl

/-! ### Readers that only look -/

@[simp]
theorem outcome_read : outcome read context state = (.ok context, state) := rfl

@[simp]
theorem outcome_get : outcome get context state = (.ok state, state) := rfl

@[simp]
theorem outcome_token : outcome token context state = (.ok state.current.token, state) := rfl

@[simp]
theorem outcome_place : outcome place context state = (.ok state.current.start, state) := rfl

@[simp]
theorem outcome_onNewLine : outcome onNewLine context state = (.ok state.current.lineEnd, state) :=
  rfl

@[simp]
theorem outcome_following :
    outcome following context state = (.ok (Lexeme.read false true state.current.rest), state) :=
      rfl

@[simp]
theorem outcome_at? (mark : Mark) :
    outcome (at? mark) context state = (.ok (decide (state.current.token = .mark mark)), state) :=
      rfl

@[simp]
theorem outcome_atWord (text : String) :
    outcome (atWord text) context state =
      (.ok (decide (state.current.token = .word text false)), state) := rfl

@[simp]
theorem outcome_noteIf_false (place : Place) :
    outcome (noteIf false place) context state = (.ok (), state) := rfl

theorem outcome_eat_of_ne {mark : Mark} (h : state.current.token ≠ .mark mark) :
    outcome (eat mark) context state = (.ok false, state) := by
  simp [eat, h]

theorem outcome_eatWord_of_ne {text : String} (h : state.current.token ≠ .word text false) :
    outcome (eatWord text) context state = (.ok false, state) := by
  simp [eatWord, h]

end

theorem outcome_eatWordHere_of_ne {context : Context} {state : State} {text : String}
    (h : state.current.token ≠ .word text false) :
    outcome (eatWordHere text) context state = (.ok false, state) := by
  simp [eatWordHere, outcome_eatWord_of_ne h]

/-! ### What a reader gives -/

section
variable {α β : Type} {context : Context} {before middle after : State → Prop} {P : α → Prop}
  {Q : β → Prop}

/-- From every state of one kind the reader gives a value of one kind and leaves a state of another
kind. -/
def Gives (reader : Read α) (context : Context) (before : State → Prop) (P : α → Prop)
    (after : State → Prop) : Prop :=
  ∀ state, before state →
    ∃ value later, outcome reader context state = (.ok value, later) ∧ P value ∧ after later

theorem Gives.bind {first : Read α} {next : α → Read β}
    (hfirst : first.Gives context before P middle)
    (hnext : ∀ value, P value → (next value).Gives context middle Q after) :
    (first >>= next).Gives context before Q after := by
  intro state hstate
  obtain ⟨value, between, hrun, hvalue, hbetween⟩ := hfirst state hstate
  obtain ⟨result, later, hresult, hfinal⟩ := hnext value hvalue between hbetween
  exact ⟨result, later, by simp [hrun, hresult], hfinal⟩

theorem Gives.pure {value : α} (h : P value) :
    (Pure.pure value : Read α).Gives context before P before :=
  fun state hstate => ⟨value, state, rfl, h, hstate⟩

theorem Gives.map {f : α → β} {reader : Read α} (h : reader.Gives context before P after)
    (hf : ∀ value, P value → Q (f value)) : (f <$> reader).Gives context before Q after := by
  rw [map_eq_pure_bind]
  intro state hstate
  obtain ⟨value, later, hrun, hvalue, hlater⟩ := h state hstate
  exact ⟨f value, later, by simp [hrun], hf value hvalue, hlater⟩

/-- A reader that only looks at the state leaves it as it is. -/
theorem Gives.look {look : Read α} {next : α → Read β} (seen : α)
    (hlook : ∀ state, before state → outcome look context state = (.ok seen, state))
    (hnext : (next seen).Gives context before Q after) :
    (look >>= next).Gives context before Q after := by
  intro state hstate
  obtain ⟨result, later, hresult, hfinal⟩ := hnext state hstate
  exact ⟨result, later, by simp [hlook state hstate, hresult], hfinal⟩

theorem Gives.inContext {change : Context → Context} {reader : Read α}
    (h : reader.Gives (change context) before P after) :
    (Read.inContext change reader).Gives context before P after :=
      h

theorem Gives.of_begins {text rest : Place} {token : Token} {reader : Read α}
    (h : reader.Gives context (·.Shows token rest) P after) (htext : Begins text token rest) :
    reader.Gives context (·.At text) P after :=
  fun state hstate => h state (hstate.shows htext)

end

/-! ### Stepping over tokens -/

section
variable {context : Context} {state : State} {token : Token} {rest : Place}

theorem outcome_modify (f : State → State) :
    outcome (modify f) context state = (.ok (), f state) := rfl

/-- Noting a fault does not move. -/
theorem exists_note (context : Context) (state : State) (place : Place) :
    ∃ later, outcome (note place) context state = (.ok (), later) ∧
      later.current = state.current := by
  cases htrying : context.trying with
  | true => exact ⟨state, by simp [note, htrying], rfl⟩
  | false =>
    refine ⟨{ state with fault := state.fault.or (some place) }, ?_, rfl⟩
    simp only [note, htrying, outcome_bind, outcome_read, Bool.false_eq_true, if_false,
      outcome_modify]

theorem exists_stepTo (context : Context) (state : State) (rest : Place) :
    ∃ later, outcome (stepTo rest) context state = (.ok (), later) ∧
    later.current = Lexeme.read false true rest ∧
      ((Lexeme.read false true rest).fault = none → later.fault = state.fault) := by
  rw [stepTo]
  generalize Lexeme.read false true rest = lexeme
  simp only [outcome_bind, outcome_modify]
  cases hfault : lexeme.fault with
  | none => exact ⟨_, rfl, rfl, fun _ => rfl⟩
  | some place =>
    obtain ⟨later, hrun, hcurrent⟩ :=
      exists_note context { state with
        current := lexeme, previous := state.current.start, index := state.index + 1 } place
    exact ⟨later, hrun, hcurrent, nofun⟩

theorem gives_stepTo (context : Context) (rest : Place) (before : State → Prop)
    (hbefore : ∀ state, before state → state.fault = none) :
    (stepTo rest).Gives context before (fun _ => True) (·.At rest) := by
  intro state hstate
  obtain ⟨later, hrun, hcurrent, hfault⟩ := exists_stepTo context state rest
  refine ⟨(), later, hrun, trivial, hcurrent, ?_⟩
  rw [hcurrent]
  exact fun h => (hfault h).trans (hbefore state hstate)

/-- Behind a token the text goes on with what follows the token. -/
theorem gives_step (context : Context) :
    step.Gives context (·.Shows token rest) (fun _ => True) (·.At rest) := by
  intro state hstate
  have hstep := gives_stepTo context rest (·.Shows token rest) (fun _ h => h.fault) state hstate
  rwa [← hstate.rest] at hstep ⊢

theorem gives_eat (mark : Mark) :
    (eat mark).Gives context (·.Shows (.mark mark) rest) (· = true) (·.At rest) := by
  refine Gives.look true (fun state hstate => by simp [hstate.token]) ?_
  exact (gives_step _).bind fun _ _ => Gives.pure rfl

theorem gives_eatWord (text : String) :
    (eatWord text).Gives context (·.Shows (.word text false) rest) (· = true) (·.At rest) := by
  refine Gives.look true (fun state hstate => by simp [hstate.token]) ?_
  exact (gives_step _).bind fun _ _ => Gives.pure rfl

theorem gives_expect (context : Context) (mark : Mark) :
    (expect mark).Gives context (·.Shows (.mark mark) rest) (fun _ => True) (·.At rest) := by
  refine (gives_eat mark).bind ?_
  rintro _ rfl
  exact Gives.pure trivial

theorem gives_expectWord (context : Context) (text : String) :
    (expectWord text).Gives context (·.Shows (.word text false) rest) (fun _ => True)
      (·.At rest) := by
  refine (gives_eatWord text).bind ?_
  rintro _ rfl
  exact Gives.pure trivial

end

/-! ### Loops -/

section
variable {α : Type} {context : Context} {state : State}

theorem outcome_many_of_none {item : Read (Option α)} (hlimit : 0 < context.limit)
    (h : outcome item context state = (.ok none, state)) :
    outcome (many item) context state = (.ok [], state) := by
  obtain ⟨limit, hsucc⟩ : ∃ limit, context.limit = limit + 1 := ⟨context.limit - 1, by omega⟩
  simp [many, many.loop, hsucc, h]

theorem outcome_extendWhile_of_none {extend : α → Read (Option α)} {value : α}
    (hlimit : 0 < context.limit)
    (h : outcome (extend value) context state = (.ok none, state)) :
    outcome (extendWhile extend value) context state = (.ok value, state) := by
  obtain ⟨limit, hsucc⟩ : ∃ limit, context.limit = limit + 1 := ⟨context.limit - 1, by omega⟩
  simp [extendWhile, extendWhile.loop, hsucc, h]

end

end Read

/-! ### What ends an expression -/

/-- The characters that end an expression, as marks. -/
def closers : List (Char × Mark) :=
  [(',', .comma), (']', .closeBracket), ('\x7d', .closeBrace), (')', .closeParen),
    (';', .semicolon)]

/-- A text that begins with a mark that ends an expression, perhaps behind blanks, and what follows
the mark. -/
inductive Ends (mark : Mark) : Place → Place → Prop
  | behind {blank : List Char} {c : Char} (rest : Place) (hblank : IsBlank blank)
      (hc : (c, mark) ∈ closers) :
      Ends mark (blank ++ c :: rest) rest

/-- Some mark that ends an expression comes next. -/
def Ended (text : Place) : Prop := ∃ mark rest, Ends mark text rest

theorem closers_cases {c : Char} {mark : Mark} (h : (c, mark) ∈ closers) :
    c = ',' ∧ mark = .comma ∨ c = ']' ∧ mark = .closeBracket ∨ c = '\x7d' ∧ mark = .closeBrace ∨
      c = ')' ∧ mark = .closeParen ∨ c = ';' ∧ mark = .semicolon := by
  simpa [closers] using h

theorem Ends.begins {mark : Mark} {text rest : Place} (h : Ends mark text rest) :
    Begins text (.mark mark) rest := by
  obtain ⟨rest, hblank, hc⟩ := h
  rcases closers_cases hc with ⟨rfl, rfl⟩ | ⟨rfl, rfl⟩ | ⟨rfl, rfl⟩ | ⟨rfl, rfl⟩ | ⟨rfl, rfl⟩ <;>
    exact begins_mark hblank rfl rfl rfl

theorem Ends.endsWord {mark : Mark} {text rest : Place} (h : Ends mark text rest) :
    EndsWord text := by
  obtain @⟨blank, c, rest, hblank, hc⟩ := h
  cases blank with
  | nil =>
    rcases closers_cases hc with ⟨rfl, -⟩ | ⟨rfl, -⟩ | ⟨rfl, -⟩ | ⟨rfl, -⟩ | ⟨rfl, -⟩ <;>
      exact endsWord_cons (by decide)
  | cons first blank =>
    rcases hblank first List.mem_cons_self with rfl | rfl <;> exact endsWord_cons (by decide)

/-- A mark that ends an expression stands at the state. -/
def State.Closes (state : State) : Prop :=
  state.current.token = .mark .comma ∨ state.current.token = .mark .closeBracket ∨
    state.current.token = .mark .closeBrace ∨ state.current.token = .mark .closeParen ∨
    state.current.token = .mark .semicolon

theorem State.At.closes {state : State} {text : Place} (h : state.At text) (htext : Ended text) :
    state.Closes := by
  obtain ⟨mark, rest, hends⟩ := htext
  have htoken := (h.shows hends.begins).token
  obtain ⟨-, -, hc⟩ := hends
  rcases closers_cases hc with ⟨-, rfl⟩ | ⟨-, rfl⟩ | ⟨-, rfl⟩ | ⟨-, rfl⟩ | ⟨-, rfl⟩ <;>
    simp [State.Closes, htoken]

namespace Read

/-! ### Lists -/

section
variable {α β ι : Type} {context : Context} {item : Read α} {single : Read β} {closing : Mark}

/-- What is written for an item is read to a value of a kind, whatever ends it. It does not begin
with a mark that ends expressions. -/
def Written (item : Read α) (context : Context) (written : List Char) (P : α → Prop) : Prop :=
  ∀ blank after, IsBlank blank → Ended after →
    (∃ token rest, Begins (blank ++ (written ++ after)) token rest ∧ ∀ mark ∈ closers.map Prod.snd,
      token ≠ .mark mark) ∧
      item.Gives context (·.At (blank ++ (written ++ after))) P (·.At after)

theorem gives_eat_of_begins (context : Context) {text rest : Place} {mark : Mark}
    (h : Begins text (.mark mark) rest) :
    (eat mark).Gives context (·.At text) (· = true) (·.At rest) :=
  fun state hstate => gives_eat mark state (hstate.shows h)

theorem outcome_eat_of_begins (context : Context) (mark : Mark) {state : State} {text rest : Place}
    {token : Token}
    (hstate : state.At text) (h : Begins text token rest) (hne : token ≠ .mark mark) :
      outcome (eat mark) context state = (.ok false, state) :=
  outcome_eat_of_ne ((hstate.shows h).token ▸ hne)

/-- What is written for an element is read to a value of a kind, together with the comma behind it
if there is one. -/
structure ReadsElement (single : Read β) (closing : Mark) (context : Context) (written : List Char)
    (P : β → Prop) :
    Prop where
  begins : ∀ blank after, IsBlank blank → Ended after →
    ∃ token rest, Begins (blank ++ (written ++ after)) token rest ∧ token ≠ .mark closing
  beforeComma : ∀ blank after rest, IsBlank blank → Ends .comma after rest →
    single.Gives context (·.At (blank ++ (written ++ after))) P (·.At rest)
  atEnd : ∀ blank after rest, IsBlank blank → Ends closing after rest →
    single.Gives context (·.At (blank ++ (written ++ after))) P (·.At after)

theorem Written.element {written : List Char} {P : α → Prop} (h : Written item context written P)
    {c : Char}
    (hc : (c, closing) ∈ closers) (hclosing : closing ≠ .comma) :
    ReadsElement (do
      let value ← item
      let comma ← place
      let found ← eat .comma
      unless found || (← at? closing) do fail
      return (value, if found then some comma else none)) closing context written (P ·.1) where
  begins blank after hblank hafter := by
    obtain ⟨⟨token, rest, hbegins, hne⟩, -⟩ := h blank after hblank hafter
    exact ⟨token, rest, hbegins, hne closing (List.mem_map_of_mem (f := Prod.snd) hc)⟩
  beforeComma blank after rest hblank hends := by
    refine (h blank after hblank ⟨_, _, hends⟩).2.bind fun value hvalue => ?_
    intro state hstate
    obtain ⟨_, later, hrun, rfl, hlater⟩ := gives_eat_of_begins context hends.begins state hstate
    exact ⟨_, later, by simp [hrun]; rfl, hvalue, hlater⟩
  atEnd blank after rest hblank hends := by
    refine (h blank after hblank ⟨_, _, hends⟩).2.bind fun value hvalue => ?_
    intro state hstate
    have hmark := (hstate.shows hends.begins).token
    have heat := outcome_eat_of_begins context .comma hstate hends.begins (by simpa using hclosing)
    exact ⟨_, state, by simp [heat, hmark]; rfl, hvalue, hstate⟩

/-- Elements up to the closing mark. The induction is on the elements, and the limit has to cover
them. -/
theorem gives_manyUntil {write : ι → List Char} {P : ι → β → Prop} {xs : List ι} {c : Char}
    (hc : (c, closing) ∈ closers)
    {separator last : List Char} (hseparator : IsBlank separator) (hlast : IsBlank last)
    (hxs : ∀ x ∈ xs, ReadsElement single closing context (write x) (P x))
    (rest : Place) {first : List Char} (hfirst : IsBlank first)
    (hlimit : xs.length < context.limit) :
    (manyUntil closing single).Gives context
      (·.At (first ++ ((',' :: separator).intercalate (xs.map write) ++ (last ++ c :: rest))))
      (List.Forall₂ P xs) (·.At rest) := by
  suffices hloop : ∀ limit, xs.length < limit →
      (many.loop (do
        if ← eat closing then return none
        return some (← single)) limit).Gives context
        (·.At (first ++ ((',' :: separator).intercalate (xs.map write) ++ (last ++ c :: rest))))
        (List.Forall₂ P xs) (·.At rest) from
    Gives.look _ (fun _ _ => rfl) (hloop context.limit hlimit)
  have hend : Ends closing (last ++ c :: rest) rest := .behind rest hlast hc
  clear hlimit
  induction xs generalizing first with
  | nil =>
    intro limit hlimit
    obtain ⟨limit, rfl⟩ : ∃ n, limit = n + 1 :=
      ⟨limit - 1, by simp only [List.length_nil] at hlimit; omega⟩
    have hblank : IsBlank (first ++ last) :=
      fun c hc => (List.mem_append.1 hc).elim (hfirst c) (hlast c)
    rw [List.map_nil, List.intercalate_nil, List.nil_append, ← List.append_assoc]
    intro state hstate
    obtain ⟨_, later, hrun, rfl, hlater⟩ :=
      gives_eat_of_begins context (Ends.behind rest hblank hc).begins state hstate
    exact ⟨[], later, by simp [many.loop, hrun], .nil, hlater⟩
  | cons x xs ih =>
    intro limit hlimit
    obtain ⟨limit, rfl⟩ : ∃ n, limit = n + 1 :=
      ⟨limit - 1, by simp only [List.length_cons] at hlimit; omega⟩
    have hlimit' : xs.length < limit := by simp only [List.length_cons] at hlimit; omega
    have hx := hxs x List.mem_cons_self
    have hrest := fun y hy => hxs y (List.mem_cons_of_mem x hy)
    -- Behind the element the loop goes on from where the element was left.
    have hnext : ∀ {after middle}, Ended after →
        single.Gives context (·.At (first ++ (write x ++ after))) (P x) (·.At middle) →
        (many.loop (do
          if ← eat closing then return none
          return some (← single)) limit).Gives context (·.At middle) (List.Forall₂ P xs)
            (·.At rest) →
        (many.loop (do
          if ← eat closing then return none
          return some (← single)) (limit + 1)).Gives context (·.At (first ++ (write x ++ after)))
          (List.Forall₂ P (x :: xs)) (·.At rest) := by
      intro after middle hafter helement hloop state hstate
      obtain ⟨token, rest', hbegins, hne⟩ := hx.begins first after hfirst hafter
      obtain ⟨value, between, hrun, hvalue, hbetween⟩ := helement state hstate
      obtain ⟨values, later, hvalues, hall, hlater⟩ := hloop between hbetween
      have heat := outcome_eat_of_begins context closing hstate hbegins hne
      refine ⟨value :: values, later, ?_, .cons hvalue hall, hlater⟩
      simp only [many.loop, outcome_bind, heat, Bool.false_eq_true, if_false, hrun, outcome_pure,
        hvalues]
    cases xs with
    | nil =>
      rw [List.map_singleton, List.intercalate_singleton]
      refine hnext ⟨_, _, hend⟩ (hx.atEnd first _ rest hfirst hend) ?_
      exact ih hrest isBlank_nil limit hlimit'
    | cons y ys =>
      have hcomma : ∀ after, Ends .comma (',' :: after) after :=
        fun after => .behind after isBlank_nil (by decide)
      rw [List.map_cons, List.map_cons, List.intercalate_cons_cons, List.append_assoc,
        List.append_assoc]
      refine hnext ⟨_, _, hcomma _⟩ (hx.beforeComma first _ _ hfirst (hcomma _)) ?_
      exact ih hrest hseparator limit hlimit'

/-- Items with commas between them, up to the closing mark. -/
theorem gives_commaListAndEnd {write : ι → List Char} {P : ι → α → Prop} {xs : List ι} {c : Char}
    (hc : (c, closing) ∈ closers) (hclosing : closing ≠ .comma) {first separator last : List Char}
    (hfirst : IsBlank first) (hseparator : IsBlank separator) (hlast : IsBlank last)
    (hxs : ∀ x ∈ xs, Written item context (write x) (P x)) (hlimit : xs.length < context.limit)
    (rest : Place) :
    (commaListAndEnd closing item).Gives context
      (·.At (first ++ ((',' :: separator).intercalate (xs.map write) ++ (last ++ c :: rest))))
      (fun result => List.Forall₂ P xs result.1) (·.At rest) := by
  have helements := fun x hx => (hxs x hx).element hc hclosing
  refine (gives_manyUntil hc hseparator hlast helements rest hfirst hlimit).bind
    fun items hitems => ?_
  exact Gives.pure (List.forall₂_map_right_iff.2 hitems)

end

end Read

end RouteManifest.Script
