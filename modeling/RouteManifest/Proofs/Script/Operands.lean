import RouteManifest.Proofs.Pattern.Flags
import RouteManifest.Proofs.Script.Reading
import RouteManifest.Script.Module

/-!
Operands of known texts. Behind an operand that a closing mark ends nothing more belongs to the
expression, so what is read of the operand is read of the expression. Strings and regular
expressions are read back to what was written.
-/

namespace RouteManifest.Script

open Text.Identifier (isStart isPart)

/-! ### Flags of regular expressions -/

theorem eraseDups_of_nodup {values : List Char} (h : values.Nodup) : values.eraseDups = values := by
  induction h with
  | nil => rfl
  | @cons value values hvalue _ ih =>
    have hfilter : values.filter (fun other => !other == value) = values := by
      refine List.filter_eq_self.2 fun other hother => ?_
      have hne := hvalue other hother
      simpa using hne.symm
    rw [List.eraseDups_cons, hfilter, ih]

namespace Grammar

open Read

theorem areKnownFlags_of_accepts {flags : String} (h : RegexFlags.accepts flags = true) :
    areKnownFlags flags.toList = true := by
  have hallowed := RegexFlags.accepts_eq_true_iff.1 h
  rw [areKnownFlags, eraseDups_of_nodup hallowed.nodup, beq_self_eq_true, Bool.and_true,
    List.all_eq_true]
  intro c hc
  exact List.contains_iff_mem.2 (hallowed.known c hc)

theorem regexFlags?_of_accepts {flags : String} (h : RegexFlags.accepts flags = true) {rest : Place}
    (hrest : EndsWord rest) :
    regexFlags? (flags.toList ++ rest) = some (flags.toList, rest) := by
  have hstarts : ∀ c ∈ flags.toList, isStart c = true := by
    have hall : RegexFlags.known.all isStart = true := by decide
    intro c hc
    exact List.all_eq_true.1 hall c ((RegexFlags.accepts_eq_true_iff.1 h).known c hc)
  -- Flags are read as a word, which their first character has to begin. Without flags nothing may
  -- begin one.
  cases hflags : flags.toList with
  | nil =>
    have hnone : (rest.head?.map isStart).getD false = false := by
      cases hhead : rest.head? with
      | none => rfl
      | some c =>
        have hpart := (hrest c hhead).1
        cases hstart : isStart c with
        | false => simp [hstart]
        | true => rw [isPart_of_isStart hstart] at hpart; cases hpart
    simp [regexFlags?, hnone]
  | cons first word =>
    rw [hflags] at hstarts
    have hstart := hstarts first List.mem_cons_self
    have hparts := fun c hc => isPart_of_isStart (hstarts c (List.mem_cons_of_mem first hc))
    rw [List.cons_append]
    simp [regexFlags?, hstart, wordFrom_start hstart hparts hrest]

/-! ### Operands that a mark ends -/

section
variable {self : Grammar} {context : Context} {state : State}

theorem suffix?_of_closes (h : state.Closes) (start : Place) (calls indexes : Bool)
    (operand : Tree) :
    outcome (suffix? self start calls indexes operand) context state = (.ok none, state) := by
  rcases h with h | h | h | h | h <;> simp [suffix?, h]

theorem suffixes_of_closes (hlimit : 0 < context.limit) (h : state.Closes) (start : Place)
    (calls indexes : Bool)
    (operand : Tree) :
    outcome (suffixes self start calls indexes operand) context state = (.ok operand, state) :=
  outcome_extendWhile_of_none hlimit (suffix?_of_closes h start calls indexes operand)

theorem instantiated_of_closes (h : state.Closes) (operand : Tree) :
    outcome (instantiated self operand) context state = (.ok operand, state) := by
  rcases h with h | h | h | h | h <;> simp [instantiated, h]

theorem callTypes?_of_closes (h : state.Closes) :
    outcome (callTypes? self) context state = (.ok none, state) := by
  rcases h with h | h | h | h | h <;> simp [callTypes?, atAngle, h]

theorem typedOperand?_of_closes (h : state.Closes) (rank : Nat) (operand : Tree) :
    outcome (typedOperand? self rank operand) context state = (.ok none, state) := by
  rcases h with h | h | h | h | h <;> simp [typedOperand?, outcome_eatWordHere_of_ne, h]

theorem markedOperator?_of_closes (context : Context) (h : state.Closes) :
    outcome markedOperator? context state =
    (.ok none, state) := by
  rcases h with h | h | h | h | h <;> simp [markedOperator?, h]

theorem operator?_of_closes (h : state.Closes) :
    outcome operator? context state = (.ok none, state) := by
  have hmarked := markedOperator?_of_closes context h
  rcases h with h | h | h | h | h <;> simp [operator?, hmarked, h]

theorem operations_of_closes (hlimit : 0 < context.limit) (h : state.Closes) (rank : Nat)
    (start : Place)
    (operand : Tree) :
    outcome (operations self context.limit rank start operand) context state =
      (.ok operand, state) := by
  obtain ⟨limit, hsucc⟩ : ∃ limit, context.limit = limit + 1 := ⟨context.limit - 1, by omega⟩
  simp [hsucc, operations, typedOperand?_of_closes h, operator?_of_closes h]

theorem assignmentRest_of_closes (h : state.Closes) (start : Place) (target : Tree) :
    outcome (assignmentRest self start target) context state = (.ok target, state) := by
  rcases h with h | h | h | h | h <;> simp [assignmentRest, assigns?, h]

/-- A literal, or a mark with which an operand begins. -/
def OpensPrimary (token : Token) : Prop :=
  (∃ value, token = .text value) ∨ token = .mark .slash ∨ token = .mark .slashUpdate ∨
    token = .mark .openBracket ∨ token = .mark .openBrace ∨ token = .mark .openParen

/-- A token with which an operand without signs begins. -/
def OpensOperand (token : Token) : Prop := OpensPrimary token ∨ token = .word "import" false

theorem OpensPrimary.ne_word {token : Token} (h : OpensPrimary token) (text : String) :
    token ≠ .word text false := by
  rcases h with ⟨value, h⟩ | h | h | h | h | h <;> simp [h]

theorem OpensOperand.ne_mark {token : Token} (h : OpensOperand token) {mark : Mark}
    (hmark : mark ∈ [Mark.comma, .closeBracket, .closeBrace, .closeParen, .semicolon, .ellipsis,
      .colon]) :
      token ≠ .mark mark := by
  have hne : mark ≠ .slash ∧ mark ≠ .slashUpdate ∧ mark ≠ .openBracket ∧ mark ≠ .openBrace ∧
      mark ≠ .openParen := by
    simp only [List.mem_cons, List.not_mem_nil, or_false] at hmark
    rcases hmark with rfl | rfl | rfl | rfl | rfl | rfl | rfl <;> decide
  rcases h with (⟨value, h⟩ | h | h | h | h | h) | h <;>
    simp [h, hne.1.symm, hne.2.1.symm, hne.2.2.1.symm,
    hne.2.2.2.1.symm, hne.2.2.2.2.symm]

/-- The token at which a state stands, and what follows it. An arrow function may begin there. -/
structure Starts (state : State) (token : Token) (rest : Place) :
    Prop extends state.Shows token rest where
  mayBeArrow : state.arrowStart = some state.index

section
variable {token : Token} {rest after : Place} {P : Tree → Prop}

theorem gives_operand_of_primary (hlimit : 0 < context.limit) (hafter : Ended after)
    (htoken : OpensPrimary token)
    (h : (primary self).Gives context (Starts · token rest) P (·.At after)) :
    (operand self).Gives context (Starts · token rest) P (·.At after) := by
  intro state hstate
  obtain ⟨tree, later, hrun, htree, hlater⟩ := h state hstate
  have hcloses := hlater.closes hafter
  -- No word comes first, so neither `new` nor the loading of a module; and nothing is called or
  -- indexed at the end.
  have hword : ∀ text, state.current.token ≠ .word text false := hstate.token ▸ htoken.ne_word
  have hparen : later.current.token ≠ .mark .openParen := by
    rcases hcloses with h | h | h | h | h <;> simp [h]
  have hmember : outcome (member self) context state = (.ok tree, later) := by
    simp only [member, outcome_bind, outcome_place, outcome_eatWord_of_ne (hword _), outcome_atWord,
      hword, decide_false, Bool.false_eq_true, if_false, hrun]
    split
    · rfl
    · simp [suffixes_of_closes hlimit hcloses, instantiated_of_closes hcloses]
  refine ⟨tree, later, ?_, htree, hlater⟩
  simp only [operand, outcome_bind, outcome_place, outcome_atWord, hword, decide_false,
    Bool.false_eq_true, if_false, hmember]
  split
  · rfl
  · simp [callTypes?_of_closes hcloses, hparen]

theorem gives_unary (hafter : Ended after) (htoken : OpensOperand token)
    (h : (operand self).Gives context (Starts · token rest) P (·.At after)) :
    (unary self).Gives context (Starts · token rest) P (·.At after) := by
  intro state hstate
  obtain ⟨tree, later, hrun, htree, hlater⟩ := h state hstate
  have hcloses := hlater.closes hafter
  have hstep : later.current.token ≠ .mark .step := by
    rcases hcloses with h | h | h | h | h <;> simp [h]
  have hsign : outcome atSign context state = (.ok false, state) := by
    rcases htoken with (⟨value, h⟩ | h | h | h | h | h) | h <;> simp [atSign, hstate.token, h]
  have hless : state.current.token ≠ .mark .less ∧ state.current.token ≠ .mark .step ∧
      state.current.token ≠ .word "await" false := by
    rcases htoken with (⟨value, h⟩ | h | h | h | h | h) | h <;> simp [hstate.token, h]
  refine ⟨tree, later, ?_, htree, hlater⟩
  simp only [unary, outcome_bind, outcome_place, outcome_eat_of_ne, hless, ne_eq, not_false_eq_true,
    hsign, outcome_eatWord_of_ne, Bool.false_eq_true, if_false, hrun]
  split
  · rfl
  · simp [hstep]

theorem gives_assignment {depth : Nat} (hgenerator : context.inGenerator = false)
    (hlimit : 0 < context.limit)
    (hafter : Ended after) (htoken : OpensOperand token)
    (h : (operand (grammar depth)).Gives context (Starts · token rest) P (·.At after)) :
    (grammar (depth + 2) .assignment).Gives context (·.Shows token rest) P (·.At after) := by
  intro state hstate
  obtain ⟨tree, later, hrun, htree, hlater⟩ :=
    gives_unary hafter htoken h { state with arrowStart := some state.index }
    ⟨⟨hstate.token, hstate.rest, hstate.fault⟩, rfl⟩
  have hcloses := hlater.closes hafter
  have hless : state.current.token ≠ .mark .less := by
    rcases htoken with (⟨value, h⟩ | h | h | h | h | h) | h <;> simp [hstate.token, h]
  have hquestion : later.current.token ≠ .mark .question := by
    rcases hcloses with h | h | h | h | h <;> simp [h]
  refine ⟨tree, later, ?_, htree, hlater⟩
  -- Outside of generators the rule is a chain: an operand, then operators, a condition and an
  -- assignment, each of which finds the closing mark.
  change outcome (assignment (grammar (depth + 1))) context state = _
  have hconditional : outcome (conditional (grammar (depth + 1))) context
      { state with arrowStart := some state.index } =
      (.ok tree, later) := by
    have hunary : outcome (grammar (depth + 1) .unary) context
        { state with arrowStart := some state.index } =
        (.ok tree, later) := hrun
    simp only [conditional, leadingOperand, outcome_bind, outcome_place, outcome_recover, hunary]
    split
    · rfl
    · simp [operations_of_closes hlimit hcloses, outcome_eat_of_ne hquestion]
  have hallow : outcome allowArrow context state =
    (.ok (), { state with arrowStart := some state.index }) := rfl
  have hplain : outcome (plainAssignment (grammar (depth + 1))) context state =
      (.ok tree, later) := by
    simp only [plainAssignment, outcome_bind, outcome_read, outcome_atWord, outcome_place,
      hgenerator, Bool.false_and, Bool.false_eq_true, if_false, hallow, hconditional]
    split
    · rfl
    · exact assignmentRest_of_closes hcloses _ _
    · rfl
    · exact assignmentRest_of_closes hcloses _ _
  simp [assignment, hless, hplain]
end

end
end Grammar

/-! ### Expressions -/

/-- Surroundings of an expression that stands in no generator and in no conditional expression.
Loops may take more steps than the given number. -/
structure Context.Plain (context : Context) (length : Nat) : Prop where
  generator : context.inGenerator = false
  branch : context.inBranch = false
  colon : context.beforeColon = false
  limit : length < context.limit

theorem Context.Plain.allowingIn {context : Context} {length : Nat} (h : context.Plain length) :
    ({ context with allowsIn := true } : Context).Plain length :=
  ⟨h.generator, h.branch, h.colon, h.limit⟩

theorem Context.Plain.besideColon {context : Context} {length : Nat} (h : context.Plain length) :
    ({ context with beforeColon := false } : Context).Plain length :=
  ⟨h.generator, h.branch, rfl, h.limit⟩

namespace Grammar
open Read

/-- What is written for an expression is read to a tree of a kind, whatever ends it. The rules in it
nest at most as deeply as the given number, and its lists are at most of the given length. -/
def Expresses (length depth : Nat) (written : List Char) (P : Tree → Prop) : Prop :=
  ∀ context : Context, context.Plain length → ∀ {deep}, depth ≤ deep → ∀ {blank after},
    IsBlank blank → Ended after →
    (∃ token rest, Begins (blank ++ (written ++ after)) token rest ∧ OpensOperand token) ∧
      (grammar deep .assignment).Gives context (·.At (blank ++ (written ++ after))) P (·.At after)

section
variable {self : Grammar} {context : Context} {length depth : Nat} {written : List Char}
  {P : Tree → Prop}

theorem Expresses.imp {Q : Tree → Prop} (h : Expresses length depth written P)
    (hPQ : ∀ tree, P tree → Q tree) :
    Expresses length depth written Q := by
  intro context hcontext deep hdeep blank after hblank hafter
  obtain ⟨hbegins, hgives⟩ := h context hcontext hdeep hblank hafter
  refine ⟨hbegins, fun state hstate => ?_⟩
  obtain ⟨tree, later, hrun, htree, hlater⟩ := hgives state hstate
  exact ⟨tree, later, hrun, hPQ tree htree, hlater⟩

theorem Expresses.mono {deeper : Nat} (h : Expresses length depth written P)
    (hdepth : depth ≤ deeper) :
    Expresses length deeper written P :=
  fun context hcontext _ hdeep => h context hcontext (Nat.le_trans hdepth hdeep)

theorem Expresses.of_operand
    (h : ∀ context : Context, context.Plain length → ∀ {deep}, depth ≤ deep → ∀ {blank after},
      IsBlank blank →
      Ended after →
      ∃ token rest, Begins (blank ++ (written ++ after)) token rest ∧ OpensOperand token ∧
        (operand (grammar deep)).Gives context (Starts · token rest) P (·.At after)) :
    Expresses length (depth + 2) written P := by
  intro context hcontext deep hdeep blank after hblank hafter
  obtain ⟨deep, rfl⟩ : ∃ n, deep = n + 2 := ⟨deep - 2, by omega⟩
  obtain ⟨token, rest, hbegins, htoken, hoperand⟩ :=
    h context hcontext (Nat.le_of_add_le_add_right hdeep) hblank hafter
  refine ⟨⟨token, rest, hbegins, htoken⟩, Gives.of_begins ?_ hbegins⟩
  exact gives_assignment hcontext.generator
    (Nat.zero_lt_of_lt hcontext.limit) hafter htoken hoperand

theorem Expresses.of_primary
    (h : ∀ context : Context, context.Plain length → ∀ {deep}, depth ≤ deep → ∀ {blank after},
      IsBlank blank →
      Ended after →
      ∃ token rest, Begins (blank ++ (written ++ after)) token rest ∧ OpensPrimary token ∧
        (primary (grammar deep)).Gives context (Starts · token rest) P (·.At after)) :
    Expresses length (depth + 2) written P := by
  refine Expresses.of_operand ?_
  intro context hcontext deep hdeep blank after hblank hafter
  obtain ⟨token, rest, hbegins, htoken, hprimary⟩ := h context hcontext hdeep hblank hafter
  exact ⟨token, rest, hbegins, .inl htoken,
    gives_operand_of_primary (Nat.zero_lt_of_lt hcontext.limit) hafter htoken hprimary⟩

/-! ### Literals -/

theorem expresses_text (value : String) :
    Expresses length 2 (Text.quote value).toList (· = .text (some value)) := by
  refine (Expresses.of_primary ?_ : Expresses length (0 + 2) _ _)
  intro context hcontext deep _ blank after hblank _
  refine ⟨_, after, begins_text value hblank after, .inl ⟨_, rfl⟩, ?_⟩
  intro state hstate
  obtain ⟨_, later, hrun, -, hlater⟩ := gives_step context state hstate.toShows
  exact ⟨_, later, by simp [primary, hstate.token, hrun], rfl, hlater⟩

/-- Behind its slash a regular expression begins another token only if an equals sign follows. -/
theorem begins_regex (rest : List Char) {blank : List Char} {c : Char} (hblank : IsBlank blank)
    (hslash : c ≠ '/')
    (hstar : c ≠ '*') :
    ∃ token after, Begins (blank ++ '/' :: c :: rest) token after ∧
      (token = .mark .slash ∧ after = c :: rest ∨
        token = .mark .slashUpdate ∧ '=' :: after = c :: rest) := by
  have hbegins : ∀ {mark after}, mark? ('/' :: c :: rest) = some (mark, after) →
      Begins (blank ++ '/' :: c :: rest) (.mark mark) after := by
    intro mark after hmark
    have hdigit : isDigitOf 10 '/' = false := by decide
    have hstart : Text.Identifier.isStart '/' = false := by decide
    exact begins_of_tokenAt hblank (endsGap_slash hslash hstar)
      (by simp [Lexeme.tokenAt, hdigit, hstart, hmark])
  by_cases hequal : c = '='
  · subst hequal
    exact ⟨_, _, hbegins rfl, .inr ⟨rfl, rfl⟩⟩
  · have hmark : mark? ('/' :: c :: rest) = some (.slash, c :: rest) := by
      rw [mark?]
      exact fun _ h => hequal (List.cons.inj h).1
    exact ⟨_, _, hbegins hmark, .inl ⟨rfl, rfl⟩⟩

/-- A regular expression is read to its source as written and to its flags. -/
theorem expresses_regex {source flags : String} (hsource : Carried source)
    (hflags : RegexFlags.accepts flags = true) :
    Expresses length 2 ('/' :: ((regexSource source).toList ++ '/' :: flags.toList))
      (· = .regex (regexSource source) flags) := by
  refine (Expresses.of_primary ?_ : Expresses length (0 + 2) _ _)
  intro context _ deep _ blank after hblank hafter
  obtain ⟨_, _, hends⟩ := hafter
  have hbody := regexBody?_regexSource hsource (flags.toList ++ after)
  have hrest := regexFlags?_of_accepts hflags hends.endsWord
  have hknown := areKnownFlags_of_accepts hflags
  obtain ⟨c, body, hhead, hslash, hstar⟩ := head_regexSource hsource
  obtain ⟨token, rest, hbegins, htoken⟩ :=
    begins_regex (body ++ '/' :: (flags.toList ++ after)) hblank hslash hstar
  have hopens : OpensPrimary token := by
    rcases htoken with ⟨rfl, -⟩ | ⟨rfl, -⟩
    · exact .inr (.inl rfl)
    · exact .inr (.inr (.inl rfl))
  refine ⟨token, rest, by simpa [hhead] using hbegins, hopens, ?_⟩
  intro state hstate
  -- The equals sign that the token may have taken belongs to the body.
  have hstart :
      (if decide (state.current.token = .mark .slashUpdate) = true then '=' :: state.current.rest
      else state.current.rest) = (regexSource source).toList ++ '/' :: (flags.toList ++ after) := by
    rw [hstate.token, hstate.rest, hhead]
    rcases htoken with ⟨rfl, rfl⟩ | ⟨rfl, htaken⟩
    · rfl
    · exact htaken
  obtain ⟨_, later, hrun, -, hlater⟩ :=
    gives_stepTo context after (·.fault = none) (fun _ h => h) state hstate.fault
  have hprimary : outcome (primary (grammar deep)) context state =
      outcome regexLiteral context state := by
    rcases htoken with ⟨rfl, -⟩ | ⟨rfl, -⟩ <;> simp [primary, hstate.token]
  refine ⟨_, later, ?_, rfl, hlater⟩
  rw [hprimary]
  simp only [regexLiteral, outcome_bind, outcome_place, outcome_get, outcome_at?, hstart, hbody,
    hrest, hknown, if_true, hrun, outcome_pure, String.ofList_toList]

end
end Grammar

end RouteManifest.Script
