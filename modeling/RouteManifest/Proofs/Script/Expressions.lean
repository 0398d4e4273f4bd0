import RouteManifest.Proofs.Script.Operands

/-!
Expressions that hold others: arrays, objects, and functions without parameters that load a module.
What is written for one is read back if that is so of what it holds.
-/

namespace RouteManifest.Script

namespace Grammar

open Read

section
variable {ι : Type} {context : Context} {length depth deep : Nat} {written : List Char}
  {P : Tree → Prop}

theorem Expresses.written_assignment (h : Expresses length depth written P)
    (hcontext : context.Plain length)
    (hdeep : depth ≤ deep) :
    Written (grammar deep .assignment) context written P := by
  intro blank after hblank hafter
  obtain ⟨⟨token, rest, hbegins, htoken⟩, hgives⟩ := h context hcontext hdeep hblank hafter
  refine ⟨⟨token, rest, hbegins, fun mark hmark => htoken.ne_mark ?_⟩, hgives⟩
  simp only [closers, List.map_cons, List.map_nil, List.mem_cons, List.not_mem_nil,
    or_false] at hmark ⊢
  tauto

/-- A tree together with its place. -/
def Located (P : Tree → Prop) (tree : Tree) : Prop :=
  ∃ start value, tree = .located start value ∧ P value

theorem Expresses.written_spreadable (h : Expresses length depth written P)
    (hcontext : context.Plain length)
    (hdeep : depth ≤ deep) :
    Written (spreadable (grammar deep)) context written P := by
  intro blank after hblank hafter
  obtain ⟨hbegins, hgives⟩ := h.written_assignment hcontext hdeep blank after hblank hafter
  obtain ⟨⟨token, rest, hfirst, htoken⟩, -⟩ := h context hcontext hdeep hblank hafter
  have hellipsis : token ≠ .mark .ellipsis := htoken.ne_mark (by decide)
  exact ⟨hbegins,
    Gives.look _ (fun _ hstate => outcome_eat_of_begins _ _ hstate hfirst hellipsis) hgives⟩

theorem gives_located {reader : Read Tree} {before after : State → Prop}
    (h : reader.Gives context before P after) :
    (do
      let start ← place
      return .located start (← reader) : Read Tree).Gives context before (Located P) after := by
  intro state hstate
  obtain ⟨value, later, hrun, hvalue, hlater⟩ := h state hstate
  exact ⟨_, later, by simp [hrun]; rfl, ⟨_, value, rfl, hvalue⟩, hlater⟩

/-- Where a reader goes by the token alone, it may be replaced by the one that the token selects. -/
theorem Gives.of_shows (other : Read Tree) {reader : Read Tree} {token : Token} {rest : Place}
    {after : State → Prop}
    (h : other.Gives context (·.Shows token rest) P after)
    (hselect : ∀ state : State, state.current.token = token → outcome reader context state =
      outcome other context state) :
    reader.Gives context (Starts · token rest) P after := by
  intro state hstate
  rw [hselect state hstate.token]
  exact h state hstate.toShows

/-! ### Arrays -/

/-- Expressions between brackets are read to the elements of an array, each with its place. -/
theorem expresses_array {write : ι → List Char} {P : ι → Tree → Prop} {xs : List ι}
    (hxs : ∀ x ∈ xs, Expresses length depth (write x) (P x)) (hlength : xs.length ≤ length)
    {first separator last : List Char} (hfirst : IsBlank first) (hseparator : IsBlank separator)
    (hlast : IsBlank last) :
    Expresses length (depth + 2)
      ('[' :: (first ++ ((',' :: separator).intercalate (xs.map write) ++ (last ++ [']']))))
      (fun tree => ∃ elements comma, tree = .array elements comma ∧
        List.Forall₂ (fun x => Located (P x)) xs elements) := by
  refine Expresses.of_primary ?_
  intro context hcontext deep hdeep blank after hblank hafter
  have hitem : ∀ x ∈ xs, Written (do
      if ← at? .comma then return .hole
      let start ← place
      return .located start (← allowingIn (spreadable (grammar deep)))) context (write x)
          (Located (P x)) := by
    intro x hx blank after hblank hafter
    obtain ⟨⟨token, rest, hbegins, hne⟩, hgives⟩ :=
      (hxs x hx).written_spreadable hcontext.allowingIn hdeep blank after hblank hafter
    refine ⟨⟨token, rest, hbegins, hne⟩, Gives.look false ?_ (gives_located hgives)⟩
    intro state hstate
    have hcomma : state.current.token ≠ .mark .comma :=
      (hstate.shows hbegins).token ▸ hne .comma (by decide)
    simp [hcomma]
  have hclose : (']', .closeBracket) ∈ closers := by decide
  have hlist := gives_commaListAndEnd hclose nofun hfirst hseparator hlast hitem
    (Nat.lt_of_le_of_lt hlength hcontext.limit) after
  have htext : blank ++
    ('[' :: (first ++ ((',' :: separator).intercalate (xs.map write) ++ (last ++ [']']))) ++
    after) =
      blank ++ '[' ::
        (first ++ ((',' :: separator).intercalate (xs.map write) ++ (last ++ ']' :: after))) := by
    simp
  rw [htext]
  refine ⟨_, _, begins_mark hblank rfl rfl rfl, .inr (.inr (.inr (.inl rfl))), ?_⟩
  refine Gives.of_shows (arrayLiteral (grammar deep)) ?_ fun state htoken => by
    simp [primary, htoken]
  refine (gives_expect _ .openBracket).bind fun _ _ => hlist.bind fun result hresult => ?_
  exact Gives.pure ⟨result.1, result.2, rfl, hresult⟩

/-! ### Objects -/

theorem gives_key (self : Grammar) (context : Context) {word : String} {rest : Place} :
    (key self).Gives context (·.Shows (.word word false) rest) (· = .name word) (·.At rest) := by
  intro state hstate
  obtain ⟨_, later, hrun, -, hlater⟩ := gives_step context state hstate
  exact ⟨_, later, by simp [key, hstate.token, hrun], rfl, hlater⟩

/-- A word before a colon modifies nothing. -/
theorem propertyWord_of_colon {state : State} {rest after : Place}
    (hrest : state.current.rest = rest)
    (hcolon : Begins rest (.mark .colon) after) :
    outcome propertyWord context state = (.ok false, state) := by
  obtain ⟨start, lineEnd, hread⟩ := hcolon
  simp [propertyWord, hrest, hread]

/-- A key and the value behind its colon are read to a member, whatever ends it. -/
theorem written_keyedMember {word : String} (hword : isPlainWord word.toList = true)
    (h : Expresses length depth written P)
    (hcontext : context.Plain length) (hdeep : depth ≤ deep) :
    Written (do
      let start ← place
      if ← eat .ellipsis then return .located start (.spread (← locatedAssignment (grammar deep)))
      return .located start (← keyedMember (grammar deep))) context
        (word.toList ++ ':' :: ' ' :: written)
      (Located fun member => ∃ value, member = .property (.name word) value ∧ Located P value) := by
  intro blank after hblank hafter
  have hcolon : Begins (':' :: ' ' :: (written ++ after)) (.mark .colon)
      (' ' :: (written ++ after)) :=
    begins_mark isBlank_nil rfl rfl rfl
  have hbegins : Begins (blank ++ (word.toList ++ ':' :: ' ' :: (written ++ after)))
      (.word word false)
      (':' :: ' ' :: (written ++ after)) :=
        begins_word word hblank hword (endsWord_cons (by decide))
  have hvalue := gives_located
    (h.written_assignment hcontext.allowingIn hdeep [' '] after isBlank_space hafter).2
  have htext : blank ++ ((word.toList ++ ':' :: ' ' :: written) ++ after) =
      blank ++ (word.toList ++ ':' :: ' ' :: (written ++ after)) := by
    simp
  rw [htext]
  refine ⟨⟨_, _, hbegins, fun mark _ => nofun⟩, ?_⟩
  intro state hstate
  have hshows := hstate.shows hbegins
  obtain ⟨_, atColon, hkey, rfl, hatColon⟩ := gives_key (grammar deep) context state hshows
  obtain ⟨_, atValue, heat, rfl, hatValue⟩ := gives_eat_of_begins context hcolon atColon hatColon
  obtain ⟨value, later, hrun, hlocated, hlater⟩ := hvalue atValue hatValue
  -- Neither an ellipsis nor a star stands before the word, so it is the key.
  have hellipsis := outcome_eat_of_begins context .ellipsis hstate hbegins nofun
  have hstar := outcome_eat_of_begins context .star hstate hbegins nofun
  have hmember : outcome (keyedMember (grammar deep)) context state =
      (.ok (.property (.name word) value), later) := by
    have hfollows : followsKey (.name word) atColon.current.token = true := by
      rw [(hatColon.shows hcolon).token]
      rfl
    have hlocatedRun : outcome (allowingIn (locatedAssignment (grammar deep))) context atValue =
        (.ok value, later) :=
      hrun
    simp [keyedMember, hstar, propertyWord_of_colon hshows.rest hcolon, hkey, hfollows, heat,
      hlocatedRun]
  refine ⟨.located state.current.start (.property (.name word) value), later, ?_, ?_, hlater⟩
  · simp [hellipsis, hmember]
  · exact ⟨_, _, rfl, value, rfl, hlocated⟩

/-- Keys with values between braces are read to the members of an object, each with its place. -/
theorem expresses_object {word : ι → String} {write : ι → List Char} {P : ι → Tree → Prop}
    {xs : List ι}
    (hwords : ∀ x ∈ xs, isPlainWord (word x).toList = true)
    (hxs : ∀ x ∈ xs, Expresses length depth (write x) (P x))
    (hlength : xs.length ≤ length) {first separator last : List Char} (hfirst : IsBlank first)
    (hseparator : IsBlank separator) (hlast : IsBlank last) :
    Expresses length (depth + 2)
      ('{' :: (first ++
        ((',' :: separator).intercalate
        (xs.map fun x => (word x).toList ++ ':' :: ' ' :: write x) ++
        (last ++ ['}']))))
      (fun tree => ∃ members comma, tree = .object members comma ∧
        List.Forall₂ (fun x => Located fun member => ∃ value,
          member = .property (.name (word x)) value ∧
          Located (P x) value)
          xs members) := by
  refine Expresses.of_primary ?_
  intro context hcontext deep hdeep blank after hblank hafter
  have hclose : ('}', .closeBrace) ∈ closers := by decide
  have hlist := gives_commaListAndEnd hclose nofun hfirst hseparator hlast
    (fun x hx => written_keyedMember (hwords x hx) (hxs x hx) hcontext.besideColon hdeep)
    (Nat.lt_of_le_of_lt hlength hcontext.limit) after
  have htext : ∀ members : List Char,
      blank ++ ('{' :: (first ++ (members ++ (last ++ ['}']))) ++ after) =
      blank ++ '{' :: (first ++ (members ++ (last ++ '}' :: after))) := by simp
  rw [htext]
  refine ⟨_, _, begins_mark hblank rfl rfl rfl, .inr (.inr (.inr (.inr (.inl rfl)))), ?_⟩
  refine Gives.of_shows (objectLiteral (grammar deep)) ?_ fun state htoken => by
    simp [primary, htoken]
  refine (gives_expect _ .openBrace).bind fun _ _ =>
    (Gives.inContext hlist).bind fun result hresult => ?_
  exact Gives.pure ⟨result.1, result.2, rfl, hresult⟩

/-! ### Functions that load a module -/

theorem gives_arguments (h : Expresses length depth written P) (hcontext : context.Plain length)
    (hdeep : depth ≤ deep)
    (hlength : 1 ≤ length) (after : Place) :
    (arguments (grammar deep)).Gives context (·.At ('(' :: (written ++ ')' :: after)))
      (fun values => ∃ value, values = [value] ∧ P value) (·.At after) := by
  have hitem : ∀ x ∈ [()], Written (spreadable (grammar deep)) _ written P := fun _ _ =>
    h.written_spreadable hcontext.besideColon.allowingIn hdeep
  have hclose : (')', .closeParen) ∈ closers := by decide
  have hlist := gives_commaListAndEnd hclose nofun isBlank_nil isBlank_nil isBlank_nil hitem
    (Nat.lt_of_le_of_lt hlength hcontext.limit) after
  rw [List.map_singleton, List.intercalate_singleton] at hlist
  have hopen : Begins ('(' :: (written ++ ')' :: after)) (.mark .openParen)
      (written ++ ')' :: after) :=
    begins_mark isBlank_nil rfl rfl rfl
  refine ((gives_expect _ .openParen).of_begins hopen).bind fun _ _ =>
    Gives.inContext (Gives.inContext ?_)
  refine hlist.bind fun result hresult => Gives.pure ?_
  obtain ⟨value, values, hvalue, hnil, heq⟩ := List.forall₂_cons_left_iff.1 hresult
  rw [List.forall₂_nil_left_iff] at hnil
  exact ⟨value, by rw [heq, hnil], hvalue⟩

/-- The call that loads a module is read to its argument. -/
theorem expresses_import (h : Expresses length depth written P) (hlength : 1 ≤ length) :
    Expresses length (depth + 2) ("import".toList ++ '(' :: (written ++ [')']))
      (fun tree => ∃ value, tree = .group [value] ∧ P value) := by
  refine Expresses.of_operand ?_
  intro context hcontext deep hdeep blank after hblank hafter
  have htext : blank ++ (("import".toList ++ '(' :: (written ++ [')'])) ++ after) =
      blank ++ ("import".toList ++ '(' :: (written ++ ')' :: after)) := by simp
  have hopen : Begins ('(' :: (written ++ ')' :: after)) (.mark .openParen)
      (written ++ ')' :: after) :=
    begins_mark isBlank_nil rfl rfl rfl
  rw [htext]
  refine ⟨_, _, begins_word "import" hblank rfl (endsWord_cons (by decide)), .inr rfl, ?_⟩
  intro state hstate
  obtain ⟨_, atOpen, hword, -, hatOpen⟩ := gives_expectWord context "import" state hstate.toShows
  obtain ⟨_, later, hrun, ⟨value, rfl, hvalue⟩, hlater⟩ :=
    gives_arguments h hcontext hdeep hlength after atOpen hatOpen
  -- A dot would make it a property of the module, and no other suffix follows the call.
  have hdot := outcome_eat_of_begins context .dot hatOpen hopen nofun
  have hsuffixes : ∀ start,
      outcome (suffixes (grammar deep) start true true (.group [value])) context later =
      (.ok (.group [value]), later) := fun start =>
    suffixes_of_closes (Nat.zero_lt_of_lt hcontext.limit) (hlater.closes hafter) start true true _
  refine ⟨.group [value], later, ?_, ⟨value, rfl, hvalue⟩, hlater⟩
  simp [operand, importOperand, hstate.token, hword, hdot, hrun, hsuffixes]

theorem read_arrow (rest : Place) :
    Lexeme.read false true (' ' :: '=' :: '>' :: rest) =
      ⟨.mark .arrow, '=' :: '>' :: rest, rest, false, none⟩ := by
  have hgap : gap false none (' ' :: '=' :: '>' :: rest) = ⟨'=' :: '>' :: rest, false, none⟩ := by
    rw [gap_cons _ _ (by decide) (by decide) (by decide)]
    exact endsGap_mark rfl rfl false
  have htoken : Lexeme.tokenAt true ('=' :: '>' :: rest) = (.mark .arrow, rest, none) :=
    tokenAt_mark rfl rfl true
  simp [Lexeme.read, hgap, htoken]

theorem gives_coverItems_nil (self : Grammar) (context : Context) {limit : Nat} (hlimit : 0 < limit)
    (rest : Place) :
    (enclosed (coverItems self limit [])).Gives context (·.At (')' :: rest)) (· = ([], none))
      (·.At rest) := by
  obtain ⟨limit, rfl⟩ : ∃ n, limit = n + 1 := ⟨limit - 1, by omega⟩
  have hclose : Begins (')' :: rest) (.mark .closeParen) rest := begins_mark isBlank_nil rfl rfl rfl
  refine Gives.inContext (Gives.inContext ((gives_eat_of_begins _ hclose).bind ?_))
  rintro _ rfl
  exact Gives.pure rfl

/-- The surroundings in the body of an arrow function. -/
def arrowContext (context : Context) : Context :=
  { bodyContext context with inAsync := false, inGenerator := false }

theorem gives_arrowBody (simple : Bool) {self : Grammar} {text after rest : Place} {token : Token}
    (h : (self .assignment).Gives (arrowContext context) (·.At text) P (·.At after))
    (htext : Begins text token rest)
    (hbrace : token ≠ .mark .openBrace) :
    (arrowBody self false simple).Gives context (·.At text)
      (fun result => P result.1 ∧ result.2 = false)
      (·.At after) := by
  refine Gives.inContext
    (Gives.look false (fun state hstate => ?_) (h.bind fun tree htree => Gives.pure ⟨htree, rfl⟩))
  have hne : state.current.token ≠ .mark .openBrace := (hstate.shows htext).token ▸ hbrace
  simp [hne]

/-- A function without parameters that loads a module is read to what it loads. -/
theorem expresses_loader (h : Expresses length depth written P) (hlength : 1 ≤ length) :
    Expresses length (depth + 4)
      ('(' :: ')' :: ' ' :: '=' :: '>' :: ' ' :: ("import".toList ++ '(' :: (written ++ [')'])))
      (fun tree => ∃ value, tree = .arrow [.group [value]] .nothing ∧ P value) := by
  refine Expresses.of_primary ?_
  intro context hcontext deep hdeep blank after hblank hafter
  have hlimit := Nat.zero_lt_of_lt hcontext.limit
  have hbody := expresses_import h hlength (arrowContext context)
    ⟨rfl, hcontext.branch, hcontext.colon, hcontext.limit⟩
    hdeep isBlank_space hafter
  have hword : Begins ([' '] ++ (("import".toList ++ '(' :: (written ++ [')'])) ++ after))
      (.word "import" false)
      ('(' :: (written ++ [')']) ++ after) := by
    rw [List.append_assoc]
    exact begins_word "import" (by decide) rfl (endsWord_cons (by decide))
  generalize "import".toList ++ '(' :: (written ++ [')']) = loaded at hbody hword
  refine ⟨_, _, begins_mark hblank rfl rfl rfl, .inr (.inr (.inr (.inr (.inr rfl)))), ?_⟩
  intro state hstate
  obtain ⟨_, atClose, hopen, -, hatClose⟩ := gives_expect context .openParen state hstate.toShows
  obtain ⟨_, atArrow, hitems, rfl, hatArrow⟩ :=
    gives_coverItems_nil (grammar deep) context hlimit _ atClose hatClose
  -- What the parentheses are is open until the arrow, which has to be on their line.
  have hread := hatArrow.current.trans (read_arrow _)
  have hshows : atArrow.Shows (.mark .arrow) (' ' :: (loaded ++ after)) :=
    ⟨by rw [hread], by rw [hread]; rfl, hatArrow.fault (by rw [hread])⟩
  obtain ⟨_, atBody, harrow, -, hatBody⟩ := gives_expect context .arrow atArrow hshows
  obtain ⟨⟨tree, braced⟩, later, hrun, ⟨⟨value, rfl, hvalue⟩, rfl⟩, hlater⟩ :=
    gives_arrowBody (areSimple []) hbody.2 hword nofun atBody hatBody
  have hmay : outcome mayBeArrow context state = (.ok true, state) := by
    simp [mayBeArrow, hstate.mayBeArrow]
  have hline : atArrow.current.lineEnd = false := by rw [hread]
  have hoperator := markedOperator?_of_closes context (hlater.closes hafter)
  refine ⟨.arrow [.group [value]] .nothing, later, ?_, ⟨value, rfl, hvalue⟩, hlater⟩
  simp [primary, hstate.token, hmay, parenthesized, hopen, hitems, arrowInBranch?, hcontext.branch,
    arrowResult?, hcontext.colon, hshows.token, hline, harrow, checkArrowParameters,
    checkCoverItems, noteAll, arrowFunction, hrun, hoperator]

end

end Grammar

end RouteManifest.Script
