import RouteManifest.Proofs.Script.Operands

/-!
Scripts that export one constant. Such a script is read to its one item, which holds the constant's
name and whatever its value is read to.
-/

namespace RouteManifest.Script

namespace Grammar

open Read

section
variable {self : Grammar} {context : Context} {state : State} {name : String} {rest after : Place}
  {P : Tree → Prop}

/-! ### Names -/

/-- A word that can be given a meaning, written without escapes. -/
structure IsVariable (name : String) : Prop where
  plain : isPlainWord name.toList = true
  keyword : isKeyword name = false
  fixed : isFixed name = false

theorem IsVariable.ne (h : IsVariable name) {word : String} (hword : isKeyword word = true) :
    name ≠ word := by
  rintro rfl
  have hkeyword := h.keyword
  rw [hword] at hkeyword
  cases hkeyword

/-- A word that is neither reserved nor fixed is given a meaning without a fault. -/
theorem gives_bindingIdentifier (context : Context) (hname : IsVariable name) :
    bindingIdentifier.Gives context (·.Shows (.word name false) rest) (· = name) (·.At rest) := by
  have hreserved : name ∉ reservedWords ∧ name ∉ strictWords := by
    have hkeyword := hname.keyword
    simp only [isKeyword, Bool.or_eq_false_iff, List.contains_eq_mem,
      decide_eq_false_iff_not] at hkeyword
    exact hkeyword.1
  have hthis : name ≠ "this" := hname.ne rfl
  have henum : name ≠ "enum" := hname.ne rfl
  have hawait : name ≠ "await" := hname.ne rfl
  have hyield : name ≠ "yield" := hname.ne rfl
  have harguments : name ≠ "arguments" := by
    rintro rfl
    cases hname.fixed
  intro state hstate
  obtain ⟨_, later, hrun, -, hlater⟩ := gives_step context state hstate
  refine ⟨name, later, ?_, rfl, hlater⟩
  have hidentifier : outcome identifier context state = (.ok name, later) := by
    simp [identifier, hstate.token, hreserved, hthis, beq_eq_false_iff_ne.2 henum, hawait,
      beq_eq_false_iff_ne.2 harguments, hrun]
  simp [bindingIdentifier, hidentifier, hname.fixed, beq_eq_false_iff_ne.2 hawait,
    beq_eq_false_iff_ne.2 hyield]

/-! ### Declarations -/

/-- What stands between the name of a constant and its end: an equals sign and its value. -/
theorem gives_declarator {length depth deep : Nat} {value : List Char} (hname : IsVariable name)
    (hvalue : Expresses length depth value P)
    (hcontext : context.Plain length) (hdeep : depth ≤ deep + 1) (hafter : Ended after) :
    (declarator (grammar (deep + 1)) .constant false).Gives context
      (·.At (' ' :: (name.toList ++ ' ' :: '=' :: ' ' :: (value ++ after))))
      (fun tree => ∃ value, tree = .declarator (.name name) .nothing (some value) ∧ P value)
        (·.At after) := by
  have hbegins : Begins (' ' :: (name.toList ++ ' ' :: '=' :: ' ' :: (value ++ after)))
      (.word name false)
      (' ' :: '=' :: ' ' :: (value ++ after)) :=
        begins_word name isBlank_space hname.plain (endsWord_cons (by decide))
  have hassign : Begins (' ' :: '=' :: ' ' :: (value ++ after)) (.mark .assign)
      (' ' :: (value ++ after)) :=
    begins_mark isBlank_space rfl rfl rfl
  intro state hstate
  have hshows := hstate.shows hbegins
  obtain ⟨word, atSign, hrun, hword, hatSign⟩ := gives_bindingIdentifier context hname state hshows
  rw [hword] at hrun
  have hother := fun mark => outcome_eat_of_begins context mark hatSign hassign
  obtain ⟨_, atValue, heat, rfl, hatValue⟩ := gives_eat_of_begins context hassign atSign hatSign
  obtain ⟨tree, later, hread, htree, hlater⟩ :=
    (hvalue context hcontext hdeep isBlank_space hafter).2 atValue hatValue
  have hlet : name ≠ "let" := hname.ne rfl
  have hbinding : outcome (grammar (deep + 1) .binding) context state =
      (.ok (.name name), atSign) := by
    change outcome (binding (grammar deep)) context state = _
    simp [binding, hshows.token, hrun]
  refine ⟨_, later, ?_, ⟨tree, rfl, htree⟩, hlater⟩
  simp [declarator, hshows.token, hlet, hbinding, Tree.isName, hother .not nofun, typeAnnotation,
    hother .colon nofun, initializer?, heat, hread, atOfOrIn, Tree.nothing]

/-- A constant, its name and its value, is read from its keyword on. -/
theorem gives_variableList {length depth deep : Nat} {value : List Char} (hname : IsVariable name)
    (hvalue : Expresses length depth value P)
    (hcontext : context.Plain length) (hdeep : depth ≤ deep + 1) (rest : Place) :
    (variableList (grammar (deep + 1))).Gives context
      (·.Shows (.word "const" false)
        (' ' :: (name.toList ++ ' ' :: '=' :: ' ' :: (value ++ ';' :: rest))))
      (fun tree => ∃ value, tree = .variableList [.declarator (.name name) .nothing (some value)] ∧
        P value) (·.At rest) := by
  have hends : Ends .semicolon (';' :: rest) rest := .behind rest isBlank_nil (by decide)
  have hend := hends.begins
  have hbegins : Begins (' ' :: (name.toList ++ ' ' :: '=' :: ' ' :: (value ++ ';' :: rest)))
      (.word name false) _ :=
    begins_word name isBlank_space hname.plain (endsWord_cons (by decide))
  have hdeclarator := gives_declarator hname hvalue hcontext.allowingIn hdeep
    ⟨.semicolon, rest, hends⟩
  obtain ⟨limit, hlimit⟩ : ∃ n, context.limit = n + 1 :=
    ⟨context.limit - 1, by have := hcontext.limit; omega⟩
  intro state hstate
  obtain ⟨_, atName, hstep, -, hatName⟩ := gives_step context state hstate
  obtain ⟨tree, atEnd, hrun, ⟨inner, rfl, hinner⟩, hatEnd⟩ := hdeclarator atName hatName
  have htoken := (hatName.shows hbegins).token
  have hcomma := outcome_eat_of_begins context .comma hatEnd hend nofun
  obtain ⟨_, later, heat, rfl, hlater⟩ := gives_eat_of_begins context hend atEnd hatEnd
  have hlist : ∀ gap, outcome
      (declaratorList (grammar (deep + 1)) .constant false context.limit gap) context atName =
      (.ok [(atName.current.start, .declarator (.name name) .nothing (some inner))], atEnd) := by
    intro gap
    rw [hlimit]
    simp [declaratorList, htoken, allowingIn, hrun, hcomma]
  refine ⟨_, later, ?_, ⟨inner, rfl, hinner⟩, hlater⟩
  simp [variableList, declarators, hstate.token, variableKind, hstep, hlist, endVariables,
    eatEnd, heat]

theorem decorators_of_ne (hlimit : 0 < context.limit) (h : state.current.token ≠ .mark .at) :
    outcome (decorators self) context state = (.ok [], state) :=
  outcome_many_of_none hlimit (by simp [h])

/-- An exported constant is read from its keyword on. -/
theorem gives_item {length depth deep : Nat} {value : List Char} (hname : IsVariable name)
    (hvalue : Expresses length depth value P) (hcontext : context.Plain length)
    (hdeep : depth ≤ deep + 1)
    (rest : Place) :
    (grammar (deep + 2) .item).Gives context
      (·.Shows (.word "export" false)
        (' ' :: ("const".toList ++ ' ' ::
          (name.toList ++ ' ' :: '=' :: ' ' :: (value ++ ';' :: rest)))))
      (fun tree => ∃ line value,
        tree = .exported line (.variableList [.declarator (.name name) .nothing (some value)]) ∧
          P value) (·.At rest) := by
  have hlimit := Nat.zero_lt_of_lt hcontext.limit
  have hbegins :
      Begins (' ' ::
      ("const".toList ++ ' ' :: (name.toList ++ ' ' :: '=' :: ' ' :: (value ++ ';' :: rest))))
      (.word "const" false) _ := begins_word "const" isBlank_space rfl (endsWord_cons (by decide))
  obtain ⟨start, lineEnd, hfollowing⟩ :
      Begins (' ' :: (name.toList ++ ' ' :: '=' :: ' ' :: (value ++ ';' :: rest)))
      (.word name false) _ :=
    begins_word name isBlank_space hname.plain (endsWord_cons (by decide))
  intro state hstate
  obtain ⟨_, atConst, hexport, -, hatConst⟩ := gives_expectWord context "export" state hstate
  have hshows := hatConst.shows hbegins
  obtain ⟨_, later, hrun, ⟨inner, rfl, hinner⟩, hlater⟩ :=
    gives_variableList hname hvalue hcontext hdeep rest atConst hshows
  have htoken := hshows.token
  have hword : ∀ word, Token.word "const" false ≠ .word word false →
      outcome (eatWord word) context atConst = (.ok false, atConst) :=
        fun word hne => outcome_eatWord_of_ne (htoken ▸ hne)
  -- The word `const` begins none of the other exports: no word of theirs, no assignment, no type
  -- and no enumeration.
  have hassign := outcome_eat_of_begins context .assign hatConst hbegins nofun
  have hintroduced : ∀ marks,
      outcome (attempt (introduced? (grammar (deep + 1)) marks)) context atConst =
      (.ok (some none), atConst) := by
    intro marks
    simp [introduced?, htoken]
  have hfirst : outcome (decorators (grammar (deep + 1))) context state = (.ok [], state) :=
    decorators_of_ne hlimit (by simp [hstate.token])
  have hmarks : outcome (decorators (grammar (deep + 1))) context atConst = (.ok [], atConst) :=
    decorators_of_ne hlimit (by simp [htoken])
  have henum : name ≠ "enum" := hname.ne rfl
  have hdeclaration : ∀ marks,
      outcome (exportedDeclaration? (grammar (deep + 1)) marks) context atConst =
      (.ok (some (.variableList [.declarator (.name name) .nothing (some inner)])), later) := by
    intro marks
    simp [exportedDeclaration?, htoken, beginsAsyncFunction, beginsConstEnum, beginsVariables,
      hshows.rest, hfollowing, henum, hrun]
  have hrest : ∀ line marks,
      outcome (exportedRest (grammar (deep + 1)) line marks) context atConst =
      (.ok (.exported line (.variableList [.declarator (.name name) .nothing (some inner)])),
          later) := by
    intro line marks
    simp [exportedRest, hword, htoken, exportedMarks, hmarks, hdeclaration]
  refine ⟨_, later, ?_, ⟨lineAt context.text state.current.start, inner, rfl, hinner⟩, hlater⟩
  change outcome (item (grammar (deep + 1))) context state = _
  simp only [item, outcome_bind, hfirst, outcome_atWord, hstate.token, decide_true, if_true,
    exportItem, outcome_read, outcome_place, hexport]
  simp [hword, hassign, hintroduced, hrest]

end

end Grammar

/-! ### Whole scripts -/

open Read Grammar

/-- The text of a script that exports one constant, up to its semicolon. -/
def constantText (name : String) (value : List Char) : List Char :=
  "export".toList ++ ' ' ::
    ("const".toList ++ ' ' :: (name.toList ++ ' ' :: '=' :: ' ' :: (value ++ [';'])))

theorem read_firstWord {word rest : List Char} (hword : isPlainWord word = true)
    (hrest : EndsWord rest) :
    Lexeme.read true false (word ++ rest) =
      ⟨.word (String.ofList word) false, word ++ rest, rest, true, none⟩ := by
  have hgap := endsGap_word hword rest true
  have htoken := tokenAt_word hword hrest false
  rw [Lexeme.read, hgap, htoken]
  rfl

theorem outcome_items_single {self : Grammar} {context : Context} {state later : State}
    {tree : Tree}
    (hlimit : 1 < context.limit) (hrun : outcome (self .item) context state = (.ok tree, later))
    (hfirst : state.current.token ≠ .endOfText) (hend : later.current.token = .endOfText) :
    outcome (items self) context state = (.ok (.group [tree]), later) := by
  obtain ⟨limit, hsucc⟩ : ∃ limit, context.limit = limit + 2 := ⟨context.limit - 2, by omega⟩
  simp [items, many, hsucc, many.loop, hfirst, hrun, hend]

/-- A script that exports one constant is read to its one item. -/
theorem parse_constant {name : String} {value last : List Char} {depth : Nat} {P : Tree → Prop}
    (hname : IsVariable name)
    (hvalue : Expresses value.length depth value P) (hdepth : depth ≤ 60) (hlast : IsBlank last) :
    ∃ line value', parse (String.ofList (constantText name value ++ last)) =
      .ok (.group
        [.exported line (.variableList [.declarator (.name name) .nothing (some value')])]) ∧
        P value' := by
  obtain ⟨rest, hrest⟩ :
      ∃ rest, rest = ' ' ::
          ("const".toList ++ ' ' :: (name.toList ++ ' ' :: '=' :: ' ' :: (value ++ ';' :: last))) :=
    ⟨_, rfl⟩
  obtain ⟨text, htext⟩ : ∃ text, text = constantText name value ++ last := ⟨_, rfl⟩
  have hsplit : text = "export".toList ++ rest := by simp [htext, hrest, constantText]
  have hbody : body text = text := by
    rw [hsplit]
    rfl
  have hlength : value.length < text.length + 1 ∧ 0 < text.length := by
    simp only [htext, constantText, List.length_append, List.length_cons]
    omega
  have hfirst : Lexeme.read true false text = ⟨.word "export" false, text, rest, true, none⟩ := by
    rw [hsplit]
    exact read_firstWord rfl (hrest ▸ endsWord_cons (by decide))
  -- The rules may nest more deeply than the value needs, and its lists are shorter than the text.
  obtain ⟨deep, hdeep⟩ : ∃ deep, depthBound text = deep + 2 := ⟨8 * text.length + 62, rfl⟩
  have hcontext : Context.Plain { text, limit := text.length + 1 } value.length :=
    ⟨rfl, rfl, rfl, hlength.1⟩
  have hdepth' : depth ≤ deep + 1 := by
    simp only [depthBound] at hdeep
    omega
  have hitem := gives_item hname hvalue hcontext hdepth' last
  rw [← hrest, ← hdeep] at hitem
  obtain ⟨_, later, hrun, ⟨line, tree, rfl, htree⟩, hlater⟩ :=
    hitem ⟨⟨.word "export" false, text, rest, true, none⟩, text, 0, none, none⟩ ⟨rfl, rfl, rfl⟩
  have hend : later.Shows .endOfText [] := by
    refine hlater.shows ?_
    have hbegins : Begins (last ++ []) .endOfText [] := begins_of_tokenAt hlast endsGap_nil rfl
    rwa [List.append_nil] at hbegins
  have hitems := outcome_items_single (Nat.succ_lt_succ hlength.2) hrun nofun hend.token
  refine ⟨line, tree, ?_, htree⟩
  rw [← htext, parse, String.toList_ofList]
  rw [outcome] at hitems
  simp only [hbody, hfirst, hitems, hend.fault]

end RouteManifest.Script
