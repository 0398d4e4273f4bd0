import RouteManifest.Proofs.Declaration.Visits

/-!
What a declaration means, told without the accumulator that collects it. Each visited value has
faults, a pattern and a target of its own. The first fault, a value before what it passes on to,
rejects the declaration. Otherwise the patterns are those of the visited values in that order, and
the target is the first one in the order in which a value stands behind what it passes on to.
-/

namespace RouteManifest.Declared

/-! ### Faults, patterns and targets of one value -/

/-- What is wrong with a value, apart from what it passes on to. An object is checked for its
`match` first. -/
inductive HasFault : Declared → Malformation → Prop
  | flags {source flags : String} (hflags : RegexFlags.accepts flags = false) :
      HasFault (.regex source flags) (.invalidRegexFlags flags)
  | missingMatch {properties : List (String × Declared)}
      (hmatch : ∀ property ∈ properties, property.1 ≠ "match") :
      HasFault (.object properties) .missingMatch
  | nonStringTarget {properties : List (String × Declared)} {value target : Declared}
      (hmatch : IsLast properties "match" value) (htarget : IsLast properties "matchTarget" target)
      (hstring : ∀ word, target ≠ .literal word) :
      HasFault (.object properties) .nonStringMatchTarget
  | unknownTarget {properties : List (String × Declared)} {value : Declared} {word : String}
      (hmatch : IsLast properties "match" value)
      (htarget : IsLast properties "matchTarget" (.literal word))
      (hword : word ∉ ["name", "name-chain", "path"]) :
      HasFault (.object properties) (.unknownMatchTarget word)

/-- An object asks for a target by the word for it. -/
inductive HasTarget : Declared → MatchTarget → Prop
  | object {properties : List (String × Declared)} {target : MatchTarget}
      (htarget : IsLast properties "matchTarget" (.literal target.word)) :
      HasTarget (.object properties) target

def ownPattern? : Declared → Option Pattern
  | .literal text => some (.literal text)
  | .regex source flags => some (.regex source flags)
  | _ => none

def ownFault? : Declared → Option Malformation
  | .regex _ flags => if RegexFlags.accepts flags then none else some (.invalidRegexFlags flags)
  | .object properties =>
      match property? properties "match", target? properties with
      | none, _ => some .missingMatch
      | some _, .error reason => some reason
      | some _, .ok _ => none
  | _ => none

def ownTarget? : Declared → Option MatchTarget
  | .object properties => (target? properties).toOption.join
  | _ => none

theorem ofWord?_eq_some_iff {word : String} {target : MatchTarget} :
    MatchTarget.ofWord? word = some target ↔ word = target.word := by
  constructor
  · intro h
    rw [MatchTarget.ofWord?] at h
    have hword := List.find?_some h
    exact (eq_of_beq hword).symm
  · rintro rfl
    exact MatchTarget.ofWord?_word target

theorem ofWord?_eq_none_iff {word : String} :
    MatchTarget.ofWord? word = none ↔ word ∉ ["name", "name-chain", "path"] := by
  have hwords : MatchTarget.all.map MatchTarget.word = ["name", "name-chain", "path"] := rfl
  rw [← hwords, MatchTarget.ofWord?, List.find?_eq_none, List.mem_map]
  simp

theorem target?_eq_ok_iff {properties : List (String × Declared)} {target : MatchTarget} :
    target? properties = .ok (some target) ↔
      IsLast properties "matchTarget" (.literal target.word) := by
  rw [← property?_eq_some_iff, target?]
  constructor
  · intro h
    split at h
    · cases h
    · next word hlast =>
      split at h
      · next found hfound =>
        cases h
        rw [hlast, ofWord?_eq_some_iff.1 hfound]
      · cases h
    · cases h
  · intro h
    simp only [h, MatchTarget.ofWord?_word]

theorem target?_eq_error_iff {properties : List (String × Declared)} {reason : Malformation} :
    target? properties = .error reason ↔
      (∃ target, IsLast properties "matchTarget" target ∧ (∀ word, target ≠ .literal word) ∧
        reason = .nonStringMatchTarget) ∨
      ∃ word, IsLast properties "matchTarget" (.literal word) ∧
        word ∉ ["name", "name-chain", "path"] ∧
        reason = .unknownMatchTarget word := by
  simp only [← property?_eq_some_iff, ← ofWord?_eq_none_iff]
  rw [target?]
  split
  · next hnone => simp [hnone]
  · next word hlast =>
    cases hword : MatchTarget.ofWord? word with
    | none => simp [hlast, hword, eq_comm]
    | some target => simp [hlast, hword]
  · next target hstring hlast =>
    have hliteral : ∀ word, target ≠ .literal word := fun word heq => hstring word heq
    simp [hlast, hliteral, eq_comm]

theorem ownFault?_eq_some_iff {value : Declared} {reason : Malformation} :
    ownFault? value = some reason ↔ HasFault value reason := by
  constructor
  · intro h
    cases value with
    | regex source flags =>
      rw [ownFault?] at h
      split at h
      · cases h
      · next hflags =>
        cases h
        exact .flags (Bool.eq_false_iff.2 hflags)
    | object properties =>
      rw [ownFault?] at h
      split at h
      · next hmatch =>
        cases h
        exact .missingMatch (property?_eq_none_iff.1 hmatch)
      · next found hmatch htarget =>
        cases h
        have hlast := property?_eq_some_iff.1 hmatch
        obtain ⟨target, hlast', hstring, rfl⟩ | ⟨word, hlast', hword, rfl⟩ :=
          target?_eq_error_iff.1 htarget
        · exact .nonStringTarget hlast hlast' hstring
        · exact .unknownTarget hlast hlast' hword
      · cases h
    | literal => cases h
    | array => cases h
    | other => cases h
  · intro h
    cases h with
    | flags hflags => simp [ownFault?, hflags]
    | missingMatch hmatch => simp [ownFault?, property?_eq_none_iff.2 hmatch]
    | nonStringTarget hmatch htarget hstring =>
      have herror := target?_eq_error_iff.2 (.inl ⟨_, htarget, hstring, rfl⟩)
      simp [ownFault?, property?_eq_some_iff.2 hmatch, herror]
    | unknownTarget hmatch htarget hword =>
      have herror := target?_eq_error_iff.2 (.inr ⟨_, htarget, hword, rfl⟩)
      simp [ownFault?, property?_eq_some_iff.2 hmatch, herror]

theorem ownTarget?_eq_some_iff {value : Declared} {target : MatchTarget} :
    ownTarget? value = some target ↔ HasTarget value target := by
  constructor
  · intro h
    cases value with
    | object properties =>
      rw [ownTarget?] at h
      cases htarget : target? properties with
      | error reason =>
        rw [htarget] at h
        cases h
      | ok found =>
        rw [htarget] at h
        have hfound : found = some target := h
        subst hfound
        exact .object (target?_eq_ok_iff.1 htarget)
    | literal => cases h
    | regex => cases h
    | array => cases h
    | other => cases h
  · intro h
    cases h with
    | object htarget =>
      rw [ownTarget?, target?_eq_ok_iff.2 htarget]
      rfl

/-! ### The first of several values -/

section
variable {α : Type}

/-- The first of the values that stand in the relation to anything stands in it to the result. -/
def FirstOf (values : List Declared) (holds : Declared → α → Prop) (result : α) : Prop :=
  ∃ before value after, values = before ++ value :: after ∧ holds value result ∧
    ∀ earlier ∈ before, ∀ other, ¬holds earlier other

theorem forall_not_iff {own : Declared → Option α} {holds : Declared → α → Prop}
    (hown : ∀ {value result}, own value = some result ↔ holds value result) (value : Declared) :
    own value = none ↔ ∀ result, ¬holds value result := by
  simp only [← hown, Option.eq_none_iff_forall_ne_some, ne_eq]

theorem findSome?_eq_some_iff_firstOf {own : Declared → Option α} {holds : Declared → α → Prop}
    (hown : ∀ {value result}, own value = some result ↔ holds value result) {values : List Declared}
    {result : α} :
    values.findSome? own = some result ↔ FirstOf values holds result := by
  have hnone : ∀ value, own value = none ↔ ∀ result, ¬holds value result := forall_not_iff hown
  rw [List.findSome?_eq_some_iff, FirstOf]
  simp only [hown, hnone]

end

/-! ### The walk over the visited values -/

/-- What the visited values, listed in both orders, add to what was found before them. -/
def outcome (found : Contribution) (front back : List Declared) :
    Except Malformation Contribution :=
  match front.findSome? ownFault? with
  | some reason => .error reason
  | none => .ok ⟨found.patterns ++ front.filterMap ownPattern?,
      found.matchTarget.or (back.findSome? ownTarget?)⟩

theorem outcome_append (found : Contribution) (front front' back back' : List Declared) :
    outcome found (front ++ front') (back ++ back') =
      outcome found front back >>= fun between => outcome between front' back' := by
  unfold outcome
  rw [List.findSome?_append]
  cases front.findSome? ownFault? with
  | some reason => rfl
  | none =>
    simp only [Option.none_or, bind, Except.bind, List.filterMap_append, List.findSome?_append,
      List.append_assoc, Option.or_assoc]

/-- A value around others that has no fault and is no pattern leaves all but the target to them, and
the target if they have one. -/
theorem outcome_around {root : Declared} (hfault : ownFault? root = none)
    (hpattern : ownPattern? root = none)
    (found : Contribution) (front back : List Declared) :
    outcome found (root :: front) (back ++ [root]) =
      outcome found front back >>= fun inner =>
        .ok { inner with matchTarget := inner.matchTarget.or (ownTarget? root) } := by
  simp only [outcome, List.findSome?_cons, hfault, List.filterMap_cons, hpattern,
    List.findSome?_append, List.findSome?_nil, bind, Except.bind]
  cases front.findSome? ownFault? with
  | some reason => rfl
  | none => cases ownTarget? root <;> simp

theorem collectAll_eq_outcome {values : List Declared}
    (hvalues : ∀ value ∈ values, ∀ found,
      collect found value = outcome found (preorder value) (postorder value))
    (found : Contribution) :
    collectAll found values = outcome found (values.flatMap preorder)
      (values.flatMap postorder) := by
  induction values generalizing found with
  | nil => simp [collectAll, outcome]
  | cons value values ih =>
    have hrest := ih fun later hlater => hvalues later (List.mem_cons_of_mem value hlater)
    rw [collectAll, hvalues value List.mem_cons_self, List.flatMap_cons, List.flatMap_cons,
      outcome_append]
    simp only [hrest]

theorem collect_object (found : Contribution) (properties : List (String × Declared)) :
    collect found (.object properties) =
      match property? properties "match" with
      | none => .error .missingMatch
      | some value =>
        target? properties >>= fun target => collect found value >>= fun inner =>
          .ok { inner with matchTarget := inner.matchTarget.or target } := by
  rw [collect]
  split
  · next hnone =>
    rw [hnone]
  · next value hsome =>
    rw [hsome]
    rfl

/-- Collecting from a value and walking over what it visits come to the same. The object around a
value stands before it in the one order and behind it in the other, so that its own fault comes
first and its own target last. -/
theorem collect_eq_outcome (found : Contribution) (root : Declared) :
    collect found root = outcome found (preorder root) (postorder root) := by
  induction root using induction_on_inspected generalizing found with
  | step root ih =>
    rw [preorder_eq, postorder_eq]
    cases root with
    | literal text => simp [collect, outcome, inspected, ownFault?, ownPattern?, ownTarget?]
    | regex source flags =>
      cases hflags : RegexFlags.accepts flags with
      | false => simp [collect, outcome, inspected, ownFault?, hflags]
      | true => simp [collect, outcome, inspected, ownFault?, ownPattern?, ownTarget?, hflags]
    | array elements =>
      have hall : collectAll found elements =
          outcome found (elements.flatMap preorder) (elements.flatMap postorder) :=
        collectAll_eq_outcome (fun value hvalue found => ih value hvalue found) found
      have htarget : ownTarget? (.array elements) = none := rfl
      rw [collect, hall, outcome_around rfl rfl, htarget]
      simp only [inspected, Option.or_none]
      cases outcome found (elements.flatMap preorder) (elements.flatMap postorder) <;> rfl
    | object properties =>
      rw [collect_object]
      cases hmatch : property? properties "match" with
      | none => simp [outcome, ownFault?, hmatch]
      | some value =>
        have hinspected : inspected (.object properties) = [value] := by simp [inspected, hmatch]
        have hinner := ih value (by simp [hinspected]) found
        simp only [hinspected, List.flatMap_cons, List.flatMap_nil, List.append_nil]
        cases htarget : target? properties with
        | error reason => simp [outcome, ownFault?, hmatch, htarget, bind, Except.bind]
        | ok target =>
          have hfault : ownFault? (.object properties) = none := by
            simp [ownFault?, hmatch, htarget]
          have htarget' : ownTarget? (.object properties) = target := by
            simp [ownTarget?, htarget, Except.toOption]
          rw [outcome_around hfault rfl, htarget', ← hinner]
          rfl
    | other =>
      have hpattern : ownPattern? .other = none := rfl
      simp [collect, outcome, inspected, ownFault?, hpattern, ownTarget?]

/-- No regular expression with other flags than accepted ones is ever declared. -/
theorem accepts_of_contribution {root : Declared} {found : Contribution}
    (h : contribution root = .ok found)
    {source flags : String} (hmem : .regex source flags ∈ found.patterns) :
    RegexFlags.accepts flags = true := by
  have houtcome : outcome {} (preorder root) (postorder root) = .ok found :=
    (collect_eq_outcome {} root).symm.trans h
  rw [outcome] at houtcome
  cases hfault : (preorder root).findSome? ownFault? with
  | some reason =>
    rw [hfault] at houtcome
    cases houtcome
  | none =>
    rw [hfault] at houtcome
    cases houtcome
    obtain ⟨value, hvalue, hpattern⟩ := List.mem_filterMap.1 hmem
    have hnone := List.findSome?_eq_none_iff.1 hfault value hvalue
    cases value with
    | regex =>
      cases hpattern
      simpa [ownFault?] using hnone
    | literal => cases hpattern
    | array => cases hpattern
    | object => cases hpattern
    | other => cases hpattern

theorem findSome?_ownFault?_eq_none_iff {root : Declared} :
    (preorder root).findSome? ownFault? = none ↔
      ∀ value reason, Visits root value → ¬HasFault value reason := by
  have hvalue : ∀ value, ownFault? value = none ↔ ∀ reason, ¬HasFault value reason :=
    forall_not_iff ownFault?_eq_some_iff
  simp only [List.findSome?_eq_none_iff, mem_preorder_iff, hvalue]
  constructor
  · intro h value reason hvisit
    exact h value hvisit reason
  · intro h value hvisit reason
    exact h value reason hvisit

/-- The meaning of a declaration. Both orders list just the visited values. The declaration is
rejected if and only if some visited value has a fault, and that for the first fault in the order in
which objects come before their `match` value. Otherwise the patterns are those of the visited
values in that order, and the target is the first in the order in which objects come behind their
`match` value. -/
theorem contribution_meaning (root : Declared) :
    (∀ value, (value ∈ preorder root ↔ Visits root value) ∧
      (value ∈ postorder root ↔ Visits root value)) ∧
    ((∃ reason, contribution root = .error reason) ↔
      ∃ value reason, Visits root value ∧ HasFault value reason) ∧
    (∀ reason, contribution root = .error reason ↔ FirstOf (preorder root) HasFault reason) ∧
    ∀ found, contribution root = .ok found ↔
      (∀ value reason, Visits root value → ¬HasFault value reason) ∧
      found.patterns = (preorder root).filterMap ownPattern? ∧
      ∀ target, found.matchTarget = some target ↔ FirstOf (postorder root) HasTarget target := by
  have hcollect : contribution root = outcome {} (preorder root) (postorder root) :=
    collect_eq_outcome {} root
  have hfirst : ∀ reason, (preorder root).findSome? ownFault? = some reason ↔
      FirstOf (preorder root) HasFault reason :=
    fun _ => findSome?_eq_some_iff_firstOf ownFault?_eq_some_iff
  have htarget : ∀ target, (postorder root).findSome? ownTarget? = some target ↔
      FirstOf (postorder root) HasTarget target :=
    fun _ => findSome?_eq_some_iff_firstOf ownTarget?_eq_some_iff
  have herror : ∀ reason, contribution root = .error reason ↔
      (preorder root).findSome? ownFault? = some reason := by
    intro reason
    rw [hcollect, outcome]
    cases (preorder root).findSome? ownFault? <;> simp
  refine ⟨fun _ => ⟨mem_preorder_iff, mem_postorder_iff⟩, ?_,
    fun reason => (herror reason).trans (hfirst reason), ?_⟩
  · simp only [herror, ← Option.isSome_iff_exists, ← Option.ne_none_iff_isSome, ne_eq,
      findSome?_ownFault?_eq_none_iff]
    simp only [Classical.not_forall, Classical.not_not, exists_prop]
  · intro found
    rw [hcollect, outcome, ← findSome?_ownFault?_eq_none_iff]
    cases (preorder root).findSome? ownFault? with
    | some reason => simp
    | none =>
      simp only [← htarget, true_and, Except.ok.injEq, List.nil_append, Option.none_or]
      constructor
      · rintro rfl
        exact ⟨rfl, fun _ => Iff.rfl⟩
      · rintro ⟨hpatterns, hmatch⟩
        have hsame : found.matchTarget = (postorder root).findSome? ownTarget? := Option.ext hmatch
        rw [← hpatterns, ← hsame]

end RouteManifest.Declared
