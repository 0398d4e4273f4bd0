import RouteManifest.Extraction
import RouteManifest.Proofs.Declaration.Meaning

/-!
Contributions are put together in two places: the elements of an array add to what was found before
them, and the declarations of a file are first read one by one and then merged. Both come to the
same, faults included, and it makes no difference whether an array inside an array is written out in
its place.
-/

namespace RouteManifest

/-! ### Contributions of values -/

/-- What two values contribute together. -/
def Contribution.append (first second : Contribution) : Contribution :=
  ⟨first.patterns ++ second.patterns, first.matchTarget.or second.matchTarget⟩

namespace Declared

/-- A value adds to what was found before it what it would contribute by itself. -/
theorem collect_eq_append (found : Contribution) (value : Declared) :
    collect found value = (contribution value).map found.append := by
  rw [contribution, collect_eq_outcome, collect_eq_outcome, outcome, outcome]
  cases (preorder value).findSome? ownFault? with
  | some reason => rfl
  | none => simp [Except.map, Contribution.append]

theorem collectAll_append (found : Contribution) (first second : List Declared) :
    collectAll found (first ++ second) = collectAll found first >>= fun next =>
      collectAll next second := by
  induction first generalizing found with
  | nil => simp [collectAll, bind, Except.bind]
  | cons value first ih =>
    rw [List.cons_append, collectAll, collectAll]
    cases collect found value with
    | error reason => rfl
    | ok next => exact ih next

end Declared

/-! ### Declarations of a file -/

/-- What a declaration adds to its file, which is nothing if it is malformed. -/
def Declaration.contributed (site : Declaration) : Contribution :=
  site.value.contribution.toOption.getD {}

namespace Extraction

/-- What is taken from two parts of a file together. -/
def append (first second : Extraction) : Extraction where
  patterns := first.patterns ++ second.patterns
  matchTarget := first.matchTarget.or second.matchTarget
  diagnostics := first.diagnostics ++ second.diagnostics
  siteCount := first.siteCount + second.siteCount

theorem append_assoc (first second third : Extraction) :
    (first.append second).append third = first.append (second.append third) := by
  simp [append, Nat.add_assoc, Option.or_assoc]

theorem append_empty (extraction : Extraction) : extraction.append {} = extraction := by
  simp [append]

theorem add_eq_append (file : String) (soFar : Extraction) (site : Declaration) :
    add file soFar site = soFar.append (add file {} site) := by
  rw [add, add]
  cases site.value.contribution <;> simp [append]

theorem foldl_add (file : String) (soFar : Extraction) (sites : List Declaration) :
    sites.foldl (add file) soFar = soFar.append (ofDeclarations file sites) := by
  induction sites generalizing soFar with
  | nil => exact (append_empty soFar).symm
  | cons site sites ih =>
    have hhead : ofDeclarations file (site :: sites) =
      (add file {} site).append (ofDeclarations file sites) := ih _
    rw [List.foldl_cons, ih, hhead, add_eq_append, append_assoc]

/-- The first declaration of a file adds what it would give by itself. -/
theorem ofDeclarations_cons (file : String) (site : Declaration) (sites : List Declaration) :
    ofDeclarations file (site :: sites) = (add file {} site).append (ofDeclarations file sites) :=
  foldl_add file (add file {} site) sites

theorem patterns_add_empty (file : String) (site : Declaration) :
    (add file {} site).patterns = site.contributed.patterns := by
  rw [add, Declaration.contributed]
  cases site.value.contribution <;> rfl

theorem matchTarget_add_empty (file : String) (site : Declaration) :
    (add file {} site).matchTarget = site.contributed.matchTarget := by
  rw [add, Declaration.contributed]
  cases site.value.contribution <;> rfl

/-- The patterns of a file are those of its declarations, in order. -/
theorem patterns_ofDeclarations (file : String) (sites : List Declaration) :
    (ofDeclarations file sites).patterns = sites.flatMap (·.contributed.patterns) := by
  induction sites with
  | nil => rfl
  | cons site sites ih =>
      rw [ofDeclarations_cons, append, patterns_add_empty, ih, List.flatMap_cons]

/-- The target of a file is that of the first declaration that has one. -/
theorem matchTarget_ofDeclarations (file : String) (sites : List Declaration) :
    (ofDeclarations file sites).matchTarget = sites.findSome? (·.contributed.matchTarget) := by
  induction sites with
  | nil => rfl
  | cons site sites ih =>
    rw [ofDeclarations_cons, append, matchTarget_add_empty, ih, List.findSome?_cons]
    cases site.contributed.matchTarget <;> rfl

/-! ### Declarations of a file as elements of an array -/

/-- What was taken from a file as if its declarations were one: the first malformed one decides. -/
def verdict (extraction : Extraction) : Except Malformation Contribution :=
  match extraction.diagnostics with
  | [] => .ok ⟨extraction.patterns, extraction.matchTarget⟩
  | first :: _ => .error first.reason

theorem verdict_add (file : String) (soFar : Extraction) (site : Declaration) :
    (add file soFar site).verdict = soFar.verdict >>= fun found =>
      Declared.collect found site.value := by
  simp only [Declared.collect_eq_append, add, verdict]
  cases site.value.contribution with
  | ok found => cases soFar.diagnostics <;> rfl
  | error reason => cases soFar.diagnostics <;> rfl

/-- Merging declarations and collecting from their values keep in step, and a fault stays the first
one. -/
theorem verdict_foldl_add (file : String) (soFar : Extraction) (sites : List Declaration) :
    (sites.foldl (add file) soFar).verdict =
      soFar.verdict >>= fun found => Declared.collectAll found (sites.map (·.value)) := by
  induction sites generalizing soFar with
  | nil => cases hverdict : soFar.verdict <;> simp [hverdict, Declared.collectAll, bind,
      Except.bind]
  | cons site sites ih =>
    rw [List.foldl_cons, ih, verdict_add, List.map_cons]
    simp only [Declared.collectAll]
    cases soFar.verdict <;> rfl

end Extraction

/-! ### Arrays inside arrays -/

namespace Declared

/-- An array that stands directly in an array is replaced by its elements, somewhere in a value. -/
inductive Splices : Declared → Declared → Prop
  | array {before inner after : List Declared} :
      Splices (.array (before ++ .array inner :: after)) (.array (before ++ inner ++ after))
  | element {before after : List Declared} {value flat : Declared} (hvalue : Splices value flat) :
      Splices (.array (before ++ value :: after)) (.array (before ++ flat :: after))
  | property {before after : List (String × Declared)} {key : String} {value flat : Declared}
      (hvalue : Splices value flat) :
      Splices (.object (before ++ (key, value) :: after)) (.object (before ++ (key, flat) :: after))

theorem Splices.ne_literal {value flat : Declared} (h : Splices value flat) (text : String) :
    value ≠ .literal text ∧ flat ≠ .literal text := by
  cases h <;> exact ⟨nofun, nofun⟩

/-- A property that changes its value changes what a key stands for only if it is the last one with
this key. -/
theorem property?_replace (before after : List (String × Declared)) (key : String)
    (value flat : Declared)
    (wanted : String) :
    property? (before ++ (key, value) :: after) wanted =
      property? (before ++ (key, flat) :: after) wanted ∨
      property? (before ++ (key, value) :: after) wanted = some value ∧
        property? (before ++ (key, flat) :: after) wanted = some flat := by
  simp only [property?, List.reverse_append, List.reverse_cons, List.append_assoc,
    List.singleton_append, List.find?_append, List.find?_cons]
  cases after.reverse.find? (·.1 == wanted) with
  | some found => exact .inl rfl
  | none =>
    cases key == wanted with
    | true => exact .inr ⟨rfl, rfl⟩
    | false => exact .inl rfl

theorem target?_replace {before after : List (String × Declared)} {key : String}
    {value flat : Declared}
    (hvalue : ∀ text, value ≠ .literal text ∧ flat ≠ .literal text) :
    target? (before ++ (key, value) :: after) = target? (before ++ (key, flat) :: after) := by
  have hfault : ∀ {properties given}, property? properties "matchTarget" = some given →
      (∀ text, given ≠ .literal text) → target? properties = .error .nonStringMatchTarget := by
    intro properties given hgiven hliteral
    exact target?_eq_error_iff.2 (.inl ⟨given, property?_eq_some_iff.1 hgiven, hliteral, rfl⟩)
  rcases property?_replace before after key value flat "matchTarget" with hsame | ⟨hfirst, hsecond⟩
  · rw [target?, target?, hsame]
  · rw [hfault hfirst fun text => (hvalue text).1, hfault hsecond fun text => (hvalue text).2]

theorem collect_splices {value flat : Declared} (h : Splices value flat) (found : Contribution) :
    collect found value = collect found flat := by
  induction h generalizing found with
  | @array before inner after =>
    rw [collect, collect, collectAll_append, collectAll_append, collectAll_append]
    cases collectAll found before with
    | error reason => rfl
    | ok next => simp only [bind, Except.bind, collectAll, collect]
  | @element before after value flat _ ih =>
    rw [collect, collect, collectAll_append, collectAll_append]
    simp only [collectAll, ih]
  | @property before after key value flat hvalue ih =>
    rw [collect_object, collect_object, target?_replace hvalue.ne_literal]
    rcases property?_replace before after key value flat "match" with hsame | ⟨hfirst, hsecond⟩
    · rw [hsame]
    · simp only [hfirst, hsecond, ih]

end Declared

/-- Merging the declarations of a file comes to the same as reading one declaration of the array of
their values: it is rejected for the reason of the first diagnostic, if there is one, and declares
the same patterns and target otherwise. So an array inside an array may be written out in its
place. -/
theorem Extraction.ofDeclarations_eq_array (file : String) (sites : List Declaration) :
    (Declared.array (sites.map (·.value))).contribution =
        (match (ofDeclarations file sites).diagnostics with
        | [] => .ok ⟨(ofDeclarations file sites).patterns, (ofDeclarations file sites).matchTarget⟩
        | first :: _ => .error first.reason) ∧
      ∀ value flat : Declared, Declared.Splices value flat →
          value.contribution = flat.contribution := by
  refine ⟨?_, fun value flat h => Declared.collect_splices h {}⟩
  have hverdict := verdict_foldl_add file {} sites
  rw [Declared.contribution, Declared.collect]
  exact hverdict.symm

/-- Below the `match` property of an object an array inside an array makes no difference either. -/
theorem Extraction.ofDeclarations_eq_array_spliced :
    Declared.Splices (.object [("match", .array [.literal "a", .array [.regex "b" "g"], .other])])
        (.object [("match", .array [.literal "a", .regex "b" "g", .other])]) ∧
      Declared.contribution
        (.object [("match", .array [.literal "a", .array [.regex "b" "g"], .other])]) =
        Declared.contribution
          (.object [("match", .array [.literal "a", .regex "b" "g", .other])]) := by
  have hinner : Declared.Splices (.array [.literal "a", .array [.regex "b" "g"], .other])
      (.array [.literal "a", .regex "b" "g", .other]) :=
        @Declared.Splices.array [.literal "a"] [.regex "b" "g"] [.other]
  have hspliced := @Declared.Splices.property [] [] "match" _ _ hinner
  exact ⟨hspliced, (ofDeclarations_eq_array "" []).2 _ _ hspliced⟩

end RouteManifest
