import Mathlib.Logic.Relation
import RouteManifest.Proofs.Script.Occurrences

/-!
Wrappers that only types see, and parentheses. They can stand around an expression and around every
part of it that is looked at: the elements of arrays that are not spread, and the values of members
whose keys are identifiers. However many are added or taken away, and wherever the expression stands
in its text then, it declares the same.
-/

namespace RouteManifest.Script.Tree

/-! ### Places -/

mutual

/-- A part without the places and lines in it, so that it does not tell where it stands. -/
def unplaced : Tree → Tree
  | .located _ inner => .located [] inner.unplaced
  | .array elements comma => .array (unplacedOf elements) (comma.map fun _ => [])
  | .spread value => .spread value.unplaced
  | .object members comma => .object (unplacedOf members) (comma.map fun _ => [])
  | .property key value => .property key.unplaced value.unplaced
  | .method parts => .method (unplacedOf parts)
  | .defaulted target value => .defaulted target.unplaced value.unplaced
  | .parens inner => .parens inner.unplaced
  | .marked mark inner type => .marked mark inner.unplaced type.unplaced
  | .assertion type inner => .assertion type.unplaced inner.unplaced
  | .call callee values => .call callee.unplaced (unplacedOf values)
  | .member link owner key => .member link owner.unplaced key.unplaced
  | .assign target value => .assign target.unplaced value.unplaced
  | .arrow parts result => .arrow (unplacedOf parts) result.unplaced
  | .operation kind operands => .operation kind (unplacedOf operands)
  | .decorator _ expression => .decorator 0 expression.unplaced
  | .class form decorators members heritage =>
      .class form (unplacedOf decorators) (unplacedOf members) heritage.unplaced
  | .exported _ declaration => .exported 0 declaration.unplaced
  | .defaultExport declaration => .defaultExport declaration.unplaced
  | .variableList declarators => .variableList (unplacedOf declarators)
  | .declarator target type value => .declarator target.unplaced type.unplaced (unplacedValue value)
  | .group children => .group (unplacedOf children)
  | tree => tree

/-- Several parts without the places and lines in them. -/
def unplacedOf : List Tree → List Tree
  | [] => []
  | tree :: rest => tree.unplaced :: unplacedOf rest

/-- The value of a variable without the places and lines in it. -/
def unplacedValue : Option Tree → Option Tree
  | none => none
  | some value => some value.unplaced

end

theorem declaredElements_cons {element : Tree} (h : element ≠ .hole) (rest : List Tree) :
    declaredElements (element :: rest) = declared element :: declaredElements rest := by
  cases element <;> first | exact absurd rfl h | rfl

mutual

theorem declared_unplaced (tree : Tree) : declared tree.unplaced = declared tree := by
  cases tree with
  | located start inner => exact declared_unplaced inner
  | text value => rfl
  | array elements comma => exact congrArg Declared.array (declaredElements_unplaced elements)
  | object members comma => exact congrArg Declared.object (declaredMembers_unplaced members)
  | parens inner => exact declared_unplaced inner
  | marked mark inner type => simp only [unplaced, declared, declared_unplaced inner]
  | _ => rfl

theorem declaredElements_unplaced (elements : List Tree) :
    declaredElements (unplacedOf elements) = declaredElements elements := by
  cases elements with
  | nil => rfl
  | cons element rest =>
    by_cases hhole : element = .hole
    · subst hhole
      exact declaredElements_unplaced rest
    · have hhole' : element.unplaced ≠ .hole := by
        cases element <;> simp_all [unplaced]
      rw [unplacedOf, declaredElements_cons hhole, declaredElements_cons hhole',
        declared_unplaced element, declaredElements_unplaced rest]

theorem declaredMembers_unplaced (members : List Tree) :
    declaredMembers (unplacedOf members) = declaredMembers members := by
  cases members with
  | nil => rfl
  | cons member rest =>
    have hrest := declaredMembers_unplaced rest
    cases member with
    | located start inner =>
      cases inner with
      | property key value =>
        cases key with
        | name text =>
          simp only [unplacedOf, unplaced, declaredMembers, declared_unplaced value, hrest]
        | _ => simpa only [unplacedOf, unplaced, declaredMembers] using hrest
      | shorthand text => simp only [unplacedOf, unplaced, declaredMembers, hrest]
      | _ => simpa only [unplacedOf, unplaced, declaredMembers] using hrest
    | _ => simpa only [unplacedOf, unplaced, declaredMembers] using hrest

end

/-! ### Wrappers -/

/-- The second expression is the first one with one more wrapper, around it or around a part of it
that is looked at. -/
inductive Wrapped : Tree → Tree → Prop
  | parens (inner : Tree) : Wrapped inner (.parens inner)
  /-- `as T` -/
  | cast (inner type : Tree) : Wrapped inner (.marked .cast inner type)
  /-- `as const` or `<const>` -/
  | constant (inner type : Tree) : Wrapped inner (.marked .constant inner type)
  /-- `satisfies T` -/
  | satisfied (inner type : Tree) : Wrapped inner (.marked .satisfied inner type)
  /-- `!` -/
  | nonNull (inner type : Tree) : Wrapped inner (.marked .nonNull inner type)
  | located {inner inner' : Tree} (start : Place) (h : Wrapped inner inner') :
      Wrapped (.located start inner) (.located start inner')
  | inParens {inner inner' : Tree} (h : Wrapped inner inner') :
      Wrapped (.parens inner) (.parens inner')
  | inMark {mark : TypeMark} {inner inner' : Tree} (type : Tree) (h : Wrapped inner inner') :
      Wrapped (.marked mark inner type) (.marked mark inner' type)
  | element {inner inner' : Tree} (before after : List Tree) (start : Place) (comma : Option Place)
      (h : Wrapped inner inner') :
      Wrapped (.array (before ++ .located start inner :: after) comma)
        (.array (before ++ .located start inner' :: after) comma)
  | value {inner inner' : Tree} (before after : List Tree) (start : Place) (key : String)
      (comma : Option Place)
      (h : Wrapped inner inner') :
      Wrapped (.object (before ++ .located start (.property (.name key) inner) :: after) comma)
        (.object (before ++ .located start (.property (.name key) inner') :: after) comma)

/-- Expressions that come from each other by adding and taking away wrappers, in any number and
order, wherever they stand in their texts. -/
def Rewrapped : Tree → Tree → Prop :=
  Relation.EqvGen fun first second => Wrapped first second ∨ first.unplaced = second.unplaced

/-- The elements before a part of an array make no difference to what it adds. -/
theorem declaredElements_append (before after : List Tree) :
    declaredElements (before ++ after) = declaredElements before ++ declaredElements after := by
  induction before with
  | nil => rfl
  | cons element before ih =>
    by_cases hhole : element = .hole
    · subst hhole
      exact ih
    · rw [List.cons_append, declaredElements_cons hhole, declaredElements_cons hhole, ih,
        List.cons_append]

/-- A member that is looked at, which has an identifier as its key, and its value. -/
def keyed? : Tree → Option (String × Declared)
  | .located _ (.property (.name key) value) => some (key, declared value)
  | .located _ (.shorthand key) => some (key, .other)
  | _ => none

theorem declaredMembers_eq_filterMap (members : List Tree) :
    declaredMembers members = members.filterMap keyed? := by
  induction members with
  | nil => rfl
  | cons member rest ih =>
    rw [declaredMembers.eq_def, List.filterMap_cons, keyed?.eq_def]
    split <;> simp_all

theorem declaredMembers_append (before after : List Tree) :
    declaredMembers (before ++ after) = declaredMembers before ++ declaredMembers after := by
  simp only [declaredMembers_eq_filterMap, List.filterMap_append]

/-- One wrapper more makes no difference. -/
theorem declared_wrapped {first second : Tree} (h : Wrapped first second) :
    declared second = declared first := by
  induction h with
  | parens | cast | constant | satisfied | nonNull => rfl
  | located start _ ih | inParens _ ih => exact ih
  | inMark type _ ih => simp only [declared, ih]
  | element before after start comma _ ih =>
    simp only [declared, declaredElements_append, declaredElements, ih]
  | value before after start key comma _ ih =>
    simp only [declared, declaredMembers_append, declaredMembers, ih]

theorem declared_rewrapped {first second : Tree} (h : Rewrapped first second) :
    declared second = declared first := by
  induction h with
  | rel first second hstep =>
    rcases hstep with hwrapped | hplaces
    · exact declared_wrapped hwrapped
    · rw [← declared_unplaced first, hplaces, declared_unplaced]
  | refl => rfl
  | symm _ _ _ ih => exact ih.symm
  | trans _ _ _ _ _ ih ih' => exact ih'.trans ih

/-- Wrappers make no difference. An expression declares the same with and without them, and so does
the exported variable whose value it is, and the class one of whose decorators takes it as the first
argument, be it exported by default or not. So it has the same patterns and the same target, or is
malformed for the same reason. -/
theorem declaration_rewrapped {first second : Tree} (h : Rewrapped first second) :
    declared second = declared first ∧
    (∀ line target type,
      own (.exported line (.variableList [.declarator target type (some second)])) =
      own (.exported line (.variableList [.declarator target type (some first)]))) ∧
    (∀ form before line callee values after members heritage,
      let class' (value : Tree) : Tree :=
        .class form (before ++ .decorator line (.call callee (value :: values)) :: after) members
          heritage
      own (class' second) = own (class' first) ∧
        own (.defaultExport (class' second)) = own (.defaultExport (class' first))) ∧
    (declared second).contribution = (declared first).contribution := by
  have hsame := declared_rewrapped h
  refine ⟨hsame, fun line target type => ?_,
    fun form before line callee values after members heritage => ?_, ?_⟩
  · cases target with
    | name word => simp only [own, namedExport?, Option.map_some, hsame]
    | _ => rfl
  · have hdecorator : routable? (.decorator line (.call callee (second :: values))) =
        routable? (.decorator line (.call callee (first :: values))) := by
      cases callee with
      | name word => simp only [routable?, List.head?_cons, Option.map_some, hsame]
      | _ => rfl
    have hdeclared : ∀ form,
        decoratorDeclarations form
          (before ++ .decorator line (.call callee (second :: values)) :: after) =
          decoratorDeclarations form
              (before ++ .decorator line (.call callee (first :: values)) :: after) := by
      intro form
      cases form with
      | declaration =>
        simp only [decoratorDeclarations, List.filterMap_append, List.filterMap_cons, hdecorator]
      | expression => rfl
    refine ⟨hdeclared form, ?_⟩
    cases form with
    | declaration => rfl
    | expression => exact hdeclared .declaration
  · rw [hsame]

/-- An array with a string, a regular expression and a configuration. -/
def plainTargets : Tree :=
  .array [.located [] (.text (some "a")), .located [] (.regex "^b" "i"),
    .located [] (.object [.located [] (.property (.name "match") (.located [] (.text (some "c")))),
      .located [] (.property (.name "matchTarget") (.located [] (.text (some "name"))))] none)] none

/-- The same array with wrappers of all kinds around it and inside it. -/
def wrappedTargets : Tree :=
  .marked .satisfied (.parens (.array [.located [] (.marked .nonNull (.text (some "a")) .nothing),
    .located [] (.parens (.parens (.regex "^b" "i"))),
    .located [] (.object [.located [] (.property (.name "match") (.located [] (.text (some "c")))),
      .located [] (.property (.name "matchTarget")
        (.located [] (.marked .cast (.marked .constant (.text (some "name")) .nothing)
          (.name "T"))))] none)] none))
    (.name "T")

theorem declaration_rewrapped_nested :
    Rewrapped plainTargets wrappedTargets ∧ declared wrappedTargets = declared plainTargets ∧
      (declared wrappedTargets).contribution.toOption =
        some ⟨[.literal "a", .regex "^b" "i", .literal "c"], some .name⟩ := by
  have hstep : ∀ {first second : Tree}, Wrapped first second → Rewrapped first second :=
    fun h => .rel _ _ (.inl h)
  have hrewrapped : Rewrapped plainTargets wrappedTargets := by
    refine .trans _ _ _ (hstep (.element [] _ [] none (.nonNull _ .nothing))) ?_
    refine .trans _ _ _ (hstep (.element [_] _ [] none (.parens _))) ?_
    refine .trans _ _ _ (hstep (.element [_] _ [] none (.parens _))) ?_
    refine .trans _ _ _ (hstep (.element [_, _] [] [] none (.value [_] [] [] "matchTarget" none
      (.located [] (.constant _ .nothing))))) ?_
    refine .trans _ _ _ (hstep (.element [_, _] [] [] none (.value [_] [] [] "matchTarget" none
      (.located [] (.cast _ (.name "T")))))) ?_
    exact .trans _ _ _ (hstep (.parens _)) (hstep (.satisfied _ (.name "T")))
  obtain ⟨hsame, -, -, hcontribution⟩ := declaration_rewrapped hrewrapped
  exact ⟨hrewrapped, hsame, by rw [hcontribution]; decide +kernel⟩

end RouteManifest.Script.Tree
