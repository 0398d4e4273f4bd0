import Mathlib.Data.List.Basic
import RouteManifest.Script.Site

/-!
Where the declarations of a script stand in its tree. A part of the tree has an address, the indices
that lead to it from the root, and declares something itself if it is an exported variable of the
one name or a class with decorators of the other that is declared or exported by default. The
declarations that are found are those that some part makes, each of them once, and they come in the
order of their addresses.
-/

namespace RouteManifest.Script.Tree

/-! ### Parts -/

/-- The parts right inside a part, in the order in which they are visited. -/
def parts : Tree → List Tree
  | .name _ | .text _ | .regex _ _ | .hole | .shorthand _ => []
  | .located _ inner | .spread inner | .parens inner | .decorator _ inner | .exported _ inner
  | .defaultExport inner => [inner]
  | .array parts _ | .object parts _ | .method parts | .operation _ parts | .variableList
      parts | .group parts => parts
  | .property first second | .defaulted first second | .marked _ first second | .assertion
    second first
  | .member _ first second | .assign first second => [first, second]
  | .call callee values => callee :: values
  | .arrow parts result => parts ++ [result]
  | .class _ decorators members heritage => decorators ++ members ++ [heritage]
  | .declarator target type value => target :: type :: value.toList

/-- What a part declares, the parts inside it apart. -/
def own : Tree → List Declaration
  | .class form decorators _ _ => decoratorDeclarations form decorators
  | .exported line declaration => (namedExport? line declaration).toList
  | .defaultExport declaration => defaultDeclarations declaration
  | _ => []

theorem declarationsOf_eq_flatMap (trees : List Tree) :
    declarationsOf trees = trees.flatMap declarations := by
  induction trees with
  | nil => rw [declarationsOf, List.flatMap_nil]
  | cons tree trees ih => rw [declarationsOf, ih, List.flatMap_cons]

/-- Each part is visited once: a part declares what it declares itself, and then what its parts
declare. -/
theorem declarations_eq (tree : Tree) :
    declarations tree = own tree ++ tree.parts.flatMap declarations := by
  cases tree with
  | declarator target type value => cases value <;> simp [declarations, own, parts]
  | _ => simp [declarations, own, parts, declarationsOf_eq_flatMap]

theorem sizeOf_lt_of_mem_parts {tree part : Tree} (h : part ∈ tree.parts) :
    sizeOf part < sizeOf tree := by
  have hlist : ∀ trees : List Tree, part ∈ trees → sizeOf part < sizeOf trees :=
    fun _ => List.sizeOf_lt_of_mem
  cases tree with
  | declarator target type value =>
    cases value <;> simp only [parts, Option.toList, List.mem_cons, List.not_mem_nil,
      or_false] at h <;>
      simp only [declarator.sizeOf_spec, Option.some.sizeOf_spec, Option.none.sizeOf_spec] <;> grind
  | _ => simp only [parts, List.mem_cons, List.mem_append, List.not_mem_nil,
      or_false] at h <;> simp <;> grind

/-- What holds of a tree as soon as it holds of all its parts holds of every tree. -/
theorem induction_on_parts {motive : Tree → Prop}
    (step : ∀ tree, (∀ part ∈ tree.parts, motive part) → motive tree)
    (tree : Tree) : motive tree :=
  step tree fun part _ => induction_on_parts step part
termination_by sizeOf tree
decreasing_by
  have hpart : part ∈ tree.parts := by assumption
  exact sizeOf_lt_of_mem_parts hpart

/-! ### Addresses -/

/-- The indices that lead from a part to a part inside it, outermost first. -/
abbrev Address := List Nat

/-- The part at an address. -/
def part? (tree : Tree) : Address → Option Tree
  | [] => some tree
  | index :: rest => tree.parts[index]?.bind (part? · rest)

/-- Where a declaration is made: at which part, and by which decorator if that is a class. -/
structure Occurrence where
  address : Address
  index : Nat

/-- The order in which declarations are found: a part comes before those inside it, the decorators
of a class in their order. -/
def Occurrence.Before (first second : Occurrence) : Prop :=
  first.address < second.address ∨ first.address = second.address ∧ first.index < second.index

/-- The occurrence as it is seen from the part around the one it was seen from. -/
def Occurrence.inside (index : Nat) (occurrence : Occurrence) : Occurrence :=
  ⟨index :: occurrence.address, occurrence.index⟩

/-- The value of a call's first argument, if that is no spread one. -/
def firstArgument : List Tree → Declared
  | [] | .spread _ :: _ => .other
  | value :: _ => declared value

/-- What a part declares itself: an exported variable of the one name that is declared alone, or a
decorator that is a call of the other name, of a class that is declared or exported by default. -/
inductive Makes : Tree → Nat → Declaration → Prop
  | namedExport {line : Nat} {type : Tree} {value : Option Tree} :
      Makes (.exported line (.variableList [.declarator (.name "ROUTABLE_TARGETS") type value])) 0
        ⟨.namedExport, line, (value.map declared).getD .other⟩
  | decorator {decorators members : List Tree} {heritage : Tree} {index line : Nat}
      {values : List Tree}
      (hdecorator : decorators[index]? = some (.decorator line (.call (.name "Routable") values))) :
      Makes (.class .declaration decorators members heritage) index
        ⟨.decorator, line, firstArgument values⟩
  | defaultExport {decorators members : List Tree} {heritage : Tree} {index line : Nat}
      {values : List Tree}
      (hdecorator : decorators[index]? = some (.decorator line (.call (.name "Routable") values))) :
      Makes (.defaultExport (.class .expression decorators members heritage)) index
        ⟨.decorator, line, firstArgument values⟩

/-- A declaration is made at an occurrence in a tree. -/
def Declares (root : Tree) (occurrence : Occurrence) (declaration : Declaration) : Prop :=
  ∃ part, root.part? occurrence.address = some part ∧ Makes part occurrence.index declaration

/-! ### What a part declares itself -/

theorem namedExport?_eq_some_iff {line : Nat} {tree : Tree} {declaration : Declaration} :
    namedExport? line tree = some declaration ↔ Makes (.exported line tree) 0 declaration := by
  constructor
  · intro h
    rw [namedExport?.eq_def] at h
    split at h
    · next word type value =>
      split at h
      · next hword =>
        cases h
        subst hword
        exact .namedExport
      · cases h
    · cases h
  · intro h
    cases h with
    | namedExport => rfl

theorem getD_head_eq_firstArgument (values : List Tree) :
    (values.head?.map declared).getD .other = firstArgument values := by
  cases values with
  | nil => rfl
  | cons value rest => cases value <;> simp [firstArgument, declared]

theorem routable?_eq_some_iff {tree : Tree} {declaration : Declaration} :
    routable? tree = some declaration ↔
      ∃ line values, tree = .decorator line (.call (.name "Routable") values) ∧
        declaration = ⟨.decorator, line, firstArgument values⟩ := by
  constructor
  · intro h
    rw [routable?.eq_def] at h
    split at h
    · next line word values =>
      split at h
      · next hword =>
        cases h
        subst hword
        exact ⟨line, values, rfl, by rw [getD_head_eq_firstArgument]⟩
      · cases h
    · cases h
  · rintro ⟨line, values, rfl, rfl⟩
    rw [← getD_head_eq_firstArgument]
    rfl

/-- What the decorators of a class declare, with their occurrences as seen from the part that
declares it. -/
def foundMarks (decorators : List Tree) : List (Occurrence × Declaration) :=
  decorators.zipIdx.filterMap fun decorator =>
    (routable? decorator.1).map (⟨[], decorator.2⟩, ·)

theorem map_foundMarks (decorators : List Tree) :
    (foundMarks decorators).map (·.2) = decoratorDeclarations .declaration decorators := by
  have hsecond : ∀ decorator : Tree × Nat,
      ((routable? decorator.1).map ((⟨[], decorator.2⟩ : Occurrence), ·)).map (·.2) =
        routable? decorator.1 := by
    intro decorator
    cases routable? decorator.1 <;> rfl
  have hdrop : decorators.zipIdx.filterMap (routable? ∘ Prod.fst) =
      decorators.filterMap routable? := by
    rw [← List.filterMap_map, List.zipIdx_map_fst]
  simp only [foundMarks, decoratorDeclarations, List.map_filterMap, hsecond]
  exact hdrop

theorem mem_foundMarks_iff {decorators : List Tree} {occurrence : Occurrence}
    {declaration : Declaration} :
    (occurrence, declaration) ∈ foundMarks decorators ↔
      occurrence.address = [] ∧ ∃ line values,
        decorators[occurrence.index]? = some (.decorator line (.call (.name "Routable") values)) ∧
          declaration = ⟨.decorator, line, firstArgument values⟩ := by
  constructor
  · intro h
    obtain ⟨⟨decorator, index⟩, hmem, hmade⟩ := List.mem_filterMap.1 h
    obtain ⟨made, hroutable, heq⟩ := Option.map_eq_some_iff.1 hmade
    cases heq
    obtain ⟨line, values, rfl, rfl⟩ := routable?_eq_some_iff.1 hroutable
    exact ⟨rfl, line, values, List.mem_zipIdx_iff_getElem?.1 hmem, rfl⟩
  · obtain ⟨address, position⟩ := occurrence
    rintro ⟨haddress, line, values, hdecorator, rfl⟩
    cases haddress
    have hmem : (.decorator line (.call (.name "Routable") values), position) ∈ decorators.zipIdx :=
      List.mem_zipIdx_iff_getElem?.2 hdecorator
    have hroutable := routable?_eq_some_iff.2 ⟨line, values, rfl, rfl⟩
    exact List.mem_filterMap.2 ⟨_, hmem, by simp only [hroutable, Option.map_some]⟩

theorem pairwise_foundMarks (decorators : List Tree) :
    (foundMarks decorators).Pairwise fun first second => first.1.Before second.1 := by
  have hsorted : decorators.zipIdx.Pairwise fun first second => first.2 < second.2 := by
    rw [← List.pairwise_map (f := fun decorator : Tree × Nat => decorator.2), List.zipIdx_map_snd]
    exact List.pairwise_lt_range'
  refine hsorted.filterMap _ ?_
  intro first second hlt made hmade made' hmade'
  obtain ⟨_, _, rfl⟩ := Option.map_eq_some_iff.1 hmade
  obtain ⟨_, _, rfl⟩ := Option.map_eq_some_iff.1 hmade'
  exact .inr ⟨rfl, hlt⟩

/-- What a part declares itself, with its occurrence as seen from the part. -/
def foundHere : Tree → List (Occurrence × Declaration)
  | .class .declaration decorators _ _ | .defaultExport (.class .expression decorators _ _) =>
      foundMarks decorators
  | .exported line declaration => (namedExport? line declaration).toList.map (⟨[], 0⟩, ·)
  | _ => []

theorem map_foundHere (tree : Tree) : (foundHere tree).map (·.2) = own tree := by
  rw [foundHere.eq_def]
  split
  · next decorators _ _ => exact map_foundMarks decorators
  · next decorators _ _ => exact map_foundMarks decorators
  · next line declaration =>
    rw [own]
    cases namedExport? line declaration <;> rfl
  · next hclass hdefault hexported =>
    cases tree with
    | «class» form decorators members heritage =>
      cases form with
      | declaration => exact absurd rfl (hclass decorators members heritage)
      | expression => rfl
    | exported line declaration => exact absurd rfl (hexported line declaration)
    | defaultExport declaration =>
      rw [own, defaultDeclarations.eq_def]
      split
      · next decorators members heritage => exact absurd rfl (hdefault decorators members heritage)
      · rfl
    | _ => rfl

theorem mem_foundHere_iff {tree : Tree} {occurrence : Occurrence} {declaration : Declaration} :
    (occurrence, declaration) ∈ foundHere tree ↔
      occurrence.address = [] ∧ Makes tree occurrence.index declaration := by
  constructor
  · intro h
    rw [foundHere.eq_def] at h
    split at h
    · obtain ⟨haddress, line, values, hdecorator, rfl⟩ := mem_foundMarks_iff.1 h
      exact ⟨haddress, .decorator hdecorator⟩
    · obtain ⟨haddress, line, values, hdecorator, rfl⟩ := mem_foundMarks_iff.1 h
      exact ⟨haddress, .defaultExport hdecorator⟩
    · next line inner =>
      obtain ⟨made, hmade, heq⟩ := List.mem_map.1 h
      cases heq
      exact ⟨rfl, namedExport?_eq_some_iff.1 (Option.mem_toList.1 hmade)⟩
    · cases h
  · obtain ⟨address, position⟩ := occurrence
    rintro ⟨haddress, hmade⟩
    cases haddress
    cases hmade with
    | namedExport => exact List.mem_singleton_self _
    | decorator hdecorator => exact mem_foundMarks_iff.2 ⟨rfl, _, _, hdecorator, rfl⟩
    | defaultExport hdecorator => exact mem_foundMarks_iff.2 ⟨rfl, _, _, hdecorator, rfl⟩

theorem pairwise_foundHere (tree : Tree) :
    (foundHere tree).Pairwise fun first second => first.1.Before second.1 := by
  rw [foundHere.eq_def]
  split
  · exact pairwise_foundMarks _
  · exact pairwise_foundMarks _
  · next line inner => cases namedExport? line inner <;> simp
  · exact .nil

/-! ### What is found -/

/-- Declarations with their occurrences, as they are found in a tree: all that are made there, in
order. -/
structure Finds (root : Tree) (found : List (Occurrence × Declaration)) : Prop where
  declarations : found.map (·.2) = root.declarations
  mem_iff : ∀ occurrence declaration, (occurrence, declaration) ∈ found ↔
    Declares root occurrence declaration
  sorted : found.Pairwise fun first second => first.1.Before second.1

/-- A declaration is made by a part itself or inside one of its parts. -/
theorem declares_iff {root : Tree} {occurrence : Occurrence} {declaration : Declaration} :
    Declares root occurrence declaration ↔
      (occurrence.address = [] ∧ Makes root occurrence.index declaration) ∨
      ∃ index part inner, root.parts[index]? = some part ∧ occurrence = inner.inside index ∧
        Declares part inner declaration := by
  constructor
  · rintro ⟨made, hpart, hmade⟩
    obtain ⟨address, position⟩ := occurrence
    cases address with
    | nil =>
      cases hpart
      exact .inl ⟨rfl, hmade⟩
    | cons index rest =>
      obtain ⟨part, hindex, hrest⟩ := Option.bind_eq_some_iff.1 hpart
      exact .inr ⟨index, part, ⟨rest, position⟩, hindex, rfl, made, hrest, hmade⟩
  · rintro (⟨haddress, hmade⟩ | ⟨index, part, inner, hindex, rfl, made, hpart, hmade⟩)
    · exact ⟨root, by rw [haddress, part?], hmade⟩
    · exact ⟨made, Option.bind_eq_some_iff.2 ⟨part, hindex, hpart⟩, hmade⟩

theorem Occurrence.Before.inside {first second : Occurrence} (h : first.Before second)
    (index : Nat) :
    (first.inside index).Before (second.inside index) := by
  rcases h with hlt | ⟨heq, hlt⟩
  · exact .inl (List.cons_lt_cons_iff.2 (.inr ⟨rfl, hlt⟩))
  · exact .inr ⟨congrArg (index :: ·) heq, hlt⟩

theorem Finds.mem_inside_iff {part : Tree} {found : List (Occurrence × Declaration)}
    (h : Finds part found)
    (index : Nat) {occurrence : Occurrence} {declaration : Declaration} :
    (occurrence, declaration) ∈ found.map (Prod.map (Occurrence.inside index) id) ↔
      ∃ inner, occurrence = inner.inside index ∧ Declares part inner declaration := by
  simp only [← h.mem_iff, List.mem_map, Prod.exists, Prod.map_apply, id_eq, Prod.mk.injEq]
  constructor
  · rintro ⟨inner, _, hinner, rfl, rfl⟩
    exact ⟨inner, rfl, hinner⟩
  · rintro ⟨inner, rfl, hinner⟩
    exact ⟨inner, declaration, hinner, rfl, rfl⟩

/-- Parts side by side are searched from left to right; their indices count from `offset` on. -/
theorem exists_found_parts {trees : List Tree} (htrees : ∀ part ∈ trees, ∃ found, Finds part found)
    (offset : Nat) :
    ∃ found : List (Occurrence × Declaration), found.map (·.2) = trees.flatMap Tree.declarations ∧
      (∀ occurrence declaration, (occurrence, declaration) ∈ found ↔
        ∃ index part inner, trees[index]? = some part ∧ occurrence = inner.inside (offset + index) ∧
          Declares part inner declaration) ∧
      found.Pairwise fun first second => first.1.Before second.1 := by
  induction trees generalizing offset with
  | nil => exact ⟨[], rfl, by simp, .nil⟩
  | cons tree trees ih =>
    obtain ⟨first, hfirst⟩ := htrees tree List.mem_cons_self
    obtain ⟨rest, hdeclared, hmem, hsorted⟩ :=
      ih (fun part hpart => htrees part (List.mem_cons_of_mem tree hpart))
      (offset + 1)
    have hoffset : ∀ index, offset + 1 + index = offset + (index + 1) := fun index => by omega
    refine ⟨first.map (Prod.map (Occurrence.inside offset) id) ++ rest, ?_, ?_, ?_⟩
    · rw [List.map_append, List.map_map, hdeclared, List.flatMap_cons, ← hfirst.declarations]
      rfl
    · intro occurrence declaration
      rw [List.mem_append, hfirst.mem_inside_iff, hmem]
      constructor
      · rintro (⟨inner, rfl, hinner⟩ | ⟨index, part, inner, hpart, rfl, hinner⟩)
        · exact ⟨0, tree, inner, rfl, rfl, hinner⟩
        · exact ⟨index + 1, part, inner, hpart, by rw [hoffset], hinner⟩
      · rintro ⟨index, part, inner, hpart, rfl, hinner⟩
        cases index with
        | zero =>
          cases hpart
          exact .inl ⟨inner, rfl, hinner⟩
        | succ index => exact .inr ⟨index, part, inner, hpart, by rw [hoffset], hinner⟩
    · refine List.pairwise_append.2 ⟨?_, hsorted, ?_⟩
      · exact hfirst.sorted.map _ fun _ _ hbefore => hbefore.inside offset
      · rintro ⟨occurrence, declaration⟩ hoccurrence ⟨later, declaration'⟩ hlater
        obtain ⟨inner, rfl, -⟩ := (hfirst.mem_inside_iff offset).1 hoccurrence
        obtain ⟨index, -, inner', -, rfl, -⟩ := (hmem _ _).1 hlater
        exact .inl (List.cons_lt_cons_iff.2 (.inl (by omega)))

/-- In every tree all declarations are found that are made there, in order. -/
theorem exists_finds (root : Tree) : ∃ found, Finds root found := by
  induction root using induction_on_parts with
  | step root ih =>
    obtain ⟨inside, hdeclared, hmem, hsorted⟩ := exists_found_parts ih 0
    refine ⟨foundHere root ++ inside, ?_, ?_, ?_⟩
    · rw [List.map_append, hdeclared, map_foundHere, declarations_eq]
    · intro occurrence declaration
      rw [List.mem_append, mem_foundHere_iff, hmem, declares_iff]
      simp only [Nat.zero_add]
    · refine List.pairwise_append.2 ⟨pairwise_foundHere root, hsorted, ?_⟩
      rintro ⟨occurrence, declaration⟩ hoccurrence ⟨later, declaration'⟩ hlater
      obtain ⟨hroot, -⟩ := mem_foundHere_iff.1 hoccurrence
      obtain ⟨index, -, inner, -, rfl, -⟩ := (hmem _ _).1 hlater
      refine .inl ?_
      rw [hroot]
      exact List.nil_lt_cons _ _

theorem Occurrence.Before.ne {first second : Occurrence} (h : first.Before second) :
    first ≠ second := by
  rintro rfl
  rcases h with hlt | ⟨-, hlt⟩
  · exact List.lt_irrefl _ hlt
  · exact Nat.lt_irrefl _ hlt

/-- The declarations that are found in a tree are those that its parts make, one for each occurrence
and no others. -/
theorem declarations_correspond (root : Tree) :
    ∃ found : List (Occurrence × Declaration), found.map (·.2) = root.declarations ∧
      (found.map (·.1)).Nodup ∧
      ∀ occurrence declaration, (occurrence, declaration) ∈ found ↔
        Declares root occurrence declaration := by
  obtain ⟨found, hfound⟩ := exists_finds root
  exact ⟨found, hfound.declarations, hfound.sorted.map _ fun _ _ hbefore => hbefore.ne,
    hfound.mem_iff⟩

end RouteManifest.Script.Tree
