import RouteManifest.Proofs.Declaration.Merging
import RouteManifest.Proofs.Script.Occurrences

/-!
The order of the declarations of a script. They come in the order in which the parts of its tree are
visited, and what a file contributes follows that order: its patterns, and the first target. The
lines of the declarations never decrease just when no part is visited before another one that stands
further up. What a class extends is such a part: it is visited behind the members of the class.
-/

namespace RouteManifest.Script.Tree

theorem Occurrence.Before.asymm {first second : Occurrence} (h : first.Before second) :
    ¬second.Before first := by
  rintro (hlt | ⟨heq, hlt⟩)
  · rcases h with hlt' | ⟨heq', -⟩
    · exact List.lt_asymm hlt hlt'
    · rw [heq'] at hlt
      exact List.lt_irrefl _ hlt
  · rcases h with hlt' | ⟨-, hlt'⟩
    · rw [heq] at hlt'
      exact List.lt_irrefl _ hlt'
    · exact Nat.lt_asymm hlt hlt'

section
variable {root : Tree} {found : List (Occurrence × Declaration)}

/-- A relation holds between all declarations in the order they are found in just when it holds
between any two occurrences of which one is visited first. -/
theorem Finds.pairwise_iff (h : Finds root found) {R : Declaration → Declaration → Prop} :
    root.declarations.Pairwise R ↔
      ∀ first second declaration declaration', Declares root first declaration →
        Declares root second declaration' →
        first.Before second → R declaration declaration' := by
  rw [← h.declarations, List.pairwise_map]
  simp only [← h.mem_iff]
  constructor
  · intro hpairwise first second declaration declaration' hfirst hsecond hbefore
    have hboth := hpairwise.and h.sorted
    -- Of two members of a list one stands before the other, and here it can only be the one that is
    -- visited first.
    have hordered : ∀ made ∈ found, ∀ made' ∈ found, made.1.Before made'.1 → R made.2 made'.2 := by
      intro made hmade made' hmade' hvisited
      obtain ⟨before, after, rfl⟩ := List.append_of_mem hmade
      obtain ⟨-, hafter, hcross⟩ := List.pairwise_append.1 hboth
      rcases List.mem_append.1 hmade' with hearlier | hlater
      · exact absurd hvisited (hcross made' hearlier made List.mem_cons_self).2.asymm
      · rcases List.mem_cons.1 hlater with rfl | hlater
        · exact absurd hvisited hvisited.asymm
        · exact ((List.pairwise_cons.1 hafter).1 made' hlater).1
    exact hordered _ hfirst _ hsecond hbefore
  · intro hall
    refine h.sorted.imp_of_mem ?_
    intro made made' hmade hmade' hbefore
    exact hall made.1 made'.1 made.2 made'.2 hmade hmade' hbefore

/-- What is looked up from the first declaration that has it comes from the occurrence that is
visited first. -/
theorem Finds.findSome?_eq_some_iff (h : Finds root found) {α : Type}
    {look : Declaration → Option α} {result : α} :
    root.declarations.findSome? look = some result ↔
      ∃ occurrence declaration, Declares root occurrence declaration ∧
        look declaration = some result ∧
        ∀ earlier declaration', Declares root earlier declaration' → earlier.Before occurrence →
          look declaration' = none := by
  rw [← h.declarations, List.findSome?_map, List.findSome?_eq_some_iff]
  simp only [← h.mem_iff]
  constructor
  · rintro ⟨before, ⟨occurrence, declaration⟩, after, rfl, hlook, hbefore⟩
    refine ⟨occurrence, declaration, by simp, hlook, ?_⟩
    intro earlier declaration' hmem hvisited
    obtain ⟨-, hafter, -⟩ := List.pairwise_append.1 h.sorted
    rcases List.mem_append.1 hmem with hmem | hmem
    · exact hbefore _ hmem
    · rcases List.mem_cons.1 hmem with heq | hmem
      · cases heq
        exact absurd hvisited hvisited.asymm
      · exact absurd hvisited ((List.pairwise_cons.1 hafter).1 _ hmem).asymm
  · rintro ⟨occurrence, declaration, hmem, hlook, hfirst⟩
    obtain ⟨before, after, rfl⟩ := List.append_of_mem hmem
    obtain ⟨-, -, hcross⟩ := List.pairwise_append.1 h.sorted
    refine ⟨before, (occurrence, declaration), after, rfl, hlook, ?_⟩
    intro made hmade
    exact hfirst made.1 made.2 (by simp [hmade]) (hcross made hmade _ List.mem_cons_self)

end

/-- The declarations of a script come in the order in which its parts are visited. A file's patterns
follow that order, and its target is the one of the first well-formed declaration in that order that
has one. The lines of the declarations never decrease if and only if no declaration is visited
before another one that stands further up. -/
theorem declarations_follow_visits (root : Tree) (file : String) :
    (∃ found : List (Occurrence × Declaration), found.map (·.2) = root.declarations ∧
      (found.Pairwise fun first second => first.1.Before second.1) ∧
      (∀ occurrence declaration, (occurrence, declaration) ∈ found ↔
        Declares root occurrence declaration) ∧
      (Extraction.ofDeclarations file root.declarations).patterns =
        found.flatMap fun made => made.2.contributed.patterns) ∧
    (∀ target, (Extraction.ofDeclarations file root.declarations).matchTarget = some target ↔
      ∃ occurrence declaration, Declares root occurrence declaration ∧
        declaration.contributed.matchTarget = some target ∧
        ∀ earlier declaration', Declares root earlier declaration' → earlier.Before occurrence →
          declaration'.contributed.matchTarget = none) ∧
    ((root.declarations.Pairwise fun first second => first.line ≤ second.line) ↔
      ∀ first second declaration declaration', Declares root first declaration →
        Declares root second declaration' → first.Before second →
          declaration.line ≤ declaration'.line) := by
  obtain ⟨found, hfound⟩ := exists_finds root
  refine ⟨⟨found, hfound.declarations, hfound.sorted, hfound.mem_iff, ?_⟩, fun target => ?_,
    hfound.pairwise_iff⟩
  · rw [Extraction.patterns_ofDeclarations, ← hfound.declarations, List.flatMap_map]
  · rw [Extraction.matchTarget_ofDeclarations, hfound.findSome?_eq_some_iff]

/-- A class that declares routes inside what it extends, and then in one of its own blocks. -/
def derivedClass : String :=
  "class A extends f(class \x7b
  static \x7b @Routable(\x7b match: 'base', matchTarget: 'name' \x7d) class B \x7b\x7d \x7d
\x7d) \x7b
  static \x7b @Routable(\x7b match: 'own', matchTarget: 'path' \x7d) class C \x7b\x7d \x7d
\x7d
"

set_option maxRecDepth 100000 in
/-- What a class extends stands before its members, but is visited behind them. So the lines
decrease, and the file gets the target that stands last. -/
theorem declarations_derivedClass :
    (Script.declarations derivedClass).toOption.map
        (fun sites => (sites.map (·.line), Extraction.ofDeclarations "a.ts" sites)) =
      some ([4, 2],
        { patterns := [.literal "own", .literal "base"]
          matchTarget := some .path
          siteCount := 2 }) := by
  decide +kernel

end RouteManifest.Script.Tree
