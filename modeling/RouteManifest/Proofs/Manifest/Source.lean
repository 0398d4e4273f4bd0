import RouteManifest.Extraction
import RouteManifest.Proofs.Manifest.RoundTrip
import RouteManifest.Proofs.Script.Constants
import RouteManifest.Proofs.Script.Expressions
import RouteManifest.Script.Site

/-!
What a manifest writes, read as a script. Its patterns, put into an exported array, declare the same
patterns again. The manifest itself is a well-formed script, and nothing in it declares anything.
-/

namespace RouteManifest

open Script
open Script.Grammar (Expresses Located IsVariable)

/-! ### Patterns as values -/

/-- The value that declares a pattern. -/
def Pattern.toDeclared : Pattern → Declared
  | .literal text => .literal text
  | .regex source flags => .regex source flags

/-- A pattern whose flags are accepted is declared by its value. -/
theorem Declared.collect_toDeclared {p : Pattern}
    (hp : ∀ source flags, p = .regex source flags → RegexFlags.accepts flags = true)
    (found : Contribution) : collect found p.toDeclared =
    .ok { found with patterns := found.patterns ++ [p] } := by
  cases p with
  | literal text => rw [Pattern.toDeclared, collect]
  | regex source flags => rw [Pattern.toDeclared, collect, if_pos (hp source flags rfl)]

theorem Declared.collectAll_toDeclared {ps : List Pattern}
    (hps : ∀ p ∈ ps, ∀ source flags, p = .regex source flags → RegexFlags.accepts flags = true)
    (found : Contribution) :
    collectAll found (ps.map Pattern.toDeclared) =
      .ok { found with patterns := found.patterns ++ ps } := by
  induction ps generalizing found with
  | nil => simp [collectAll]
  | cons p ps ih =>
    have hrest := ih fun q hq => hps q (List.mem_cons_of_mem p hq)
    rw [List.map_cons, collectAll, collect_toDeclared (hps p List.mem_cons_self)]
    simp [bind, Except.bind, hrest]

namespace Manifest

/-! ### Trees that declare nothing by themselves -/

/-- A tree in which nothing is declared. -/
def Inert (tree : Tree) : Prop := tree.declarations = []

/-- A tree in which nothing is declared and whose value declares a pattern. -/
structure Carries (p : Pattern) (tree : Tree) : Prop where
  declared : tree.declared = p.toDeclared
  inert : Inert tree

theorem inert_of_forall₂ {α : Type} {P : α → Tree → Prop} {xs : List α} {trees : List Tree}
    (h : List.Forall₂ P xs trees) (hP : ∀ x tree, P x tree → Inert tree) :
    Tree.declarationsOf trees = [] := by
  induction h with
  | nil => rfl
  | @cons x tree xs trees htree _ ih =>
    rw [Tree.declarationsOf, ih, hP x tree htree, List.append_nil]

theorem declaredElements_of_forall₂ {ps : List Pattern} {trees : List Tree}
    (h : List.Forall₂ (fun p => Located (Carries p)) ps trees) :
    Tree.declaredElements trees = ps.map Pattern.toDeclared := by
  induction h with
  | nil => rfl
  | @cons p tree ps trees htree _ ih =>
    obtain ⟨start, value, rfl, hvalue⟩ := htree
    rw [Tree.declaredElements, Tree.declared, hvalue.declared, ih, List.map_cons]
    exact nofun

/-! ### Patterns and arrays of patterns -/

variable {length : Nat}

/-- A pattern is written as an expression whose value declares it as written. -/
theorem expresses_pattern {p : Pattern} (hp : Writable p) :
    Expresses length 2 (pattern p).toList (Carries (written p)) := by
  cases p with
  | literal text =>
    refine (Grammar.expresses_text text).imp ?_
    rintro _ rfl
    exact ⟨by rw [Tree.declared]; rfl, by rw [Inert, Tree.declarations]⟩
  | regex source flags =>
    have htext : (pattern (.regex source flags)).toList =
        '/' :: ((regexSource source).toList ++ '/' :: flags.toList) := by
      simp only [pattern, String.toList_append, List.append_assoc]
      rfl
    rw [htext]
    refine (Grammar.expresses_regex hp.1 hp.2).imp ?_
    rintro _ rfl
    exact ⟨by rw [Tree.declared]; rfl, by rw [Inert, Tree.declarations]⟩

/-- What stands between the brackets of an entry. -/
def patternTexts (ps : List Pattern) : String := String.intercalate ", " (ps.map pattern)

/-- Patterns between brackets are read to an array that declares them as written. -/
theorem expresses_patterns {ps : List Pattern} (hps : ∀ p ∈ ps, Writable p)
    (hlength : ps.length ≤ length) :
    Expresses length 4 ('[' :: ((patternTexts ps).toList ++ [']']))
      (fun tree => tree.declared = .array ((ps.map written).map Pattern.toDeclared) ∧
        Inert tree) := by
  have hpatterns : ∀ p ∈ ps, Expresses length 2 (pattern p).toList (Carries (written p)) :=
      fun p hp =>
    expresses_pattern (hps p hp)
  have harray := Grammar.expresses_array hpatterns hlength isBlank_nil isBlank_space isBlank_nil
  have htext : (patternTexts ps).toList =
      (',' :: [' ']).intercalate (ps.map fun p => (pattern p).toList) := by
    rw [patternTexts, String.toList_intercalate, List.map_map]
    rfl
  rw [htext]
  refine harray.imp ?_
  rintro _ ⟨elements, comma, rfl, helements⟩
  have hall : List.Forall₂ (fun p => Located (Carries p)) (ps.map written) elements :=
    List.forall₂_map_left_iff.2 helements
  refine ⟨by rw [Tree.declared, declaredElements_of_forall₂ hall], ?_⟩
  rw [Inert, Tree.declarations]
  refine inert_of_forall₂ hall ?_
  rintro p _ ⟨start, value, rfl, hvalue⟩
  rw [Inert, Tree.declarations]
  exact hvalue.inert

theorem length_le_length_patternTexts (ps : List Pattern) :
    ps.length ≤ (patternTexts ps).toList.length + 1 := by
  have hlength := Reader.length_le_length_intercalate (show [',', ' '] ≠ [] by decide)
    (ps.map fun p => (pattern p).toList)
  rw [List.length_map] at hlength
  rwa [patternTexts, String.toList_intercalate, List.map_map]

/-- An array of patterns that is exported under the fixed name declares them as written, and nothing
else. -/
theorem declarations_patternTexts {ps : List Pattern} (hps : ∀ p ∈ ps, Writable p) :
    ∃ line, Script.declarations ("export const ROUTABLE_TARGETS = [" ++ patternTexts ps ++ "];") =
      .ok [⟨.namedExport, line, .array ((ps.map written).map Pattern.toDeclared)⟩] := by
  have hname : IsVariable "ROUTABLE_TARGETS" := ⟨by decide, by decide, by decide⟩
  have hlength : ps.length ≤ ('[' :: ((patternTexts ps).toList ++ [']'])).length := by
    have := length_le_length_patternTexts ps
    simp only [List.length_cons, List.length_append, List.length_nil]
    omega
  obtain ⟨line, value, hparse, hdeclared, hinert⟩ :=
    parse_constant hname (expresses_patterns hps hlength) (by decide) isBlank_nil
  have htext : String.ofList
      (constantText "ROUTABLE_TARGETS" ('[' :: ((patternTexts ps).toList ++ [']'])) ++ []) =
      "export const ROUTABLE_TARGETS = [" ++ patternTexts ps ++ "];" := by
    rw [← String.toList_inj, String.toList_ofList]
    simp only [String.toList_append, List.append_nil, constantText, List.append_assoc,
      List.cons_append]
    rfl
  rw [htext] at hparse
  refine ⟨line, ?_⟩
  rw [Script.declarations, hparse, Except.map]
  have hdeclarations : Tree.declarations value = [] := hinert
  simp [Tree.declarations, Tree.declarationsOf, Tree.namedExport?, exportedName, Tree.nothing,
    hdeclared, hdeclarations]

/-! ### Entries and whole manifests -/

theorem length_le_length_of_mem (separator : List Char) {x : List Char} {xs : List (List Char)}
    (h : x ∈ xs) :
    x.length ≤ (separator.intercalate xs).length := by
  induction xs with
  | nil => cases h
  | cons y xs ih =>
    cases xs with
    | nil =>
      refine Nat.le_of_eq ?_
      rw [List.intercalate_singleton, List.mem_singleton.1 h]
    | cons z zs =>
      rw [List.intercalate_cons_cons, List.length_append, List.length_append]
      rcases List.mem_cons.1 h with rfl | h
      · omega
      · have := ih h
        omega

/-- The function that loads a record's file. -/
def loaderText (path : String) : List Char :=
  '(' :: ')' :: ' ' :: '=' :: '>' :: ' ' ::
    ("import".toList ++ '(' :: ((Text.quote path).toList ++ [')']))

/-- The members of an entry with what is written for their values. -/
def entryMembers (record : Record) : List (String × List Char) :=
  [("match", '[' :: ((patternTexts record.patterns).toList ++ [']'])),
    ("loader", loaderText record.path)]

theorem toList_entry_members (record : Record) :
    (entry record).toList = '{' :: ([' '] ++
      ((',' :: [' ']).intercalate
        ((entryMembers record).map fun member => member.1.toList ++ ':' :: ' ' :: member.2) ++
        ([' '] ++ ['}']))) := by
  simp only [entry, entryMembers, loaderText, patternTexts, String.toList_append, List.map_cons,
    List.map_nil, List.intercalate_cons_cons, List.intercalate_singleton, List.append_assoc,
    List.cons_append]
  rfl

theorem expresses_loaderText (path : String) (hlength : 1 ≤ length) :
    Expresses length 6 (loaderText path) Inert := by
  refine (Grammar.expresses_loader (Grammar.expresses_text path) hlength).imp ?_
  rintro _ ⟨value, rfl, rfl⟩
  simp [Inert, Tree.declarations, Tree.declarationsOf, Tree.nothing]

theorem length_patternTexts_le (record : Record) :
    (patternTexts record.patterns).toList.length + 10 ≤ (entry record).toList.length := by
  have hopen : "\x7b match: [".toList.length = 10 := by decide
  simp only [entry, patternTexts, String.toList_append, List.length_append, hopen]
  omega

/-- An entry is written as an expression in which nothing is declared. -/
theorem expresses_entry {record : Record} (hrecord : ∀ p ∈ record.patterns, Writable p)
    (hlength : (entry record).toList.length ≤ length) :
    Expresses length 8 (entry record).toList Inert := by
  have hshort : record.patterns.length ≤ length ∧ 2 ≤ length := by
    have hpatterns := length_le_length_patternTexts record.patterns
    have hentry := length_patternTexts_le record
    omega
  rw [toList_entry_members]
  have hmembers : ∀ member ∈ entryMembers record, Expresses length 6 member.2 Inert := by
    intro member hmember
    simp only [entryMembers, List.mem_cons, List.not_mem_nil, or_false] at hmember
    rcases hmember with rfl | rfl
    · exact ((expresses_patterns hrecord hshort.1).imp fun _ h => h.2).mono (by decide)
    · exact expresses_loaderText record.path (Nat.le_of_succ_le hshort.2)
  have hwords : ∀ member ∈ entryMembers record, isPlainWord member.1.toList = true := by
    intro member hmember
    simp only [entryMembers, List.mem_cons, List.not_mem_nil, or_false] at hmember
    rcases hmember with rfl | rfl
    · exact (by decide : isPlainWord "match".toList = true)
    · exact (by decide : isPlainWord "loader".toList = true)
  refine (Grammar.expresses_object hwords hmembers hshort.2 isBlank_space isBlank_space
    isBlank_space).imp ?_
  rintro _ ⟨members, comma, rfl, hall⟩
  rw [Inert, Tree.declarations]
  refine inert_of_forall₂ hall ?_
  rintro member _ ⟨start, _, rfl, value, rfl, _, inner, rfl, hinner⟩
  have hdeclarations : Tree.declarations inner = [] := hinner
  simp [Inert, Tree.declarations, hdeclarations]

/-- A manifest is a well-formed script, with any blanks behind it, and nothing in it is declared. -/
theorem declarations_render {registry : Registry} (hregistry : Legible registry) {last : String}
    (hlast : IsBlank last.toList) :
    Script.declarations (render registry ++ last) = .ok [] := by
  have hname : IsVariable exportName := ⟨by decide, by decide, by decide⟩
  have hline : IsBlank ['\n'] := by decide
  obtain ⟨entries, hentries⟩ : ∃ entries, entries =
      (',' :: ['\n']).intercalate (registry.map fun record => (entry record).toList) := ⟨_, rfl⟩
  obtain ⟨value, hvalue⟩ : ∃ value, value = '[' :: (['\n'] ++ (entries ++ (['\n'] ++ [']']))) :=
    ⟨_, rfl⟩
  -- Loops may take as many steps as the value has characters. Every list in it has fewer elements
  -- than that, because its elements are written one behind the other.
  have hlength : registry.length ≤ value.length ∧ ∀ record ∈ registry,
      (entry record).toList.length ≤ value.length := by
    have hcount := Reader.length_le_length_intercalate (show [',', '\n'] ≠ [] by decide)
      (registry.map fun record => (entry record).toList)
    rw [List.length_map, ← hentries] at hcount
    have hlong : value.length = entries.length + 4 := by simp [hvalue]
    refine ⟨by omega, fun record hrecord => ?_⟩
    have hentry := length_le_length_of_mem [',', '\n']
      (List.mem_map_of_mem (f := fun record : Record => (entry record).toList) hrecord)
    rw [← hentries] at hentry
    omega
  have harray : Expresses value.length 10 value Inert := by
    rw [hvalue, hentries] at hlength ⊢
    refine (Grammar.expresses_array (P := fun _ => Inert)
      (fun record hrecord => expresses_entry (hregistry record hrecord) (hlength.2 record hrecord))
      hlength.1 hline hline hline).imp ?_
    rintro _ ⟨elements, comma, rfl, helements⟩
    rw [Inert, Tree.declarations]
    refine inert_of_forall₂ helements ?_
    rintro record _ ⟨start, inner, rfl, hinner⟩
    rw [Inert, Tree.declarations]
    exact hinner
  obtain ⟨line, tree, hparse, hinert⟩ := parse_constant hname harray (by decide) hlast
  have htext : String.ofList (constantText exportName value ++ last.toList) =
      render registry ++ last := by
    rw [← String.toList_inj, String.toList_ofList, String.toList_append, Reader.toList_render]
    simp [constantText, hvalue, hentries]
  rw [htext] at hparse
  rw [Script.declarations, hparse, Except.map]
  have hdeclarations : Tree.declarations tree = [] := hinert
  simp [Tree.declarations, Tree.declarationsOf, Tree.namedExport?, exportedName, exportName,
    Tree.nothing, hdeclarations]

end Manifest

end RouteManifest
