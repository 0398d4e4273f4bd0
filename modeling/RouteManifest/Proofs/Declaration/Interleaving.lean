import Mathlib.Data.List.Forall2
import RouteManifest.Proofs.Declaration.Merging

/-!
Well-formed and malformed declarations side by side in one file. Wherever the malformed ones stand,
they leave the patterns and the target of the file to the others and add nothing but their
diagnostics and their number. So the file can be read as two, one of each kind, and it can be cut
anywhere and put together again.
-/

namespace RouteManifest

/-- Two lists are woven into one that keeps the order of each. -/
inductive Interleaved {α : Type} : List α → List α → List α → Prop
  | nil : Interleaved [] [] []
  | left {x : α} {xs ys zs : List α} (h : Interleaved xs ys zs) : Interleaved (x :: xs) ys (x :: zs)
  | right {y : α} {xs ys zs : List α} (h : Interleaved xs ys zs) :
      Interleaved xs (y :: ys) (y :: zs)

/-- The declaration is well-formed and contributes what is found. -/
def Declaration.Contributes (site : Declaration) (found : Contribution) : Prop :=
  site.value.contribution = .ok found

/-- The declaration is malformed. -/
def Declaration.FailsWith (site : Declaration) (reason : Malformation) : Prop :=
  site.value.contribution = .error reason

/-- What is reported of a malformed declaration of a file. -/
def Declaration.diagnostic (file : String) (site : Declaration) (reason : Malformation) :
    Diagnostic where
  file := file
  line := site.line
  site := site.kind
  reason := reason

namespace Extraction

variable {file : String}

/-! ### Declarations of one kind -/

theorem add_of_contributes {site : Declaration} {found : Contribution}
    (h : site.Contributes found) :
    add file {} site =
      { patterns := found.patterns, matchTarget := found.matchTarget, siteCount := 1 } := by
  unfold Declaration.Contributes at h
  simp [add, h]

theorem add_of_failsWith {site : Declaration} {reason : Malformation} (h : site.FailsWith reason) :
    add file {} site = { diagnostics := [site.diagnostic file reason], siteCount := 1 } := by
  unfold Declaration.FailsWith at h
  simp [add, h, Declaration.diagnostic]

/-- Well-formed declarations give no diagnostics. The first one that has a target decides, whether
it has patterns or not. -/
theorem ofDeclarations_of_contributes {sites : List Declaration} {contributions : List Contribution}
    (h : List.Forall₂ Declaration.Contributes sites contributions) :
    ofDeclarations file sites =
      { patterns := contributions.flatMap (·.patterns)
        matchTarget := contributions.findSome? (·.matchTarget)
        siteCount := sites.length } := by
  induction h with
  | nil => rfl
  | @cons site found sites contributions hsite _ ih =>
    rw [ofDeclarations_cons, add_of_contributes hsite, ih, append, List.findSome?_cons]
    have hcount : 1 + sites.length = (site :: sites).length := by
      rw [List.length_cons]
      omega
    cases found.matchTarget with
    | none => simp only [hcount, List.flatMap_cons, List.append_nil, Option.none_or]
    | some target => simp only [hcount, List.flatMap_cons, List.append_nil, Option.some_or]

/-- Malformed declarations give diagnostics and nothing else, however much had been read of them
when they failed. -/
theorem ofDeclarations_of_failsWith {sites : List Declaration} {reasons : List Malformation}
    (h : List.Forall₂ Declaration.FailsWith sites reasons) :
    ofDeclarations file sites =
      { diagnostics := List.zipWith (Declaration.diagnostic file) sites reasons
        siteCount := sites.length } := by
  induction h with
  | nil => rfl
  | @cons site reason sites reasons hsite _ ih =>
    rw [ofDeclarations_cons, add_of_failsWith hsite, ih, append]
    have hcount : 1 + sites.length = (site :: sites).length := by
      rw [List.length_cons]
      omega
    simp only [hcount, List.zipWith_cons_cons, List.append_nil, List.singleton_append,
      Option.none_or]

/-! ### Declarations of both kinds -/

/-- A file can be cut anywhere. -/
theorem ofDeclarations_append (first second : List Declaration) :
    ofDeclarations file (first ++ second) =
      (ofDeclarations file first).append (ofDeclarations file second) := by
  rw [ofDeclarations, List.foldl_append]
  exact foldl_add file (ofDeclarations file first) second

/-- What has diagnostics only can stand on either side of what has none. -/
theorem append_comm_of_separate {reported kept : Extraction} (hpatterns : reported.patterns = [])
    (htarget : reported.matchTarget = none) (hkept : kept.diagnostics = []) :
    reported.append kept = kept.append reported := by
  unfold append
  rw [hpatterns, htarget, hkept, Nat.add_comm, Option.or_none, Option.none_or]
  simp only [List.nil_append, List.append_nil]

/-- A file gives what its well-formed declarations give, and then what its malformed ones give. The
induction is on how the two are woven; a malformed declaration at the front changes places with all
well-formed ones. -/
theorem ofDeclarations_eq_append {wellFormed malformed sites : List Declaration}
    {contributions : List Contribution}
    {reasons : List Malformation} (hsites : Interleaved wellFormed malformed sites)
    (hwellFormed : List.Forall₂ Declaration.Contributes wellFormed contributions)
    (hmalformed : List.Forall₂ Declaration.FailsWith malformed reasons) :
    ofDeclarations file sites = (ofDeclarations file wellFormed).append
      (ofDeclarations file malformed) := by
  induction hsites generalizing contributions reasons with
  | nil => rfl
  | @left site wellFormed malformed sites _ ih =>
    cases hwellFormed with
    | cons _ hrest => rw [ofDeclarations_cons, ofDeclarations_cons file site wellFormed,
        ih hrest hmalformed, append_assoc]
  | @right site wellFormed malformed sites _ ih =>
    cases hmalformed with
    | cons hsite hrest =>
      have hkept : (ofDeclarations file wellFormed).diagnostics = [] := by
        rw [ofDeclarations_of_contributes hwellFormed]
      have hswap : (add file {} site).append (ofDeclarations file wellFormed) =
          (ofDeclarations file wellFormed).append (add file {} site) := by
        apply append_comm_of_separate _ _ hkept
        · rw [add_of_failsWith hsite]
        · rw [add_of_failsWith hsite]
      rw [ofDeclarations_cons, ofDeclarations_cons file site malformed,
        ih hwellFormed hrest, ← append_assoc, hswap, append_assoc]

/-- Malformed declarations never affect the others, wherever they stand. A file in which well-formed
and malformed declarations are interleaved has the patterns and the target of the well-formed ones
alone, which are their patterns in order and the first target among them, and the diagnostics of the
malformed ones alone, one for each in order. All of them count. And wherever the file is cut, its
two parts give together what the whole file gives. -/
theorem ofDeclarations_interleaved (file : String) {wellFormed malformed sites : List Declaration}
    {contributions : List Contribution} {reasons : List Malformation}
    (hsites : Interleaved wellFormed malformed sites)
    (hwellFormed : List.Forall₂ Declaration.Contributes wellFormed contributions)
    (hmalformed : List.Forall₂ Declaration.FailsWith malformed reasons) :
    ((ofDeclarations file sites).patterns = (ofDeclarations file wellFormed).patterns ∧
      (ofDeclarations file sites).matchTarget = (ofDeclarations file wellFormed).matchTarget ∧
      (ofDeclarations file sites).diagnostics = (ofDeclarations file malformed).diagnostics ∧
      (ofDeclarations file sites).siteCount = wellFormed.length + malformed.length) ∧
    ((ofDeclarations file wellFormed).patterns = contributions.flatMap (·.patterns) ∧
      (ofDeclarations file wellFormed).matchTarget = contributions.findSome? (·.matchTarget)) ∧
    (ofDeclarations file malformed).diagnostics =
      List.zipWith (Declaration.diagnostic file) malformed reasons ∧
    ∀ first second, sites = first ++ second →
      ofDeclarations file sites = (ofDeclarations file first).append
        (ofDeclarations file second) := by
  have hwhole : ofDeclarations file sites = _ :=
    ofDeclarations_eq_append hsites hwellFormed hmalformed
  have hgood : ofDeclarations file wellFormed = _ := ofDeclarations_of_contributes hwellFormed
  have hbad : ofDeclarations file malformed = _ := ofDeclarations_of_failsWith hmalformed
  refine ⟨?_, ?_, ?_, ?_⟩
  · rw [hwhole, hgood, hbad, append]
    simp only [List.append_nil, List.nil_append, Option.or_none, and_self]
  · rw [hgood]
    exact ⟨rfl, rfl⟩
  · rw [hbad]
  · rintro first second rfl
    exact ofDeclarations_append first second

/-- A target without patterns, and patterns. -/
def keptSites : List Declaration :=
  [⟨.decorator, 3, .object [("match", .other), ("matchTarget", .literal "path")]⟩,
    ⟨.namedExport, 9, .array [.literal "kept", .regex "kept" "g"]⟩]

/-- Both fail after patterns were found in them, and one of them after a target. -/
def lostSites : List Declaration :=
  [⟨.namedExport, 1, .array [.literal "lost", .object []]⟩,
    ⟨.decorator, 5, .array [.object [("match", .literal "lost"), ("matchTarget", .literal "name")],
    .regex "lost" "gg"]⟩]

/-- Malformed declarations before and between the others. -/
theorem ofDeclarations_interleaved_mixed :
    Interleaved keptSites lostSites [lostSites[0], keptSites[0], lostSites[1], keptSites[1]] ∧
      List.Forall₂ Declaration.Contributes keptSites
        [⟨[], some .path⟩, ⟨[.literal "kept", .regex "kept" "g"], none⟩] ∧
      List.Forall₂ Declaration.FailsWith lostSites [.missingMatch, .invalidRegexFlags "gg"] ∧
      ofDeclarations "a.ts" [lostSites[0], keptSites[0], lostSites[1], keptSites[1]] =
        { patterns := [.literal "kept", .regex "kept" "g"], matchTarget := some .path,
          diagnostics := [⟨"a.ts", 1, .namedExport, .missingMatch⟩,
          ⟨"a.ts", 5, .decorator, .invalidRegexFlags "gg"⟩],
          siteCount := 4 } := by
  have hsites : Interleaved keptSites lostSites
      [lostSites[0], keptSites[0], lostSites[1], keptSites[1]] :=
    .right (.left (.right (.left .nil)))
  have hkept : List.Forall₂ Declaration.Contributes keptSites
      [⟨[], some .path⟩, ⟨[.literal "kept", .regex "kept" "g"], none⟩] := by
    refine .cons ?_ (.cons ?_ .nil)
    · have hmatch : Declared.property? [("match", .other), ("matchTarget", .literal "path")]
        "match" = some .other := rfl
      rw [Declaration.Contributes, Declared.contribution, Declared.collect_object, hmatch]
      simp only [Declared.collect]
      rfl
    · rw [Declaration.Contributes, Declared.contribution]
      simp only [Declared.collect, Declared.collectAll]
      rfl
  have hlost : List.Forall₂ Declaration.FailsWith lostSites
      [.missingMatch, .invalidRegexFlags "gg"] := by
    refine .cons ?_ (.cons ?_ .nil)
    · rw [Declaration.FailsWith, Declared.contribution]
      simp only [Declared.collect, Declared.collectAll, Declared.collect_object]
      rfl
    · have hmatch : Declared.property?
        [("match", .literal "lost"), ("matchTarget", .literal "name")] "match" =
          some (.literal "lost") := rfl
      rw [Declaration.FailsWith, Declared.contribution, Declared.collect, Declared.collectAll,
        Declared.collect_object, hmatch]
      simp only [Declared.collect, Declared.collectAll]
      rfl
  refine ⟨hsites, hkept, hlost, ?_⟩
  obtain ⟨⟨hpatterns, htarget, hdiagnostics, hcount⟩, ⟨hgood, hfirst⟩, hbad, -⟩ :=
    ofDeclarations_interleaved "a.ts" hsites hkept hlost
  rw [hgood] at hpatterns
  rw [hfirst] at htarget
  rw [hbad] at hdiagnostics
  generalize ofDeclarations "a.ts" [lostSites[0], keptSites[0], lostSites[1], keptSites[1]] =
    whole at *
  obtain ⟨patterns, target, diagnostics, count⟩ := whole
  simp only at hpatterns htarget hdiagnostics hcount
  subst hpatterns htarget hdiagnostics hcount
  rfl

end Extraction

end RouteManifest
