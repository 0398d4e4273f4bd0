import Mathlib.Data.List.Infix
import Mathlib.Data.List.TakeWhile
import RouteManifest.Proofs.Path.Resolution

/-!
The directories above a path, as the path is written. Each of them has the steps of the one before
it without the last, whatever that is: behind a `..` there is no directory above, but one further
down. A relative path ends at the empty path.
-/

namespace RouteManifest.Path

/-! ### Dots and slashes at the end -/

theorem ofList_append_slash (first second : List Char) :
    String.ofList (first ++ '/' :: second) = String.ofList first ++ "/" ++ String.ofList second :=
  String.toList_injective (by simp)

/-- Slashes and dots at the end of a path stand for nothing. -/
theorem stepsOf_dropTrailingDots (text : List Char) :
    stepsOf (.ofList (dropTrailingDots text).reverse) = stepsOf (.ofList text.reverse) := by
  fun_induction dropTrailingDots text with
  | case1 => rfl
  | case2 rest hrest ih =>
    rw [ih, List.reverse_cons, ofList_append_slash, stepsOf_append_slash]
    exact (List.append_nil _).symm
  | case3 => rfl
  | case4 rest hrest ih =>
    rw [ih, List.reverse_cons, List.reverse_cons, List.append_assoc, List.singleton_append,
      ofList_append_slash, stepsOf_append_slash]
    exact (List.append_nil _).symm
  | case5 => rfl

theorem length_dropTrailingDots_le (text : List Char) :
    (dropTrailingDots text).length ≤ text.length := by
  fun_induction dropTrailingDots text with
  | case1 => exact Nat.le_refl _
  | case2 rest hrest ih => exact Nat.le_succ_of_le ih
  | case3 => decide
  | case4 rest hrest ih => exact Nat.le_succ_of_le (Nat.le_succ_of_le ih)
  | case5 => exact Nat.le_refl _

theorem getLast?_dropTrailingDots (text : List Char) :
    (dropTrailingDots text).getLast? = text.getLast? := by
  fun_induction dropTrailingDots text with
  | case1 => rfl
  | case2 rest hrest ih => rw [ih, List.getLast?_cons_of_ne_nil hrest]
  | case3 => rfl
  | case4 rest hrest ih => rw [ih, List.getLast?_cons_cons, List.getLast?_cons_of_ne_nil hrest]
  | case5 => rfl

/-- What is left of a path, backwards, once it does not end in slashes and dots: nothing, the root,
or a last piece. A single dot is one only if nothing stands before it. -/
inductive Trimmed : List Char → Prop
  | empty : Trimmed []
  | root : Trimmed ['/']
  | piece {piece before : List Char} (hslash : '/' ∉ piece) (hne : piece ≠ [])
      (hbefore : before = [] ∨ before.head? = some '/' ∧ piece ≠ ['.']) :
      Trimmed (piece.reverse ++ before)

theorem trimmed_dropTrailingDots (text : List Char) : Trimmed (dropTrailingDots text) := by
  fun_induction dropTrailingDots text with
  | case1 => exact .root
  | case2 rest hrest ih => exact ih
  | case3 => exact .root
  | case4 rest hrest ih => exact ih
  | case5 text hslash hdot =>
    cases text with
    | nil => exact .empty
    | cons c text =>
      have hc : c ≠ '/' := fun heq => hslash text (by rw [heq])
      have hsplit := List.takeWhile_append_dropWhile (p := (· != '/')) (l := c :: text)
      have hpiece : ((c :: text).takeWhile (· != '/')).reverse ≠ [] := by simp [hc]
      rw [← hsplit, ← List.reverse_reverse ((c :: text).takeWhile _)]
      refine .piece ?_ hpiece ?_
      · intro hmem
        simpa using List.mem_takeWhile_imp (List.mem_reverse.1 hmem)
      · cases hbefore : (c :: text).dropWhile (· != '/') with
        | nil => exact .inl rfl
        | cons d before =>
          have hd : d = '/' := by
            have hhead := List.head_dropWhile_not (· != '/') (l := c :: text) (by simp [hbefore])
            simpa [hbefore] using hhead
          refine .inr ⟨by rw [hd]; rfl, fun heq => ?_⟩
          rw [hbefore, List.reverse_eq_iff.1 heq, hd] at hsplit
          exact hdot before hsplit.symm

/-! ### The directory of a path -/

theorem pieces_of_slash_not_mem {piece : List Char} (h : '/' ∉ piece) : pieces piece = [piece] := by
  have hall : ∀ text ∈ [piece], '/' ∉ text := by simpa using h
  have hpieces := pieces_intercalate hall (List.cons_ne_nil piece [])
  rwa [List.intercalate_singleton] at hpieces

theorem stepsOf_of_slash_not_mem {piece : List Char} (h : '/' ∉ piece) :
    stepsOf (.ofList piece) = (Segment.ofPiece? piece).toList := by
  rw [stepsOf, String.toList_ofList, pieces_of_slash_not_mem h]
  cases hsegment : Segment.ofPiece? piece <;> simp [hsegment]

/-- What stands before the last piece, backwards, stands for all steps but the last. -/
theorem Trimmed.dropWhile_eq {text : List Char} (h : Trimmed text) (hempty : text ≠ [])
    (hroot : text ≠ ['/']) :
    ∃ before, text.dropWhile (· != '/') = before ∧ before.length < text.length ∧
      stepsOf (.ofList before.reverse) = (stepsOf (.ofList text.reverse)).dropLast ∧
      (before.getLast? == some '/') = (text.getLast? == some '/') ∧
      (stepsOf (.ofList text.reverse) = [] → before = []) := by
  cases h with
  | empty => exact absurd rfl hempty
  | root => exact absurd rfl hroot
  | @piece piece before hslash hne hbefore =>
    have hpiece : ∀ c ∈ piece.reverse, (c != '/') = true := by
      intro c hc
      simpa using fun heq : c = '/' => hslash (heq ▸ List.mem_reverse.1 hc)
    have hlength : before.length < (piece.reverse ++ before).length := by
      have := List.length_pos_of_ne_nil hne
      rw [List.length_append, List.length_reverse]
      omega
    refine ⟨before, ?_, hlength, ?_⟩
    · rw [List.dropWhile_append_of_pos hpiece]
      rcases hbefore with rfl | ⟨hfirst, -⟩
      · rfl
      · obtain ⟨more, rfl⟩ := List.head?_eq_some_iff.1 hfirst
        rfl
    rw [List.reverse_append, List.reverse_reverse]
    -- A piece that is all of the path may be a dot, and then there is no step. Behind a slash it is
    -- one.
    rcases hbefore with rfl | ⟨hfirst, hdot⟩
    · rw [List.append_nil, List.getLast?_reverse, List.reverse_nil, List.nil_append,
        stepsOf_of_slash_not_mem hslash]
      refine ⟨?_, ?_, fun _ => rfl⟩
      · cases Segment.ofPiece? piece <;> rfl
      · obtain ⟨c, rest, rfl⟩ := List.exists_cons_of_ne_nil hne
        have hc : c ≠ '/' := fun heq => hslash (heq ▸ List.mem_cons_self)
        simp [hc]
    · obtain ⟨more, rfl⟩ := List.head?_eq_some_iff.1 hfirst
      obtain ⟨last, hlast⟩ : ∃ last, Segment.ofPiece? piece = some last := by
        rw [Segment.ofPiece?, if_neg (by simp [hne, hdot])]
        split <;> exact ⟨_, rfl⟩
      have hsteps : stepsOf (.ofList (('/' :: more).reverse ++ piece)) =
          stepsOf (.ofList more.reverse) ++ [last] := by
        rw [List.reverse_cons, List.append_assoc, List.singleton_append, ofList_append_slash,
          stepsOf_append_slash, stepsOf_of_slash_not_mem hslash, hlast]
        rfl
      have hfront : stepsOf (.ofList ('/' :: more).reverse) = stepsOf (.ofList more.reverse) := by
        rw [List.reverse_cons, ofList_append_slash, stepsOf_append_slash]
        exact List.append_nil _
      rw [hsteps, hfront, List.dropLast_concat,
        List.getLast?_append_of_ne_nil _ (List.cons_ne_nil _ _)]
      exact ⟨rfl, rfl, fun hnone =>
        absurd hnone (List.append_ne_nil_of_right_ne_nil _ (List.cons_ne_nil last []))⟩

/-- Only the root and the empty path have no directory above them. -/
theorem stepsOf_of_directory?_none {path : Path} (h : path.directory? = none) :
    stepsOf path.text = [] := by
  by_contra hne
  obtain ⟨before, last, hlast⟩ := (List.eq_nil_or_concat (stepsOf path.text)).resolve_left hne
  rw [List.concat_eq_append] at hlast
  have hstep : IsStep last := isStep_of_mem_stepsOf (by rw [hlast]; simp)
  have hget : path.segments.getLast? = some last := by
    rw [segments, ← stepsOf, hlast, ← List.append_assoc, List.getLast?_concat]
  rw [directory?, hget] at h
  cases hstep <;> cases h

theorem text_of_directory?_some {path above : Path} (h : path.directory? = some above) :
    path.segments ≠ [] ∧ path.segments ≠ [.root] ∧
      above.text.toList =
        (dropTrailingDots
          ((dropTrailingDots path.text.toList.reverse).dropWhile (· != '/'))).reverse := by
  rw [directory?] at h
  split at h
  · cases h
  · cases h
  · next hroot hlast =>
    cases h
    refine ⟨fun hsegments => ?_, fun hsegments => ?_, String.toList_ofList⟩
    · rw [hsegments] at hlast
      cases hlast
    · rw [hsegments] at hlast
      exact hroot (Option.some.inj hlast).symm

/-- The directory above a path has all its steps but the last, whatever that is. It is empty if
there was none. -/
theorem directory?_eq_some {path above : Path} (h : path.directory? = some above) :
    stepsOf above.text = (stepsOf path.text).dropLast ∧ above.isAbsolute = path.isAbsolute ∧
      above.text.length < path.text.length ∧ (stepsOf path.text = [] → above.text = "") := by
  obtain ⟨hsome, hroot, habove⟩ := text_of_directory?_some h
  have hsteps : stepsOf path.text =
      stepsOf (.ofList (dropTrailingDots path.text.toList.reverse).reverse) := by
    rw [stepsOf_dropTrailingDots, List.reverse_reverse, String.ofList_toList]
  have hhead : path.text.toList.head? = (dropTrailingDots path.text.toList.reverse).getLast? := by
    rw [getLast?_dropTrailingDots, List.getLast?_reverse]
  have hlength : (dropTrailingDots path.text.toList.reverse).length ≤ path.text.length := by
    have := length_dropTrailingDots_le path.text.toList.reverse
    rwa [List.length_reverse, String.length_toList] at this
  have htrimmed := trimmed_dropTrailingDots path.text.toList.reverse
  generalize dropTrailingDots path.text.toList.reverse = text at *
  have hempty : text ≠ [] := by
    rintro rfl
    have hpath : path = ⟨""⟩ :=
      congrArg Path.mk (String.toList_injective (List.head?_eq_none_iff.1 hhead))
    exact hsome (hpath ▸ rfl)
  have hslash : text ≠ ['/'] := by
    rintro rfl
    have habsolute : path.isAbsolute = true := by rw [isAbsolute, hhead]; rfl
    refine hroot ?_
    rw [segments, ← stepsOf, hsteps, habsolute]
    rfl
  obtain ⟨before, hbefore, hshorter, hdropped, hstart, hnone⟩ := htrimmed.dropWhile_eq hempty hslash
  rw [hbefore] at habove
  refine ⟨?_, ?_, ?_, fun h => ?_⟩
  · rw [hsteps, ← hdropped, ← stepsOf_dropTrailingDots, ← habove, String.ofList_toList]
  · rw [isAbsolute, isAbsolute, habove, List.head?_reverse, getLast?_dropTrailingDots,
      hstart, hhead]
  · have := length_dropTrailingDots_le before
    rw [← String.length_toList, habove, List.length_reverse]
    omega
  · rw [hnone (hsteps ▸ h)] at habove
    exact String.toList_injective habove

/-! ### The directories above a path -/

theorem ancestorsUpTo_empty (limit : Nat) : ancestorsUpTo limit ⟨""⟩ = [⟨""⟩] := by
  cases limit <;> rfl

/-- What a path and the directories above it are written with: the steps of the path, then these
without the last one, and so on. A path that begins with a single dot has the empty path above it
all. The induction is on how many directories may be taken. -/
theorem steps_ancestorsUpTo {limit : Nat} {path : Path} (hlimit : path.text.length ≤ limit) :
    (∀ directory ∈ ancestorsUpTo limit path, directory.isAbsolute = path.isAbsolute) ∧
    ∃ extra, (extra = [] ∨ path.isAbsolute = false ∧ extra = [[]]) ∧
      (ancestorsUpTo limit path).map (stepsOf ·.text) =
        (stepsOf path.text).inits.reverse ++ extra := by
  induction limit generalizing path with
  | zero =>
    have hpath : path = ⟨""⟩ :=
      congrArg Path.mk (String.length_eq_zero_iff.1 (Nat.le_zero.1 hlimit))
    subst hpath
    exact ⟨fun directory hdirectory => by simp_all [ancestorsUpTo], [], .inl rfl, rfl⟩
  | succ limit ih =>
    rw [ancestorsUpTo]
    cases habove : path.directory? with
    | none =>
      refine ⟨fun directory hdirectory => by simp_all, [], .inl rfl, ?_⟩
      simp [stepsOf_of_directory?_none habove]
    | some above =>
      obtain ⟨hsteps, habsolute, hlength, hempty⟩ := directory?_eq_some habove
      obtain ⟨hall, extra, hextra, hmap⟩ := @ih above (by omega)
      refine ⟨?_, ?_⟩
      · intro directory hdirectory
        rcases List.mem_cons.1 hdirectory with rfl | hdirectory
        · rfl
        · exact (hall directory hdirectory).trans habsolute
      · -- Only dots have a directory above them although they have no step.
        obtain hnone | ⟨before, last, hlast⟩ := List.eq_nil_or_concat (stepsOf path.text)
        · have hroot : above = ⟨""⟩ := congrArg Path.mk (hempty hnone)
          refine ⟨[[]], .inr ⟨?_, rfl⟩, ?_⟩
          · rw [← habsolute, hroot]
            rfl
          · simp only [hroot, ancestorsUpTo_empty, List.map_cons, hnone]
            rfl
        · rw [habsolute] at hextra
          refine ⟨extra, hextra, ?_⟩
          rw [List.map_cons, hmap, hsteps, hlast, List.concat_eq_append, List.dropLast_concat,
            List.inits_append]
          simp

/-- The directories above a path begin at the root just when the path does, and their steps are
those of the path without the last ones, more and more. -/
theorem steps_ancestors (path : Path) :
    (∀ directory ∈ path.ancestors, directory.isAbsolute = path.isAbsolute) ∧
    ∃ extra, (extra = [] ∨ extra = [[]]) ∧
      path.ancestors.map (stepsOf ·.text) = (stepsOf path.text).inits.reverse ++ extra := by
  obtain ⟨hall, extra, hextra, hmap⟩ := steps_ancestorsUpTo (Nat.le_refl path.text.length)
  exact ⟨hall, extra, hextra.imp_right And.right, hmap⟩

theorem isAbsolute_of_segments {path : Path} {rest : List Segment}
    (h : path.segments = .root :: rest) :
    path.isAbsolute = true := by
  by_contra hrelative
  rcases segments_of_relative (Bool.eq_false_iff.2 hrelative) with hsegments | hsegments
  · have hstep : IsStep .root := isStep_of_mem_stepsOf (hsegments ▸ h ▸ List.mem_cons_self)
    cases hstep
  · rw [hsegments] at h
    cases h

/-- The directories above an absolute path are those along its names, down to none of them. -/
theorem segments_ancestors {path : Path} {steps : List Segment}
    (h : path.segments = .root :: steps) :
    path.ancestors.map segments = steps.inits.reverse.map (.root :: ·) := by
  have habsolute := isAbsolute_of_segments h
  obtain ⟨hall, extra, hextra, hmap⟩ := steps_ancestorsUpTo (Nat.le_refl path.text.length)
  obtain rfl : extra = [] := hextra.resolve_right fun hrelative => by simp [habsolute] at hrelative
  obtain rfl : stepsOf path.text = steps := by
    rw [segments_of_isAbsolute habsolute] at h
    exact (List.cons.inj h).2
  have hsegments : ∀ directory ∈ path.ancestors,
      directory.segments = .root :: stepsOf directory.text := by
    intro directory hdirectory
    exact segments_of_isAbsolute ((hall directory hdirectory).trans habsolute)
  rw [List.append_nil] at hmap
  rw [List.map_congr_left hsegments, ← hmap, List.map_map]
  rfl

theorem head?_ancestors (path : Path) : path.ancestors.head? = some path := by
  rw [ancestors]
  cases path.text.length with
  | zero => rfl
  | succ limit =>
    rw [ancestorsUpTo]
    split <;> rfl

end RouteManifest.Path
