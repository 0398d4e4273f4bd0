import Mathlib.Data.List.Nodup
import RouteManifest.Proofs.FileSystem.Agreement
import RouteManifest.Proofs.FileSystem.Arrivals
import RouteManifest.Proofs.Scan.Contributions

/-!
Which files a search finds. A walk takes every way that leads over directories through the tree of
entries, each of them once, and writes it behind the path of the directory it began at. Links are
looked at and never entered, so that it makes no difference where they lead.
-/

namespace RouteManifest

/-! ### Ways through a tree -/

def Entry.isDirectory : Entry → Bool
  | .directory _ => true
  | .file _ | .link _ => false

theorem Entry.isDirectory_eq_true_iff {entry : Entry} :
    entry.isDirectory = true ↔ ∃ inner, entry = .directory inner := by
  cases entry <;> simp [isDirectory]

theorem Entry.isDirectory_eq_false_iff {entry : Entry} :
    entry.isDirectory = false ↔ ∀ inner, entry ≠ .directory inner := by
  cases entry <;> simp [isDirectory]

theorem Entries.at?_cons (name first : FileName) (entry : Entry) (rest : Entries)
    (below : Location) : Entries.at? ((name, entry) :: rest) (first :: below) =
      if name = first then Entries.at? [(name, entry)] (first :: below)
      else rest.at? (first :: below) := by
  by_cases h : name = first
  · simp [Entries.at?, Entries.get?, h]
  · simp [Entries.at?, Entries.get?, h]

namespace Scan

open Entries (Distinct at?_append at?_cons at?_singleton)

mutual

/-- The ways that begin with an entry of the given name. Each says whether it leads to a
directory. -/
def waysAt (name : FileName) : Entry → List (Location × Bool)
  | .directory entries => ([name], true) :: (waysIn entries).map (Prod.map (name :: ·) id)
  | .file _ | .link _ => [([name], false)]

/-- The ways from a directory that holds the given entries. -/
def waysIn : List (FileName × Entry) → List (Location × Bool)
  | [] => []
  | (name, entry) :: rest => waysAt name entry ++ waysIn rest

end

/-- A way, as it is walked from a directory at a place. -/
def Visit.ofWay (directory : Path) (place : Location) (way : Location × Bool) : Visit :=
  ⟨directory.below way.1, place ++ way.1, way.2⟩

section
variable {entries : Entries} {name : FileName} {entry : Entry} {way : Location} {directory : Bool}

/-- A walk comes by what the ways lead to. -/
theorem walkIn_eq_map (path : Path) (place : Location) (entries : Entries) :
    walkIn path place entries = (waysIn entries).map (.ofWay path place) := by
  induction entries using Entries.induction_on_directories generalizing path place with
  | nil => rw [walkIn, waysIn, List.map_nil]
  | cons name entry rest hinner hrest =>
    rw [walkIn, waysIn, List.map_append, hrest]
    congr 1
    cases entry with
    | directory inner =>
      have hbelow : Visit.ofWay (path.join name.text) (place ++ [name]) =
          Visit.ofWay path place ∘ Prod.map (name :: ·) id := by
        funext way
        simp [Visit.ofWay, Path.below_cons]
      rw [walkAt, waysAt, hinner inner rfl, List.map_cons, List.map_map, hbelow]
      rfl
    | file | link => rfl

/-! ### Which ways are taken -/

theorem mem_waysAt_directory {inner : Entries} :
    (way, directory) ∈ waysAt name (.directory inner) ↔
      (way = [name] ∧ directory = true) ∨
        ∃ rest, (rest, directory) ∈ waysIn inner ∧ way = name :: rest := by
  simp only [waysAt, List.mem_cons, Prod.mk.injEq, List.mem_map, Prod.exists, Prod.map_apply, id_eq]
  constructor
  · rintro (h | ⟨rest, found, hrest, rfl, rfl⟩)
    · exact .inl h
    · exact .inr ⟨rest, hrest, rfl⟩
  · rintro (h | ⟨rest, hrest, rfl⟩)
    · exact .inl h
    · exact .inr ⟨rest, directory, hrest, rfl, rfl⟩

/-- The ways that begin with an entry lead to the places at and below it. -/
theorem mem_waysAt_iff
    (hinner : ∀ inner : Entries, entry = .directory inner → ∀ way,
      (way, directory) ∈ waysIn inner ↔ way ≠ [] ∧
        ∃ found, Entries.at? inner way = some found ∧ found.isDirectory = directory) :
    (way, directory) ∈ waysAt name entry ↔ ∃ rest, way = name :: rest ∧
      ∃ found, Entries.at? [(name, entry)] way = some found ∧ found.isDirectory = directory := by
  have hentry : Entries.at? [(name, entry)] [name] = some entry := by
    rw [at?_singleton, Entries.get?, if_pos rfl]
  cases entry with
  | directory inner =>
    have hbelow : ∀ rest,
        Entries.at? [(name, .directory inner)] (name :: rest) = Entries.at? inner rest :=
      at?_append hentry
    rw [mem_waysAt_directory]
    simp only [hinner inner rfl]
    constructor
    · rintro (⟨rfl, rfl⟩ | ⟨rest, ⟨-, found, hfound, rfl⟩, rfl⟩)
      · exact ⟨[], rfl, _, hentry, rfl⟩
      · exact ⟨rest, rfl, found, (hbelow rest).trans hfound, rfl⟩
    · rintro ⟨rest, rfl, found, hfound, rfl⟩
      rw [hbelow] at hfound
      cases rest with
      | nil =>
        cases hfound
        exact .inl ⟨rfl, rfl⟩
      | cons next rest => exact .inr ⟨_, ⟨List.cons_ne_nil _ _, found, hfound, rfl⟩, rfl⟩
  | file | link =>
    rw [waysAt, List.mem_singleton, Prod.mk.injEq]
    constructor
    · rintro ⟨rfl, rfl⟩
      exact ⟨[], rfl, _, hentry, rfl⟩
    · rintro ⟨rest, rfl, found, hfound, rfl⟩
      cases rest with
      | nil =>
        rw [hentry] at hfound
        cases hfound
        exact ⟨rfl, rfl⟩
      | cons next rest => simp [Entries.at?, Entries.get?] at hfound

/-- Every place below a directory is at the end of a way, and no other one. -/
theorem mem_waysIn_iff (h : Distinct entries) :
    (way, directory) ∈ waysIn entries ↔
      way ≠ [] ∧ ∃ found, entries.at? way = some found ∧ found.isDirectory = directory := by
  induction entries using Entries.induction_on_directories generalizing way with
  | nil => cases way <;> simp [waysIn, Entries.at?, Entries.get?]
  | cons name entry rest hinner hrest =>
    rw [Distinct] at h
    have hbelow : ∀ inner : Entries, entry = .directory inner → ∀ way,
        (way, directory) ∈ waysIn inner ↔ way ≠ [] ∧
          ∃ found, Entries.at? inner way = some found ∧ found.isDirectory = directory := by
      rintro inner rfl way
      exact hinner inner rfl h.2.1
    rw [waysIn, List.mem_append, mem_waysAt_iff hbelow, hrest h.2.2]
    cases way with
    | nil => simp
    | cons first below =>
      rw [at?_cons name first entry rest below]
      by_cases hfirst : name = first
      · -- No other entry has this name.
        subst hfirst
        have hnone : Entries.at? rest (name :: below) = none := by
          rw [Entries.at?, Entries.get?_eq_none h.1]
        simp [hnone]
      · simp [hfirst, Ne.symm hfirst]

theorem head?_of_mem_waysAt (h : (way, directory) ∈ waysAt name entry) :
    way.head? = some name := by
  cases entry with
  | directory inner =>
    obtain ⟨rfl, -⟩ | ⟨rest, -, rfl⟩ := mem_waysAt_directory.1 h
    · rfl
    · rfl
  | file | link =>
    rw [waysAt, List.mem_singleton] at h
    cases h
    rfl

theorem mem_waysIn {way : Location × Bool} :
    way ∈ waysIn entries ↔ ∃ name entry, (name, entry) ∈ entries ∧ way ∈ waysAt name entry := by
  induction entries with
  | nil => simp [waysIn]
  | cons head rest ih => simp [waysIn, ih, or_and_right, exists_or, Prod.ext_iff, and_assoc]

/-- No way is taken twice. -/
theorem nodup_waysIn (h : Distinct entries) : ((waysIn entries).map Prod.fst).Nodup := by
  induction entries using Entries.induction_on_directories with
  | nil => exact List.nodup_nil
  | cons name entry rest hinner hrest =>
    rw [Distinct] at h
    rw [waysIn, List.map_append, List.nodup_append]
    refine ⟨?_, hrest h.2.2, ?_⟩
    · cases entry with
      | directory inner =>
        have hmap : ((waysIn inner).map (Prod.map (name :: ·) id)).map Prod.fst =
            ((waysIn inner).map Prod.fst).map (name :: ·) := by
          simp [Function.comp_def]
        rw [waysAt, List.map_cons, hmap, List.nodup_cons]
        refine ⟨?_, (List.nodup_map_iff List.cons_injective).2 (hinner inner rfl h.2.1)⟩
        simp only [List.mem_map, Prod.exists, exists_and_right, exists_eq_right, List.cons.injEq,
          true_and, not_exists]
        intro directory hmem
        exact ((mem_waysIn_iff h.2.1).1 hmem).1 rfl
      | file | link => exact List.nodup_singleton _
    · -- The other ways begin with names of other entries.
      simp only [List.mem_map, ne_eq, forall_exists_index, and_imp]
      rintro _ ⟨way, directory⟩ hway rfl _ ⟨other, directory'⟩ hother rfl heq
      subst heq
      obtain ⟨name', entry', hmem, hother'⟩ := mem_waysIn.1 hother
      have hhead := head?_of_mem_waysAt hother'
      rw [head?_of_mem_waysAt hway, Option.some.injEq] at hhead
      exact h.1 _ hmem hhead.symm

end

/-! ### The listing of a directory -/

/-- Whether a way leads to a candidate. -/
def leadsToCandidate (way : Location × Bool) : Bool :=
  !way.2 && way.1.getLast?.any fun name => isCandidate name.text

/-- The ways from a directory that holds the given entries to the candidates below it. -/
def candidateWays (entries : Entries) : List Location :=
  ((waysIn entries).filter leadsToCandidate).map Prod.fst

theorem mem_candidateWays_iff {entries : Entries} (h : Distinct entries) {way : Location} :
    way ∈ candidateWays entries ↔ ∃ above name entry, way = above ++ [name] ∧
      entries.at? way = some entry ∧ (∀ inner, entry ≠ .directory inner) ∧
        isCandidate name.text = true := by
  have hmem : way ∈ candidateWays entries ↔
      (way, false) ∈ waysIn entries ∧ leadsToCandidate (way, false) = true := by
    simp [candidateWays, leadsToCandidate]
  rw [hmem, mem_waysIn_iff h]
  cases way using List.reverseRecOn with
  | nil => simp [leadsToCandidate]
  | append_singleton above name =>
    simp only [leadsToCandidate, ← Entry.isDirectory_eq_false_iff]
    simp [← and_assoc]

theorem nodup_candidateWays {entries : Entries} (h : Distinct entries) :
    (candidateWays entries).Nodup :=
  (nodup_waysIn h).sublist (List.filter_sublist.map _)

theorem ne_nil_of_mem_candidateWays {entries : Entries} {way : Location}
    (h : way ∈ candidateWays entries) : way ≠ [] := by
  rintro rfl
  simp [candidateWays, leadsToCandidate] at h

theorem isCandidate_iff {name : String} :
    isCandidate name = true ↔ ∃ stem, name = stem ++ ".ts" := by
  rw [isCandidate, List.isSuffixOf_iff_suffix]
  constructor
  · rintro ⟨stem, hstem⟩
    refine ⟨String.ofList stem, String.toList_injective ?_⟩
    rw [String.toList_append, String.toList_ofList]
    exact hstem.symm
  · rintro ⟨stem, rfl⟩
    rw [String.toList_append]
    exact List.suffix_append _ _

/-- A path leads from a directory, which lies at a place, over directories that lie in one another
to an entry that is none and whose name ends in `.ts`. -/
inductive IsBelow (entries : Entries) (directory : Path) (place : Location) : Path → Prop
  | intro {above : Location} {name : FileName} {entry : Entry}
      (habove : ∀ front, front <+: above → entries.IsDirectory (place ++ front))
      (hat : entries.at? (place ++ (above ++ [name])) = some entry)
      (hother : ∀ inner, entry ≠ .directory inner)
      (hname : ∃ stem, name.text = stem ++ ".ts") :
      IsBelow entries directory place (directory.below (above ++ [name]))

/-- The directories at and below a place can be listed, each by the path that a search takes. -/
def Listable (files : FileSystem) (directory : Path) (place : Location) : Prop :=
  ∀ names, files.entries.IsDirectory (place ++ names) →
    files.listingFault? (directory.below names).text (place ++ names) = none

/-- A directory at or below a place cannot be listed. -/
inductive Unlistable (files : FileSystem) (directory : Path) (place : Location) : Fault → Prop
  | intro {names : Location} {reason : FileSystem.Fault}
      (hdirectory : files.entries.IsDirectory (place ++ names))
      (hreason : files.listingFault? (directory.below names).text (place ++ names) = some reason) :
      Unlistable files directory place (.unreadable (directory.below names) (.listing reason))

theorem listable_iff {files : FileSystem} {directory : Path} {place : Location} :
    Listable files directory place ↔ ∀ fault, ¬Unlistable files directory place fault := by
  constructor
  · rintro h _ ⟨hdirectory, hreason⟩
    rw [h _ hdirectory] at hreason
    cases hreason
  · intro h names hdirectory
    cases hreason : files.listingFault? (directory.below names).text (place ++ names) with
    | none => rfl
    | some reason => exact absurd (.intro hdirectory hreason) (h _)

section
variable {files : FileSystem} {directory : Path} {place : Location} {inner : Entries}

theorem isBelow_iff {path : Path} (hinner : files.entries.at? place = some (.directory inner)) :
    IsBelow files.entries directory place path ↔
      ∃ way ∈ candidateWays inner, directory.below way = path := by
  have hdistinct : Distinct inner := Entries.distinct_of_at? files.distinct hinner
  constructor
  · rintro ⟨-, hat, hother, hname⟩
    rw [Entries.at?_append hinner] at hat
    exact ⟨_, (mem_candidateWays_iff hdistinct).2
      ⟨_, _, _, rfl, hat, hother, isCandidate_iff.2 hname⟩, rfl⟩
  · rintro ⟨way, hway, rfl⟩
    obtain ⟨above, name, entry, rfl, hat, hother, hname⟩ := (mem_candidateWays_iff hdistinct).1 hway
    rw [← Entries.at?_append hinner] at hat
    refine .intro ?_ hat hother (isCandidate_iff.1 hname)
    rintro front ⟨back, rfl⟩
    rw [List.append_assoc, ← List.append_assoc place] at hat
    exact Entries.isDirectory_of_at?_append hat
      (List.append_ne_nil_of_right_ne_nil _ (List.cons_ne_nil _ []))

/-- A walk begins with the directory itself. -/
theorem walkAt_eq_map :
    walkAt directory place (.directory inner) =
      (([], true) :: waysIn inner).map (.ofWay directory place) := by
  rw [walkAt, walkIn_eq_map, List.map_cons]
  simp [Visit.ofWay, Path.below_nil]

/-- A walk comes by all directories at and below the one it begins at. -/
theorem exists_fault_iff (hinner : files.entries.at? place = some (.directory inner))
    {fault : Fault} :
    (∃ visit ∈ walkAt directory place (.directory inner), visit.fault? files = some fault) ↔
      Unlistable files directory place fault := by
  have hdistinct : Distinct inner := Entries.distinct_of_at? files.distinct hinner
  have hway : ∀ names, (names, true) ∈ (([], true) :: waysIn inner) ↔
      files.entries.IsDirectory (place ++ names) := by
    intro names
    rw [List.mem_cons, mem_waysIn_iff hdistinct, Entries.IsDirectory, Entries.at?_append hinner]
    simp only [Entry.isDirectory_eq_true_iff]
    cases names with
    | nil => simp [Entries.at?]
    | cons name names => simp
  simp only [walkAt_eq_map, List.mem_map, exists_exists_and_eq_and]
  constructor
  · rintro ⟨⟨names, flag⟩, hmem, hfault⟩
    cases flag with
    | false => simp [Visit.fault?, Visit.ofWay] at hfault
    | true =>
      simp only [Visit.fault?, Visit.ofWay, if_true, Option.map_eq_some_iff] at hfault
      obtain ⟨reason, hreason, rfl⟩ := hfault
      exact .intro ((hway names).1 hmem) hreason
  · rintro ⟨hdirectory, hreason⟩
    exact ⟨(_, true), (hway _).2 hdirectory, by simp [Visit.fault?, Visit.ofWay, hreason]⟩

/-- A visit and its way agree on what is a candidate, since the way has a name. -/
theorem candidate?_ofWay {way : Location × Bool} (h : way ∈ waysIn inner) :
    Visit.candidate? (.ofWay directory place way) =
      if leadsToCandidate way = true then some (directory.below way.1) else none := by
  obtain ⟨name, entry, -, hway⟩ := mem_waysIn.1 h
  obtain ⟨names, flag⟩ := way
  have hne : names ≠ [] := by
    rintro rfl
    cases head?_of_mem_waysAt hway
  obtain ⟨above, last, rfl⟩ := List.eq_nil_or_concat names |>.resolve_left hne
  simp [Visit.candidate?, Visit.ofWay, leadsToCandidate, ← List.append_assoc]

theorem filterMap_candidate? :
    (walkAt directory place (.directory inner)).filterMap Visit.candidate? =
      (candidateWays inner).map directory.below := by
  have hstart : Visit.candidate? (.ofWay directory place ([], true)) = none := by
    rw [Visit.candidate?]
    split <;> simp [Visit.ofWay]
  rw [walkAt_eq_map, List.map_cons, List.filterMap_cons_none hstart, List.filterMap_map]
  calc
    (waysIn inner).filterMap (Visit.candidate? ∘ .ofWay directory place) =
        (waysIn inner).filterMap fun way =>
          if leadsToCandidate way = true then some (directory.below way.1) else none :=
      List.filterMap_congr fun way hway => candidate?_ofWay hway
    _ = (candidateWays inner).map directory.below := by
      rw [candidateWays, List.map_map, ← List.filterMap_eq_map, List.filterMap_filter]
      rfl

theorem gather_eq_ok_iff {visits : List Visit} {paths : List Path} :
    gather files visits = .ok paths ↔
      (∀ visit ∈ visits, visit.fault? files = none) ∧
        visits.filterMap Visit.candidate? = paths := by
  rw [gather, ← List.findSome?_eq_none_iff]
  cases visits.findSome? (Visit.fault? files) <;> simp

theorem exists_fault_of_gather {visits : List Visit} {fault : Fault}
    (h : gather files visits = .error fault) :
    ∃ visit ∈ visits, visit.fault? files = some fault := by
  rw [gather] at h
  cases hfind : visits.findSome? (Visit.fault? files) with
  | none =>
    rw [hfind] at h
    cases h
  | some other =>
    rw [hfind] at h
    cases h
    exact List.exists_of_findSome?_eq_some hfind

/-- What a search by the path of a directory lists. -/
theorem candidates_eq_ok_iff_of_locate {paths : List Path}
    (h : files.locate true directory.text = .ok (.found place (.directory inner))) :
    candidates files directory = .ok paths ↔
      Listable files directory place ∧ (candidateWays inner).map directory.below = paths := by
  have hfaults : (∀ visit ∈ walkAt directory place (.directory inner), visit.fault? files = none) ↔
      Listable files directory place := by
    simp only [listable_iff, ← exists_fault_iff (FileSystem.at?_of_locate h), not_exists, not_and,
      Option.eq_none_iff_forall_ne_some]
    exact ⟨fun hnone fault visit hvisit => hnone visit hvisit fault,
      fun hnone visit hvisit fault => hnone fault visit hvisit⟩
  rw [candidates, h]
  simp only [gather_eq_ok_iff, hfaults, filterMap_candidate?]

theorem candidates_of_locate_other
    (h : ∀ place inner, files.locate true directory.text ≠ .ok (.found place (.directory inner))) :
    ∃ fault, candidates files directory = .error fault ∧
      (fault = .notDirectory directory ∨
        ∃ reason, fault = .unreadable directory (.reading reason)) := by
  rw [candidates]
  cases hlocate : files.locate true directory.text with
  | error reason => exact ⟨_, rfl, .inr ⟨reason, rfl⟩⟩
  | ok target =>
    cases target with
    | missing place name => exact ⟨_, rfl, .inr ⟨.notFound, rfl⟩⟩
    | found place entry =>
      cases entry with
      | directory inner => exact absurd hlocate (h place inner)
      | file | link => exact ⟨_, rfl, .inl rfl⟩

/-- A search that succeeds lists the candidates below the directory that it is asked for. -/
theorem candidates_eq_ok_iff {paths : List Path} :
    candidates files directory = .ok paths ↔
      ∃ place inner, files.locate true directory.text = .ok (.found place (.directory inner)) ∧
        Listable files directory place ∧ (candidateWays inner).map directory.below = paths := by
  constructor
  · intro h
    by_cases hlocate : ∃ place inner,
        files.locate true directory.text = .ok (.found place (.directory inner))
    · obtain ⟨place, inner, hlocate⟩ := hlocate
      exact ⟨place, inner, hlocate, (candidates_eq_ok_iff_of_locate hlocate).1 h⟩
    · simp only [not_exists] at hlocate
      obtain ⟨fault, hfault, -⟩ := candidates_of_locate_other hlocate
      rw [hfault] at h
      cases h
  · rintro ⟨place, inner, hlocate, h⟩
    exact (candidates_eq_ok_iff_of_locate hlocate).2 h

theorem exists_listing
    (h : files.locate true directory.text = .ok (.found place (.directory inner)))
    (hlistable : Listable files directory place) :
    ∃ paths, candidates files directory = .ok paths ∧ (paths.map Path.segments).Nodup ∧
      ∀ path, path ∈ paths ↔ IsBelow files.entries directory place path := by
  have hinner := FileSystem.at?_of_locate h
  have hdistinct : Distinct inner := Entries.distinct_of_at? files.distinct hinner
  refine ⟨_, (candidates_eq_ok_iff_of_locate h).2 ⟨hlistable, rfl⟩, ?_, ?_⟩
  · rw [List.map_map]
    have hinjective : Function.Injective (Path.segments ∘ directory.below) := fun _ _ heq =>
      directory.below_injective heq
    exact (List.nodup_map_iff hinjective).2 (nodup_candidateWays hdistinct)
  · intro path
    rw [isBelow_iff hinner, List.mem_map]

theorem exists_unlistable
    (h : files.locate true directory.text = .ok (.found place (.directory inner)))
    (hlistable : ¬Listable files directory place) :
    ∃ fault, candidates files directory = .error fault ∧
      Unlistable files directory place fault := by
  cases hcandidates : candidates files directory with
  | ok paths => exact absurd ((candidates_eq_ok_iff_of_locate h).1 hcandidates).1 hlistable
  | error fault =>
    refine ⟨fault, rfl, (exists_fault_iff (FileSystem.at?_of_locate h)).1 ?_⟩
    rw [candidates, h] at hcandidates
    exact exists_fault_of_gather hcandidates

theorem exists_candidatesOfAll_error_iff {root : Path} {directories : List String} {race : Race} :
    (∃ fault, candidatesOfAll files root directories race = .error fault) ↔
      ∃ directory ∈ directories, ∃ fault,
        candidates files (root.join directory) = .error fault := by
  constructor
  · rintro ⟨fault, h⟩
    obtain ⟨directory, hmem, hdirectory⟩ := exists_race_iff.1 ⟨race, h⟩
    exact ⟨directory, hmem, fault, hdirectory⟩
  · rintro ⟨directory, hmem, fault, hdirectory⟩
    cases hall : candidatesOfAll files root directories race with
    | error other => exact ⟨other, rfl⟩
    | ok paths =>
      obtain ⟨other, hother⟩ := exists_race_iff.2 ⟨directory, hmem, hdirectory⟩
      cases hother.symm.trans (candidatesOfAll_of_race hall other)

end

/-- What a search finds, in every file system. If its path leads to a directory, and this one and
all directories below it can be listed, it lists the candidates below that directory and nothing
else, each under one path. A directory that cannot be listed makes it fail, and so does a path that
leads elsewhere; the fault names the one or the other. Several directories are searched, and one
that cannot be searched is enough for all of them to fail, whatever the race. -/
theorem candidates_listing (files : FileSystem) :
    (∀ directory place inner,
      files.locate true directory.text = .ok (.found place (.directory inner)) →
        (Listable files directory place → ∃ paths, candidates files directory = .ok paths ∧
          (paths.map Path.segments).Nodup ∧
            ∀ path, path ∈ paths ↔ IsBelow files.entries directory place path) ∧
        (¬Listable files directory place → ∃ fault, candidates files directory = .error fault ∧
          Unlistable files directory place fault)) ∧
    (∀ directory, (∀ place inner,
        files.locate true directory.text ≠ .ok (.found place (.directory inner))) →
      ∃ fault, candidates files directory = .error fault ∧
        (fault = .notDirectory directory ∨
          ∃ reason, fault = .unreadable directory (.reading reason))) ∧
    (∀ root directories paths race, candidatesOfAll files root directories race = .ok paths ↔
      Collected files root directories paths) ∧
    ∀ root directories race, (∃ fault, candidatesOfAll files root directories race = .error fault) ↔
      ∃ directory ∈ directories, ∃ fault, candidates files (root.join directory) = .error fault :=
  ⟨fun _ _ _ h => ⟨exists_listing h, exists_unlistable h⟩, fun _ => candidates_of_locate_other,
    fun _ _ _ _ => candidatesOfAll_eq_ok_iff, fun _ _ _ => exists_candidatesOfAll_error_iff⟩

/-- A directory of scripts that is reached through a link. In it lie a directory with the name of a
script, a link that leads nowhere, one that leads to itself and one that leads back to the top. Next
to it lies a directory that cannot be listed. -/
def linkedProject : FileSystem where
  entries := [
    (⟨"linked", by decide⟩, .link "scripts"),
    (⟨"scripts", by decide⟩, .directory [
      (⟨"first.ts", by decide⟩, .file "x".toUTF8),
      (⟨"b.tsx", by decide⟩, .file "x".toUTF8),
      (⟨"nested.ts", by decide⟩, .directory [(⟨"c.ts", by decide⟩, .file "x".toUTF8)]),
      (⟨"dangling.ts", by decide⟩, .link "nowhere"),
      (⟨"loop.ts", by decide⟩, .link "loop.ts"),
      (⟨"top.ts", by decide⟩, .link "..")]),
    (⟨"shut", by decide⟩, .directory [])]
  closed := [[⟨"shut", by decide⟩]]
  distinct := by simp [Entries.Distinct, Entry.Distinct]

/-- Through the link to the directory a link that cannot be followed is found, and the directory
with the name of a script is not. The link that cannot be followed cannot be searched, nor can the
directory that cannot be listed. -/
theorem candidates_listing_linked :
    (∃ paths, candidates linkedProject ⟨"linked"⟩ = .ok paths ∧ (paths.map Path.segments).Nodup ∧
      IsBelow linkedProject.entries ⟨"linked"⟩ [⟨"scripts", by decide⟩] ⟨"linked/nested.ts/c.ts"⟩ ∧
      IsBelow linkedProject.entries ⟨"linked"⟩ [⟨"scripts", by decide⟩] ⟨"linked/loop.ts"⟩ ∧
      ¬IsBelow linkedProject.entries ⟨"linked"⟩ [⟨"scripts", by decide⟩] ⟨"linked/nested.ts"⟩) ∧
    (∃ fault, candidates linkedProject ⟨"linked/loop.ts"⟩ = .error fault ∧
      (fault = .notDirectory ⟨"linked/loop.ts"⟩ ∨
        ∃ reason, fault = .unreadable ⟨"linked/loop.ts"⟩ (.reading reason))) ∧
    ∃ fault, candidates linkedProject ⟨"."⟩ = .error fault ∧
      Unlistable linkedProject ⟨"."⟩ [] fault := by
  obtain ⟨hlists, hfails, -, -⟩ := candidates_listing linkedProject
  have hlist : candidates linkedProject ⟨"linked"⟩ = .ok [⟨"linked/first.ts"⟩,
      ⟨"linked/nested.ts/c.ts"⟩, ⟨"linked/dangling.ts"⟩, ⟨"linked/loop.ts"⟩,
      ⟨"linked/top.ts"⟩] := by
    decide +kernel
  have hlistable : Listable linkedProject ⟨"linked"⟩ [⟨"scripts", by decide⟩] :=
    ((candidates_eq_ok_iff_of_locate rfl).1 hlist).1
  obtain ⟨paths, hpaths, hnodup, hmem⟩ :=
    (hlists ⟨"linked"⟩ [⟨"scripts", by decide⟩] _ rfl).1 hlistable
  have hdirectory : linkedProject.isDirectory "linked/loop.ts" = false := by decide +kernel
  have hshut : ¬Listable linkedProject ⟨"."⟩ [] := by
    intro h
    have hnone := h [⟨"shut", by decide⟩] ⟨_, rfl⟩
    revert hnone
    decide
  refine ⟨⟨paths, hpaths, hnodup, ?_⟩, hfails ⟨"linked/loop.ts"⟩ ?_,
    (hlists ⟨"."⟩ [] _ rfl).2 hshut⟩
  · rw [hlist] at hpaths
    cases hpaths
    simp only [← hmem]
    simp
  · intro place inner hlocate
    rw [FileSystem.isDirectory_iff.2 ⟨place, inner, hlocate⟩] at hdirectory
    cases hdirectory

end Scan

end RouteManifest
