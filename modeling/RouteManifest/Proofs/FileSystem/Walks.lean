import RouteManifest.Proofs.FileSystem.Places

/-!
Where paths lead. A walk over existing directories ends at an entry that is there or at a name that
its directory does not hold. In a tree that holds all of another one, the same walk ends at the same
place.
-/

namespace RouteManifest.FileSystem

/-- The place that a target names. -/
def Target.location : Target → Location
  | .found location _ => location
  | .missing directory name => directory ++ [name]

/-- A target tells what lies at its place. With links followed it is no link. -/
def Target.Holds (entries : Entries) (follow : Bool) : Target → Prop
  | .found location entry => entries.at? location = some entry ∧
      (follow = true → ∀ target, entry ≠ .link target)
  | .missing directory name => entries.IsDirectory directory ∧
      entries.at? (directory ++ [name]) = none

/-! ### What a walk finds -/

theorem walkWith_holds {entries : Entries} {follow : Bool}
    {onLink : Location → String → List Step → Except Fault Target}
    (honLink : ∀ place target rest result, entries.IsDirectory place →
      onLink place target rest = .ok result →
      result.Holds entries follow)
    {place : Location} {way : List Step} {result : Target} (hplace : entries.IsDirectory place)
    (h : walkWith entries follow onLink place way = .ok result) : result.Holds entries follow := by
  induction way generalizing place with
  | nil =>
    obtain ⟨inner, hinner⟩ := hplace
    simp only [walkWith, hinner] at h
    cases h
    exact ⟨hinner, nofun⟩
  | cons step rest ih =>
    cases step with
    | stay => exact ih hplace h
    | up => exact ih (Entries.isDirectory_dropLast hplace) h
    | into name =>
      rw [walkWith] at h
      split at h
      · cases h
      · cases hat : entries.at? (place ++ [name]) with
        | none =>
          simp only [hat] at h
          split at h
          · cases h
            exact ⟨hplace, hat⟩
          · cases h
        | some entry =>
          cases entry with
          | directory inner =>
            simp only [hat] at h
            exact ih ⟨inner, hat⟩ h
          | file content =>
            simp only [hat] at h
            split at h
            · cases h
              exact ⟨hat, nofun⟩
            · cases h
          | link target =>
            simp only [hat] at h
            split at h
            · next hend =>
              cases h
              refine ⟨hat, fun hfollow => ?_⟩
              simp [hfollow] at hend
            · exact honLink place target rest result hplace h

theorem isDirectory_startOf {entries : Entries} {place : Location} (path : String)
    (hplace : entries.IsDirectory place) :
    entries.IsDirectory (startOf path place) := by
  unfold startOf
  split
  · exact Entries.isDirectory_nil entries
  · exact hplace

/-- A walk from a directory tells the truth about where it ends. The induction is on the links that
may be followed. -/
theorem walk_holds {entries : Entries} {follow : Bool} {links : Nat} {place : Location}
    {way : List Step}
    {result : Target}
    (hplace : entries.IsDirectory place) (h : walk entries follow links place way = .ok result) :
    result.Holds entries follow := by
  induction links generalizing place way result with
  | zero => exact walkWith_holds (fun _ _ _ _ _ h => by cases h) hplace h
  | succ links ih =>
    refine walkWith_holds ?_ hplace h
    intro place target rest result hplace h
    exact ih (isDirectory_startOf target hplace) h

theorem walkWith_directory {entries : Entries}
    {onLink onLink' : Location → String → List Step → Except Fault Target}
    {final : List Step} (hfinal : final = [] ∨ final = [.stay])
    {place location : Location} {way : List Step} {inner : Entries}
    (honLink : ∀ place target rest,
      onLink place target rest = .ok (.found location (.directory inner)) →
      onLink' place target (rest ++ final) = .ok (.found location (.directory inner)))
    (h : walkWith entries false onLink place way = .ok (.found location (.directory inner))) :
    walkWith entries true onLink' place (way ++ final) =
      .ok (.found location (.directory inner)) := by
  induction way generalizing place with
  | nil => rcases hfinal with rfl | rfl <;> exact h
  | cons step rest ih =>
    cases step with
    | stay => exact ih h
    | up => exact ih h
    | into name =>
      rw [walkWith] at h
      rw [List.cons_append, walkWith]
      split at h
      · cases h
      · next hname =>
        rw [if_neg hname]
        cases hat : entries.at? (place ++ [name]) with
        | none =>
          simp only [hat] at h
          split at h <;> cases h
        | some entry =>
          cases entry with
          | directory found =>
            simp only [hat] at h ⊢
            exact ih h
          | file content =>
            simp only [hat] at h
            split at h <;> cases h
          | link target =>
            simp only [hat] at h
            split at h
            · cases h
            · simpa [hat] using honLink place target rest h

/-- A directory that is found without following a link at the end is found as well if that is
followed, and if the path asks for a directory. -/
theorem walk_directory {entries : Entries} {final : List Step}
    (hfinal : final = [] ∨ final = [.stay]) {links : Nat}
    {place location : Location} {way : List Step} {inner : Entries}
    (h : walk entries false links place way = .ok (.found location (.directory inner))) :
    walk entries true links place (way ++ final) = .ok (.found location (.directory inner)) := by
  induction links generalizing place way with
  | zero => exact walkWith_directory hfinal (fun _ _ _ h => by cases h) h
  | succ links ih =>
    refine walkWith_directory hfinal ?_ h
    intro place target rest h
    rw [← List.append_assoc]
    exact ih h

/-! ### Larger trees -/

/-- Two entries that a walk treats alike. -/
inductive Alike : Entry → Entry → Prop
  | file (content content' : ByteArray) : Alike (.file content) (.file content')
  | directory (entries entries' : Entries) : Alike (.directory entries) (.directory entries')
  | link (target : String) : Alike (.link target) (.link target)

/-- What lies in the first tree lies in the second one as well, though files and directories may
hold something else. -/
def Keeps (before after : Entries) : Prop :=
  ∀ place entry, before.at? place = some entry →
    ∃ entry', after.at? place = some entry' ∧ Alike entry entry'

/-- A link is at no place where nothing was before. -/
def LinksNothingNew (before after : Entries) (place : Location) : Prop :=
  before.at? place = none → ∀ target, after.at? place ≠ some (.link target)

theorem walkWith_keeps {before after : Entries} (hkeeps : Keeps before after) {follow : Bool}
    {onLink onLink' : Location → String → List Step → Except Fault Target}
    (honLink : ∀ place target rest result, onLink place target rest = .ok result →
      LinksNothingNew before after result.location →
        ∃ result', onLink' place target rest = .ok result' ∧ result'.location = result.location)
    {place : Location} {way : List Step} {result : Target}
    (h : walkWith before follow onLink place way = .ok result)
    (hlinks : LinksNothingNew before after result.location) :
    ∃ result', walkWith after follow onLink' place way = .ok result' ∧
      result'.location = result.location := by
  induction way generalizing place with
  | nil =>
    simp only [walkWith] at h ⊢
    cases hat : before.at? place with
    | none => simp [hat] at h
    | some entry =>
      obtain ⟨entry', hentry', -⟩ := hkeeps place entry hat
      simp only [hat] at h
      cases h
      exact ⟨.found place entry', by simp only [hentry'], rfl⟩
  | cons step rest ih =>
    cases step with
    | stay => exact ih h
    | up => exact ih h
    | into name =>
      rw [walkWith] at h ⊢
      split at h
      · cases h
      · next hname =>
        rw [if_neg hname]
        cases hat : before.at? (place ++ [name]) with
        | none =>
          simp only [hat] at h
          split at h
          · next hrest =>
            cases h
            -- The name is missing in the first tree. In the second one anything but a link may lie
            -- there.
            have hnil : rest = [] := List.isEmpty_iff.1 hrest
            subst hnil
            cases hafter : after.at? (place ++ [name]) with
            | none => exact ⟨_, rfl, rfl⟩
            | some entry =>
              cases entry with
              | file content => exact ⟨_, rfl, rfl⟩
              | directory inner =>
                  exact ⟨.found _ (.directory inner), by simp only [walkWith, hafter], rfl⟩
              | link target => exact absurd hafter (hlinks hat target)
          · cases h
        | some entry =>
          obtain ⟨entry', hafter, halike⟩ := hkeeps (place ++ [name]) entry hat
          cases halike with
          | directory inner inner' =>
            simp only [hat] at h
            simp only [hafter]
            exact ih h
          | file content content' =>
            simp only [hat] at h
            simp only [hafter]
            split at h
            · next hend =>
              cases h
              exact ⟨.found _ (.file content'), if_pos hend, rfl⟩
            · cases h
          | link target =>
            simp only [hat] at h
            simp only [hafter]
            split at h
            · next hend =>
              cases h
              exact ⟨.found _ (.link target), if_pos hend, rfl⟩
            · next hend =>
              rw [if_neg hend]
              exact honLink place target rest result h hlinks

/-- The same walk ends at the same place in a tree that holds all of the first one. -/
theorem walk_keeps {before after : Entries} (hkeeps : Keeps before after) {follow : Bool}
    {links : Nat}
    {place : Location}
    {way : List Step} {result : Target} (h : walk before follow links place way = .ok result)
    (hlinks : LinksNothingNew before after result.location) :
    ∃ result', walk after follow links place way = .ok result' ∧
      result'.location = result.location := by
  induction links generalizing place way result with
  | zero => exact walkWith_keeps hkeeps (fun _ _ _ _ h => by cases h) h hlinks
  | succ links ih =>
    refine walkWith_keeps hkeeps ?_ h hlinks
    intro place target rest result h hlinks
    exact ih h hlinks

end RouteManifest.FileSystem
