import RouteManifest.FileSystem

/-!
What lies at the places of a file system, and what a change leaves of it. An entry is looked at from
outside: a file with its content, a link with its target, and a directory without what it holds.
Giving a name an entry changes the look of one place only.
-/

namespace RouteManifest

/-- What can be seen of an entry without a look inside. -/
inductive Look where
  | file (content : ByteArray)
  | directory
  | link (target : String)

def Entry.look : Entry → Look
  | .file content => .file content
  | .directory _ => .directory
  | .link target => .link target

/-- An entry in which nothing lies. -/
def Entry.IsEmpty : Entry → Prop
  | .directory entries => entries = []
  | _ => True

namespace Entries

theorem get?_put (name other : FileName) (entry : Entry) (entries : Entries) :
    get? (put name entry entries) other = if name = other then some entry
      else get? entries other := by
  induction entries with
  | nil => rfl
  | cons head rest ih =>
    obtain ⟨first, old⟩ := head
    by_cases hfirst : first = name
    · subst hfirst
      simp only [put, if_true, get?]
      split <;> rfl
    · simp only [put, hfirst, if_false, get?, ih]
      by_cases hother : first = other
      · subst hother
        simp [Ne.symm hfirst]
      · simp [hother]

/-! ### Places below a directory -/

/-- A directory lies at a place. -/
def IsDirectory (entries : Entries) (place : Location) : Prop :=
  ∃ inner, entries.at? place = some (.directory inner)

theorem isDirectory_nil (entries : Entries) : entries.IsDirectory [] := ⟨entries, rfl⟩

theorem at?_append {entries inner : Entries} {place : Location}
    (h : entries.at? place = some (.directory inner))
    (rest : Location) : entries.at? (place ++ rest) = at? inner rest := by
  induction place generalizing entries with
  | nil =>
    cases h
    rfl
  | cons name place ih =>
    rw [List.cons_append, at?]
    rw [at?] at h
    cases hget : entries.get? name with
    | none => simp [hget] at h
    | some entry =>
      cases entry with
      | directory found => exact ih (by simpa [hget] using h)
      | file content => simp [hget] at h
      | link target => simp [hget] at h

theorem at?_singleton (entries : Entries) (name : FileName) :
    entries.at? [name] = entries.get? name := by
  rw [at?]
  cases entries.get? name with
  | none => rfl
  | some entry => cases entry <;> rfl

/-- Nothing lies below an empty entry. -/
theorem at?_below {entries : Entries} {name next : FileName} {rest : Location} {entry : Entry}
    (hget : entries.get? name = some entry) (hempty : entry.IsEmpty) :
    entries.at? (name :: next :: rest) = none := by
  rw [at?, hget]
  cases entry with
  | directory inner =>
    have hinner : inner = [] := hempty
    subst hinner
    rfl
  | file content => rfl
  | link target => rfl

/-- Above every place where something lies there is a directory. -/
theorem isDirectory_of_at?_append {entries : Entries} {place rest : Location} {entry : Entry}
    (h : entries.at? (place ++ rest) = some entry) (hrest : rest ≠ []) :
    entries.IsDirectory place := by
  induction place generalizing entries with
  | nil => exact isDirectory_nil entries
  | cons name place ih =>
    rw [List.cons_append, at?] at h
    rw [IsDirectory, at?]
    have hne : (place ++ rest).isEmpty = false := by simp [hrest]
    cases hget : entries.get? name with
    | none => simp [hget] at h
    | some found =>
      cases found with
      | directory inner => exact ih (by simpa [hget] using h)
      | file content => simp [hget, hne] at h
      | link target => simp [hget, hne] at h

theorem isDirectory_dropLast {entries : Entries} {place : Location}
    (h : entries.IsDirectory place) :
    entries.IsDirectory place.dropLast := by
  obtain rfl | ⟨above, name, rfl⟩ := List.eq_nil_or_concat place
  · exact h
  · rw [List.concat_eq_append, List.dropLast_concat]
    obtain ⟨inner, hinner⟩ := h
    rw [List.concat_eq_append] at hinner
    exact isDirectory_of_at?_append hinner (List.cons_ne_nil name [])

/-! ### Changes -/

theorem at?_change_append {entries inner : Entries} {place : Location} {alter : Entries → Entries}
    (h : entries.at? place = some (.directory inner)) (rest : Location) :
    (change alter place entries).at? (place ++ rest) = at? (alter inner) rest := by
  induction place generalizing entries with
  | nil =>
    cases h
    rfl
  | cons name place ih =>
    rw [at?] at h
    cases hget : entries.get? name with
    | none => simp [hget] at h
    | some entry =>
      cases entry with
      | directory found =>
        have hfound := @ih found (by simpa [hget] using h)
        simp only [List.cons_append, at?, change, hget, get?_put, if_true, hfound]
      | file content => simp [hget] at h
      | link target => simp [hget] at h

/-- What lies outside of the changed directory looks the same, and so does the directory. -/
theorem look_change {entries : Entries} {place other : Location} {alter : Entries → Entries}
    (h : ∀ rest, rest ≠ [] → other ≠ place ++ rest) :
    ((change alter place entries).at? other).map Entry.look =
      (entries.at? other).map Entry.look := by
  induction place generalizing entries other with
  | nil =>
    cases other with
    | nil => rfl
    | cons name other => exact absurd rfl (h (name :: other) (List.cons_ne_nil name other))
  | cons name place ih =>
    cases other with
    | nil => rfl
    | cons first other =>
      simp only [change]
      cases hget : entries.get? name with
      | none => rfl
      | some entry =>
        cases entry with
        | file content => rfl
        | link target => rfl
        | directory inner =>
          simp only [at?, get?_put]
          by_cases hfirst : name = first
          · subst hfirst
            simp only [if_true, hget]
            exact ih fun rest hrest heq => h rest hrest (by rw [heq, List.cons_append])
          · simp only [hfirst, if_false]

/-- A name in a directory that is given an empty entry, in place of an empty one or of none, is the
one place that looks different afterwards. -/
theorem at?_put {entries : Entries} {directory : Location} {name : FileName} {entry : Entry}
    (hdirectory : entries.IsDirectory directory) (hentry : entry.IsEmpty)
    (hold : ∀ old, entries.at? (directory ++ [name]) = some old → old.IsEmpty) :
    (change (put name entry) directory entries).at? (directory ++ [name]) = some entry ∧
      ∀ other, other ≠ directory ++ [name] →
        ((change (put name entry) directory entries).at? other).map Entry.look =
          (entries.at? other).map Entry.look := by
  obtain ⟨inner, hinner⟩ := hdirectory
  constructor
  · rw [at?_change_append hinner, at?_singleton, get?_put, if_pos rfl]
  · intro other hother
    -- In the directory only the name is different, and below the name nothing lies before or after.
    by_cases hprefix : ∃ rest, rest ≠ [] ∧ other = directory ++ rest
    · obtain ⟨rest, hrest, rfl⟩ := hprefix
      rw [at?_change_append hinner, at?_append hinner]
      obtain ⟨first, rest, rfl⟩ := List.exists_cons_of_ne_nil hrest
      by_cases hfirst : name = first
      · subst hfirst
        cases rest with
        | nil => exact absurd rfl hother
        | cons next rest =>
          rw [at?_below (by rw [get?_put, if_pos rfl]) hentry]
          cases hget : get? inner name with
          | none => rw [at?, hget]
          | some old =>
            have hat : entries.at? (directory ++ [name]) = some old := by
              rw [at?_append hinner, at?_singleton, hget]
            rw [at?_below hget (hold old hat)]
      · rw [at?, at?, get?_put, if_neg hfirst]
    · exact look_change fun rest hrest heq => hprefix ⟨rest, hrest, heq⟩

end Entries

end RouteManifest
