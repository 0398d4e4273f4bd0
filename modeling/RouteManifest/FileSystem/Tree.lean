/-!
Files, directories and symbolic links as a tree, and changes at one place of it. Places are given by
the names on the way from the top; no link is followed here. Main statements: every change keeps the
names in each directory apart.
-/

namespace RouteManifest

/-- Whether a text can name an entry: it is not empty, has no slash, and means no directory by
itself. -/
def isFileName (text : String) : Bool :=
  text != "" && text != "." && text != ".." && !text.toList.contains '/'

structure FileName where
  text : String
  valid : isFileName text = true
  deriving DecidableEq

namespace FileName

def ofText? (text : String) : Option FileName :=
  if valid : isFileName text = true then some ⟨text, valid⟩ else none

end FileName

inductive Entry where
  | file (content : ByteArray)
  | directory (entries : List (FileName × Entry))
  /-- A symbolic link and the text of its target. -/
  | link (target : String)
  deriving Inhabited

abbrev Entries := List (FileName × Entry)

/-- The names on the way from the top of a tree to a place in it. -/
abbrev Location := List FileName

mutual

/-- In every directory of the entry, each name stands once. -/
def Entry.Distinct : Entry → Prop
  | .file _ => True
  | .directory entries => Entries.Distinct entries
  | .link _ => True

/-- Each name stands once, here and in every directory below. -/
def Entries.Distinct : List (FileName × Entry) → Prop
  | [] => True
  | (name, entry) :: rest => (∀ other ∈ rest, other.1 ≠ name) ∧ entry.Distinct ∧
      Entries.Distinct rest

end

namespace Entries

def get? : Entries → FileName → Option Entry
  | [], _ => none
  | (other, entry) :: rest, name => if other = name then some entry else get? rest name

/-- Gives a name an entry, in place of the one it had. -/
def put (name : FileName) (entry : Entry) : Entries → Entries
  | [] => [(name, entry)]
  | (other, old) :: rest =>
      if other = name then (name, entry) :: rest else (other, old) :: put name entry rest

def erase (name : FileName) : Entries → Entries
  | [] => []
  | (other, old) :: rest => if other = name then rest else (other, old) :: erase name rest

/-- The entry at a place. The place with no names on the way is the tree itself. -/
def at? (entries : Entries) : Location → Option Entry
  | [] => some (.directory entries)
  | name :: rest =>
      match get? entries name with
      | some (.directory inner) => at? inner rest
      | some entry => if rest.isEmpty then some entry else none
      | none => none

/-- Changes what the directory at a place holds. Nothing changes where there is no directory. -/
def change (alter : Entries → Entries) : Location → Entries → Entries
  | [], entries => alter entries
  | name :: rest, entries =>
      match get? entries name with
      | some (.directory inner) => put name (.directory (change alter rest inner)) entries
      | _ => entries

/-! ### Names stay apart -/

theorem distinct_of_get? {entries : Entries} {name : FileName} {entry : Entry}
    (h : Distinct entries)
    (found : get? entries name = some entry) : entry.Distinct := by
  induction entries with
  | nil => simp [get?] at found
  | cons head rest ih =>
    obtain ⟨other, old⟩ := head
    simp only [Distinct] at h
    by_cases same : other = name
    · simp only [get?, same, if_true, Option.some.injEq] at found
      exact found ▸ h.2.1
    · simp only [get?, same, if_false] at found
      exact ih h.2.2 found

theorem mem_put {entries : Entries} {name : FileName} {entry : Entry} {x : FileName × Entry}
    (h : x ∈ put name entry entries) : x = (name, entry) ∨ x ∈ entries := by
  induction entries with
  | nil => simpa [put] using h
  | cons head rest ih =>
    obtain ⟨other, old⟩ := head
    by_cases same : other = name
    · simp only [put, same, if_true, List.mem_cons] at h
      rcases h with h | h
      · exact .inl h
      · exact .inr (List.mem_cons_of_mem _ h)
    · simp only [put, same, if_false, List.mem_cons] at h
      rcases h with h | h
      · exact .inr (h ▸ List.mem_cons_self)
      · exact (ih h).imp_right (List.mem_cons_of_mem _)

theorem Distinct.put {entries : Entries} {name : FileName} {entry : Entry} (h : Distinct entries)
    (he : entry.Distinct) : Distinct (put name entry entries) := by
  induction entries with
  | nil => simp [Entries.put, Distinct, he]
  | cons head rest ih =>
    obtain ⟨other, old⟩ := head
    simp only [Distinct] at h
    by_cases same : other = name
    · subst same
      simp only [Entries.put, if_true, Distinct]
      exact ⟨h.1, he, h.2.2⟩
    · simp only [Entries.put, same, if_false, Distinct]
      refine ⟨fun x hx => ?_, h.2.1, ih h.2.2⟩
      rcases mem_put hx with rfl | hx
      · exact fun eq => same eq.symm
      · exact h.1 x hx

theorem mem_of_mem_erase {entries : Entries} {name : FileName} {x : FileName × Entry}
    (h : x ∈ erase name entries) : x ∈ entries := by
  induction entries with
  | nil => simp [erase] at h
  | cons head rest ih =>
    obtain ⟨other, old⟩ := head
    by_cases same : other = name
    · simp only [erase, same, if_true] at h
      exact List.mem_cons_of_mem _ h
    · simp only [erase, same, if_false, List.mem_cons] at h
      rcases h with h | h
      · exact h ▸ List.mem_cons_self
      · exact List.mem_cons_of_mem _ (ih h)

theorem Distinct.erase {entries : Entries} (h : Distinct entries) (name : FileName) :
    Distinct (erase name entries) := by
  induction entries with
  | nil => exact h
  | cons head rest ih =>
    obtain ⟨other, old⟩ := head
    simp only [Distinct] at h
    by_cases same : other = name
    · simpa [Entries.erase, same] using h.2.2
    · simp only [Entries.erase, same, if_false, Distinct]
      exact ⟨fun x hx => h.1 x (mem_of_mem_erase hx), h.2.1, ih h.2.2⟩

theorem Distinct.change {alter : Entries → Entries}
    (keeps : ∀ entries, Distinct entries → Distinct (alter entries))
    {entries : Entries} (h : Distinct entries) (place : Location) :
    Distinct (change alter place entries) := by
  induction place generalizing entries with
  | nil => exact keeps entries h
  | cons name rest ih =>
    simp only [Entries.change]
    split
    · next inner found =>
        exact h.put (ih (by simpa [Entry.Distinct] using distinct_of_get? h found))
    · exact h

end Entries

end RouteManifest
