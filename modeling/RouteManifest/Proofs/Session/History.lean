import RouteManifest.Proofs.Scan.Records
import RouteManifest.Session

/-!
Sessions over whole histories of calls. Between two calls the file system may change in any way, so
every build brings the files that it finds. What a session holds is told from its history alone:
from the last root that was supplied and from the last build, with the root at that time.
-/

namespace RouteManifest.Session

/-- What a bundler asks of a session. -/
inductive Call where
  | configResolved (root : Path)
  /-- A build, with the file system at that time and the race that its searches run. -/
  | startBuild (files : FileSystem) (race : Scan.Race)
  | resolve (id : String)
  | load (id : String)

inductive Answer where
  | done
  | built (result : Except Scan.Fault Scan.Outcome)
  | resolved (id : Option String)
  | loaded (text : Option String)

/-- The session after a call, and its answer. -/
def call (session : Session) : Call → Session × Answer
  | .configResolved root => (session.atRoot root, .done)
  | .startBuild files race =>
      ((session.startBuild files race).1, .built (session.startBuild files race).2)
  | .resolve id => (session, .resolved (Manifest.resolve? id))
  | .load id => (session, .loaded (session.load? id))

/-- The session after several calls. -/
def run (session : Session) (calls : List Call) : Session :=
  calls.foldl (fun session next => (session.call next).1) session

/-! ### What a history says -/

def Call.root? : Call → Option Path
  | .configResolved root => some root
  | _ => none

/-- The root that was supplied last, or the current directory. -/
def rootAfter (calls : List Call) : Path := (calls.reverse.findSome? Call.root?).getD ⟨"."⟩

def Call.IsBuild : Call → Prop
  | .startBuild _ _ => True
  | _ => False

/-- The last build found these files and ran this race, after the calls before it. -/
def IsLastBuild (calls before : List Call) (files : FileSystem) (race : Scan.Race) : Prop :=
  ∃ after, calls = before ++ .startBuild files race :: after ∧ ∀ later ∈ after, ¬later.IsBuild

/-- A session holds what a scan resulted in: nothing if the scan failed. -/
def Holds (session : Session) : Except Scan.Fault Scan.Outcome → Prop
  | .ok outcome => session.registry = outcome.registry ∧ session.diagnostics = outcome.diagnostics
  | .error _ => session.registry = [] ∧ session.diagnostics = []

theorem rootAfter_concat (calls : List Call) (next : Call) :
    rootAfter (calls ++ [next]) = (next.root?).getD (rootAfter calls) := by
  rw [rootAfter, List.reverse_append, List.reverse_singleton, List.singleton_append,
    List.findSome?_cons]
  cases next.root? <;> rfl

theorem isLastBuild_concat_startBuild {calls before : List Call} {files found : FileSystem}
    {race run : Scan.Race} :
    IsLastBuild (calls ++ [.startBuild files race]) before found run ↔
      before = calls ∧ found = files ∧ run = race := by
  constructor
  · rintro ⟨after, hsplit, hafter⟩
    rcases List.eq_nil_or_concat after with rfl | ⟨middle, last, rfl⟩
    · obtain ⟨hcalls, hlast⟩ := List.append_inj' hsplit rfl
      cases hlast
      exact ⟨hcalls.symm, rfl, rfl⟩
    · rw [List.concat_eq_append, ← List.cons_append, ← List.append_assoc] at hsplit
      obtain ⟨-, hlast⟩ := List.append_inj' hsplit rfl
      cases hlast
      exact absurd trivial (hafter (.startBuild files race) (by simp))
  · rintro ⟨rfl, rfl, rfl⟩
    exact ⟨[], rfl, fun _ h => nomatch h⟩

theorem isLastBuild_concat_other {calls before : List Call} {next : Call} {found : FileSystem}
    {race : Scan.Race} (hnext : ¬next.IsBuild) :
    IsLastBuild (calls ++ [next]) before found race → IsLastBuild calls before found race := by
  rintro ⟨after, hsplit, hafter⟩
  rcases List.eq_nil_or_concat after with rfl | ⟨middle, last, rfl⟩
  · obtain ⟨-, hlast⟩ := List.append_inj' hsplit rfl
    cases hlast
    exact absurd trivial hnext
  · rw [List.concat_eq_append, ← List.cons_append, ← List.append_assoc] at hsplit
    obtain ⟨hcalls, -⟩ := List.append_inj' hsplit rfl
    refine ⟨middle, hcalls, ?_⟩
    intro later hlater
    exact hafter later (by simp [hlater])

/-! ### One build -/

/-- A build answers with what its scan results in, and the session then holds that and nothing
else. -/
theorem startBuild_spec (session : Session) (files : FileSystem) (race : Scan.Race) :
    let result := Scan.run session.read files session.root session.config.paths race
    (session.startBuild files race).2 = result ∧ (session.startBuild files race).1.Holds result ∧
      (session.startBuild files race).1.config = session.config ∧
      (session.startBuild files race).1.read = session.read ∧
      (session.startBuild files race).1.root = session.root := by
  unfold startBuild
  cases Scan.run session.read files session.root session.config.paths race with
  | ok outcome => exact ⟨rfl, ⟨rfl, rfl⟩, rfl, rfl, rfl⟩
  | error fault => exact ⟨rfl, ⟨rfl, rfl⟩, rfl, rfl, rfl⟩

theorem wellFormed_of_holds {session : Session} {read : Parser} {files : FileSystem} {root : Path}
    {directories : List String} {race : Scan.Race}
    (h : session.Holds (Scan.run read files root directories race)) {record : Record}
    (hrecord : record ∈ session.registry) : record.WellFormed := by
  cases hresult : Scan.run read files root directories race with
  | ok outcome =>
    rw [hresult] at h
    exact Scan.wellFormed_of_run hresult (h.1 ▸ hrecord)
  | error fault =>
    rw [hresult] at h
    rw [h.1] at hrecord
    cases hrecord

/-! ### The invariant -/

/-- What holds of a session after a history of calls. -/
structure Follows (config : Config) (read : Parser) (calls : List Call) (session : Session) :
    Prop where
  sameConfig : session.config = config
  sameRead : session.read = read
  lastRoot : session.root = rootAfter calls
  unbuilt : (∀ call ∈ calls, ¬call.IsBuild) → session.registry = [] ∧ session.diagnostics = []
  built : ∀ before files race, IsLastBuild calls before files race →
    session.Holds (Scan.run read files (rootAfter before) config.paths race)
  records : ∀ record ∈ session.registry, record.WellFormed

theorem follows_new (config : Config) (read : Parser) :
    Follows config read [] { config, read } where
  sameConfig := rfl
  sameRead := rfl
  lastRoot := rfl
  unbuilt _ := ⟨rfl, rfl⟩
  built before files race h := by
    obtain ⟨after, hsplit, -⟩ := h
    cases before <;> cases hsplit
  records _ h := nomatch h

section
variable {config : Config} {read : Parser} {calls : List Call} {session : Session}

/-- A call that is no build leaves what the session holds. -/
theorem Follows.keep (h : Follows config read calls session) {next : Call}
    (hnext : ¬next.IsBuild) {root : Path} (hroot : root = (next.root?).getD session.root) :
    Follows config read (calls ++ [next]) (session.atRoot root) where
  sameConfig := h.sameConfig
  sameRead := h.sameRead
  lastRoot := by
    rw [rootAfter_concat, ← h.lastRoot]
    exact hroot
  unbuilt hnone := h.unbuilt fun call hmem => hnone call (List.mem_append_left _ hmem)
  built before files race hlast :=
    h.built before files race (isLastBuild_concat_other hnext hlast)
  records := h.records

/-- A build replaces what the session holds. -/
theorem Follows.build (h : Follows config read calls session) (files : FileSystem)
    (race : Scan.Race) :
    Follows config read (calls ++ [.startBuild files race]) (session.startBuild files race).1 := by
  have hscan : Scan.run session.read files session.root session.config.paths race =
      Scan.run read files (rootAfter calls) config.paths race := by
    rw [h.sameRead, h.lastRoot, h.sameConfig]
  obtain ⟨-, hholds, hconfig, hread, hroot⟩ := startBuild_spec session files race
  rw [hscan] at hholds
  refine ⟨hconfig.trans h.sameConfig, hread.trans h.sameRead, ?_, ?_, ?_, ?_⟩
  · rw [rootAfter_concat]
    exact hroot.trans h.lastRoot
  · intro hnone
    exact absurd trivial (hnone (.startBuild files race) (by simp))
  · intro before found winner hlast
    obtain ⟨rfl, rfl, rfl⟩ := isLastBuild_concat_startBuild.1 hlast
    exact hholds
  · intro record hrecord
    exact wellFormed_of_holds hholds hrecord

theorem Follows.call (h : Follows config read calls session) (next : Call) :
    Follows config read (calls ++ [next]) (session.call next).1 := by
  cases next with
  | configResolved root => exact h.keep (by simp [Call.IsBuild]) rfl
  | startBuild files race => exact h.build files race
  | resolve id => exact h.keep (by simp [Call.IsBuild]) rfl
  | load id => exact h.keep (by simp [Call.IsBuild]) rfl

/-- The invariant holds after any number of calls. The induction is on the calls to come; those made
so far grow. -/
theorem Follows.run (h : Follows config read calls session) (later : List Call) :
    Follows config read (calls ++ later) (session.run later) := by
  induction later generalizing calls session with
  | nil =>
    rw [List.append_nil]
    exact h
  | cons next later ih =>
    have hrest := ih (h.call next)
    rwa [List.append_assoc] at hrest

end

theorem follows_run (config : Config) (read : Parser) (calls : List Call) :
    Follows config read calls (run { config, read } calls) := (follows_new config read).run calls

/-! ### Names of the manifest -/

theorem resolve?_eq_some_iff {id resolved : String} :
    Manifest.resolve? id = some resolved ↔
      id = Manifest.publicId ∧ resolved = Manifest.internalId := by
  unfold Manifest.resolve?
  split
  · next hid => simp [hid, eq_comm]
  · next hid => simp [hid]

theorem resolve?_internalId : Manifest.resolve? Manifest.internalId = none := by
  decide

/-- What a session does over every history of calls, whatever its configuration, its parser, the
changes to the file system and the races. It keeps its configuration and parser, and its root is the
last one supplied. It holds what the last build answered with, or nothing if that build failed or
there was none. All its records are well-formed, it loads the manifest of just these records under
the internal name alone, and a name that resolves does so to one that loads and does not resolve
again. -/
theorem run_history (config : Config) (read : Parser) (calls : List Call) :
    let session := run { config, read } calls
    session.config = config ∧ session.read = read ∧ session.root = rootAfter calls ∧
      ((∀ call ∈ calls, ¬call.IsBuild) → session.registry = [] ∧ session.diagnostics = []) ∧
      (∀ before files race, IsLastBuild calls before files race → ∃ result,
        result = Scan.run read files (rootAfter before) config.paths race ∧
          ((run { config, read } before).call (.startBuild files race)).2 = .built result ∧
            session.Holds result) ∧
      (∀ record ∈ session.registry, record.WellFormed) ∧
      (∀ id, (session.call (.load id)).2 =
        .loaded (if id = Manifest.internalId then some (Manifest.render session.registry)
          else none)) ∧
      ∀ id resolved, (session.call (.resolve id)).2 = .resolved (some resolved) →
        (session.call (.load resolved)).2 = .loaded (some (Manifest.render session.registry)) ∧
          (session.call (.resolve resolved)).2 = .resolved none := by
  intro session
  have h : Follows config read calls session := follows_run config read calls
  refine ⟨h.sameConfig, h.sameRead, h.lastRoot, h.unbuilt, ?_, h.records, fun _ => rfl, ?_⟩
  · intro before files race hlast
    have hbefore := follows_run config read before
    have hresult := (startBuild_spec (run { config, read } before) files race).1
    refine ⟨_, rfl, congrArg Answer.built (hresult.trans ?_), h.built before files race hlast⟩
    rw [hbefore.sameRead, hbefore.lastRoot, hbefore.sameConfig]
  · intro id resolved hanswer
    have hresolve : Manifest.resolve? id = some resolved := Answer.resolved.inj hanswer
    obtain ⟨-, rfl⟩ := resolve?_eq_some_iff.1 hresolve
    refine ⟨?_, congrArg Answer.resolved resolve?_internalId⟩
    exact congrArg Answer.loaded (if_pos rfl)

end RouteManifest.Session
