import RouteManifest.Command
import RouteManifest.Config.Lookup
import RouteManifest.Report
import RouteManifest.Session

/-!
Running commands. A command answers with the file system it leaves and with a report or with what
made it fail. Only `generate` with a file to write to and `init` change anything, and `generate`
does so only after its scan. What is printed and the exit status are told from the answer.
-/

namespace RouteManifest.Command

inductive Failure where
  /-- The project is not named, and the current directory cannot be told. -/
  | currentDirectory (reason : FileSystem.Fault)
  | configuration (fault : Config.LoadFault)
  /-- The directories that the user gave cannot be scanned. -/
  | directories (fault : Config.Fault)
  | scan (root : Path) (fault : Scan.Fault)
  /-- The directory of the output cannot be made. -/
  | outputDirectory (path : Path) (reason : FileSystem.Fault)
  | output (path : Path) (reason : FileSystem.Fault)
  | configurationFile (reason : FileSystem.Fault)

def Failure.message (complaint : String) : Failure → String
  | .currentDirectory reason => "Failed to determine current directory: " ++ reason.message
  | .configuration fault => fault.message
  | .directories fault => fault.message
  | .scan root fault =>
      let cause := match fault.reason? with
        | some reason => ": " ++ reason
        | none => ""
      "Scan of " ++ root.text ++ " failed: " ++ fault.message complaint ++ cause
  | .outputDirectory path reason =>
      "Failed to create directory: " ++ path.text ++ ": " ++ reason.message
  | .output path reason => "Failed to write manifest: " ++ path.text ++ ": " ++ reason.message
  | .configurationFile reason => reason.message

/-- The configuration to scan with: that of the project, with the directories that the user gave. -/
def configuration (files : FileSystem) (root : Path) (directories : List String) :
    Except Failure Config :=
  match Config.load files root with
  | .error fault => .error (.configuration fault)
  | .ok loaded =>
      if directories.isEmpty then .ok loaded.config
      else
        let config := { loaded.config with paths := directories }
        match config.fault? with
        | some fault => .error (.directories fault)
        | none => .ok config

/-- Where the project lies that the options name, or else the current directory. -/
def projectRoot (files : FileSystem) (options : ScanOptions) : Except Failure Path :=
  match options.root with
  | some root => .ok root
  | none => files.workingDirectory.mapError .currentDirectory

def session (read : Parser) (files : FileSystem) (options : ScanOptions) :
    Except Failure Session := do
  let root ← projectRoot files options
  let config ← configuration files root options.paths
  return Session.atRoot { config, read } root

/-- The session of a project after its scan, and the outcome of the scan. -/
def scanned (read : Parser) (files : FileSystem) (options : ScanOptions)
    (race : Scan.Race := .inOrder) : Except Failure (Session × Scan.Outcome) := do
  let session ← session read files options
  match session.startBuild files race with
  | (session, .ok outcome) => return (session, outcome)
  | (session, .error fault) => throw (.scan session.root fault)

def reportOn (session : Session) (outcome : Scan.Outcome) (summary : Summary) : Report where
  summary
  root := session.root
  diagnostics := outcome.diagnostics
  empty := outcome.empty
  scanned := outcome.scanned

def writeManifest (files : FileSystem) (output : Path) (manifest : String) :
    FileSystem × Option Failure :=
  let directory := (output.directory?).getD ⟨""⟩
  match files.createDirectories directory with
  | (files, some reason) => (files, some (.outputDirectory directory reason))
  | (files, none) =>
      match files.write output.text (manifest ++ "\n").toUTF8 with
      | .ok files => (files, none)
      | .error reason => (files, some (.output output reason))

def runGenerate (read : Parser) (files : FileSystem) (options : ScanOptions)
    (output : Option Path) (race : Scan.Race := .inOrder) : FileSystem × Except Failure Report :=
  match scanned read files options race with
  | .error failure => (files, .error failure)
  | .ok (session, outcome) =>
      let manifest := Manifest.render session.registry
      let report := reportOn session outcome (.generated manifest output session.registry.length)
      match output with
      | none => (files, .ok report)
      | some path =>
          match writeManifest files path manifest with
          | (files, some failure) => (files, .error failure)
          | (files, none) => (files, .ok report)

def runList (read : Parser) (files : FileSystem) (options : ScanOptions) (asJson : Bool)
    (race : Scan.Race := .inOrder) : Except Failure Report := do
  let (session, outcome) ← scanned read files options race
  return reportOn session outcome (.listed session.registry asJson)

def runInit (files : FileSystem) : FileSystem × Except Failure Report :=
  if files.exists? Config.fileName then (files, .ok { summary := .initialised false })
  else
    match files.write Config.fileName Config.defaultText.toUTF8 with
    | .ok files => (files, .ok { summary := .initialised true })
    | .error reason => (files, .error (.configurationFile reason))

def run (read : Parser) (files : FileSystem) (command : Command)
    (race : Scan.Race := .inOrder) : FileSystem × Except Failure Report :=
  match command with
  | .generate options output => runGenerate read files options output race
  | .list options asJson => (files, runList read files options asJson race)
  | .resolve id => (files, .ok { summary := .resolved id (Manifest.resolve? id) })
  | .init => runInit files

/-! ### What is printed -/

open Text (Styled)

/-- What goes to the standard output. A command that failed has no result. -/
def output : Except Failure Report → Styled
  | .ok report => report.output
  | .error _ => []

/-- What goes beside it. -/
def remarks (verbose : Bool) (complaint : String) : Except Failure Report → Styled
  | .ok report => report.remarks verbose
  | .error failure => .inBold .red "error:" ++ .plain (" " ++ failure.message complaint ++ "\n")

/-- The exit status of a command: 2 if it failed. -/
def exitStatus : Except Failure Report → Nat
  | .ok report => report.exitStatus
  | .error _ => 2

end RouteManifest.Command
