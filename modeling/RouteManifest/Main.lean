import RouteManifest.Command.Run
import RouteManifest.CommandLine
import RouteManifest.Script.Site

/-!
The program. It copies the part of the disk that a command looks at, runs the command on the copy,
writes the one file that the command makes, and prints the report.
-/

namespace RouteManifest.Program

/-- The outcome of a change to the copy, which stays as it was where the change is not possible. -/
def changed (files : FileSystem) : Except FileSystem.Fault FileSystem → FileSystem
  | .ok files => files
  | .error _ => files

mutual

/-- Copies what lies at a path, with everything on the way to it. With `deep` a directory is copied
with all it holds, and with `wanted` a file is copied with its content. -/
partial def copy (deep wanted : Bool) (files : FileSystem) (path : Path) : IO FileSystem := do
  let files ← match path.directory? with
    | some above => copy false false files above
    | none => pure files
  let here ← IO.currentDir
  match ← (here / path.text).symlinkMetadata.toBaseIO with
  | .error _ => return files
  | .ok metadata =>
      match metadata.type with
      | .dir => do
          let files := (files.createDirectories path).1
          if deep then copyInside files path else return files
      | .symlink => do
          let target := match ← (IO.FS.realPath path.text).toBaseIO with
            | .ok target => target.toString
            | .error _ => path.text
          let files := changed files (files.link path.text target)
          if target = path.text then return files else copy deep true files ⟨target⟩
      | _ => do
          let content ← if wanted then IO.FS.readBinFile path.text else pure .empty
          return changed files (files.write path.text content)

/-- Copies what a directory holds. Only candidates come with their content, and links to directories
come without what is behind them. -/
partial def copyInside (files : FileSystem) (directory : Path) : IO FileSystem := do
  let mut files := files
  for child in ← ((← IO.currentDir) / directory.text).readDir do
    let isDirectory ← match ← child.path.symlinkMetadata.toBaseIO with
      | .ok metadata => pure (metadata.type == .dir)
      | .error _ => pure false
    files ← copy isDirectory (Scan.isCandidate child.fileName) files (directory.join child.fileName)
  return files

end

def copyProject (here : Path) (files : FileSystem) (options : ScanOptions) : IO FileSystem := do
  let root := options.root.getD here
  let mut files := files
  for directory in root.ancestors do
    let directory := here.join directory.text
    files ← copy false true files (directory.join Config.fileName)
    files ← copy false false files (directory.join Config.repositoryName)
  match Command.configuration files root options.paths with
  | .error _ => return files
  | .ok config =>
      for directory in config.paths do
        files ← copy true false files (here.join (root.join directory).text)
      return files

def copyFor (command : Command) : IO FileSystem := do
  let here : Path := ⟨(← IO.currentDir).toString⟩
  let files ← copy false false {} here
  let current := (Path.pieces here.text.toList).filterMap (FileName.ofText? ∘ String.ofList)
  let files := { files with current }
  match command with
  | .generate options output => do
      let files ← copyProject here files options
      match output with
      | some path => copy false false files (here.join path.text)
      | none => return files
  | .list options _ => copyProject here files options
  | .resolve _ => return files
  | .init => copy false false files (here.join Config.fileName)

/-- Writes a file of the copy to the disk. -/
def store (files : FileSystem) (path : Path) : IO Unit := do
  match files.entry path.text with
  | .ok (.file content) => do
      match path.directory? with
      | some above => unless above.text.isEmpty do IO.FS.createDirAll above.text
      | none => pure ()
      IO.FS.writeBinFile path.text content
  | _ => return

def storeResult (files : FileSystem) (report : Report) : IO Unit :=
  match report.summary with
  | .generated _ (some output) _ => store files output
  | .initialised true => store files ⟨Config.fileName⟩
  | _ => return

def inColours (output : IO.FS.Stream) : IO Bool := do
  return (← output.isTty) && (← IO.getEnv "NO_COLOR").isNone

def runOnDisk (command : Command) : IO UInt32 := do
  let output ← IO.getStdout
  let remarks ← IO.getStderr
  let coloured ← inColours output
  let (files, result) := command.run Script.declarations (← copyFor command)
  if let .ok report := result then storeResult files report
  remarks.putStr
    (Text.Styled.render coloured (Command.remarks command.verbose "syntax error" result))
  output.putStr (Text.Styled.render coloured (Command.output result))
  return (Command.exitStatus result).toUInt32

end RouteManifest.Program

open RouteManifest in
def main (arguments : List String) : IO UInt32 := do
  match CommandLine.parse (← IO.getEnv "ROUTABLE_ROOT") arguments with
  | .ok (some command) =>
      try Program.runOnDisk command
      catch error => do
        IO.eprintln ("error: " ++ toString error)
        return 2
  | .ok none | .error .help => do
      IO.println CommandLine.usage
      return 0
  | .error .version => do
      IO.println "routable 0.1.0"
      return 0
  | .error stop => do
      IO.eprintln ("error: " ++ stop.message)
      return 2
