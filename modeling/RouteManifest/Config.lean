import RouteManifest.Json.Decode
import RouteManifest.Path
import RouteManifest.Text.Blank

/-!
Configurations: which directories of a project are scanned. A configuration file is a JSON object
with at most one member, `paths`; an array with at most one element is read as well.
-/

namespace RouteManifest

open Json (Decoder Value)

structure Config where
  /-- The directories to scan, in order, as seen from the root of the project. -/
  paths : List String := ["src"]
  deriving DecidableEq, Inhabited

namespace Config

def fileName : String := ".routablerc.json"

/-! ### Validity -/

inductive Fault where
  | noPaths
  | blankPath
  | absolutePath (path : String)
  deriving DecidableEq, Inhabited

def Fault.message : Fault → String
  | .noPaths => "'paths' must list at least one directory"
  | .blankPath => "Empty directory in 'paths'"
  | .absolutePath path => "Directory in 'paths' must be relative to the project root: \"" ++
      path ++ "\""

def pathFault? (path : String) : Option Fault :=
  if Text.isBlank path then some .blankPath
  else if (Path.mk path).isAbsolute then some (.absolutePath path)
  else none

/-- What is wrong with a configuration: there must be directories, and the first faulty one
counts. -/
def fault? (config : Config) : Option Fault :=
  if config.paths.isEmpty then some .noPaths else config.paths.findSome? pathFault?

/-! ### JSON -/

def toJson (config : Config) : Value := .object [("paths", .array (config.paths.map .string))]

def defaultText : String := (toJson {}).pretty 0

def pathsDecoder : Decoder (List String) := do
  match ← Decoder.peek with
  | some '[' => Decoder.inList (Decoder.allElements (Decoder.text "a string") true)
  | none => Decoder.failNext (.unfinished .value)
  | some _ => Decoder.wrongType "a sequence"

def member (found : Option (List String)) (key : String) : Decoder (Option (List String)) := do
  unless key == "paths" do Decoder.mismatch (.unknownField key ["paths"])
  if found.isSome then Decoder.mismatch (.duplicateField key)
  Decoder.colon
  return some (← pathsDecoder)

/-- The configuration with the given directories, or with the default ones. -/
def ofPaths? : Option (List String) → Config
  | some paths => { paths }
  | none => {}

def decoder : Decoder Config := do
  match ← Decoder.peek with
  | some '{' => ofPaths? <$> Decoder.inObject (Decoder.allMembers member none)
  | some '[' =>
      Decoder.inList do
        if ← Decoder.nextElement true then return { paths := ← pathsDecoder }
        return {}
  | none => Decoder.failNext (.unfinished .value)
  | some _ => Decoder.wrongType "struct Config"

def ofJson (text : String) : Except Json.Rejection Config := decoder.run text

end Config

end RouteManifest
