import RouteManifest.Config
import RouteManifest.Manifest
import RouteManifest.Scan

/-!
Sessions: the manifest as a bundler asks for it. A session is told where its project lies, scans it
at the start of every build, and answers for the one module that no file holds. A scan replaces
whatever the one before it left.
-/

namespace RouteManifest

namespace Manifest

/-- The name under which scripts import the manifest. -/
def publicId : String := "virtual:vue3-routable-manifest"

/-- The name under which a bundler loads the manifest. No file can have it. -/
def internalId : String := "\x00" ++ publicId

/-- What a script's import leads to, if it leads to the manifest. -/
def resolve? (id : String) : Option String := if id = publicId then some internalId else none

end Manifest

structure Session where
  config : Config := {}
  read : Parser
  root : Path := ⟨"."⟩
  registry : Registry := []
  diagnostics : List Diagnostic := []

namespace Session

/-- The session of the project at `root`. What was found before stays until the next build. -/
def atRoot (session : Session) (root : Path) : Session := { session with root }

/-- Starts a build: scans the project. A scan that fails leaves nothing behind. -/
def startBuild (session : Session) (files : FileSystem) (race : Scan.Race := .inOrder) :
    Session × Except Scan.Fault Scan.Outcome :=
  match Scan.run session.read files session.root session.config.paths race with
  | .ok outcome =>
      ({ session with registry := outcome.registry, diagnostics := outcome.diagnostics },
        .ok outcome)
  | .error fault => ({ session with registry := [], diagnostics := [] }, .error fault)

def load? (session : Session) (id : String) : Option String :=
  if id = Manifest.internalId then some (Manifest.render session.registry) else none

end Session

end RouteManifest
