import Supervision.Configuration
import Supervision.Launcher
import Supervision.Text.Json

/-!
Putting a configuration in place: directories first, then the document, then what is to be
installed, each through a host that may be any.
-/

namespace Supervision

/-- What a deployment needs done. Everything but a notice may fail. -/
structure Host (Failure : Type) (m : Type → Type) where
  ensureDirectory : PathText → ExceptT Failure m Unit
  replaceFile : PathText → Text → ExceptT Failure m Unit
  install : InstallRequest → ExceptT Failure m (List PathText)
  note : Notice → m Unit

def announceOnly {Failure : Type} {m : Type → Type} [Monad m] (note : Notice → m Unit)
    (request : InstallRequest) : ExceptT Failure m (List PathText) := do
  note request.notice
  return []

structure Report where
  configFile : PathText
  serverUrl : Text
  directories : List PathText
  artifacts : List PathText
  deriving DecidableEq

def Configuration.deploy {Failure : Type} {m : Type → Type} [Monad m] (host : Host Failure m)
    (configuration : Configuration) (requests : List InstallRequest) :
    ExceptT Failure m Report := do
  configuration.directories.forM host.ensureDirectory
  host.replaceFile configuration.path configuration.text
  host.note (.configWritten configuration.path)
  let installed ← requests.mapM host.install
  return {
    configFile := configuration.path
    serverUrl := configuration.client.serverUrl
    directories := configuration.directories
    artifacts := installed.flatten ++ [configuration.path] }

open Text in
/-- The report as a JSON object, two blanks for each level. A path that is no text has no JSON. -/
def Report.json (report : Report) : Option Text := do
  let field (name : Text) (value : Text) : Text :=
    "  ".toList ++ jsonString name ++ ": ".toList ++ value
  let configFile ← report.configFile.written?
  let directories ← report.directories.mapM PathText.written?
  let artifacts ← report.artifacts.mapM PathText.written?
  return "\x7b\n".toList ++
    joinWith ",\n" [
      field "conf_file" (jsonString configFile),
      field "server_url" (jsonString report.serverUrl),
      field "directories" (jsonList "  " (directories.map jsonString)),
      field "artifacts" (jsonList "  " (artifacts.map jsonString))] ++
    "\n\x7d".toList

end Supervision
