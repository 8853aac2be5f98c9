import Supervision.CommandLine.Arguments
import Supervision.Deployment
import Supervision.Disk.Basic
import Supervision.Options.Known
import Supervision.Options.Override

/-!
What the commands do, on any shell that reads files, puts a configuration in place and prints.
-/

namespace Supervision

inductive Failure where
  | unreadableOptions (path : PathText) (cause : Fault)
  | unusableOptions (path : PathText) (cause : OptionError)
  | badOverride (cause : OptionError)
  | badConfiguration (cause : ConfigError)
  | cannotCreateDirectory (path : PathText)
  | cannotCreateTemporary (directory : PathText)
  | cannotMove (path : PathText)
  | noWorkingDirectory
  | reportNotText
  deriving DecidableEq

namespace Failure

def message : Failure → Text
  | unreadableOptions path _ => "failed to read options file ".toList ++ path.shown
  | unusableOptions path _ => "failed to parse options file ".toList ++ path.shown
  | badOverride cause => cause.message
  | badConfiguration cause => cause.message
  | cannotCreateDirectory path => "failed to create directory ".toList ++ path.shown
  | cannotCreateTemporary directory => "failed to create temp file in ".toList ++ directory.shown
  | cannotMove path => "failed to move config into place at ".toList ++ path.shown
  | noWorkingDirectory => "failed to read current directory"
  | reportNotText => "path contains invalid UTF-8 characters"

def causes : Failure → List Text
  | unreadableOptions _ cause => [cause.message]
  | unusableOptions _ cause => [cause.message]
  | _ => []

end Failure

namespace CommandLine

structure Shell (m : Type → Type) extends Host Failure m where
  readText : PathText → ExceptT Failure m Text
  workingDirectory : ExceptT Failure m PathText
  print : Text → m Unit

variable {m : Type → Type} [Monad m]

def orThrow {ε α : Type} (failure : ε → Failure) (result : Except ε α) : ExceptT Failure m α :=
  match result with
  | .ok found => pure found
  | .error cause => throw (failure cause)

def loadOptions (readText : PathText → ExceptT Failure m Text) (path : PathText) :
    ExceptT Failure m Options := do
  let text ← readText path
  orThrow (.unusableOptions path) (Options.ofToml text)

def Input.load (shell : Shell m) (input : Input) : ExceptT Failure m (Options × Part) := do
  let given ← match input.optionsFile with
    | some path => loadOptions shell.readText path
    | none => pure Options.empty
  let options ← orThrow .badOverride (given.overrideAll input.overrides)
  (options.unknownNotices.forM shell.note : m Unit)
  let baseDir ← match input.baseDir with
    | some directory => pure (PathText.ofText directory)
    | none => shell.workingDirectory
  return (options, { baseDir, name := input.name.getD "supervisor" })

def configure (shell : Shell m) (options : Options) (part : Part) :
    ExceptT Failure m Configuration := do
  ((Selection.notices (Selection.selector options)).forM shell.note : m Unit)
  orThrow .badConfiguration (Configuration.ofOptions options part)

def reportText (report : Report) (json : Bool) : Option Text :=
  if json then report.json.map (· ++ ['\n'])
  else some (report.artifacts.flatMap fun path => path.shown ++ ['\n'])

def printReport (shell : Shell m) (report : Report) (json : Bool) : ExceptT Failure m Unit :=
  match reportText report json with
  | some text => shell.print text
  | none => throw .reportNotText

/-- The document is complete before anything is put in place, but the report is made after that. -/
def Command.run (shell : Shell m) : Command → ExceptT Failure m Unit
  | .render input => do
      let (options, part) ← input.load shell
      let configuration ← configure shell options part
      shell.print configuration.text
  | .generate input json => do
      let (options, part) ← input.load shell
      let configuration ← configure shell options part
      let requests := InstallRequest.all options part configuration.path
      let report ← configuration.deploy shell.toHost requests
      printReport shell report json

end CommandLine

end Supervision
