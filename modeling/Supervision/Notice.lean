import Supervision.Path.Letter
import Supervision.Text.Quoted

/-!
What is logged along the way, as data.
-/

namespace Supervision

inductive Level where
  | warning
  | information
  deriving DecidableEq

inductive Notice where
  | unknownSelector (token : Text)
  | unknownOption (key : Text)
  | configWritten (path : PathText)
  | launcherRequested (script entryPoint : Text) (packages : List Text)
  | packagesRequested (packages : List Text)
  deriving DecidableEq

namespace Notice

open Text

def level : Notice → Level
  | unknownSelector _ => .warning
  | unknownOption _ => .warning
  | configWritten _ => .information
  | launcherRequested _ _ _ => .information
  | packagesRequested _ => .information

def message : Notice → Text
  | unknownSelector _ => "ignoring unknown section selector"
  | unknownOption _ => "ignoring unknown option"
  | configWritten _ => "wrote supervisor config"
  | launcherRequested _ _ _ => "launcher requested; not installed"
  | packagesRequested _ => "packages requested; not installed"

def fields : Notice → List (Text × Text)
  | unknownSelector token => [("section", token)]
  | unknownOption key => [("option", key)]
  | configWritten path => [("path", path.shown)]
  | launcherRequested script entryPoint packages =>
      [("script", script), ("entry_point", entryPoint), ("packages", quotedList packages)]
  | packagesRequested packages => [("packages", quotedList packages)]

end Notice

end Supervision
