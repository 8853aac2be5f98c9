import Supervision.Daemon
import Supervision.Notice

/-!
Launcher scripts, each of which starts one program of the supervisor with the configuration, and
the packages to install for them.
-/

namespace Supervision

inductive ConfigArgument where
  | absent
  | trailing (path : PathText)
  | leading (path : PathText)
  deriving DecidableEq

structure Launcher where
  script : Text
  entryPoint : Text
  argument : ConfigArgument
  deriving DecidableEq

structure InstallRequest where
  packages : List Text
  launcher : Option Launcher
  deriving DecidableEq

namespace InstallRequest

/-- What is asked for a part: launchers of the daemon, of the memory monitor and of the control
client, then further packages if there are any. -/
def all (options : Options) (part : Part) (path : PathText) : List InstallRequest :=
  [{ packages := "supervisor".toList :: options.blockLines "d_plugins"
     launcher := some {
       script := part.name ++ ['d'], entryPoint := "supervisord", argument := .trailing path } },
   { packages := ["supervisor"]
     launcher := some { script := "memmon", entryPoint := "memmon", argument := .absent } },
   { packages := "supervisor".toList :: options.blockLines "ctl_plugins"
     launcher := some {
       script := part.name ++ "ctl".toList, entryPoint := "supervisorctl"
       argument := .leading path } }] ++
  match options.blockLines "plugins" with
  | [] => []
  | packages => [{ packages, launcher := none }]

def notice (request : InstallRequest) : Notice :=
  match request.launcher with
  | some launcher => .launcherRequested launcher.script launcher.entryPoint request.packages
  | none => .packagesRequested request.packages

end InstallRequest

end Supervision
