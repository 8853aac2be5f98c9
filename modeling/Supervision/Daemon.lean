import Supervision.Ini
import Supervision.Options.Basic
import Supervision.Path

/-!
The settings of the daemon itself, with their defaults filled in.
-/

namespace Supervision

/-- A part of an installation: its paths default to places below the base directory, and its name
is that of its launchers. -/
structure Part where
  baseDir : PathText
  name : Text
  deriving DecidableEq

def Part.configPath (part : Part) (options : Options) : PathText :=
  match options.get? "supervisord-conf" with
  | some path => path
  | none => Path.join (Path.join (Path.join part.baseDir "parts") part.name) "supervisord.conf"

structure LogLimits where
  stdout : Option Text
  stderr : Option Text
  deriving DecidableEq

def LogLimits.settings (limits : LogLimits) : List (Text × Text) :=
  (limits.stdout.map fun size => ("stdout_logfile_maxbytes".toList, size)).toList ++
    (limits.stderr.map fun size => ("stderr_logfile_maxbytes".toList, size)).toList

structure Daemon where
  childLogDir : Text
  logFile : Text
  logFileMaxBytes : Text
  logFileBackups : Text
  logLevel : Text
  pidFile : Text
  umask : Text
  noDaemon : Text
  noCleanup : Text
  user : Option Text
  directory : Option Text
  environment : Option Text
  searchPath : Option Text
  limits : LogLimits
  deriving DecidableEq

namespace Daemon

def resolve (options : Options) (part : Part) : Daemon :=
  let var := Path.join part.baseDir "var"
  { childLogDir := options.getD "childlogdir" (Path.join var "log").shown
    logFile := options.getD "logfile" (Path.join (Path.join var "log") "supervisord.log").shown
    logFileMaxBytes := options.getD "logfile-maxbytes" "50MB"
    logFileBackups := options.getD "logfile-backups" "10"
    logLevel := options.getD "loglevel" "info"
    pidFile := options.getD "pidfile" (Path.join var "supervisord.pid").shown
    umask := options.getD "umask" "022"
    noDaemon := options.getD "nodaemon" "false"
    noCleanup := options.getD "nocleanup" "false"
    user := options.nonEmpty? "supervisord-user"
    directory := options.nonEmpty? "supervisord-directory"
    environment := options.nonEmpty? "supervisord-environment"
    searchPath := options.get? "env-path"
    limits := {
      stdout := options.nonEmpty? "childstdout-logfile-maxbytes"
      stderr := options.nonEmpty? "childstderr-logfile-maxbytes" } }

def environmentSetting (daemon : Daemon) : Option Text :=
  match daemon.environment, daemon.searchPath with
  | some environment, some path => some (environment ++ ",PATH=".toList ++ path)
  | some environment, none => some environment
  | none, some path => some ("PATH=".toList ++ path)
  | none, none => none

def runtimeDirs (daemon : Daemon) : List PathText :=
  [Path.containing daemon.logFile, Path.containing daemon.pidFile].foldl Path.addNew
    [daemon.childLogDir]

def daemonSection (daemon : Daemon) : Ini.Section :=
  .ofSettings "supervisord" [
    ("childlogdir", some daemon.childLogDir),
    ("logfile", some daemon.logFile),
    ("logfile_maxbytes", some daemon.logFileMaxBytes),
    ("logfile_backups", some daemon.logFileBackups),
    ("loglevel", some daemon.logLevel),
    ("pidfile", some daemon.pidFile),
    ("umask", some daemon.umask),
    ("nodaemon", some daemon.noDaemon),
    ("nocleanup", some daemon.noCleanup),
    ("user", daemon.user),
    ("directory", daemon.directory),
    ("environment", daemon.environmentSetting)]

end Daemon

end Supervision
