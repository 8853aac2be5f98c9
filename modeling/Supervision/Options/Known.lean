import Supervision.Notice
import Supervision.Options.Basic

/-!
The options that are read, and the notices about others.
-/

namespace Supervision.Options

def known : List Text := List.map String.toList
  ["sections", "logfile", "pidfile", "childlogdir", "http-socket", "logfile-maxbytes",
    "logfile-backups", "childstdout-logfile-maxbytes", "childstderr-logfile-maxbytes", "loglevel",
    "umask", "nodaemon", "nocleanup", "supervisord-user", "supervisord-directory",
    "supervisord-environment", "env-path", "port", "user", "password", "file", "chmod",
    "serverurl", "ctlplugins", "rpcplugins", "programs", "eventlisteners", "groups", "include",
    "supervisord-conf", "d_plugins", "ctl_plugins", "plugins"]

def unknownKeys (options : Options) : List Text :=
  (options.entries.map Prod.fst).filter fun key => !known.contains key

def unknownNotices (options : Options) : List Notice :=
  options.unknownKeys.map .unknownOption

end Supervision.Options
