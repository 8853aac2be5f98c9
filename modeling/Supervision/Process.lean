import Supervision.Daemon
import Supervision.Record.EventListener
import Supervision.Record.Group
import Supervision.Record.Plugin
import Supervision.Transport

/-!
The sections that records become.
-/

namespace Supervision

open Text

def commandLine (command : Text) (arguments : Option Text) : Text :=
  match arguments with
  | some arguments => command ++ ' ' :: arguments
  | none => command

/-- The settings of the line come first, then the log limits that the line does not set. -/
def Program.toSection (program : Program) (limits : LogLimits) : Ini.Section :=
  let fixed := Ini.Section.ofSettings ("program:".toList ++ program.name) [
    ("command", some (commandLine program.command program.arguments)),
    ("process_name", some program.name),
    ("directory", program.workingDirectory),
    ("priority", some program.priority),
    ("redirect_stderr", some (ofBool program.redirectStderr)),
    ("user", program.user)]
  { fixed with
    entries := fixed.entries ++ program.extras.pairs ++
      limits.settings.filter fun setting => !program.extras.contains setting.1 }

/-- How a listener reaches the daemon, followed by the environment of its line if it has one. -/
def EventListener.environment (listener : EventListener) (client : ControlClient) : Text :=
  let injected := "SUPERVISOR_USERNAME='".toList ++ client.username ++
    "',SUPERVISOR_PASSWORD='".toList ++ client.password ++
    "',SUPERVISOR_SERVER_URL='".toList ++ client.serverUrl ++ ['\'']
  match listener.extras.get? "environment" with
  | some own => injected ++ ',' :: own
  | none => injected

def EventListener.toSection (listener : EventListener) (client : ControlClient) : Ini.Section :=
  let fixed : List (Text × Text) := [
    ("command", commandLine listener.command listener.arguments),
    ("events", listener.events),
    ("process_name", listener.name),
    ("environment", listener.environment client)]
  { header := "eventlistener:".toList ++ listener.name
    entries := fixed ++ listener.extras.pairs.filter fun pair => pair.1 != "environment".toList }

def Group.toSection (group : Group) : Ini.Section where
  header := "group:".toList ++ group.name
  entries := [("programs", joinWith [','] group.members), ("priority", group.priority)]

def Plugin.controlSection (plugin : Plugin) : Ini.Section where
  header := "ctlplugin:".toList ++ plugin.name
  entries := [("supervisor.ctl_factory", plugin.callable)]

def Plugin.rpcSection (plugin : Plugin) : Ini.Section where
  header := "rpcinterface:".toList ++ plugin.name
  entries := [("supervisor.rpcinterface_factory", plugin.callable)]

def Plugin.main : Plugin where
  name := "supervisor"
  callable := "supervisor.rpcinterface:make_main_rpcinterface"

def includeSection (files : List Text) : Option Ini.Section :=
  if files.isEmpty then none
  else some { header := "include", entries := [("files", joinWith [' '] files)] }

end Supervision
