import Supervision.Process
import Supervision.Selection

/-!
From options to a configuration: the document, in its fixed order of sections, and what goes with
it. Everything that can fail is read before anything is put together.
-/

namespace Supervision

structure Configuration where
  document : Ini.Document
  daemon : Daemon
  client : ControlClient
  path : PathText
  deriving DecidableEq

structure Records where
  controlPlugins : List Plugin
  rpcPlugins : List Plugin
  programs : List Program
  listeners : List EventListener
  groups : List Group
  included : List Text

namespace Records

/-- The block of a family that is not selected is not looked at. -/
def read (options : Options) (selection : Selection) : Except ConfigError Records := do
  let controlPlugins ←
    if selection.control then
      readBlock Plugin.reader .controlPlugin (options.block "ctlplugins")
    else pure []
  let rpcPlugins ←
    if selection.rpc then readBlock Plugin.reader .rpcPlugin (options.block "rpcplugins")
    else pure []
  let programs ← readBlock Program.reader .program (options.block "programs")
  let listeners ← readBlock EventListener.reader .eventListener (options.block "eventlisteners")
  let groups ← readBlock Group.reader .group (options.block "groups")
  return {
    controlPlugins, rpcPlugins, programs, listeners, groups
    included := options.blockLines "include" }

end Records

namespace Configuration

def httpSections (selection : Selection) (transport : Transport) : List Ini.Section :=
  if selection.http then [transport.httpSection] else []

def controlSections (selection : Selection) (client : ControlClient) (plugins : List Plugin) :
    List Ini.Section :=
  if selection.control then client.clientSection :: plugins.map Plugin.controlSection else []

def rpcSections (selection : Selection) (plugins : List Plugin) : List Ini.Section :=
  if selection.rpc then (Plugin.main :: plugins).map Plugin.rpcSection else []

def sections (selection : Selection) (daemon : Daemon) (transport : Transport)
    (client : ControlClient) (records : Records) : List Ini.Section :=
  daemon.daemonSection ::
    (httpSections selection transport ++
      controlSections selection client records.controlPlugins ++
      rpcSections selection records.rpcPlugins ++
      records.programs.map (fun program => program.toSection daemon.limits) ++
      records.listeners.map (fun listener => listener.toSection client) ++
      records.groups.map Group.toSection ++
      (includeSection records.included).toList)

def ofOptions (options : Options) (part : Part) : Except ConfigError Configuration := do
  let selection := Selection.resolve options
  let daemon := Daemon.resolve options part
  let transport ← Transport.resolve options
  let client := ControlClient.resolve options transport
  let records ← Records.read options selection
  return {
    document := ⟨sections selection daemon transport client records⟩
    daemon, client
    path := part.configPath options }

def text (configuration : Configuration) : Text :=
  configuration.document.text

/-- The directories the configuration needs, that of the document included, no path twice. -/
def directories (configuration : Configuration) : List PathText :=
  match Path.parent? configuration.path with
  | none => configuration.daemon.runtimeDirs
  | some [] => configuration.daemon.runtimeDirs
  | some directory => Path.addNew configuration.daemon.runtimeDirs directory

end Configuration

end Supervision
