import Supervision.Ini
import Supervision.Options.Basic
import Supervision.Record.Kind

/-!
How the daemon is reached: its one HTTP server, and the control client that talks to it.
-/

namespace Supervision

inductive SocketKind where
  | inet
  | unix
  deriving DecidableEq

def SocketKind.parse (value : Text) : Except ConfigError SocketKind :=
  if value = "inet".toList then .ok .inet
  else if value = "unix".toList then .ok .unix
  else .error (.unknownTransport value)

inductive Endpoint where
  | inet (address : Text)
  | unix (file mode : Text)
  deriving DecidableEq

structure Transport where
  endpoint : Endpoint
  username : Text
  password : Text
  deriving DecidableEq

namespace Transport

def resolve (options : Options) : Except ConfigError Transport := do
  let kind ← SocketKind.parse (options.getD "http-socket" "inet")
  let endpoint := match kind with
    | .inet => Endpoint.inet (options.getD "port" "127.0.0.1:9001")
    | .unix => Endpoint.unix (options.getD "file" "") (options.getD "chmod" "0700")
  return { endpoint, username := options.getD "user" "", password := options.getD "password" "" }

/-- Where a client finds the server. An address without a host is one of this host. -/
def serverUrl (transport : Transport) : Text :=
  match transport.endpoint with
  | .inet address =>
      if address.contains ':' then "http://".toList ++ address
      else "http://localhost:".toList ++ address
  | .unix file _ => "unix://".toList ++ file

def httpSection (transport : Transport) : Ini.Section :=
  match transport.endpoint with
  | .inet address => {
      header := "inet_http_server"
      entries := [("port", address), ("username", transport.username),
        ("password", transport.password)] }
  | .unix file mode => {
      header := "unix_http_server"
      entries := [("file", file), ("username", transport.username),
        ("password", transport.password), ("chmod", mode)] }

end Transport

structure ControlClient where
  serverUrl : Text
  username : Text
  password : Text
  deriving DecidableEq

namespace ControlClient

/-- The `serverurl` option comes before the address of the transport. -/
def resolve (options : Options) (transport : Transport) : ControlClient where
  serverUrl := options.getD "serverurl" transport.serverUrl
  username := transport.username
  password := transport.password

def clientSection (client : ControlClient) : Ini.Section where
  header := "supervisorctl"
  entries := [("serverurl", client.serverUrl), ("username", client.username),
    ("password", client.password)]

end ControlClient

end Supervision
