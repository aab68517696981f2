import StorageConsole.Config.Basic
import StorageConsole.Record.Decode
import StorageConsole.Toml.Json

/-!
Settings as written. A setting must have the type of its default, and names that are no setting are
skipped.
-/
namespace StorageConsole.Config

def encode (c : Config) : Json :=
  .obj [("server_url", .str c.serverUrl), ("rpc_path", .str c.rpcPath),
    ("rpc_namespace", .str c.rpcSpace), ("register_path", .str c.registerPath),
    ("control_loop_interval_ms", .int c.interval), ("repo_page_size", .int c.repoPageSize),
    ("commit_page_size", .int c.commitPageSize), ("session_dir", .str c.sessionFolder),
    ("session_key", .str c.sessionKey), ("login_redirect", .str c.landingPath),
    ("logout_redirect", .str c.logoutPath)]

/-- The settings that are given, over those of `base`. -/
def decode (base : Config) (members : List (String × Json)) : Decoded Config := do
  let ms : Members := .byName members
  return {
    serverUrl := ← ms.withDefault 0 "server_url" base.serverUrl Json.text
    rpcPath := ← ms.withDefault 1 "rpc_path" base.rpcPath Json.text
    rpcSpace := ← ms.withDefault 2 "rpc_namespace" base.rpcSpace Json.text
    registerPath := ← ms.withDefault 3 "register_path" base.registerPath Json.text
    interval := ← ms.withDefault 4 "control_loop_interval_ms" base.interval Json.count
    repoPageSize := ← ms.withDefault 5 "repo_page_size" base.repoPageSize Json.count
    commitPageSize := ← ms.withDefault 6 "commit_page_size" base.commitPageSize Json.count
    sessionFolder := ← ms.withDefault 7 "session_dir" base.sessionFolder Json.text
    sessionKey := ← ms.withDefault 8 "session_key" base.sessionKey Json.text
    landingPath := ← ms.withDefault 9 "login_redirect" base.landingPath Json.text
    logoutPath := ← ms.withDefault 10 "logout_redirect" base.logoutPath Json.text }

/-- The settings of a file's text over the defaults. -/
def ofText? (text : String) : Option Config := do
  let members ← Toml.parse? text
  (decode default (Toml.toJsonMembers members)).toOption

/-- The settings in the file at `path`, whose text is given if the file could be read. -/
def ofFile (path : String) (text : Option String) : Except ConfigError Config :=
  match text with
  | none => .error (.unreadable path)
  | some text =>
    match ofText? text with
    | some config => .ok config
    | none => .error (.malformed path)

end StorageConsole.Config
