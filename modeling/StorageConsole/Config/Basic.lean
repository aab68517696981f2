import StorageConsole.Backend.Endpoint
import StorageConsole.Text.Integer

/-!
Settings of the console. What a settings file leaves out keeps its default, and variables of the
environment override both.
-/
namespace StorageConsole

open Backend (Endpoint)

structure Config where
  serverUrl : String
  rpcPath : String
  rpcSpace : String
  registerPath : String
  /-- Milliseconds between two passes of the control loop. -/
  interval : Nat
  repoPageSize : Nat
  commitPageSize : Nat
  sessionFolder : String
  sessionKey : String
  /-- Where a login leads. -/
  landingPath : String
  /-- Where a logout leads. -/
  logoutPath : String
  deriving DecidableEq, Repr

inductive ConfigError where
  | unreadable (path : String)
  | malformed (path : String)
  | badInterval (text : String)
  deriving DecidableEq, Repr

namespace ConfigError

def intervalVariable : String := "DATAMESH_CONTROL_LOOP_INTERVAL_MS"

def message : ConfigError → String
  | unreadable path => "failed to read config " ++ path
  | malformed path => "failed to parse config " ++ path
  | badInterval text => "invalid " ++ intervalVariable ++ "=" ++ text

end ConfigError

namespace Config

def default : Config where
  serverUrl := "http://127.0.0.1:6969"
  rpcPath := Endpoint.defaultRpcPath
  rpcSpace := Endpoint.defaultSpace
  registerPath := Endpoint.defaultRegisterPath
  interval := 100
  repoPageSize := 10
  commitPageSize := 10
  sessionFolder := "./data/console-session"
  sessionKey := "user"
  landingPath := "/dashboard"
  logoutPath := "/"

instance : Inhabited Config := ⟨default⟩

/-- The variables of the environment that are set. -/
abbrev Environment := String → Option String

/-- The variables that override settings. -/
def variableNames : List String :=
  ["DATAMESH_SERVER_URL", "DATAMESH_SESSION_DIR", "DATAMESH_RPC_NAMESPACE",
    ConfigError.intervalVariable]

def overrideInterval (c : Config) : Option String → Except ConfigError Config
  | none => .ok c
  | some text =>
    match Text.readUnsigned text.toList with
    | some interval => .ok { c with interval }
    | none => .error (.badInterval text)

/-- The settings with the environment's overrides. -/
def override (c : Config) (env : Environment) : Except ConfigError Config :=
  overrideInterval
    { c with
      serverUrl := (env "DATAMESH_SERVER_URL").getD c.serverUrl
      sessionFolder := (env "DATAMESH_SESSION_DIR").getD c.sessionFolder
      rpcSpace := (env "DATAMESH_RPC_NAMESPACE").getD c.rpcSpace }
    (env ConfigError.intervalVariable)

/-- The loop never waits for less than one millisecond. -/
def loopInterval (c : Config) : Nat := max c.interval 1

def endpoint (c : Config) : Endpoint :=
  { Endpoint.ofServer c.serverUrl with
    rpcPath := c.rpcPath, space := c.rpcSpace, registerPath := c.registerPath }

end Config

end StorageConsole
