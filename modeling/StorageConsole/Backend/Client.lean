import StorageConsole.Backend.Authorization
import StorageConsole.Backend.Endpoint
import StorageConsole.Backend.Reply

/-!
The client's side of the backend: the requests that it sends, numbered in the order of sending.
-/
namespace StorageConsole.Backend

/-- What is sent: a call of a method with its parameters, or a registration. -/
inductive Message where
  | call (method : String) (params : Json)
  | registration (body : Json)
  deriving DecidableEq, Repr

/-- A request over HTTP; its body is sent by POST. -/
structure Request where
  url : String
  authorization : Option String
  body : Json
  deriving DecidableEq, Repr, Inhabited

/-- Asks the backend not to open a password prompt. -/
def withoutPrompt (url : String) : String :=
  url ++ (if url.toList.contains '?' then "&" else "?") ++ "disableBasicAuthWindow=y"

structure Client where
  endpoint : Endpoint
  /-- The id of the next call, a 64-bit word; fewer than 2^64 calls are sent. -/
  nextId : Nat
  deriving DecidableEq, Repr, Inhabited

namespace Client

def ofEndpoint (endpoint : Endpoint) : Client := ⟨endpoint, 0⟩

/-- The request for a message and the id that its reply must echo. Only calls take an id. -/
def request (c : Client) (message : Message) (sender : Option Credentials) (prompt : Bool) :
    Option Nat × Request × Client :=
  let address (url : String) : String := if prompt then url else withoutPrompt url
  match message with
  | .call method params =>
    (some c.nextId,
      ⟨address c.endpoint.rpcUrl, authorization? sender,
        Envelope.wrap c.nextId (c.endpoint.qualified method) params⟩,
      { c with nextId := c.nextId + 1 })
  | .registration body => (none, ⟨address c.endpoint.registerUrl, authorization? sender, body⟩, c)

end Client

end StorageConsole.Backend
