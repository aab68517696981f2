import StorageConsole.Backend.CallError
import StorageConsole.Json.Source
import StorageConsole.Json.Text

/-!
Replies of the backend. A call's reply is an envelope that echoes the id of its request and holds
either an error or a result; the reply to a registration is the answer itself.
-/
namespace StorageConsole.Backend

inductive Reply where
  | unreachable
  | received (status : Nat) (body : ByteArray)

namespace Reply

def isRefusal (status : Nat) : Bool := 400 ≤ status && status < 600

/-- The JSON value that a reply's body holds. -/
def json : Reply → Except CallError Json
  | unreachable => .error (.transport "the backend cannot be reached")
  | received status body =>
    if isRefusal status then
      .error (.transport ("the backend answered with status " ++ Text.showNat status))
    else
      match (String.fromUTF8? body).bind Json.parse? with
      | some j => .ok j
      | none => .error (.undecodable "the reply is not JSON")

end Reply

namespace Envelope

def wrap (id : Nat) (method : String) (params : Json) : Json :=
  .obj [("jsonrpc", .str "2.0"), ("id", .int id), ("method", .str method), ("params", params)]

/-- The backend's error: a text, or an object with a code and a text; what has no text is given as
JSON. -/
def errorOf : Json → CallError
  | .str message => .reported none message
  | .obj members =>
    .reported ((member? members "code").bind Json.asSigned?)
      (((member? members "message").bind Json.asText?).getD (Json.obj members).compact)
  | j => .reported none j.compact

/-- The result in a reply to the request with this id. -/
def unwrap (id : Nat) : Json → Except CallError Json
  | .obj members =>
    let echoed := (member? members "id").getD .null
    if echoed.asUnsigned? ≠ some id then .error (.idMismatch id echoed.compact)
    else
      match member? members "error" with
      | some .null | none =>
        match member? members "result" with
        | some result => .ok result
        | none => .error .noResult
      | some error => .error (errorOf error)
  | _ => .error (.undecodable "rpc response is not an object")

end Envelope

/-- What a reply holds for the request with this id. Without an id there is no envelope. -/
def Reply.result (reply : Reply) (id : Option Nat) : Except CallError Json := do
  let j ← reply.json
  match id with
  | some id => Envelope.unwrap id j
  | none => return j

end StorageConsole.Backend
