import StorageConsole.Text.Integer

/-!
How a call to the backend can fail.
-/
namespace StorageConsole.Backend

inductive CallError where
  /-- The backend was not reached, or refused the request by its status. -/
  | transport (detail : String)
  /-- The reply carries another id than the request. -/
  | idMismatch (expected : Nat) (echoed : String)
  /-- The backend reports an error of its own. -/
  | reported (code : Option Int) (message : String)
  | noResult
  | undecodable (detail : String)
  /-- The call needs a session and there is none. -/
  | unauthenticated
  deriving DecidableEq, Repr, Inhabited

namespace CallError

def message : CallError → String
  | transport detail => "transport error: " ++ detail
  | idMismatch expected echoed =>
    "response id mismatch: expected " ++ Text.showNat expected ++ ", got " ++ echoed
  | reported _ message => message
  | noResult => "no result returned"
  | undecodable detail => "failed to decode answer: " ++ detail
  | unauthenticated => "not logged in"

def isTransport : CallError → Bool
  | transport _ => true
  | _ => false

end CallError

end StorageConsole.Backend
