import StorageConsole.Account.Credentials
import StorageConsole.Text.Base64

/-!
The authorization of a request: name and password in base64, as the basic scheme has it.
-/
namespace StorageConsole.Backend

def basicToken (c : Credentials) : String :=
  "Basic " ++ Text.Base64.encodeText (c.name ++ ":" ++ c.password)

/-- Credentials without a name authorize nothing. -/
def authorization? (c : Option Credentials) : Option String :=
  match c with
  | some c => if c.name.isEmpty then none else some (basicToken c)
  | none => none

end StorageConsole.Backend
