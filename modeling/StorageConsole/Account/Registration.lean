import StorageConsole.Record.Outline

/-!
Opening an account: what is asked for, and what the backend answers.
-/
namespace StorageConsole

structure Registration where
  email : String
  name : String
  password : String
  deriving DecidableEq, Repr, Inhabited

namespace Registration

def encode (r : Registration) : Json :=
  .obj [("Email", .str r.email), ("Name", .str r.name), ("Password", .str r.password)]

def decode (j : Json) : Decoded Registration := do
  let ms ← j.members 3
  return {
    email := ← ms.required 0 "Email" Json.text
    name := ← ms.required 1 "Name" Json.text
    password := ← ms.required 2 "Password" Json.text }

def outline : Outline :=
  .record [("Email", .value), ("Name", .value), ("Password", .value)]

end Registration

/-- Whether the account was created, and what was wrong with each field. -/
structure RegistrationOutcome where
  created : Bool
  nameError : String
  emailError : String
  passwordError : String
  deriving DecidableEq, Repr, Inhabited

namespace RegistrationOutcome

/-- The first complaint that has a text. -/
def firstError (o : RegistrationOutcome) : Option String :=
  [o.nameError, o.emailError, o.passwordError].find? (!·.isEmpty)

def encode (o : RegistrationOutcome) : Json :=
  .obj [("Created", .bool o.created), ("NameError", .str o.nameError),
    ("EmailError", .str o.emailError), ("PasswordError", .str o.passwordError)]

def decode (j : Json) : Decoded RegistrationOutcome := do
  let ms ← j.members 4
  return {
    created := ← ms.withDefault 0 "Created" false Json.flag
    nameError := ← ms.withDefault 1 "NameError" "" Json.text
    emailError := ← ms.withDefault 2 "EmailError" "" Json.text
    passwordError := ← ms.withDefault 3 "PasswordError" "" Json.text }

def outline : Outline :=
  .record [("Created", .value), ("NameError", .value), ("EmailError", .value),
    ("PasswordError", .value)]

end RegistrationOutcome

end StorageConsole
