import StorageConsole.Json.Text
import StorageConsole.Record.Outline
import StorageConsole.Text.Quoted

/-!
Who is logged in. Before the login the credentials hold what was typed in; the profile that the
backend answers is merged into them and the password is kept.
-/
namespace StorageConsole

structure Credentials where
  id : Option String
  name : String
  email : Option String
  emailHash : Option String
  password : String
  /-- Whether the session outlives the program. -/
  remember : Bool
  deriving DecidableEq, Repr, Inhabited

/-- What the backend tells about a user. -/
structure Profile where
  id : String
  name : String
  email : Option String
  emailHash : Option String
  deriving DecidableEq, Repr, Inhabited

/-- A member that stands only when it has a value. -/
def optionalMember (name : String) (value : Option String) : List (String × Json) :=
  match value with
  | some text => [(name, .str text)]
  | none => []

namespace Profile

/-- A profile without an id names nobody. -/
def isValid (p : Profile) : Bool := !p.id.isEmpty

def empty : Profile := ⟨"", "", none, none⟩

def encode (p : Profile) : Json :=
  .obj ([("Id", .str p.id), ("Name", .str p.name)]
    ++ optionalMember "Email" p.email ++ optionalMember "EmailHash" p.emailHash)

def decode (j : Json) : Decoded Profile := do
  let ms ← j.members 4
  return {
    id := ← ms.withDefault 0 "Id" "" Json.text
    name := ← ms.withDefault 1 "Name" "" Json.text
    email := ← ms.withDefault 2 "Email" none (Json.optional Json.text)
    emailHash := ← ms.withDefault 3 "EmailHash" none (Json.optional Json.text) }

def outline : Outline :=
  .record [("Id", .value), ("Name", .value), ("Email", .value), ("EmailHash", .value)]

end Profile

namespace Credentials

/-- Credentials as typed in. -/
def typed (name password : String) : Credentials := ⟨none, name, none, none, password, false⟩

def empty : Credentials := typed "" ""

/-- The profile's fields win where it has them, the password is kept. -/
def merge (c : Credentials) (p : Profile) : Credentials where
  id := some p.id
  name := if p.name.isEmpty then c.name else p.name
  email := p.email <|> c.email
  emailHash := p.emailHash
  password := c.password
  remember := c.remember

/-- Options are left out when absent, and `Remember` when false. -/
def encode (c : Credentials) : Json :=
  .obj (optionalMember "Id" c.id ++ [("Name", .str c.name)]
    ++ optionalMember "Email" c.email ++ optionalMember "EmailHash" c.emailHash
    ++ [("Password", .str c.password)]
    ++ if c.remember then [("Remember", .bool true)] else [])

def decode (j : Json) : Decoded Credentials := do
  let ms ← j.members 6
  return {
    id := ← ms.withDefault 0 "Id" none (Json.optional Json.text)
    name := ← ms.withDefault 1 "Name" "" Json.text
    email := ← ms.withDefault 2 "Email" none (Json.optional Json.text)
    emailHash := ← ms.withDefault 3 "EmailHash" none (Json.optional Json.text)
    password := ← ms.withDefault 4 "Password" "" Json.text
    remember := ← ms.withDefault 5 "Remember" false Json.flag }

def outline : Outline :=
  .record [("Id", .value), ("Name", .value), ("Email", .value), ("EmailHash", .value),
    ("Password", .value), ("Remember", .value)]

def describeOption : Option String → String
  | some text => "Some(" ++ Text.quoted text ++ ")"
  | none => "None"

/-- A description for people, which hides the password. -/
def describe (c : Credentials) : String :=
  "Credentials \x7b id: " ++ describeOption c.id ++ ", name: " ++ Text.quoted c.name
    ++ ", email: " ++ describeOption c.email ++ ", password: \"<redacted>\", remember: "
    ++ (if c.remember then "true" else "false") ++ " \x7d"

/-- The text under which a session is stored. -/
def toText (c : Credentials) : String := c.encode.compact

def ofText (text : String) : Decoded Credentials := decodeText outline decode text

end Credentials

end StorageConsole
