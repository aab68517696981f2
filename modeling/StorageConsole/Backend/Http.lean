import StorageConsole.Backend.Client

/-!
Requests and replies as bytes, by HTTP version 1.0: a connection carries one request, and a reply's
body ends where the connection ends.
-/
namespace StorageConsole.Backend.Http

/-- Where a URL leads. -/
structure Address where
  host : String
  service : Nat
  /-- The path together with the query. -/
  target : List Char
  deriving DecidableEq, Repr

def afterScheme? : List Char → Option (List Char)
  | 'h' :: 't' :: 't' :: 'p' :: ':' :: '/' :: '/' :: rest => some rest
  | _ => none

/-- The number of the service that stands behind a host's name. -/
def service? : List Char → Option Nat
  | [] => some 80
  | _ :: digits => (Text.readDigits digits).filter (· < 65536)

/-- The address of a URL without encryption. -/
def Address.ofUrl? (url : String) : Option Address := do
  let rest ← afterScheme? url.toList
  let (authority, target) := rest.span fun c => c != '/' && c != '?' && c != '#'
  let (host, service) := authority.span (· != ':')
  if host.isEmpty then none
  else
    let target := target.takeWhile (· != '#')
    some {
      host := String.ofList host
      service := ← service? service
      target := if target.head? = some '/' then target else '/' :: target }

def percent (byte : UInt8) : List Char :=
  ['%', Nat.digitChar (byte.toNat / 16), Nat.digitChar (byte.toNat % 16)]

/-- Only visible characters of ASCII may stand in a request's first line. -/
def targetChar (c : Char) : List Char :=
  if '!' ≤ c ∧ c ≤ '~' then [c] else (String.ofList [c]).toUTF8.toList.flatMap percent

def lineEnd : String := "\r\n"

def head (address : Address) (request : Request) (length : Nat) : String :=
  let authorization := request.authorization.toList.map ("Authorization: " ++ ·)
  let lines := ["POST " ++ String.ofList (address.target.flatMap targetChar) ++ " HTTP/1.0",
    "Host: " ++ address.host ++ ":" ++ Text.showNat address.service,
    "Content-Type: application/json",
    "Content-Length: " ++ Text.showNat length] ++ authorization
  String.join (lines.map (· ++ lineEnd)) ++ lineEnd

/-- What is sent to the address. -/
def message (address : Address) (request : Request) : ByteArray :=
  let body := request.body.compact.toUTF8
  (head address request body.size).toUTF8 ++ body

/-- The bytes behind the first empty line. -/
def body? : List UInt8 → Option (List UInt8)
  | 13 :: 10 :: 13 :: 10 :: rest => some rest
  | _ :: rest => body? rest
  | [] => none

/-- The number behind the first space. -/
def status? (bytes : List UInt8) : Option Nat :=
  let digits := ((bytes.dropWhile (· != 32)).drop 1).takeWhile fun b => b != 32 && b != 13
  Text.readDigits (digits.map fun b => Char.ofNat b.toNat)

/-- The reply in all that was received; what is no reply counts as none. -/
def reply (bytes : List UInt8) : Reply :=
  match status? bytes, body? bytes with
  | some status, some body => .received status ⟨body.toArray⟩
  | _, _ => .unreachable

end StorageConsole.Backend.Http
