/-!
The base64 alphabet with padding: three bytes become four characters, and a last group of one
or two bytes is filled up with equals signs.
-/
namespace StorageConsole.Text.Base64

/-- The 64 characters, in the order of their values. -/
def alphabet : List Char :=
  "ABCDEFGHIJKLMNOPQRSTUVWXYZabcdefghijklmnopqrstuvwxyz0123456789+/".toList

def symbol (value : Nat) : Char := alphabet.getD (value % 64) '='

def encode : List UInt8 → List Char
  | [] => []
  | [a] =>
    let n := a.toNat * 65536
    [symbol (n / 262144), symbol (n / 4096), '=', '=']
  | [a, b] =>
    let n := a.toNat * 65536 + b.toNat * 256
    [symbol (n / 262144), symbol (n / 4096), symbol (n / 64), '=']
  | a :: b :: c :: rest =>
    let n := a.toNat * 65536 + b.toNat * 256 + c.toNat
    symbol (n / 262144) :: symbol (n / 4096) :: symbol (n / 64) :: symbol n :: encode rest

def value? (c : Char) : Option Nat := alphabet.idxOf? c

/-- The bytes of a group of four characters, `drop` of which are filled up. -/
def group (a b c d : Nat) (drop : Nat) : List UInt8 :=
  let n := ((a * 64 + b) * 64 + c) * 64 + d
  [UInt8.ofNat (n / 65536), UInt8.ofNat (n / 256), UInt8.ofNat n].take (3 - drop)

/-- The bytes that a text stands for; only its last group may be filled up. -/
def decode : List Char → Option (List UInt8)
  | [] => some []
  | [a, b, '=', '='] => do return group (← value? a) (← value? b) 0 0 2
  | [a, b, c, '='] => do return group (← value? a) (← value? b) (← value? c) 0 1
  | a :: b :: c :: d :: rest => do
    let bytes := group (← value? a) (← value? b) (← value? c) (← value? d) 0
    return bytes ++ (← decode rest)
  | _ => none

/-- The base64 text of a string's UTF-8 bytes. -/
def encodeText (text : String) : String :=
  String.ofList (encode text.toUTF8.toList)

end StorageConsole.Text.Base64
