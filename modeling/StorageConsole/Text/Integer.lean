/-!
Integers written in decimal digits, read within the range of a 64-bit word. A sign may stand in
front, leading zeros are allowed, and nothing else may stand before or after the digits.
-/
namespace StorageConsole.Text

/-- The value of a run of decimal digits, each taken after `start`. -/
def digitsValue (start : Nat) (ds : List Char) : Nat :=
  ds.foldl (fun n d => n * 10 + (d.toNat - 48)) start

/-- The number written by a non-empty run of decimal digits. -/
def readDigits (cs : List Char) : Option Nat :=
  if cs.isEmpty || !cs.all Char.isDigit then none else some (digitsValue 0 cs)

/-- An unsigned 64-bit integer; a plus sign is allowed. -/
def readUnsigned (cs : List Char) : Option Nat :=
  let digits := match cs with
    | '+' :: rest => rest
    | _ => cs
  (readDigits digits).filter (· < UInt64.size)

/-- A signed 64-bit integer. -/
def readSigned (cs : List Char) : Option Int :=
  match cs with
  | '-' :: rest => ((readDigits rest).filter (· ≤ Nat.pow 2 63)).map fun n => -(n : Int)
  | '+' :: rest => ((readDigits rest).filter (· < Nat.pow 2 63)).map fun n => (n : Int)
  | _ => ((readDigits cs).filter (· < Nat.pow 2 63)).map fun n => (n : Int)

/-- The decimal digits of a number, most significant first. -/
def decimalDigits (n : Nat) : List Char := Nat.toDigits 10 n

def showNat (n : Nat) : String := String.ofList (decimalDigits n)

def showInt : Int → String
  | .ofNat n => showNat n
  | .negSucc n => "-" ++ showNat (n + 1)

end StorageConsole.Text
