import StorageConsole.Number.Round
import StorageConsole.Text.Integer

/-!
Sizes for people: a count of bytes in the largest binary unit that it reaches. The count is first
rounded to 53 binary digits and the quotient then to a whole number, both times to the nearest
with a tie going to the even one.
-/
namespace StorageConsole.Volume

/-- A natural rounded to 53 binary digits. -/
def roundTo53 (n : Nat) : Nat :=
  let step := Nat.pow 2 (n.log2 - 52)
  Number.roundDiv n step * step

def units : List String := ["KiB", "MiB", "GiB", "TiB"]

/-- The label of `n` bytes counted in units of `1024 ^ k`, or in a larger unit if it reaches one. -/
def labelIn (n k : Nat) : List String → String
  | [] => ""
  | [unit] => Text.showNat (Number.roundDiv n (Nat.pow 1024 k)) ++ unit
  | unit :: larger =>
    if n < Nat.pow 1024 (k + 1) then Text.showNat (Number.roundDiv n (Nat.pow 1024 k)) ++ unit
    else labelIn n (k + 1) larger

/-- Anything below one kibibyte, and so every negative count, is given in bytes. -/
def sizeLabel (bytes : Int) : String :=
  match bytes with
  | .ofNat n => labelIn (roundTo53 n) 0 ("B" :: units)
  | .negSucc n => "-" ++ Text.showNat (roundTo53 (n + 1)) ++ "B"

end StorageConsole.Volume
