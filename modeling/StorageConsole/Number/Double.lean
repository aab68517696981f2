import StorageConsole.Number.Round

/-!
Binary floating point of double precision, kept as its 64 bits and computed on in exact
integer arithmetic. A magnitude is `digits * 2 ^ exponent`; a ratio of naturals is rounded to
the nearest magnitude, a tie going to the even one.
-/
namespace StorageConsole.Number

/-- A finite double, as the word of its sign, exponent and fraction bits. -/
structure Double where
  bits : UInt64
  deriving DecidableEq, Repr, Inhabited

/-- The size of a finite double: fewer than 54 binary digits, scaled by a power of two. -/
structure Magnitude where
  digits : Nat
  exponent : Int
  deriving DecidableEq, Repr, Inhabited

namespace Magnitude

/-- The exponent of the smallest positive double. -/
def least : Int := -1074

def zero : Magnitude := ⟨0, least⟩

/-- Numerator and denominator of the number that a magnitude stands for. -/
def ratio (x : Magnitude) : Nat × Nat :=
  if 0 ≤ x.exponent then (x.digits * Nat.pow 2 x.exponent.toNat, 1)
  else (x.digits, Nat.pow 2 (-x.exponent).toNat)

/-- `num / den / 2 ^ e` as a quotient of naturals. -/
def scaled (num den : Nat) (e : Int) : Nat × Nat :=
  if 0 ≤ e then (num, den * Nat.pow 2 e.toNat) else (num * Nat.pow 2 (-e).toNat, den)

/-- The exponent at which `num / den` has 53 binary digits, or the least one. -/
def exponentFor (num den : Nat) : Int :=
  let guess := max least ((num.log2 : Int) - den.log2 - 52)
  let (n, d) := scaled num den guess
  if n / d < Nat.pow 2 52 then max least (guess - 1) else guess

/-- The magnitude nearest to `num / den`, or nothing when it is too large for a double. -/
def ofRatio (num den : Nat) : Option Magnitude :=
  let e := exponentFor num den
  let (n, d) := scaled num den e
  let m := roundDiv n d
  let x : Magnitude := if m = Nat.pow 2 53 then ⟨Nat.pow 2 52, e + 1⟩ else ⟨m, e⟩
  if x.exponent ≤ 971 then some x else none

def mul (x y : Magnitude) : Option Magnitude :=
  ofRatio (x.ratio.1 * y.ratio.1) (x.ratio.2 * y.ratio.2)

def div (x y : Magnitude) : Option Magnitude :=
  ofRatio (x.ratio.1 * y.ratio.2) (x.ratio.2 * y.ratio.1)

/-- The magnitude nearest to a power of ten; every power up to 308 has one. -/
def powerOfTen (n : Nat) : Magnitude := (ofRatio (Nat.pow 10 n) 1).getD zero

/-- Whole digits scaled by a power of ten in two roundings: the digits are rounded first, and
then their product with, or quotient by, the rounded power. Nothing when the result is too large. -/
def ofDecimal (digits : Nat) (exponent : Int) : Option Magnitude := do
  let x ← ofRatio digits 1
  if digits = 0 then
    return zero
  else if 308 < exponent then
    none
  else if 0 ≤ exponent then
    x.mul (powerOfTen exponent.toNat)
  else if -308 ≤ exponent then
    x.div (powerOfTen (-exponent).toNat)
  else if -616 ≤ exponent then
    (← x.div (powerOfTen 308)).div (powerOfTen (-exponent - 308).toNat)
  else
    return zero

/-- The magnitude nearest to whole digits scaled by a power of ten, or nothing when it is too
large. Powers far outside the range of doubles are not computed. -/
def nearest (digits : Nat) (exponent : Int) : Option Magnitude :=
  let length : Int := digits.log2 / 3 + 1
  if digits = 0 ∨ length + exponent < -400 then some zero
  else if 400 < exponent then none
  else if 0 ≤ exponent then ofRatio (digits * Nat.pow 10 exponent.toNat) 1
  else ofRatio digits (Nat.pow 10 (-exponent).toNat)

/-- The word of a magnitude; a magnitude below `2 ^ 52` has the least exponent. -/
def word (x : Magnitude) : Nat :=
  if x.digits < Nat.pow 2 52 then x.digits
  else (x.exponent + 1075).toNat * Nat.pow 2 52 + (x.digits - Nat.pow 2 52)

end Magnitude

namespace Double

def ofMagnitude (negative : Bool) (x : Magnitude) : Double :=
  ⟨UInt64.ofNat ((if negative then Nat.pow 2 63 else 0) + x.word)⟩

/-- A zero without its sign, and any other double as it is. -/
def unsignedZero (x : Double) : Double := if x.bits.toNat = Nat.pow 2 63 then ⟨0⟩ else x

def isNegative (x : Double) : Bool := Nat.pow 2 63 ≤ x.bits.toNat

def magnitude (x : Double) : Magnitude :=
  let exponent : Nat := x.bits.toNat / Nat.pow 2 52 % 2048
  let fraction : Nat := x.bits.toNat % Nat.pow 2 52
  if exponent = 0 then ⟨fraction, Magnitude.least⟩
  else ⟨fraction + Nat.pow 2 52, (exponent : Int) - 1075⟩

end Double

end StorageConsole.Number
