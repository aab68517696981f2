import StorageConsole.Number.Double
import StorageConsole.Text.Integer

/-!
The text of a double: the fewest decimal digits that read back as the same double, and of those
the nearest. At every count of digits only the two neighbours of the double on that decimal grid
are tried, since a grid that meets the interval of numbers rounding to the double has one of them
in it.
-/
namespace StorageConsole.Number

/-- The numbers that round to a double, in quarters of its last binary digit. -/
structure Interval where
  low : Nat
  value : Nat
  high : Nat
  /-- The ends belong to the interval when the digits are even. -/
  closed : Bool
  /-- The binary exponent of a quarter. -/
  exponent : Int

namespace Magnitude

/-- Below a power of two the doubles lie twice as close. -/
def interval (x : Magnitude) : Interval :=
  let narrow := x.digits = Nat.pow 2 52 ∧ least < x.exponent
  { low := 4 * x.digits - (if narrow then 1 else 2), value := 4 * x.digits
    high := 4 * x.digits + 2, closed := x.digits % 2 == 0, exponent := x.exponent - 2 }

end Magnitude

namespace Interval

/-- `num` quarters as a number of units `10 ^ e`, as a quotient of naturals. -/
def units (i : Interval) (num : Nat) (e : Int) : Nat × Nat :=
  let (n, d) := (Magnitude.mk num i.exponent).ratio
  if 0 ≤ e then (n, d * Nat.pow 10 e.toNat) else (n * Nat.pow 10 (-e).toNat, d)

/-- Whether `c * 10 ^ e` rounds to the double. -/
def holds (i : Interval) (c : Nat) (e : Int) : Bool :=
  let (ln, ld) := i.units i.low e
  let (hn, hd) := i.units i.high e
  if i.closed then ln ≤ c * ld && c * hd ≤ hn else ln < c * ld && c * hd < hn

/-- The best point of the grid `10 ^ e`, if one rounds to the double. -/
def onGrid (i : Interval) (e : Int) : Option Nat :=
  let (n, d) := i.units i.value e
  let below := n / d
  match i.holds below e, i.holds (below + 1) e with
  | true, true => if 2 * (n % d) > d || (2 * (n % d) == d && below % 2 == 1)
      then some (below + 1) else some below
  | true, false => some below
  | false, true => some (below + 1)
  | false, false => none

/-- The first of the grids `10 ^ e`, `10 ^ (e - 1)`, … that holds a point. -/
def search (i : Interval) : Nat → Int → Nat × Int
  | 0, e => (i.value, e)
  | fuel + 1, e => match i.onGrid e with
    | some c => (c, e)
    | none => search i fuel (e - 1)

/-- The position of the first digit: the largest `e` with `10 ^ e` at most the double. -/
def leading (i : Interval) : Int :=
  let (n, d) := i.units i.value 0
  if d ≤ n then (Text.decimalDigits (n / d)).length - 1
  else (Text.decimalDigits (n * Nat.pow 10 400 / d)).length - 1 - 400

end Interval

/-- Drops the zeros at the end of a digit string, which is given in reverse. -/
def dropZeros : List Char → Int → List Char × Int
  | '0' :: rest, e => dropZeros rest (e + 1)
  | ds, e => (ds, e)

/-- The digits of a positive magnitude and the power of ten of the last one. -/
def Magnitude.shortest (x : Magnitude) : List Char × Int :=
  let i := x.interval
  let (c, e) := i.search 18 i.leading
  let (ds, e) := dropZeros (Text.decimalDigits c).reverse e
  (ds.reverse, e)

/-- How a decimal is laid out: positional while the point falls between five places before the
first digit and the sixteenth place, with a power of ten otherwise. -/
def layOut (ds : List Char) (e : Int) : List Char :=
  let point := (ds.length : Int) + e
  if 0 ≤ e ∧ point ≤ 16 then
    ds ++ List.replicate e.toNat '0' ++ ['.', '0']
  else if 0 < point ∧ point ≤ 16 then
    ds.take point.toNat ++ '.' :: ds.drop point.toNat
  else if -5 < point ∧ point ≤ 0 then
    '0' :: '.' :: List.replicate (-point).toNat '0' ++ ds
  else
    let power := 'e' :: (Text.showInt (point - 1)).toList
    match ds with
    | [d] => d :: power
    | d :: rest => d :: '.' :: rest ++ power
    | [] => power

/-- The text of a double: at least one digit after the point unless a power of ten is written. -/
def Double.text (x : Double) : String :=
  let sign := if x.isNegative then ['-'] else []
  let m := x.magnitude
  let body := if m.digits = 0 then ['0', '.', '0'] else
    let (ds, e) := m.shortest
    layOut ds e
  String.ofList (sign ++ body)

end StorageConsole.Number
