import StorageConsole.Named
import StorageConsole.Number.Double

/-!
JSON values. Integers keep 64 bits and every other number is a double. The members of an object
read from text are sorted by name, and of members with one name the last is kept.
-/
namespace StorageConsole

inductive Json where
  | null
  | bool (value : Bool)
  | int (value : Int)
  | double (value : Number.Double)
  | str (text : String)
  | arr (items : List Json)
  | obj (members : List (String × Json))
  deriving BEq, Repr, Inhabited

namespace Json

mutual

def decEq : (a b : Json) → Decidable (a = b)
  | null, b => match b with
    | null => isTrue rfl
    | bool _ | int _ | double _ | str _ | arr _ | obj _ => isFalse nofun
  | bool x, b => match b with
    | bool y => if h : x = y then isTrue (h ▸ rfl) else isFalse (by simpa using h)
    | null | int _ | double _ | str _ | arr _ | obj _ => isFalse nofun
  | int x, b => match b with
    | int y => if h : x = y then isTrue (h ▸ rfl) else isFalse (by simpa using h)
    | null | bool _ | double _ | str _ | arr _ | obj _ => isFalse nofun
  | double x, b => match b with
    | double y => if h : x = y then isTrue (h ▸ rfl) else isFalse (by simpa using h)
    | null | bool _ | int _ | str _ | arr _ | obj _ => isFalse nofun
  | str x, b => match b with
    | str y => if h : x = y then isTrue (h ▸ rfl) else isFalse (by simpa using h)
    | null | bool _ | int _ | double _ | arr _ | obj _ => isFalse nofun
  | arr xs, b => match b with
    | arr ys => match decEqItems xs ys with
      | isTrue h => isTrue (h ▸ rfl)
      | isFalse h => isFalse (by simpa using h)
    | null | bool _ | int _ | double _ | str _ | obj _ => isFalse nofun
  | obj xs, b => match b with
    | obj ys => match decEqMembers xs ys with
      | isTrue h => isTrue (h ▸ rfl)
      | isFalse h => isFalse (by simpa using h)
    | null | bool _ | int _ | double _ | str _ | arr _ => isFalse nofun

def decEqItems : (xs ys : List Json) → Decidable (xs = ys)
  | [], [] => isTrue rfl
  | [], _ :: _ | _ :: _, [] => isFalse nofun
  | x :: xs, y :: ys => match decEq x y, decEqItems xs ys with
    | isTrue h, isTrue g => isTrue (by rw [h, g])
    | isFalse h, _ => isFalse (by simp [h])
    | _, isFalse g => isFalse (by simp [g])

def decEqMembers : (xs ys : List (String × Json)) → Decidable (xs = ys)
  | [], [] => isTrue rfl
  | [], _ :: _ | _ :: _, [] => isFalse nofun
  | (k, x) :: xs, (l, y) :: ys =>
    if hk : k = l then match decEq x y, decEqMembers xs ys with
      | isTrue h, isTrue g => isTrue (by rw [hk, h, g])
      | isFalse h, _ => isFalse (by simp [h])
      | _, isFalse g => isFalse (by simp [g])
    else isFalse (by simp [hk])

end

instance : DecidableEq Json := decEq

mutual

/-- The value with a zero in the place of each negative zero. -/
def unsignedZeros : Json → Json
  | double value => double value.unsignedZero
  | arr items => arr (unsignedZerosItems items)
  | obj members => obj (unsignedZerosMembers members)
  | null => null
  | bool value => bool value
  | int value => int value
  | str text => str text

def unsignedZerosItems : List Json → List Json
  | [] => []
  | item :: items => item.unsignedZeros :: unsignedZerosItems items

def unsignedZerosMembers : List (String × Json) → List (String × Json)
  | [] => []
  | (name, value) :: members => (name, value.unsignedZeros) :: unsignedZerosMembers members

end

/-- Whether two values are equal, as numbers are: the sign of a zero does not count. -/
def isSame (x y : Json) : Bool := x.unsignedZeros == y.unsignedZeros

/-- The text of a string value. -/
def asText? : Json → Option String
  | str text => some text
  | _ => none

/-- An integer that is not negative. -/
def asUnsigned? : Json → Option Nat
  | int value => if 0 ≤ value then some value.toNat else none
  | _ => none

/-- An integer of 63 bits and a sign. -/
def asSigned? : Json → Option Int
  | int value =>
    if Int64.minValue.toInt ≤ value ∧ value ≤ Int64.maxValue.toInt then some value else none
  | _ => none

end Json

/-- The members of a JSON object. -/
abbrev Object := Named Json

def Object.toJson (x : Object) : Json := .obj x.entries

end StorageConsole
