import StorageConsole.Json.Basic

/-!
Decoding of JSON values into records. A record is an object whose members are looked up by name,
or an array of its members in the order of their declaration; unknown members of an object are
skipped, surplus items of an array are refused. Types are strict: no number is read from a string
and no integer from a double.
-/
namespace StorageConsole

inductive DecodeError where
  | notJson
  | unexpected (wanted : String)
  | missing (member : String)
  | repeated (member : String)
  | surplus (most : Nat)
  deriving DecidableEq, Repr

namespace DecodeError

def message : DecodeError → String
  | notJson => "not a JSON text"
  | unexpected wanted => "expected " ++ wanted
  | missing member => "missing member " ++ member
  | repeated member => "repeated member " ++ member
  | surplus most => "more than " ++ toString most ++ " members"

end DecodeError

/-- The result of decoding a value. -/
abbrev Decoded (α : Type) := Except DecodeError α

/-- What one step after another has yielded, both have. -/
theorem exists_ok_of_bind {ε α β : Type} {x : Except ε α} {f : α → Except ε β} {b : β}
    (h : x >>= f = .ok b) : ∃ a, x = .ok a ∧ f a = .ok b := by
  cases x with
  | error _ => cases h
  | ok a => exact ⟨a, rfl, h⟩

namespace Json

def text : Json → Decoded String
  | str value => .ok value
  | _ => .error (.unexpected "a string")

def flag : Json → Decoded Bool
  | bool value => .ok value
  | _ => .error (.unexpected "a boolean")

def int64 (j : Json) : Decoded Int64 :=
  match j.asSigned? with
  | some value => .ok (.ofInt value)
  | none => .error (.unexpected "a 64-bit integer")

/-- An unsigned 64-bit integer. -/
def count (j : Json) : Decoded Nat :=
  match j.asUnsigned? with
  | some value => .ok value
  | none => .error (.unexpected "a count")

/-- Null is the absent value. -/
def optional {α : Type} (decode : Json → Decoded α) : Json → Decoded (Option α)
  | null => .ok none
  | j => (decode j).map some

/-- Null is the default value. -/
def nullable {α : Type} (default : α) (decode : Json → Decoded α) : Json → Decoded α
  | null => .ok default
  | j => decode j

def decodeItems {α : Type} (decode : Json → Decoded α) : List Json → Decoded (List α)
  | [] => .ok []
  | x :: xs => do return (← decode x) :: (← decodeItems decode xs)

def list {α : Type} (decode : Json → Decoded α) : Json → Decoded (List α)
  | arr items => decodeItems decode items
  | _ => .error (.unexpected "a list")

def decodeEntries {α : Type} (decode : Json → Decoded α) :
    List (String × Json) → Decoded (List (String × α))
  | [] => .ok []
  | (name, x) :: xs => do return (name, (← decode x)) :: (← decodeEntries decode xs)

/-- An object whose members all have one type. -/
def named {α : Type} (decode : Json → Decoded α) : Json → Decoded (Named α)
  | obj members => (decodeEntries decode members).map Named.ofList
  | _ => .error (.unexpected "an object")

end Json

/-- The members that a record is decoded from. -/
inductive Members where
  | byName (members : List (String × Json))
  | byPlace (items : List Json)
  deriving Repr

/-- The members of a record that declares `count` of them. -/
def Json.members (count : Nat) : Json → Decoded Members
  | obj members => .ok (.byName members)
  | arr items => if items.length ≤ count then .ok (.byPlace items) else .error (.surplus count)
  | _ => .error (.unexpected "a record")

namespace Members
variable {α : Type}

/-- The member declared at `place`, if it is given. -/
def get? (ms : Members) (place : Nat) (name : String) : Option Json :=
  match ms with
  | byName members => member? members name
  | byPlace items => items[place]?

def required (ms : Members) (place : Nat) (name : String) (decode : Json → Decoded α) :
    Decoded α :=
  match ms.get? place name with
  | some j => decode j
  | none => .error (.missing name)

/-- A member that may be left out. -/
def withDefault (ms : Members) (place : Nat) (name : String) (default : α)
    (decode : Json → Decoded α) : Decoded α :=
  match ms.get? place name with
  | some j => decode j
  | none => .ok default

end Members

end StorageConsole
