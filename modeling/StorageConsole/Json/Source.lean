import StorageConsole.Json.Basic
import StorageConsole.Text.Integer

/-!
JSON as written. The reader accepts exactly the grammar of RFC 8259 and keeps what a value would
lose: repeated members, digits beyond every range, escapes of lone surrogates. `toJson?` then
takes the value, and refuses what has none or nests too deep.
-/
namespace StorageConsole.Json

/-- A number as its runs of digits. -/
structure NumberText where
  negative : Bool
  whole : List Char
  fraction : Option (List Char)
  /-- Whether the power of ten is negative, and its digits. -/
  power : Option (Bool × List Char)
  deriving DecidableEq, Repr, Inhabited

/-- A JSON text's structure. A string with an escaped surrogate that has no partner has no text. -/
inductive Source where
  | null
  | bool (value : Bool)
  | number (text : NumberText)
  | string (text : Option String)
  | array (items : List Source)
  | object (members : List (Option String × Source))
  deriving BEq, Repr, Inhabited

namespace Source

def isSpace (c : Char) : Bool := c == ' ' || c == '\n' || c == '\t' || c == '\r'

def skip (cs : List Char) : List Char := cs.dropWhile isSpace

def hexValue (c : Char) : Option Nat :=
  if '0' ≤ c ∧ c ≤ '9' then some (c.toNat - 48)
  else if 'a' ≤ c ∧ c ≤ 'f' then some (c.toNat - 87)
  else if 'A' ≤ c ∧ c ≤ 'F' then some (c.toNat - 55)
  else none

def hexUnit (a b c d : Char) : Option Nat := do
  let high := (← hexValue a) * 16 + (← hexValue b)
  let low := (← hexValue c) * 16 + (← hexValue d)
  return high * 256 + low

/-- A character of a string, or a 16-bit unit written as an escape. -/
inductive Piece where
  | char (c : Char)
  | unit (n : Nat)
  deriving DecidableEq, Repr

def isHigh (n : Nat) : Bool := 0xD800 ≤ n && n < 0xDC00

def isLow (n : Nat) : Bool := 0xDC00 ≤ n && n < 0xE000

/-- Joins the two halves of a surrogate pair; a half without its partner has no text. -/
def join : List Piece → Option (List Char)
  | [] => some []
  | .char c :: rest => (join rest).map (c :: ·)
  | .unit n :: .unit m :: rest =>
    if isHigh n then
      if isLow m then
        (join rest).map (Char.ofNat (0x10000 + (n - 0xD800) * 0x400 + (m - 0xDC00)) :: ·)
      else none
    else if isLow n then none
    else (join (.unit m :: rest)).map (Char.ofNat n :: ·)
  | .unit n :: rest =>
    if isHigh n || isLow n then none else (join rest).map (Char.ofNat n :: ·)

/-- The pieces of a string up to its closing quote, and the rest of the text. -/
def pieces : List Char → Option (List Piece × List Char)
  | [] => none
  | '\"' :: rest => some ([], rest)
  | '\\' :: 'u' :: a :: b :: c :: d :: rest => do
    let n ← hexUnit a b c d
    let (ps, rest) ← pieces rest
    return (.unit n :: ps, rest)
  | '\\' :: e :: rest => do
    let c ← match e with
      | '\"' => some '\"'
      | '\\' => some '\\'
      | '/' => some '/'
      | 'b' => some '\x08'
      | 'f' => some '\x0c'
      | 'n' => some '\n'
      | 'r' => some '\r'
      | 't' => some '\t'
      | _ => none
    let (ps, rest) ← pieces rest
    return (.char c :: ps, rest)
  | c :: rest =>
    if c = '\\' ∨ c.toNat < 32 then none else do
      let (ps, rest) ← pieces rest
      return (.char c :: ps, rest)

/-- A string after its opening quote. -/
def readString (cs : List Char) : Option (Option String × List Char) := do
  let (ps, rest) ← pieces cs
  return ((join ps).map String.ofList, rest)

def digits (cs : List Char) : List Char × List Char := cs.span Char.isDigit

/-- A run of at least one digit. -/
def someDigits (cs : List Char) : Option (List Char × List Char) :=
  match digits cs with
  | ([], _) => none
  | split => some split

/-- A zero may begin a number only when it is the whole part. -/
def readWhole : List Char → Option (List Char × List Char)
  | '0' :: c :: rest => if c.isDigit then none else some (['0'], c :: rest)
  | cs => someDigits cs

def readFraction : List Char → Option (Option (List Char) × List Char)
  | '.' :: rest => (someDigits rest).map fun (ds, rest) => (some ds, rest)
  | cs => some (none, cs)

def readPower : List Char → Option (Option (Bool × List Char) × List Char)
  | c :: rest =>
    if c = 'e' ∨ c = 'E' then
      match rest with
      | '-' :: rest => (someDigits rest).map fun (ds, rest) => (some (true, ds), rest)
      | '+' :: rest => (someDigits rest).map fun (ds, rest) => (some (false, ds), rest)
      | _ => (someDigits rest).map fun (ds, rest) => (some (false, ds), rest)
    else some (none, c :: rest)
  | [] => some (none, [])

def readNumber (cs : List Char) : Option (NumberText × List Char) := do
  let (negative, cs) := match cs with
    | '-' :: rest => (true, rest)
    | _ => (false, cs)
  let (whole, cs) ← readWhole cs
  let (fraction, cs) ← readFraction cs
  let (power, cs) ← readPower cs
  return (⟨negative, whole, fraction, power⟩, cs)

mutual

def readValue : Nat → List Char → Option (Source × List Char)
  | 0, _ => none
  | fuel + 1, cs =>
    match skip cs with
    | 'n' :: 'u' :: 'l' :: 'l' :: rest => some (.null, rest)
    | 't' :: 'r' :: 'u' :: 'e' :: rest => some (.bool true, rest)
    | 'f' :: 'a' :: 'l' :: 's' :: 'e' :: rest => some (.bool false, rest)
    | '\"' :: rest => (readString rest).map fun (text, rest) => (.string text, rest)
    | '[' :: rest =>
      match skip rest with
      | ']' :: rest => some (.array [], rest)
      | rest => (readItems fuel rest).map fun (items, rest) => (.array items, rest)
    | '\x7b' :: rest =>
      match skip rest with
      | '\x7d' :: rest => some (.object [], rest)
      | rest => (readMembers fuel rest).map fun (members, rest) => (.object members, rest)
    | cs => (readNumber cs).map fun (text, rest) => (.number text, rest)

/-- The items of an array from its first one to the closing bracket. -/
def readItems : Nat → List Char → Option (List Source × List Char)
  | 0, _ => none
  | fuel + 1, cs => do
    let (item, rest) ← readValue fuel cs
    match skip rest with
    | ']' :: rest => return ([item], rest)
    | ',' :: rest =>
      let (items, rest) ← readItems fuel rest
      return (item :: items, rest)
    | _ => none

/-- The members of an object from its first one to the closing brace. -/
def readMembers : Nat → List Char → Option (List (Option String × Source) × List Char)
  | 0, _ => none
  | fuel + 1, cs =>
    match skip cs with
    | '\"' :: rest => do
      let (name, rest) ← readString rest
      match skip rest with
      | ':' :: rest =>
        let (value, rest) ← readValue fuel rest
        match skip rest with
        | '\x7d' :: rest => return ([(name, value)], rest)
        | ',' :: rest =>
          let (members, rest) ← readMembers fuel rest
          return ((name, value) :: members, rest)
        | _ => none
      | _ => none
    | _ => none

end

/-- Reads a whole text; every character lets the reader descend at most twice. -/
def read? (cs : List Char) : Option Source :=
  match readValue (2 * cs.length + 2) cs with
  | some (source, rest) => if (skip rest).isEmpty then some source else none
  | none => none

end Source

namespace NumberText

/-- Takes digits while the number stays below `2 ^ 64`; the rest of the digits is returned. -/
def accumulate (n : Nat) : List Char → Nat × List Char
  | [] => (n, [])
  | d :: ds =>
    let next := n * 10 + (d.toNat - 48)
    if next < UInt64.size then accumulate next ds else (n, d :: ds)

/-- The value of an exponent's digits, unless it leaves the range of 31 bits. -/
def exponentValue (n : Nat) : List Char → Option Nat
  | [] => some n
  | d :: ds =>
    let next := n * 10 + (d.toNat - 48)
    if next < Nat.pow 2 31 then exponentValue next ds else none

/-- A number without fraction and exponent is an integer as long as 64 bits hold it; minus zero
and everything else is a double. Digits after the nineteenth or twentieth only scale it. A number
beyond the range of doubles has no value. -/
def toJson? (x : NumberText) : Option Json := do
  let (whole, surplus) := accumulate 0 x.whole
  let float (digits : Nat) (exponent : Int) : Option Json := do
    let magnitude ← Number.Magnitude.ofDecimal digits exponent
    return .double (.ofMagnitude x.negative magnitude)
  if x.fraction.isNone && x.power.isNone && surplus.isEmpty then
    if !x.negative then return .int whole
    else if 0 < whole ∧ whole ≤ Nat.pow 2 63 then return .int (-(whole : Int))
    else float whole 0
  else
    let fraction := x.fraction.getD []
    let (digits, dropped) := accumulate whole fraction
    let exponent : Int := surplus.length - (fraction.length - dropped.length : Nat)
    match x.power with
    | none => float digits exponent
    | some (negative, ds) =>
      match exponentValue 0 ds with
      | some n => float digits (if negative then exponent - n else exponent + n)
      | none => if digits = 0 || negative then float 0 0 else none

end NumberText

namespace Source

mutual

/-- The value of a text whose arrays and objects may nest `room` deep. -/
def toJson? (room : Nat) : Source → Option Json
  | null => some .null
  | bool value => some (.bool value)
  | number text => text.toJson?
  | string text => text.map .str
  | array items => match room with
    | 0 => none
    | room + 1 => (itemsToJson? room items).map .arr
  | object members => match room with
    | 0 => none
    | room + 1 => (membersToJson? room members).map fun ms => .obj (Named.ofList ms).entries

def itemsToJson? (room : Nat) : List Source → Option (List Json)
  | [] => some []
  | x :: xs => do return (← toJson? room x) :: (← itemsToJson? room xs)

def membersToJson? (room : Nat) : List (Option String × Source) → Option (List (String × Json))
  | [] => some []
  | (name, x) :: xs => do return ((← name), (← toJson? room x)) :: (← membersToJson? room xs)

end

/-- Arrays and objects nest at most this deep. -/
def maxDepth : Nat := 127

end Source

/-- The value that a text stands for. -/
def parse? (text : String) : Option Json :=
  (Source.read? text.toList).bind (Source.toJson? Source.maxDepth)

end StorageConsole.Json
