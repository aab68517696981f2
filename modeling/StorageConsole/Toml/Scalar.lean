import StorageConsole.Text.Integer
import StorageConsole.Toml.Value

/-!
Strings, numbers and dates of TOML. A reader takes what it can from the front of a text and returns
the rest; line ends are single newlines here.
-/
namespace StorageConsole.Toml

/-- Anything but control characters; the tab is allowed. -/
def isPlain (c : Char) : Bool := c == '\t' || (32 ≤ c.toNat && c.toNat != 127)

def isSpace (c : Char) : Bool := c == ' ' || c == '\t'

def skipSpaces (cs : List Char) : List Char := cs.dropWhile isSpace

def hexValue? (c : Char) : Option Nat :=
  if c.isDigit then some (c.toNat - 48)
  else if 'a' ≤ c ∧ c ≤ 'f' then some (c.toNat - 87)
  else if 'A' ≤ c ∧ c ≤ 'F' then some (c.toNat - 55)
  else none

/-- The character of a code point given in hexadecimal. -/
def codePoint? (digits : List Char) : Option Char := do
  let n := (← digits.mapM hexValue?).foldl (fun n d => n * 16 + d) 0
  if n < 0xD800 ∨ (0xDFFF < n ∧ n < 0x110000) then some (Char.ofNat n) else none

def escaped? : Char → Option Char
  | 'b' => some '\x08'
  | 't' => some '\t'
  | 'n' => some '\n'
  | 'f' => some '\x0c'
  | 'r' => some '\r'
  | '\"' => some '\"'
  | '\\' => some '\\'
  | _ => none

/-- Puts a character in front of what has been read. -/
def push (c : Char) (r : List Char × List Char) : List Char × List Char := (c :: r.1, r.2)

/-- A string after its opening quote. -/
def quotedText : List Char → Option (List Char × List Char)
  | [] => none
  | '\"' :: rest => some ([], rest)
  | '\\' :: 'u' :: a :: b :: c :: d :: rest => do
    return push (← codePoint? [a, b, c, d]) (← quotedText rest)
  | '\\' :: 'U' :: a :: b :: c :: d :: e :: f :: g :: h :: rest => do
    return push (← codePoint? [a, b, c, d, e, f, g, h]) (← quotedText rest)
  | '\\' :: c :: rest => do return push (← escaped? c) (← quotedText rest)
  | c :: rest => if isPlain c && c != '\\' then (quotedText rest).map (push c) else none

/-- A string of several lines after its opening quotes. A backslash at the end of a line skips
everything up to the next character that is not blank; one or two quotes may stand before the
closing ones. -/
def quotedLines (skipping : Bool) : List Char → Option (List Char × List Char)
  | [] => none
  | '\"' :: '\"' :: '\"' :: '\"' :: '\"' :: rest => some (['\"', '\"'], rest)
  | '\"' :: '\"' :: '\"' :: '\"' :: rest => some (['\"'], rest)
  | '\"' :: '\"' :: '\"' :: rest => some ([], rest)
  | '\\' :: 'u' :: a :: b :: c :: d :: rest => do
    return push (← codePoint? [a, b, c, d]) (← quotedLines false rest)
  | '\\' :: 'U' :: a :: b :: c :: d :: e :: f :: g :: h :: rest => do
    return push (← codePoint? [a, b, c, d, e, f, g, h]) (← quotedLines false rest)
  | '\\' :: c :: rest =>
    if isSpace c || c == '\n' then
      match skipSpaces (c :: rest) with
      | '\n' :: _ => quotedLines true rest
      | _ => none
    else do
      return push (← escaped? c) (← quotedLines false rest)
  | c :: rest =>
    if skipping && (isSpace c || c == '\n') then quotedLines true rest
    else if (isPlain c || c == '\n') && c != '\\' then (quotedLines false rest).map (push c)
    else none

/-- A literal string after its opening apostrophe. -/
def literalText : List Char → Option (List Char × List Char)
  | [] => none
  | '\'' :: rest => some ([], rest)
  | c :: rest => if isPlain c then (literalText rest).map (push c) else none

def literalLines : List Char → Option (List Char × List Char)
  | [] => none
  | '\'' :: '\'' :: '\'' :: '\'' :: '\'' :: rest => some (['\'', '\''], rest)
  | '\'' :: '\'' :: '\'' :: '\'' :: rest => some (['\''], rest)
  | '\'' :: '\'' :: '\'' :: rest => some ([], rest)
  | c :: rest => if isPlain c || c == '\n' then (literalLines rest).map (push c) else none

/-- A line end right after the opening quotes does not count. -/
def dropLineEnd : List Char → List Char
  | '\n' :: rest => rest
  | cs => cs

def readText? : List Char → Option (String × List Char)
  | '\"' :: '\"' :: '\"' :: rest =>
    (quotedLines false (dropLineEnd rest)).map fun (cs, rest) => (String.ofList cs, rest)
  | '\'' :: '\'' :: '\'' :: rest =>
    (literalLines (dropLineEnd rest)).map fun (cs, rest) => (String.ofList cs, rest)
  | '\"' :: rest => (quotedText rest).map fun (cs, rest) => (String.ofList cs, rest)
  | '\'' :: rest => (literalText rest).map fun (cs, rest) => (String.ofList cs, rest)
  | _ => none

/-- Digits behind a first one, with single underscores between them. -/
def moreDigits (isDigit : Char → Bool) : List Char → List Char × List Char
  | '_' :: c :: rest =>
    if isDigit c then push c (moreDigits isDigit rest) else ([], '_' :: c :: rest)
  | c :: rest => if isDigit c then push c (moreDigits isDigit rest) else ([], c :: rest)
  | [] => ([], [])

def digits? (isDigit : Char → Bool) : List Char → Option (List Char × List Char)
  | c :: rest => if isDigit c then some (push c (moreDigits isDigit rest)) else none
  | [] => none

/-- Digits without a zero in front. -/
def wholeDigits? : List Char → Option (List Char × List Char)
  | '0' :: rest => some (['0'], rest)
  | cs => digits? Char.isDigit cs

def sign : List Char → Bool × List Char
  | '-' :: rest => (true, rest)
  | '+' :: rest => (false, rest)
  | cs => (false, cs)

/-- A signed 64-bit integer. -/
def inRange? (n : Int) : Option Value :=
  if Int64.minValue.toInt ≤ n ∧ n ≤ Int64.maxValue.toInt then some (.int n) else none

def valueIn (base : Nat) (ds : List Char) : Nat :=
  ds.foldl (fun n d => n * base + (hexValue? d).getD 0) 0

/-- Digits of another base behind their mark. -/
def readBase? (base : Nat) (cs : List Char) : Option (Value × List Char) := do
  let (ds, rest) ← digits? (fun c => (hexValue? c).any (· < base)) cs
  return (← inRange? (valueIn base ds), rest)

def readInteger? : List Char → Option (Value × List Char)
  | '0' :: 'x' :: rest => readBase? 16 rest
  | '0' :: 'o' :: rest => readBase? 8 rest
  | '0' :: 'b' :: rest => readBase? 2 rest
  | cs => do
    let (negative, cs) := sign cs
    let (ds, rest) ← wholeDigits? cs
    let n := Text.digitsValue 0 ds
    return (← inRange? (if negative then -(n : Int) else n), rest)

def infinity (negative : Bool) : Number.Double :=
  ⟨if negative then 0xFFF0000000000000 else 0x7FF0000000000000⟩

def notANumber (negative : Bool) : Number.Double :=
  ⟨if negative then 0xFFF8000000000000 else 0x7FF8000000000000⟩

/-- The double nearest to a decimal; only a negative one may be too large. -/
def decimal? (negative : Bool) (digits : Nat) (exponent : Int) : Option Value :=
  match Number.Magnitude.nearest digits exponent with
  | some magnitude => some (.float (.ofMagnitude negative magnitude))
  | none => if negative then some (.float (infinity true)) else none

def readFraction? : List Char → Option (List Char × List Char)
  | '.' :: rest => digits? Char.isDigit rest
  | _ => none

/-- A power of ten behind its mark. -/
def readPower? : List Char → Option (Int × List Char)
  | c :: rest =>
    if c == 'e' || c == 'E' then do
      let (negative, rest) := sign rest
      let (ds, rest) ← digits? Char.isDigit rest
      let n := Text.digitsValue 0 ds
      return (if negative then -(n : Int) else n, rest)
    else none
  | [] => none

def readFloat? (cs : List Char) : Option (Value × List Char) := do
  let (negative, cs) := sign cs
  match cs with
  | 'i' :: 'n' :: 'f' :: rest => return (.float (infinity negative), rest)
  | 'n' :: 'a' :: 'n' :: rest => return (.float (notANumber negative), rest)
  | _ =>
    let (whole, rest) ← wholeDigits? cs
    match readFraction? rest, readPower? rest with
    | some (fraction, rest), _ =>
      let digits := Text.digitsValue 0 (whole ++ fraction)
      let (power, rest) := (readPower? rest).getD (0, rest)
      return (← decimal? negative digits (power - fraction.length), rest)
    | none, some (power, rest) =>
      return (← decimal? negative (Text.digitsValue 0 whole) power, rest)
    | none, none => none

/-- A number of two digits within bounds. -/
def readTwo? (low high : Nat) : List Char → Option (Nat × List Char)
  | a :: b :: rest =>
    if a.isDigit && b.isDigit then
      let n := Text.digitsValue 0 [a, b]
      if low ≤ n ∧ n ≤ high then some (n, rest) else none
    else none
  | _ => none

def expect? (c : Char) : List Char → Option (List Char)
  | d :: rest => if c = d then some rest else none
  | [] => none

def daysIn (year month : Nat) : Nat :=
  if month = 2 then
    if year % 4 = 0 ∧ (year % 100 ≠ 0 ∨ year % 400 = 0) then 29 else 28
  else if [4, 6, 9, 11].contains month then 30
  else 31

def skipDate? (cs : List Char) : Option (List Char) := do
  let (century, cs) ← readTwo? 0 99 cs
  let (year, cs) ← readTwo? 0 99 cs
  let (month, cs) ← readTwo? 1 12 (← expect? '-' cs)
  let (_, cs) ← readTwo? 1 (daysIn (century * 100 + year) month) (← expect? '-' cs)
  return cs

def skipTime? (cs : List Char) : Option (List Char) := do
  let (_, cs) ← readTwo? 0 23 cs
  let (_, cs) ← readTwo? 0 59 (← expect? ':' cs)
  let (_, cs) ← readTwo? 0 60 (← expect? ':' cs)
  match cs with
  | '.' :: c :: rest => if c.isDigit then some (rest.dropWhile Char.isDigit) else some cs
  | _ => some cs

def skipOffset? (cs : List Char) : Option (List Char) :=
  match cs with
  | c :: rest =>
    if c == 'Z' || c == 'z' then some rest
    else if c == '+' || c == '-' then do
      let (_, rest) ← readTwo? 0 23 rest
      let (_, rest) ← readTwo? 0 59 (← expect? ':' rest)
      return rest
    else none
  | [] => none

/-- A time behind the mark that parts it from its date. -/
def skipTimeOfDate? : List Char → Option (List Char)
  | c :: rest =>
    if c == 'T' || c == 't' || c == ' ' then do
      let rest ← skipTime? rest
      return (skipOffset? rest).getD rest
    else none
  | [] => none

def readMoment? (cs : List Char) : Option (Value × List Char) :=
  match skipDate? cs with
  | some rest => some (.moment, (skipTimeOfDate? rest).getD rest)
  | none => (skipTime? cs).map (.moment, ·)

/-- A value that is neither an array nor a table. -/
def readScalar? (cs : List Char) : Option (Value × List Char) :=
  match cs with
  | 't' :: 'r' :: 'u' :: 'e' :: rest => some (.bool true, rest)
  | 'f' :: 'a' :: 'l' :: 's' :: 'e' :: rest => some (.bool false, rest)
  | '\"' :: _ | '\'' :: _ => (readText? cs).map fun (text, rest) => (.text text, rest)
  | _ => readMoment? cs <|> readFloat? cs <|> readInteger? cs

end StorageConsole.Toml
