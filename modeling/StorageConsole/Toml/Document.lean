import StorageConsole.Toml.Scalar

/-!
TOML documents: a line opens a table, opens the next table of a list, or gives a value to a key.
-/
namespace StorageConsole.Toml

/-- Arrays and tables in braces, and the parts of a key, stay below this number. -/
def nestingLimit : Nat := 80

def isBare (c : Char) : Bool := c.isAlphanum || c == '-' || c == '_'

def readName? : List Char → Option (String × List Char)
  | '\"' :: rest => (quotedText rest).map fun (cs, rest) => (String.ofList cs, rest)
  | '\'' :: rest => (literalText rest).map fun (cs, rest) => (String.ofList cs, rest)
  | cs =>
    match cs.span isBare with
    | ([], _) => none
    | (name, rest) => some (String.ofList name, rest)

/-- The parts of a key from the next one on; each takes a unit of fuel. -/
def readParts? : Nat → List Char → Option (List String × List Char)
  | 0, _ => none
  | fuel + 1, cs => do
    let (name, rest) ← readName? (skipSpaces cs)
    match skipSpaces rest with
    | '.' :: rest =>
      let (names, rest) ← readParts? fuel rest
      return (name :: names, rest)
    | rest => return ([name], rest)

/-- A key as its path and its last part. -/
structure Key where
  path : List String
  name : String
  deriving DecidableEq, Repr, Inhabited

def readKey? (cs : List Char) : Option (Key × List Char) := do
  let (names, rest) ← readParts? (nestingLimit - 1) cs
  let name ← names.getLast?
  return (⟨names.dropLast, name⟩, rest)

/-- Skips a comment up to the end of its line. -/
def skipComment? (cs : List Char) : Option (List Char) :=
  match cs.dropWhile isPlain with
  | [] => some []
  | '\n' :: rest => some ('\n' :: rest)
  | _ => none

/-- Skips blanks, line ends and comments within an array; each comment takes a unit of fuel. -/
def skipGap? : Nat → List Char → Option (List Char)
  | 0, _ => none
  | fuel + 1, cs =>
    match cs.dropWhile fun c => isSpace c || c == '\n' with
    | '#' :: rest => (skipComment? rest).bind (skipGap? fuel)
    | rest => some rest

mutual

/-- A value whose arrays and tables may nest `room` deep. -/
def readValue? : Nat → Nat → List Char → Option (Value × List Char)
  | 0, _, _ => none
  | fuel + 1, room, cs =>
    match cs with
    | '[' :: rest =>
      match room with
      | 0 => none
      | room + 1 => do
        let rest ← skipGap? fuel rest
        match rest with
        | ']' :: rest => return (.array [], rest)
        | _ =>
          let (items, rest) ← readItems? fuel room rest
          return (.array items, rest)
    | '\x7b' :: rest =>
      match room with
      | 0 => none
      | room + 1 =>
        match skipSpaces rest with
        | '\x7d' :: rest => some (.table .braces [], rest)
        | rest => do
          let (members, rest) ← readMembers? fuel room [] rest
          return (.table .braces members, rest)
    | _ => readScalar? cs

/-- The items of an array from its next one to the closing bracket; a comma may stand behind the
last one. -/
def readItems? : Nat → Nat → List Char → Option (List Value × List Char)
  | 0, _, _ => none
  | fuel + 1, room, cs => do
    let (item, rest) ← readValue? fuel room cs
    let rest ← skipGap? fuel rest
    match rest with
    | ']' :: rest => return ([item], rest)
    | ',' :: rest =>
      let rest ← skipGap? fuel rest
      match rest with
      | ']' :: rest => return ([item], rest)
      | _ =>
        let (items, rest) ← readItems? fuel room rest
        return (item :: items, rest)
    | _ => none

/-- The members of a table in braces, added to those before them. -/
def readMembers? : Nat → Nat → Members → List Char → Option (Members × List Char)
  | 0, _, _, _ => none
  | fuel + 1, room, before, cs => do
    let (key, rest) ← readKey? cs
    let rest ← expect? '=' rest
    let (value, rest) ← readValue? fuel room (skipSpaces rest)
    let members ← before.assign key.path key.name value
    match skipSpaces rest with
    | '\x7d' :: rest => return (members, rest)
    | ',' :: rest => readMembers? fuel room members rest
    | _ => none

end

inductive Statement where
  | openTable (key : Key)
  | openNext (key : Key)
  | assign (key : Key) (value : Value)
  deriving Repr

/-- The end of a statement: blanks, a comment, and the end of the line. -/
def endLine? (cs : List Char) : Option (List Char) :=
  match skipSpaces cs with
  | [] => some []
  | '\n' :: rest => some rest
  | '#' :: rest => (skipComment? rest).map dropLineEnd
  | _ => none

def readStatement? (cs : List Char) : Option (Statement × List Char) :=
  match cs with
  | '[' :: '[' :: rest => do
    let (key, rest) ← readKey? rest
    let rest ← expect? ']' (← expect? ']' rest)
    return (.openNext key, ← endLine? rest)
  | '[' :: rest => do
    let (key, rest) ← readKey? rest
    let rest ← expect? ']' rest
    return (.openTable key, ← endLine? rest)
  | _ => do
    let (key, rest) ← readKey? cs
    let rest := skipSpaces (← expect? '=' rest)
    let (value, rest) ← readValue? (2 * rest.length + 2) (nestingLimit - 1) rest
    return (.assign key value, ← endLine? rest)

/-- The statements of a document; each line takes a unit of fuel. -/
def readStatements? : Nat → List Char → Option (List Statement)
  | 0, _ => none
  | fuel + 1, cs =>
    match skipSpaces cs with
    | [] => some []
    | '\n' :: rest => readStatements? fuel rest
    | '#' :: rest => (endLine? ('#' :: rest)).bind (readStatements? fuel)
    | rest => do
      let (statement, rest) ← readStatement? rest
      return statement :: (← readStatements? fuel rest)

/-- The tables built so far and the path of the one that is open. -/
structure Building where
  members : Members
  path : List String

def Building.add (b : Building) : Statement → Option Building
  | .openTable key =>
    (b.members.openTable key.path key.name).map fun ms => ⟨ms, key.path ++ [key.name]⟩
  | .openNext key =>
    (b.members.openNext key.path key.name).map fun ms => ⟨ms, key.path ++ [key.name]⟩
  | .assign key value =>
    (b.members.within b.path (·.assign key.path key.name value)).map fun ms => ⟨ms, b.path⟩

/-- Line ends in their short form. -/
def shortLineEnds : List Char → List Char
  | '\r' :: '\n' :: rest => '\n' :: shortLineEnds rest
  | c :: rest => c :: shortLineEnds rest
  | [] => []

/-- A byte order mark may stand in front of a document. -/
def dropMark : List Char → List Char
  | '\ufeff' :: rest => rest
  | cs => cs

/-- The members of a document's outermost table. -/
def parse? (text : String) : Option Members := do
  let cs := shortLineEnds (dropMark text.toList)
  let statements ← readStatements? (cs.length + 1) cs
  return (← statements.foldlM Building.add ⟨[], []⟩).members

end StorageConsole.Toml
