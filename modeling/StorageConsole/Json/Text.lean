import StorageConsole.Json.Basic
import StorageConsole.Number.Shortest

/-!
JSON as text: compact, without a blank, or indented by two blanks a level. Members stand in the
order of their list.
-/
namespace StorageConsole.Json

def hexDigit (n : Nat) : Char := Nat.digitChar (n % 16)

/-- Control characters are written by a short escape or as four hexadecimal digits; all other
characters but the quote and the backslash stand for themselves. -/
def escape (c : Char) : List Char :=
  match c with
  | '\"' => ['\\', '\"']
  | '\\' => ['\\', '\\']
  | '\n' => ['\\', 'n']
  | '\r' => ['\\', 'r']
  | '\t' => ['\\', 't']
  | _ =>
    if c.toNat = 8 then ['\\', 'b']
    else if c.toNat = 12 then ['\\', 'f']
    else if c.toNat < 32 then ['\\', 'u', '0', '0', hexDigit (c.toNat / 16), hexDigit c.toNat]
    else [c]

def quote (text : String) : List Char :=
  '\"' :: text.toList.flatMap escape ++ ['\"']

mutual

def compactChars : Json → List Char
  | null => "null".toList
  | bool true => "true".toList
  | bool false => "false".toList
  | int value => (Text.showInt value).toList
  | double value => value.text.toList
  | str text => quote text
  | arr items => '[' :: compactItems items ++ [']']
  | obj members => '\x7b' :: compactMembers members ++ ['\x7d']

def compactItems : List Json → List Char
  | [] => []
  | [x] => compactChars x
  | x :: xs => compactChars x ++ ',' :: compactItems xs

def compactMembers : List (String × Json) → List Char
  | [] => []
  | [(name, x)] => quote name ++ ':' :: compactChars x
  | (name, x) :: xs => quote name ++ ':' :: compactChars x ++ ',' :: compactMembers xs

end

/-- The text without blanks. -/
def compact (value : Json) : String := String.ofList (compactChars value)

def newLine (level : Nat) : List Char := '\n' :: List.replicate (2 * level) ' '

mutual

def indentedChars (level : Nat) : Json → List Char
  | arr [] => ['[', ']']
  | arr items => '[' :: indentedItems (level + 1) items ++ newLine level ++ [']']
  | obj [] => ['\x7b', '\x7d']
  | obj members => '\x7b' :: indentedMembers (level + 1) members ++ newLine level ++ ['\x7d']
  | null => compactChars null
  | bool value => compactChars (bool value)
  | int value => compactChars (int value)
  | double value => compactChars (double value)
  | str text => compactChars (str text)

def indentedItems (level : Nat) : List Json → List Char
  | [] => []
  | [x] => newLine level ++ indentedChars level x
  | x :: xs => newLine level ++ indentedChars level x ++ ',' :: indentedItems level xs

def indentedMembers (level : Nat) : List (String × Json) → List Char
  | [] => []
  | [(name, x)] => newLine level ++ quote name ++ ':' :: ' ' :: indentedChars level x
  | (name, x) :: xs => newLine level ++ quote name ++ ':' :: ' ' :: indentedChars level x
      ++ ',' :: indentedMembers level xs

end

/-- The text with every member and item on a line of its own. -/
def indented (value : Json) : String := String.ofList (indentedChars 0 value)

end StorageConsole.Json
