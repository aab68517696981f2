import StorageConsole.Named
import StorageConsole.Text.Integer

/-!
Arguments of a command. A rule says which options a command has and how many places are to be
filled; the arguments are taken from the left, and the first one that is wrong, or that asks for
help, decides.
-/
namespace StorageConsole.CommandLine

/-- What an option's value may be. -/
inductive ValueKind where
  | text
  /-- A path must not be empty. -/
  | path
  | flag
  | count
  deriving DecidableEq, Repr

def ValueKind.accepts (kind : ValueKind) (value : String) : Bool :=
  match kind with
  | text => true
  | path => !value.isEmpty
  | flag => value == "true" || value == "false"
  | count => (Text.readUnsigned value.toList).isSome

structure OptionRule where
  name : String
  kind : ValueKind
  deriving DecidableEq, Repr

structure ArgumentRule where
  options : List OptionRule
  /-- Options that must be given. -/
  needed : List String
  /-- Places that must be filled, and all places there are. -/
  least : Nat
  most : Nat
  deriving DecidableEq, Repr

/-- Why arguments give no command. -/
inductive Refusal where
  | help
  | wrong
  deriving DecidableEq, Repr

/-- One argument as it looks by itself. -/
inductive Word where
  /-- Two dashes: all that follows fills places. -/
  | divider
  | option (name : String) (value : Option String)
  /-- Letters behind one dash. -/
  | letters (cs : List Char)
  | plain (text : String)
  deriving DecidableEq, Repr

def Word.ofText (text : String) : Word :=
  match text.toList with
  | ['-', '-'] => divider
  | '-' :: '-' :: cs =>
    match cs.span (· != '=') with
    | (name, []) => option (String.ofList name) none
    | (name, _ :: value) => option (String.ofList name) (some (String.ofList value))
  | ['-'] => plain text
  | '-' :: cs => letters cs
  | _ => plain text

/-- Only a help letter in front asks for help; there are no other letters. -/
def refuseLetters (cs : List Char) : Refusal := if cs.head? = some 'h' then .help else .wrong

/-- The arguments taken so far. -/
structure Taken where
  values : List (String × String)
  places : List String
  deriving DecidableEq, Repr, Inhabited

namespace Taken

def value? (t : Taken) (name : String) : Option String :=
  member? t.values name

/-- A value is taken once, and only if the option accepts it. -/
def giveValue (t : Taken) (option : OptionRule) (value : String) : Except Refusal Taken :=
  if (t.value? option.name).isNone && option.kind.accepts value then
    .ok { t with values := t.values ++ [(option.name, value)] }
  else .error .wrong

def fillPlace (t : Taken) (rule : ArgumentRule) (text : String) : Except Refusal Taken :=
  if t.places.length < rule.most then .ok { t with places := t.places ++ [text] }
  else .error .wrong

/-- Whether everything that must be given is. -/
def isComplete (t : Taken) (rule : ArgumentRule) : Bool :=
  rule.least ≤ t.places.length && rule.needed.all fun name => (t.value? name).isSome

def count (t : Taken) (name : String) (default : Nat) : Nat :=
  ((t.value? name).bind fun value => Text.readUnsigned value.toList).getD default

def place (t : Taken) (n : Nat) : String := t.places.getD n ""

end Taken

namespace ArgumentRule

def option? (rule : ArgumentRule) (name : String) : Option OptionRule :=
  rule.options.find? (·.name == name)

def fillPlaces (rule : ArgumentRule) : List String → Taken → Except Refusal Taken
  | [], t => .ok t
  | text :: rest, t => (t.fillPlace rule text).bind (rule.fillPlaces rest)

/-- Takes arguments from the left. An option's value is the next argument, unless that looks like
an option itself. -/
def take (rule : ArgumentRule) : List String → Taken → Except Refusal Taken
  | [], t => .ok t
  | text :: rest, t =>
    match Word.ofText text with
    | .divider => rule.fillPlaces rest t
    | .letters cs => .error (refuseLetters cs)
    | .plain text => (t.fillPlace rule text).bind (rule.take rest)
    | .option "help" none => .error .help
    | .option name value =>
      match rule.option? name, value with
      | none, _ => .error .wrong
      | some option, some value => (t.giveValue option value).bind (rule.take rest)
      | some option, none =>
        match rest with
        | [] => .error .wrong
        | next :: rest =>
          match Word.ofText next with
          | .plain value => (t.giveValue option value).bind (rule.take rest)
          | .divider | .letters _ | .option _ _ => .error .wrong

/-- Takes all arguments of a command. -/
def read (rule : ArgumentRule) (args : List String) : Except Refusal Taken := do
  let t ← rule.take args default
  if t.isComplete rule then return t else throw .wrong

end ArgumentRule

end StorageConsole.CommandLine
