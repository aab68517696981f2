import StorageConsole.Json.Basic

/-!
Paths and the patterns that match them. A path counts up to its first question mark or hash; the
pieces between its slashes, the empty ones dropped, are its parts.
-/
namespace StorageConsole.Route

def isPathEnd (c : Char) : Bool := c == '?' || c == '#'

/-- The pieces between the characters that `sep` accepts. -/
def pieces (sep : Char → Bool) : List Char → List (List Char)
  | [] => [[]]
  | c :: cs =>
    match pieces sep cs with
    | [] => [[c]]
    | piece :: rest => if sep c then [] :: piece :: rest else (c :: piece) :: rest

/-- The parts of a path. -/
def splitPath (path : String) : List String :=
  let before := path.toList.takeWhile fun c => !isPathEnd c
  ((pieces (· == '/') before).filter (!·.isEmpty)).map String.ofList

/-- One part of a pattern. -/
inductive Segment where
  | literal (text : String)
  | param (name : String)
  /-- Takes one or more remaining parts. -/
  | wildcard
  deriving DecidableEq, Repr

/-- What is wrong with a pattern. -/
inductive PatternError where
  | wildcardInside
  | unnamedParameter
  deriving DecidableEq, Repr

namespace Segment

def ofPart (isLast : Bool) (part : String) : Except PatternError Segment :=
  match part.toList with
  | ['*'] => if isLast then .ok wildcard else .error .wildcardInside
  | [':'] => .error .unnamedParameter
  | ':' :: name => .ok (param (String.ofList name))
  | _ => .ok (literal part)

def ofParts : List String → Except PatternError (List Segment)
  | [] => .ok []
  | part :: rest => do return (← ofPart rest.isEmpty part) :: (← ofParts rest)

/-- The segments of a pattern, which is split like a path. -/
def parse (pattern : String) : Except PatternError (List Segment) := ofParts (splitPath pattern)

/-- The texts that parameters take from a path; under `_` stands what a wildcard takes. -/
abbrev Params := Named String

/-- Matches parts against segments; a repeated parameter keeps its last part. -/
def bindParts : List Segment → List String → Params → Option Params
  | [], [], params => some params
  | [], _ :: _, _ => none
  | wildcard :: _, [], _ => none
  | wildcard :: _, part :: parts, params =>
    some (params.insert "_" ("/".intercalate (part :: parts)))
  | literal text :: segments, part :: parts, params =>
    if part = text then bindParts segments parts params else none
  | param name :: segments, part :: parts, params =>
    bindParts segments parts (params.insert name part)
  | literal _ :: _, [], _ => none
  | param _ :: _, [], _ => none

def matchParts (segments : List Segment) (parts : List String) : Option Params :=
  bindParts segments parts .empty

end Segment

end StorageConsole.Route
