import StorageConsole.Json.Source
import StorageConsole.Record.Decode

/-!
Decoding of records from text. An outline tells which members a record declares. Read along it,
a declared member may stand only once and a member that is not declared is skipped unread, so its
numbers, surrogates and depth do not matter; what is kept is read as a value.
-/
namespace StorageConsole

inductive Outline where
  /-- Any value, kept whole. -/
  | value
  | list (item : Outline)
  /-- An object whose members are all kept, repeated ones too. -/
  | entries
  | record (members : List (String × Outline))
  /-- A record that keeps the members it does not declare. -/
  | openRecord (declared : List String)
  deriving Repr, Inhabited

namespace Outline

/-- The first name of `declared` that stands twice among `names`. -/
def repeatedName (declared : List String) (names : List String) : Option String :=
  declared.find? fun name => 1 < names.count name

end Outline

namespace Json.Source

/-- The names of an object's members; a name without text makes the object unreadable. -/
def memberNames (members : List (Option String × Source)) : Option (List String) :=
  members.mapM (·.1)

def whole (room : Nat) (source : Source) : Decoded Json :=
  match source.toJson? room with
  | some j => .ok j
  | none => .error .notJson

mutual

/-- The value of the parts that an outline keeps. -/
def along (room : Nat) (outline : Outline) : Source → Decoded Json
  | array items => match outline with
    | .list item => match room with
      | 0 => .error .notJson
      | room + 1 => (itemsAlong room item items).map .arr
    | .record members => match room with
      | 0 => .error .notJson
      | room + 1 => (placesAlong room members items).map .arr
    | _ => whole room (array items)
  | object members => match outline with
    | .record declared => match room with
      | 0 => .error .notJson
      | room + 1 =>
        match memberNames members with
        | none => .error .notJson
        | some names =>
          match Outline.repeatedName (declared.map (·.1)) names with
          | some name => .error (.repeated name)
          | none =>
            (membersAlong room declared members).map fun ms => .obj (Named.ofList ms).entries
    | .entries => match room with
      | 0 => .error .notJson
      | room + 1 => match membersToJson? room members with
        | some ms => .ok (.obj ms)
        | none => .error .notJson
    | .openRecord declared =>
      match memberNames members with
      | none => .error .notJson
      | some names =>
        match Outline.repeatedName declared names with
        | some name => .error (.repeated name)
        | none => whole room (object members)
    | _ => whole room (object members)
  | null => whole room null
  | bool value => whole room (bool value)
  | number text => whole room (number text)
  | string text => whole room (string text)

def itemsAlong (room : Nat) (item : Outline) : List Source → Decoded (List Json)
  | [] => .ok []
  | x :: xs => do return (← along room item x) :: (← itemsAlong room item xs)

/-- A record given as an array: each item is read along the member of its place. -/
def placesAlong (room : Nat) (members : List (String × Outline)) :
    List Source → Decoded (List Json)
  | [] => .ok []
  | x :: xs => do
    let outline := match members with
      | (_, outline) :: _ => outline
      | [] => .value
    return (← along room outline x) :: (← placesAlong room members.tail xs)

def membersAlong (room : Nat) (declared : List (String × Outline)) :
    List (Option String × Source) → Decoded (List (String × Json))
  | [] => .ok []
  | (none, _) :: _ => .error .notJson
  | (some name, x) :: xs =>
    match member? declared name with
    | none => membersAlong room declared xs
    | some outline => do
      return (name, (← along room outline x)) :: (← membersAlong room declared xs)

end

end Json.Source

/-- Decodes a text whose records are declared by an outline. -/
def decodeText {α : Type} (outline : Outline) (decode : Json → Decoded α) (text : String) :
    Decoded α :=
  match Json.Source.read? text.toList with
  | none => .error .notJson
  | some source => (source.along Json.Source.maxDepth outline).bind decode

end StorageConsole
