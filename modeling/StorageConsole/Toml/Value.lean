import StorageConsole.Number.Double

/-!
TOML values and the rules by which the statements of a document build its tables: a table may be
opened once, a table made by dotted keys is extended by dotted keys only, and a table in braces is
complete as it stands.
-/
namespace StorageConsole.Toml

/-- How a table came about. -/
inductive Origin where
  /-- Opened by a header. -/
  | header
  /-- Made on the way to a header. -/
  | implied
  /-- Made by the dots of a key. -/
  | dotted
  /-- Written in braces. -/
  | braces
  deriving DecidableEq, Repr, Inhabited

inductive Value where
  | text (value : String)
  | int (value : Int)
  | float (value : Number.Double)
  | bool (value : Bool)
  /-- A date, a time, or both. -/
  | moment
  | array (items : List Value)
  | table (origin : Origin) (members : List (String × Value))
  /-- A list of tables that headers have opened, the last of which may still grow. -/
  | tables (closed : List (List (String × Value))) (last : List (String × Value))
  deriving Repr, Inhabited

abbrev Members := List (String × Value)

namespace Members

/-- Changes one member, or adds it at the end. -/
def update (name : String) (change : Option Value → Option Value) : Members → Option Members
  | [] => (change none).map fun value => [(name, value)]
  | (k, v) :: rest =>
    if k = name then (change (some v)).map fun value => (k, value) :: rest
    else (update name change rest).map ((k, v) :: ·)

/-- Changes the table at the end of a path, whose tables are made as they are needed. A path of
dots does not lead through tables that a header has opened. -/
def descend (dots : Bool) (change : Origin → Members → Option Members) :
    List String → Origin → Members → Option Members
  | [], origin, ms => change origin ms
  | name :: path, _, ms =>
    ms.update name fun
      | none =>
        let origin : Origin := if dots then .dotted else .implied
        (descend dots change path origin []).map (.table origin)
      | some (.table .braces _) => none
      | some (.table origin inner) =>
        if dots && origin == .header then none
        else (descend dots change path origin inner).map (.table origin)
      | some (.tables closed last) =>
        (descend dots change path .header last).map (.tables closed)
      | some _ => none

/-- Gives a value to a key of dots. -/
def assign (path : List String) (name : String) (value : Value) (ms : Members) : Option Members :=
  let put (origin : Origin) (ms : Members) : Option Members :=
    if !path.isEmpty && origin != .dotted then none
    else ms.update name fun
      | none => some value
      | some _ => none
  descend true put path .header ms

/-- Opens a table by its header; one that was only implied may still be opened. -/
def openTable (path : List String) (name : String) (ms : Members) : Option Members :=
  let put (_ : Origin) (ms : Members) : Option Members :=
    ms.update name fun
      | none => some (.table .header [])
      | some (.table .implied inner) => some (.table .header inner)
      | some _ => none
  descend false put path .header ms

/-- Opens the next table of a list of tables. -/
def openNext (path : List String) (name : String) (ms : Members) : Option Members :=
  let put (_ : Origin) (ms : Members) : Option Members :=
    ms.update name fun
      | none => some (.tables [] [])
      | some (.tables closed last) => some (.tables (closed ++ [last]) [])
      | some _ => none
  descend false put path .header ms

/-- Changes the table that the last header has opened. -/
def within (path : List String) (change : Members → Option Members) (ms : Members) :
    Option Members :=
  descend false (fun _ => change) path .header ms

end Members

end StorageConsole.Toml
