import StorageConsole.Json.Basic
import StorageConsole.Toml.Document

/-!
TOML values as JSON values. A date or a time, for which JSON has no value, becomes an object without
members.
-/
namespace StorageConsole.Toml

mutual

def toJson : Value → Json
  | .text value => .str value
  | .int value => .int value
  | .float value => .double value
  | .bool value => .bool value
  | .moment => .obj []
  | .array items => .arr (toJsonItems items)
  | .table _ members => .obj (toJsonMembers members)
  | .tables closed last => .arr (toJsonTables closed ++ [.obj (toJsonMembers last)])

def toJsonItems : List Value → List Json
  | [] => []
  | value :: rest => toJson value :: toJsonItems rest

def toJsonMembers : List (String × Value) → List (String × Json)
  | [] => []
  | (name, value) :: rest => (name, toJson value) :: toJsonMembers rest

def toJsonTables : List (List (String × Value)) → List Json
  | [] => []
  | members :: rest => .obj (toJsonMembers members) :: toJsonTables rest

end

end StorageConsole.Toml
