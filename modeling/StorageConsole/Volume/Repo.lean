import StorageConsole.Account.Credentials
import StorageConsole.Volume.Size

/-!
Repos: a top level volume with its clones, which are its branches. The backend writes empty lists
and maps as null.
-/
namespace StorageConsole

structure VolumeName where
  space : String
  name : String
  deriving DecidableEq, Repr, Inhabited

namespace VolumeName

def empty : VolumeName := ⟨"", ""⟩

def title (v : VolumeName) : String := v.space ++ " / " ++ v.name

def encode (v : VolumeName) : Json := .obj [("Namespace", .str v.space), ("Name", .str v.name)]

def decode (j : Json) : Decoded VolumeName := do
  let ms ← j.members 2
  return {
    space := ← ms.withDefault 0 "Namespace" "" Json.text
    name := ← ms.withDefault 1 "Name" "" Json.text }

def outline : Outline := .record [("Namespace", .value), ("Name", .value)]

end VolumeName

/-- A JSON object of texts. -/
def encodeTexts (texts : Named String) : Json :=
  .obj (texts.entries.map fun (name, text) => (name, .str text))

/-- A volume or a clone of one. -/
structure Volume where
  id : String
  name : VolumeName
  clone : String
  master : String
  sizeBytes : Int64
  dirtyBytes : Int64
  commitCount : Int64
  serverStatuses : Named String
  deriving DecidableEq, Repr, Inhabited

namespace Volume

def empty : Volume := ⟨"", .empty, "", "", 0, 0, 0, .empty⟩

def encode (v : Volume) : Json :=
  .obj [("Id", .str v.id), ("Name", v.name.encode), ("Clone", .str v.clone),
    ("Master", .str v.master), ("SizeBytes", .int v.sizeBytes.toInt),
    ("DirtyBytes", .int v.dirtyBytes.toInt), ("CommitCount", .int v.commitCount.toInt),
    ("ServerStatuses", encodeTexts v.serverStatuses)]

def decode (j : Json) : Decoded Volume := do
  let ms ← j.members 8
  return {
    id := ← ms.withDefault 0 "Id" "" Json.text
    name := ← ms.withDefault 1 "Name" .empty (Json.nullable .empty VolumeName.decode)
    clone := ← ms.withDefault 2 "Clone" "" Json.text
    master := ← ms.withDefault 3 "Master" "" Json.text
    sizeBytes := ← ms.withDefault 4 "SizeBytes" 0 Json.int64
    dirtyBytes := ← ms.withDefault 5 "DirtyBytes" 0 Json.int64
    commitCount := ← ms.withDefault 6 "CommitCount" 0 Json.int64
    serverStatuses := ←
      ms.withDefault 7 "ServerStatuses" .empty (Json.nullable .empty (Json.named Json.text)) }

def outline : Outline :=
  .record [("Id", .value), ("Name", VolumeName.outline), ("Clone", .value), ("Master", .value),
    ("SizeBytes", .value), ("DirtyBytes", .value), ("CommitCount", .value),
    ("ServerStatuses", .entries)]

end Volume

/-- A branch as the front end lists it. -/
structure Branch where
  id : String
  name : String
  deriving DecidableEq, Repr

structure Repo where
  topLevel : Volume
  clones : List Volume
  owner : Profile
  collaborators : List Profile
  deriving DecidableEq, Repr, Inhabited

/-- The branch that the top level volume itself is. -/
def masterBranch : String := "master"

namespace Repo

def empty : Repo := ⟨.empty, [], .empty, []⟩

def id (r : Repo) : String := r.topLevel.id

def name (r : Repo) : String := r.topLevel.name.name

def space (r : Repo) : String := r.topLevel.name.space

def title (r : Repo) : String := r.topLevel.name.title

def url (r : Repo) : String := r.space ++ "/" ++ r.name

def sizeTitle (r : Repo) : String := Volume.sizeLabel r.topLevel.sizeBytes.toInt

/-- The master branch, then the clones in the backend's order. -/
def branchList (r : Repo) : List Branch :=
  ⟨r.id, masterBranch⟩ :: r.clones.map fun clone => ⟨clone.id, clone.clone⟩

/-- The volume of a branch; of clones with one name the first counts. -/
def branch? (r : Repo) (name : String) : Option Volume :=
  if name = masterBranch then some r.topLevel else r.clones.find? (·.clone == name)

def branchCount (r : Repo) : Nat := r.clones.length + 1

def branchCountTitle (r : Repo) : String :=
  Text.showNat r.branchCount ++ if r.branchCount = 1 then " branch" else " branches"

def isNamed (r : Repo) (space name : String) : Bool := r.space == space && r.name == name

def encode (r : Repo) : Json :=
  .obj [("TopLevelVolume", r.topLevel.encode), ("CloneVolumes", .arr (r.clones.map Volume.encode)),
    ("Owner", r.owner.encode), ("Collaborators", .arr (r.collaborators.map Profile.encode))]

def decode (j : Json) : Decoded Repo := do
  let ms ← j.members 4
  return {
    topLevel := ← ms.withDefault 0 "TopLevelVolume" .empty (Json.nullable .empty Volume.decode)
    clones := ← ms.withDefault 1 "CloneVolumes" [] (Json.nullable [] (Json.list Volume.decode))
    owner := ← ms.withDefault 2 "Owner" .empty (Json.nullable .empty Profile.decode)
    collaborators := ←
      ms.withDefault 3 "Collaborators" [] (Json.nullable [] (Json.list Profile.decode)) }

def outline : Outline :=
  .record [("TopLevelVolume", Volume.outline), ("CloneVolumes", .list Volume.outline),
    ("Owner", Profile.outline), ("Collaborators", .list Profile.outline)]

end Repo

structure Server where
  id : String
  addresses : List String
  deriving DecidableEq, Repr, Inhabited

namespace Server

def encode (s : Server) : Json :=
  .obj [("Id", .str s.id), ("Addresses", .arr (s.addresses.map .str))]

def decode (j : Json) : Decoded Server := do
  let ms ← j.members 2
  return {
    id := ← ms.withDefault 0 "Id" "" Json.text
    addresses := ← ms.withDefault 1 "Addresses" [] (Json.nullable [] (Json.list Json.text)) }

def outline : Outline := .record [("Id", .value), ("Addresses", .list .value)]

end Server

/-- All repos and the servers that hold them. -/
structure Inventory where
  repos : List Repo
  servers : List Server
  deriving DecidableEq, Repr, Inhabited

namespace Inventory

def encode (i : Inventory) : Json :=
  .obj [("Volumes", .arr (i.repos.map Repo.encode)),
    ("Servers", .arr (i.servers.map Server.encode))]

def decode (j : Json) : Decoded Inventory := do
  let ms ← j.members 2
  return {
    repos := ← ms.withDefault 0 "Volumes" [] (Json.nullable [] (Json.list Repo.decode))
    servers := ← ms.withDefault 1 "Servers" [] (Json.nullable [] (Json.list Server.decode)) }

def outline : Outline :=
  .record [("Volumes", .list Repo.outline), ("Servers", .list Server.outline)]

end Inventory

/-- Access to a repo, granted to another user. -/
structure Invitation where
  volume : String
  collaborator : String
  deriving DecidableEq, Repr, Inhabited

namespace Invitation

def encode (i : Invitation) : Json :=
  .obj [("Volume", .str i.volume), ("Collaborator", .str i.collaborator)]

def decode (j : Json) : Decoded Invitation := do
  let ms ← j.members 2
  return {
    volume := ← ms.required 0 "Volume" Json.text
    collaborator := ← ms.required 1 "Collaborator" Json.text }

def outline : Outline := .record [("Volume", .value), ("Collaborator", .value)]

end Invitation

end StorageConsole
