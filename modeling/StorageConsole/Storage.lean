import StorageConsole.Named
import StorageConsole.Text.Quoted

/-!
Storage of texts under keys, in memory or as one file per key in a folder. A text is written to a
temporary file first, which then takes the place of the key's file. A save that cannot finish leaves
the temporary file behind. The first save makes the folder.
-/
namespace StorageConsole

inductive StorageError where
  | invalidKey (key : String)
  | unreadable (file : String)
  | unwritable (file : String)
  | unmovable (file : String)
  | irremovable (file : String)
  deriving DecidableEq, Repr, Inhabited

/-- The path of a file in a folder. -/
def filePath (folder file : String) : String :=
  if folder.isEmpty || folder.endsWith "/" then folder ++ file else folder ++ "/" ++ file

/-- The message for a storage in `folder`. -/
def StorageError.message (folder : String) : StorageError → String
  | invalidKey key => "invalid session key: " ++ Text.quoted key
  | unreadable file => "failed to read session " ++ filePath folder file
  | unwritable file => "failed to write " ++ filePath folder file
  | unmovable file => "failed to move session into " ++ filePath folder file
  | irremovable file => "failed to remove session " ++ filePath folder file

inductive FolderEntry where
  | file (text : String) (ownerOnly : Bool)
  | folder
  deriving DecidableEq, Repr, Inhabited

inductive Folder where
  /-- A folder that is still to be made. -/
  | absent
  | made (entries : Named FolderEntry)
  deriving DecidableEq, Repr, Inhabited

namespace Folder

def entries : Folder → Named FolderEntry
  | absent => .empty
  | made entries => entries

/-- Puts an entry into the folder, which is made for it. -/
def put (name : String) (entry : FolderEntry) (f : Folder) : Folder :=
  made (f.entries.insert name entry)

def drop (name : String) : Folder → Folder
  | absent => absent
  | made entries => made (entries.erase name)

/-- A key must make a plain file name of its own. -/
def isKey (key : String) : Bool :=
  match key.toList with
  | [] => false
  | c :: cs => c != '.' && !(c :: cs).contains '/' && !(c :: cs).contains '\\'

def fileOf (key : String) : String := key ++ ".json"

def temporaryFileOf (key : String) : String := key ++ ".json.tmp"

/-- What a file system takes for a path: no null character and at most 4095 bytes. -/
def isPath (name : String) : Bool :=
  !name.toList.contains '\x00' && name.utf8ByteSize < 4096

/-- The longest name of a file, in bytes. -/
def nameLimit : Nat := 255

/-- Looks a name up. The file system may refuse to; where no folder is made it finds nothing and
does not mind long names. -/
def look? (f : Folder) (name : String) : Option (Option FolderEntry) :=
  if isPath name then
    match f with
    | absent => some none
    | made entries => if name.utf8ByteSize ≤ nameLimit then some (entries.get? name) else none
  else none

/-- The text of a file, or nothing when there is none; a folder has no text. -/
def readFile? (f : Folder) (name : String) : Option (Option String) :=
  match f.look? name with
  | some (some (.file text _)) => some (some text)
  | some none => some none
  | some (some .folder) | none => none

/-- Removes a file; of one that is not there nothing needs to be removed. -/
def removeFile? (f : Folder) (name : String) : Option Folder :=
  match f.look? name with
  | some (some (.file _ _)) => some (f.drop name)
  | some none => some f
  | some (some .folder) | none => none

/-- Makes a file that only its owner may read; what has the name already stands in the way. -/
def makeFile? (f : Folder) (name text : String) : Option Folder :=
  match f.look? name with
  | some none => some (f.put name (.file text true))
  | some (some _) | none => none

/-- Moves a file onto another name; a file of that name is replaced. -/
def moveFile? (f : Folder) (name target : String) : Option Folder :=
  match f.look? name, f.look? target with
  | some (some (.file _ _)), some (some .folder) => none
  | some (some (.file text ownerOnly)), some _ =>
    some ((f.drop name).put target (.file text ownerOnly))
  | _, _ => none

def load (f : Folder) (key : String) : Except StorageError (Option String) :=
  if !isKey key then .error (.invalidKey key)
  else
    match f.readFile? (fileOf key) with
    | some text => .ok text
    | none => .error (.unreadable (fileOf key))

def save (f : Folder) (key text : String) : Except StorageError Unit × Folder :=
  if !isKey key then (.error (.invalidKey key), f)
  else
    let folder := made f.entries
    let cleared := (folder.removeFile? (temporaryFileOf key)).getD folder
    match cleared.makeFile? (temporaryFileOf key) text with
    | none => (.error (.unwritable (temporaryFileOf key)), cleared)
    | some written =>
      match written.moveFile? (temporaryFileOf key) (fileOf key) with
      | none => (.error (.unmovable (fileOf key)), written)
      | some moved => (.ok (), moved)

def remove (f : Folder) (key : String) : Except StorageError Unit × Folder :=
  if !isKey key then (.error (.invalidKey key), f)
  else
    match f.removeFile? (fileOf key) with
    | some rest => (.ok (), rest)
    | none => (.error (.irremovable (fileOf key)), f)

/-- Whether a key's file is there and closed to everybody but its owner. -/
def isOwnerOnly (f : Folder) (key : String) : Bool :=
  match f.entries.get? (fileOf key) with
  | some (.file _ ownerOnly) => ownerOnly
  | _ => false

end Folder

inductive Storage where
  | memory (texts : Named String)
  | folder (folder : Folder)
  deriving DecidableEq, Repr, Inhabited

namespace Storage

def load (s : Storage) (key : String) : Except StorageError (Option String) :=
  match s with
  | memory texts => .ok (texts.get? key)
  | folder f => f.load key

def save (s : Storage) (key text : String) : Except StorageError Unit × Storage :=
  match s with
  | memory texts => (.ok (), memory (texts.insert key text))
  | folder f => let (result, f) := f.save key text; (result, folder f)

/-- Removing what is not there succeeds. -/
def remove (s : Storage) (key : String) : Except StorageError Unit × Storage :=
  match s with
  | memory texts => (.ok (), memory (texts.erase key))
  | folder f => let (result, f) := f.remove key; (result, folder f)

end Storage

end StorageConsole
