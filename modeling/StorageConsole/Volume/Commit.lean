import StorageConsole.Text.Blank
import StorageConsole.Volume.Repo

/-!
Commits on a branch. What is known of a commit stands in its metadata, all of it as text.
-/
namespace StorageConsole

structure Commit where
  id : String
  metadata : Named String
  deriving DecidableEq, Repr, Inhabited

namespace Commit

def message (c : Commit) : String := (c.metadata.get? "message").getD ""

def author (c : Commit) : String := (c.metadata.get? "author").getD ""

/-- The text that a search looks into. -/
def label (c : Commit) : String := c.message ++ " " ++ c.author

/-- The commit's time in milliseconds. The metadata give nanoseconds; the quotient goes toward
zero, and a time that is absent or garbled counts as zero. -/
def millis (c : Commit) : Int :=
  match (c.metadata.get? "timestamp").bind fun raw => Text.readSigned (Text.trim raw).toList with
  | some nanos => nanos.tdiv 1000000
  | none => 0

def encode (c : Commit) : Json := .obj [("Id", .str c.id), ("Metadata", encodeTexts c.metadata)]

def decode (j : Json) : Decoded Commit := do
  let ms ← j.members 2
  return {
    id := ← ms.withDefault 0 "Id" "" Json.text
    metadata := ←
      ms.withDefault 1 "Metadata" .empty (Json.nullable .empty (Json.named Json.text)) }

def outline : Outline := .record [("Id", .value), ("Metadata", .entries)]

/-- The commits of a branch; a branch without any may answer null. -/
def encodeAnswer : Option (List Commit) → Json
  | some commits => .arr (commits.map encode)
  | none => .null

def decodeAnswer : Json → Decoded (Option (List Commit)) := Json.optional (Json.list decode)

end Commit

end StorageConsole
