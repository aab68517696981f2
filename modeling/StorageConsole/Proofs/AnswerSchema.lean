import StorageConsole.Proofs.Schema

/-!
The schemas of the backend's answers, and the records that are decoded along them. The backend
writes empty lists and maps as null, and a nested record may be null as well.
-/
namespace StorageConsole

open Backend (Api)
open Schema

namespace Profile

def schema : Schema :=
  .record [("Id", .text), ("Name", .text), ("Email", .orNull .text), ("EmailHash", .orNull .text)]

theorem reads_schema : Reads schema decode :=
  ReadsMembers.record (member_text.andThen fun _ => member_text.andThen fun _ =>
    reads_text.optional.andThen fun _ => reads_text.optional.andThen fun _ => .nil _) (by decide)

end Profile

namespace RegistrationOutcome

def schema : Schema :=
  .record [("Created", .flag), ("NameError", .text), ("EmailError", .text),
    ("PasswordError", .text)]

theorem reads_schema : Reads schema decode :=
  ReadsMembers.record (member_flag.andThen fun _ => member_text.andThen fun _ =>
    member_text.andThen fun _ => member_text.andThen fun _ => .nil _) (by decide)

end RegistrationOutcome

namespace VolumeName

def schema : Schema := .record [("Namespace", .text), ("Name", .text)]

theorem reads_schema : Reads schema decode :=
  ReadsMembers.record (member_text.andThen fun _ => member_text.andThen fun _ => .nil _) (by decide)

end VolumeName

namespace Volume

def schema : Schema :=
  .record [("Id", .text), ("Name", .orNull VolumeName.schema), ("Clone", .text), ("Master", .text),
    ("SizeBytes", .integer), ("DirtyBytes", .integer), ("CommitCount", .integer),
    ("ServerStatuses", .orNull .texts)]

theorem reads_schema : Reads schema decode :=
  ReadsMembers.record (member_text.andThen fun _ =>
    VolumeName.reads_schema.nullable.andThen fun _ => member_text.andThen fun _ =>
    member_text.andThen fun _ => member_integer.andThen fun _ => member_integer.andThen fun _ =>
    member_integer.andThen fun _ => reads_texts.nullable.andThen fun _ => .nil _) (by decide)

end Volume

namespace Repo

def schema : Schema :=
  .record [("TopLevelVolume", .orNull Volume.schema),
    ("CloneVolumes", .orNull (.list Volume.schema)), ("Owner", .orNull Profile.schema),
    ("Collaborators", .orNull (.list Profile.schema))]

theorem reads_schema : Reads schema decode :=
  ReadsMembers.record (Volume.reads_schema.nullable.andThen fun _ =>
    (reads_list Volume.reads_schema).nullable.andThen fun _ =>
    Profile.reads_schema.nullable.andThen fun _ =>
    (reads_list Profile.reads_schema).nullable.andThen fun _ => .nil _) (by decide)

end Repo

namespace Server

def schema : Schema := .record [("Id", .text), ("Addresses", .orNull (.list .text))]

theorem reads_schema : Reads schema decode :=
  ReadsMembers.record (member_text.andThen fun _ =>
    (reads_list reads_text).nullable.andThen fun _ => .nil _) (by decide)

end Server

namespace Inventory

def schema : Schema :=
  .record [("Volumes", .orNull (.list Repo.schema)), ("Servers", .orNull (.list Server.schema))]

theorem reads_schema : Reads schema decode :=
  ReadsMembers.record ((reads_list Repo.reads_schema).nullable.andThen fun _ =>
    (reads_list Server.reads_schema).nullable.andThen fun _ => .nil _) (by decide)

end Inventory

namespace Commit

def schema : Schema := .record [("Id", .text), ("Metadata", .orNull .texts)]

theorem reads_schema : Reads schema decode :=
  ReadsMembers.record (member_text.andThen fun _ => reads_texts.nullable.andThen fun _ => .nil _)
    (by decide)

end Commit

namespace Plan

def schema : Schema := .openRecord [("Id", .text)]

theorem reads_schema : Reads schema decode where
  accepts := by
    intro j hk
    cases j with
    | obj members =>
      have hid : ReadsMembers [("Id", .text)] fun ms => do
          let id ← ms.withDefault 0 "Id" "" Json.text
          return Plan.mk id (Named.ofList (members.filter (·.1 != "Id"))) :=
        member_text.andThen fun _ => .nil _
      exact hid.accepts hk
    | null | bool _ | int _ | double _ | str _ | arr _ => rfl
  ignores := nofun

end Plan

namespace PublicConfig

def schema : Schema :=
  .record [("Plans", .orNull (.list Plan.schema)), ("StripePublicKey", .orNull .text)]

theorem reads_schema : Reads schema decode :=
  ReadsMembers.record ((reads_list Plan.reads_schema).nullable.andThen fun _ =>
    reads_text.optional.andThen fun _ => .nil _) (by decide)

end PublicConfig

namespace Backend.Api

/-- What the answer to a call is to be. -/
def answerSchema : Api → Schema
  | login => Profile.schema
  | register => RegistrationOutcome.schema
  | repoList => Inventory.schema
  | repoCreate | invite | pay => .flag
  | commitList => .orNull (.list Commit.schema)
  | config => PublicConfig.schema

theorem reads_answerSchema (api : Api) : Reads api.answerSchema api.decodeAnswer := by
  cases api with
  | login => exact Profile.reads_schema
  | register => exact RegistrationOutcome.reads_schema
  | repoList => exact Inventory.reads_schema
  | repoCreate | invite | pay => exact reads_flag
  | commitList => exact (reads_list Commit.reads_schema).optional.toReads
  | config => exact PublicConfig.reads_schema

/-- An answer is decoded just when it is what its schema says, at every depth, and edits that leave
a value saying the same leave what is decoded from it as it is. -/
theorem answers_decode_by_schema (api : Api) :
    (∀ j, api.answerSchema.isKeyed j →
      ((∃ answer, api.decodeAnswer j = .ok answer) ↔ api.answerSchema.admits j)) ∧
    ∀ x y, api.answerSchema.Same x y → api.decodeAnswer x = api.decodeAnswer y := by
  refine ⟨fun j hk => ?_, fun x y => api.reads_answerSchema.same⟩
  rw [← api.reads_answerSchema.accepts hk]
  cases api.decodeAnswer j with
  | ok answer => exact ⟨fun _ => rfl, fun _ => ⟨answer, rfl⟩⟩
  | error e => exact ⟨nofun, nofun⟩

/-- A list of one repo whose owner and statuses are null. -/
def sized (bytes : Int) : Json :=
  .obj [("Volumes", .arr [.obj [("Owner", .null),
    ("TopLevelVolume", .obj [("Id", .str "v"), ("SizeBytes", .int bytes),
      ("ServerStatuses", .null)])]])]

/-- The same without the nulls, in another order and with a remark. -/
def sizedWithRemark (bytes : Int) : Json :=
  .obj [("Volumes", .arr [.obj [
    ("TopLevelVolume", .obj [("SizeBytes", .int bytes), ("Id", .str "v")]),
    ("Remark", .int 1)]])]

theorem same_sizedWithRemark (bytes : Int) :
    Inventory.schema.Same (sized bytes) (sizedWithRemark bytes) := by
  have hrepo : ∀ {x y}, Repo.schema.Edit x y →
      Inventory.schema.Same (.obj [("Volumes", .arr [x])]) (.obj [("Volumes", .arr [y])]) :=
    fun he => .rel _ _ (@Edit.inMember _ [] [] _ _ _ _ (.head _)
      (.besideNull (@Edit.inItem _ [] [] _ _ he)))
  have hvolume : ∀ {x y}, Volume.schema.Edit x y →
      Repo.schema.Edit (.obj [("TopLevelVolume", x)]) (.obj [("TopLevelVolume", y)]) :=
    fun he => @Edit.inMember _ [] [] _ _ _ _ (.head _) (.besideNull he)
  have howner : ∀ x, Repo.schema.Edit (.obj [("Owner", .null), ("TopLevelVolume", x)])
      (.obj [("TopLevelVolume", x)]) :=
    fun x => @Edit.dropNull _ [] [_] "Owner" Profile.schema (by simp) (by simp)
  have hstatuses : Volume.schema.Edit
      (.obj [("Id", .str "v"), ("SizeBytes", .int bytes), ("ServerStatuses", .null)])
      (.obj [("Id", .str "v"), ("SizeBytes", .int bytes)]) :=
    @Edit.dropNull _ [_, _] [] "ServerStatuses" .texts (by simp) nofun
  have hswap : Volume.schema.Edit (.obj [("Id", .str "v"), ("SizeBytes", .int bytes)])
      (.obj [("SizeBytes", .int bytes), ("Id", .str "v")]) := .reorder (.swap _ _ _) (by simp)
  have hremark : ∀ x, Repo.schema.Edit (.obj [("TopLevelVolume", x)])
      (.obj [("TopLevelVolume", x), ("Remark", .int 1)]) :=
    fun x => @Edit.addUndeclared _ [_] [] "Remark" _ (by decide)
  exact (hrepo (howner _)).trans _ _ _ ((hrepo (hvolume hstatuses)).trans _ _ _
    ((hrepo (hvolume hswap)).trans _ _ _ (hrepo (hremark _))))

theorem answers_decode_by_schema_sized :
    Inventory.schema.isKeyed (sized 5) ∧
    (∃ answer, repoList.decodeAnswer (sized 5) = .ok answer ∧
      repoList.decodeAnswer (sizedWithRemark 5) = .ok answer) ∧
    ¬ ∃ answer, repoList.decodeAnswer (sized 9223372036854775808) = .ok answer := by
  obtain ⟨haccepts, hsame⟩ := answers_decode_by_schema .repoList
  have hkeyed : Inventory.schema.isKeyed (sized 5) := by decide +kernel
  have hlarge : ¬ Inventory.schema.admits (sized 9223372036854775808) := by decide +kernel
  obtain ⟨answer, hanswer⟩ := (haccepts _ hkeyed).mpr (by decide +kernel)
  refine ⟨hkeyed, ⟨answer, hanswer, ?_⟩, fun h => hlarge ((haccepts _ (by decide +kernel)).mp h)⟩
  rw [← hsame _ _ (same_sizedWithRemark 5)]
  exact hanswer

end Backend.Api
end StorageConsole
