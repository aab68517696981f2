import StorageConsole.Account.Registration
import StorageConsole.Backend.Client
import StorageConsole.Billing.Plan
import StorageConsole.Volume.Commit

/-!
The calls that the console makes: what each one sends, in whose name, and what it answers.
-/
namespace StorageConsole.Backend

inductive Api where
  | login
  | register
  | repoList
  | repoCreate
  | commitList
  | invite
  | pay
  | config
  deriving DecidableEq, Repr, Inhabited

/-- In whose name a call is made. -/
inductive Identity where
  | nobody
  /-- The session's user; without a session the call fails at once. -/
  | session
  /-- The credentials that the call itself carries. -/
  | payload
  deriving DecidableEq, Repr

namespace Api

def all : List Api :=
  [login, register, repoList, repoCreate, commitList, invite, pay, config]

def text : Api → String
  | login => "authLogin"
  | register => "authRegister"
  | repoList => "repoList"
  | repoCreate => "repoCreate"
  | commitList => "repoLoadCommits"
  | invite => "repoAddCollaborator"
  | pay => "billingSubmitPayment"
  | config => "configLoad"

def ofText? (name : String) : Option Api := all.find? (·.text == name)

/-- What a call is given; commits are asked for by the id of their branch. -/
@[reducible] def Payload : Api → Type
  | login => Credentials
  | register => Registration
  | repoList => Unit
  | repoCreate => VolumeName
  | commitList => String
  | invite => Invitation
  | pay => Payment
  | config => Unit

@[reducible] def Answer : Api → Type
  | login => Profile
  | register => RegistrationOutcome
  | repoList => Inventory
  | repoCreate => Bool
  | commitList => Option (List Commit)
  | invite => Bool
  | pay => Bool
  | config => PublicConfig

def identity : Api → Identity
  | login => .payload
  | register => .nobody
  | repoList | repoCreate | commitList | invite | pay | config => .session

/-- The credentials that a payload carries. -/
def payloadCredentials : (api : Api) → api.Payload → Option Credentials
  | login, c => some c
  | register, _ | repoList, _ | repoCreate, _ | commitList, _ | invite, _ | pay, _ | config, _ =>
    none

def message : (api : Api) → api.Payload → Message
  | login, _ => .call "CurrentUser" (.obj [])
  | register, r => .registration r.encode
  | repoList, _ => .call "AllVolumesAndClones" (.obj [])
  | repoCreate, volume => .call "Create" volume.encode
  | commitList, branch => .call "SnapshotsById" (.arr [.str branch])
  | invite, i => .call "AddCollaborator" i.encode
  | pay, p => .call "SubmitPayment" p.encode
  | config, _ => .call "Config" (.obj [])

def decodePayload : (api : Api) → Json → Decoded api.Payload
  | login => Credentials.decode
  | register => Registration.decode
  | repoList | config => fun _ => .ok ()
  | repoCreate => VolumeName.decode
  | commitList => Json.text
  | invite => Invitation.decode
  | pay => Payment.decode

def decodeAnswer : (api : Api) → Json → Decoded api.Answer
  | login => Profile.decode
  | register => RegistrationOutcome.decode
  | repoList => Inventory.decode
  | repoCreate => Json.flag
  | commitList => Commit.decodeAnswer
  | invite => Json.flag
  | pay => Json.flag
  | config => PublicConfig.decode

def encodeAnswer : (api : Api) → api.Answer → Json
  | login, profile => profile.encode
  | register, outcome => outcome.encode
  | repoList, inventory => inventory.encode
  | repoCreate, made => .bool made
  | commitList, commits => Commit.encodeAnswer commits
  | invite, made => .bool made
  | pay, made => .bool made
  | config, plans => plans.encode

/-- What the user is told of a failed call. Of a login nothing but that it failed, so that nobody
learns which half of it was wrong. -/
def display (api : Api) (error : CallError) : String :=
  match api with
  | login => "incorrect details"
  | _ => error.message

/-- The answer in the reply to a call, and the value that it was decoded from. -/
def answerOf (api : Api) (id : Option Nat) (reply : Reply) :
    Except CallError (api.Answer × Json) := do
  let raw ← reply.result id
  match api.decodeAnswer raw with
  | .ok answer => .ok (answer, raw)
  | .error e => .error (.undecodable e.message)

end Api

/-- What a load reports: an answer, or an error for the user together with its cause. -/
structure LoadResult (α : Type) where
  answer : Option α
  error : Option String
  cause : Option CallError
  deriving DecidableEq, Repr

namespace LoadResult
variable {α : Type}

def answered (answer : α) : LoadResult α := ⟨some answer, none, none⟩

def failed (display : String) (cause : CallError) : LoadResult α :=
  ⟨none, some display, some cause⟩

def isOk (r : LoadResult α) : Bool := r.error.isNone

/-- An error outweighs an answer. -/
def toExcept (r : LoadResult α) : Except String α :=
  match r.answer, r.error with
  | _, some error => .error error
  | some answer, none => .ok answer
  | none, none => .error CallError.noResult.message

end LoadResult

/-- What a load reports of a call's outcome. -/
def Api.report (api : Api) : Except CallError (api.Answer × Json) → LoadResult api.Answer
  | .ok (answer, _) => .answered answer
  | .error e => .failed (api.display e) e

end StorageConsole.Backend
