import StorageConsole.Backend.Api
import StorageConsole.Form
import StorageConsole.Route.Table

/-!
What the console knows, and the actions that change it. A call's state is fenced by its ticket:
tickets are handed out in increasing order, and a completion counts only if no newer call of the
same api has been recorded.
-/
namespace StorageConsole

open Backend (Api)

/-- What is known of the newest call of an api. -/
structure CallState where
  loading : Bool
  error : Option String
  lastAnswer : Option Json
  /-- The ticket of the newest call, or zero before the first. -/
  ticket : Nat
  deriving DecidableEq, Repr, Inhabited

namespace CallState

def idle : CallState := ⟨false, none, none, 0⟩

def requested (c : CallState) (ticket : Nat) : CallState :=
  { c with loading := true, error := none, ticket := max c.ticket ticket }

def answered (c : CallState) (ticket : Nat) (answer : Json) : CallState :=
  if c.ticket ≤ ticket then { c with loading := false, error := none, lastAnswer := some answer }
  else c

def failed (c : CallState) (ticket : Nat) (error : String) : CallState :=
  if c.ticket ≤ ticket then { c with loading := false, error := some error } else c

end CallState

inductive AuthPhase where
  | loggedOut
  | loggingIn
  | loggedIn
  deriving DecidableEq, Repr

/-- Events for the front end that leave no trace in the state. -/
inductive Signal where
  | loginFailed (message : String)
  | loggedIn
  | registrationFailed (message : String)
  | registered
  | redirected (path : String)
  | message (text : String)
  deriving DecidableEq, Repr, Inhabited

structure State where
  user : Option Credentials
  publicConfig : PublicConfig
  initialized : Bool
  repos : List Repo
  servers : List Server
  reposLoaded : Bool
  repoSearch : String
  commits : List Commit
  commitSearch : String
  applicationMessage : Option String
  repoFormLoading : Bool
  collaboratorName : String
  collaboratorFormLoading : Bool
  paymentLoading : Bool
  /-- The forms that have been filled in, shown or reset. -/
  forms : FormName → Option FormSnapshot
  calls : Api → CallState
  route : Route.Match
  /-- Counts the routes published so far, in a 64-bit word; fewer than 2^64 are. -/
  routeGeneration : Nat

namespace State

def start : State where
  user := none
  publicConfig := .empty
  initialized := false
  repos := []
  servers := []
  reposLoaded := false
  repoSearch := ""
  commits := []
  commitSearch := ""
  applicationMessage := none
  repoFormLoading := false
  collaboratorName := ""
  collaboratorFormLoading := false
  paymentLoading := false
  forms := fun _ => none
  calls := fun _ => .idle
  route := .unmatched ""
  routeGeneration := 0

instance : Inhabited State := ⟨start⟩

def authPhase (s : State) : AuthPhase :=
  if s.user.isSome then .loggedIn
  else if (s.calls .login).loading then .loggingIn
  else .loggedOut

def userName? (s : State) : Option String := s.user.map (·.name)

/-- The part of the route's path that a parameter has taken. -/
def param? (s : State) (name : String) : Option String := s.route.params.get? name

/-- A form as it stands; one that was never set is empty. -/
def form (s : State) (name : FormName) : FormSnapshot :=
  (s.forms name).getD (name.snapshot .empty)

def setForm (s : State) (name : FormName) (snapshot : FormSnapshot) : State :=
  { s with forms := fun other => if other = name then some snapshot else s.forms other }

def updateCall (s : State) (api : Api) (change : CallState → CallState) : State :=
  { s with calls := fun other => if other = api then change (s.calls other) else s.calls other }

end State

inductive Action where
  | setUser (user : Option Credentials)
  | setInitialized (value : Bool)
  | setPublicConfig (config : PublicConfig)
  | setRepos (repos : List Repo) (servers : List Server)
  | setReposLoaded (value : Bool)
  | setRepoSearch (search : String)
  | setCommits (commits : List Commit)
  | setCommitSearch (search : String)
  | setMessage (message : Option String)
  | setRepoFormLoading (value : Bool)
  | setCollaboratorName (name : String)
  | setCollaboratorFormLoading (value : Bool)
  | setPaymentLoading (value : Bool)
  | setForm (form : FormName) (snapshot : FormSnapshot)
  /-- Shows the form's errors. -/
  | touchForm (form : FormName)
  | resetForm (form : FormName)
  | callRequested (api : Api) (ticket : Nat)
  | callAnswered (api : Api) (ticket : Nat) (answer : Json)
  | callFailed (api : Api) (ticket : Nat) (error : String)
  | publishRoute (route : Route.Match)
  deriving DecidableEq, Repr

namespace Action

def apply (a : Action) (s : State) : State :=
  match a with
  | setUser user => { s with user }
  | setInitialized value => { s with initialized := value }
  | setPublicConfig config => { s with publicConfig := config }
  | setRepos repos servers => { s with repos, servers }
  | setReposLoaded value => { s with reposLoaded := value }
  | setRepoSearch search => { s with repoSearch := search }
  | setCommits commits => { s with commits }
  | setCommitSearch search => { s with commitSearch := search }
  | setMessage message => { s with applicationMessage := message }
  | setRepoFormLoading value => { s with repoFormLoading := value }
  | setCollaboratorName name => { s with collaboratorName := name }
  | setCollaboratorFormLoading value => { s with collaboratorFormLoading := value }
  | setPaymentLoading value => { s with paymentLoading := value }
  | setForm form snapshot => s.setForm form snapshot
  | touchForm form => s.setForm form { s.form form with touched := true }
  | resetForm form => s.setForm form (form.snapshot .empty)
  | callRequested api ticket => s.updateCall api (·.requested ticket)
  | callAnswered api ticket answer => s.updateCall api (·.answered ticket answer)
  | callFailed api ticket error => s.updateCall api (·.failed ticket error)
  | publishRoute route => { s with route, routeGeneration := s.routeGeneration + 1 }

end Action

end StorageConsole
