import StorageConsole.Json.Basic

/-!
Hooks: the entries through which a front end runs the console. The parameterless data loads may
also be run by the control loop of a route.
-/
namespace StorageConsole

inductive HookName where
  | logout
  | loginSubmit
  | loginSuccess
  | registerSubmit
  | registerSuccess
  | repoList
  | repoSearch
  | repoPage
  | repoFormReset
  | repoFormSubmit
  | commitList
  | commitSearch
  | commitPage
  | collaboratorName
  | collaboratorAdd
  | tokenReceived
  | configLoad
  deriving DecidableEq, Repr, Inhabited

namespace HookName

def all : List HookName :=
  [logout, loginSubmit, loginSuccess, registerSubmit, registerSuccess, repoList, repoSearch,
   repoPage, repoFormReset, repoFormSubmit, commitList, commitSearch, commitPage,
   collaboratorName, collaboratorAdd, tokenReceived, configLoad]

def text : HookName → String
  | logout => "authLogout"
  | loginSubmit => "authLoginSubmit"
  | loginSuccess => "authLoginSuccess"
  | registerSubmit => "authRegisterSubmit"
  | registerSuccess => "authRegisterSuccess"
  | repoList => "repoList"
  | repoSearch => "repoUpdateSearch"
  | repoPage => "repoUpdatePage"
  | repoFormReset => "repoFormInitialize"
  | repoFormSubmit => "repoFormSubmit"
  | commitList => "commitList"
  | commitSearch => "commitUpdateSearch"
  | commitPage => "commitUpdatePage"
  | collaboratorName => "collaboratorUpdateName"
  | collaboratorAdd => "collaboratorAdd"
  | tokenReceived => "billingTokenReceived"
  | configLoad => "configLoad"

def ofText? (name : String) : Option HookName := all.find? (·.text == name)

/-- What is said of a name that no hook has. -/
def unknownMessage (name : String) : String := "unknown hook: " ++ name

/-- The data loads that a control loop may run. -/
def isRefreshable : HookName → Bool
  | repoList | commitList | configLoad => true
  | _ => false

end HookName

/-- A hook with its payload. -/
inductive Hook where
  | logout
  | loginSubmit
  | loginSuccess
  | registerSubmit
  | registerSuccess
  | repoList
  | repoSearch (search : String)
  | repoPage (page : Nat)
  | repoFormReset
  | repoFormSubmit
  | commitList
  | commitSearch (search : String)
  | commitPage (page : Nat)
  | collaboratorName (name : String)
  | collaboratorAdd
  | tokenReceived (token : String)
  | configLoad
  deriving DecidableEq, Repr, Inhabited

namespace Hook

def name : Hook → HookName
  | logout => .logout
  | loginSubmit => .loginSubmit
  | loginSuccess => .loginSuccess
  | registerSubmit => .registerSubmit
  | registerSuccess => .registerSuccess
  | repoList => .repoList
  | repoSearch _ => .repoSearch
  | repoPage _ => .repoPage
  | repoFormReset => .repoFormReset
  | repoFormSubmit => .repoFormSubmit
  | commitList => .commitList
  | commitSearch _ => .commitSearch
  | commitPage _ => .commitPage
  | collaboratorName _ => .collaboratorName
  | collaboratorAdd => .collaboratorAdd
  | tokenReceived _ => .tokenReceived
  | configLoad => .configLoad

/-- The hook of a name that needs no payload. -/
def withoutPayload? : HookName → Option Hook
  | .logout => some logout
  | .loginSubmit => some loginSubmit
  | .loginSuccess => some loginSuccess
  | .registerSubmit => some registerSubmit
  | .registerSuccess => some registerSuccess
  | .repoList => some repoList
  | .repoFormReset => some repoFormReset
  | .repoFormSubmit => some repoFormSubmit
  | .commitList => some commitList
  | .collaboratorAdd => some collaboratorAdd
  | .configLoad => some configLoad
  | .repoSearch | .repoPage | .commitSearch | .commitPage | .collaboratorName | .tokenReceived =>
    none

/-- The hook of a name with the payload that it needs, if that is given; the others need none. -/
def ofPayload? (name : HookName) (payload : Json) : Option Hook :=
  match name with
  | .repoSearch => payload.asText?.map repoSearch
  | .repoPage => payload.asUnsigned?.map repoPage
  | .commitSearch => payload.asText?.map commitSearch
  | .commitPage => payload.asUnsigned?.map commitPage
  | .collaboratorName => payload.asText?.map collaboratorName
  | .tokenReceived => payload.asText?.map tokenReceived
  | _ => withoutPayload? name

end Hook

end StorageConsole
