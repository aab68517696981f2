import StorageConsole.Workflow.Billing
import StorageConsole.Workflow.Commits
import StorageConsole.Workflow.Session

/-!
The operations that a front end can ask for, and the workflow of each.
-/
namespace StorageConsole

open Backend (Api LoadResult)

namespace Workflow

def runHook (config : Config) : Hook → Workflow Unit
  | .logout => logout config
  | .loginSubmit => do let _ ← submitLogin config
  | .loginSuccess | .registerSuccess => land config
  | .registerSubmit => do let _ ← submitRegistration config
  | .repoList => listRepos
  | .repoSearch search => searchRepos search
  | .repoPage page => openRepoPage page
  | .repoFormReset => resetRepoForm
  | .repoFormSubmit => do let _ ← submitRepoForm
  | .commitList => listCommits
  | .commitSearch search => searchCommits search
  | .commitPage page => openCommitPage page
  | .collaboratorName name => nameCollaborator name
  | .collaboratorAdd => do let _ ← addCollaborator
  | .tokenReceived token => do let _ ← receiveToken config token
  | .configLoad => loadPublicConfig

/-- One pass of the control loop; a hook that it may not run is refused. -/
def refresh (config : Config) (name : HookName) : Workflow Unit :=
  match (Hook.withoutPayload? name).filter fun _ => name.isRefreshable with
  | some hook => runHook config hook
  | none => return ()

end Workflow

inductive Operation where
  | hook (hook : Hook)
  | refresh (name : HookName)
  | updateForm (form : FormName) (values : FormValues)
  | navigate (path : String)
  /-- Restores a session, goes to a path and starts the control loop. -/
  | coldStart (path : String)
  | login (credentials : Credentials)
  | restore
  | logout
  | startLoop
  | stopLoop
  | dispatch (action : Action)
  /-- Puts a text where the session is stored. -/
  | keep (text : String)
  | load (api : Api) (payload : api.Payload)

/-- What an operation returns. -/
inductive Outcome where
  | nothing
  | verdict (value : Bool)
  | landed (result : Except NavigationError Route.Match)
  | kept (result : Except StorageError Unit)
  | loaded (api : Api) (result : LoadResult api.Answer)

namespace Operation
open Workflow

def coldStartWorkflow (config : Config) (path : String) : Workflow Outcome := do
  let _ ← Workflow.restore config
  setAlways (.setInitialized true)
  let result ← perform (.visit path)
  if result.isOk then
    perform .startLoop
  return .landed result

def workflow (config : Config) : Operation → Workflow Outcome
  | hook h => do
    runHook config h
    return .nothing
  | refresh name => do
    Workflow.refresh config name
    return .nothing
  | updateForm form values => do
    setAlways (.setForm form (form.snapshot values))
    return .nothing
  | navigate path => return .landed (← perform (.visit path))
  | coldStart path => coldStartWorkflow config path
  | login credentials => return .verdict (← Workflow.login config credentials false)
  | restore => return .verdict (← Workflow.restore config)
  | logout => do
    Workflow.logout config
    return .nothing
  | startLoop => do
    perform .startLoop
    return .nothing
  | stopLoop => do
    perform .stopLoop
    return .nothing
  | dispatch action => do
    setAlways action
    return .nothing
  | keep text => return .kept (← perform (.keep text))
  | load api payload => return .loaded api (← call api payload)

end Operation

end StorageConsole
