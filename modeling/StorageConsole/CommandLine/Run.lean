import StorageConsole.CommandLine.Command
import StorageConsole.Config.File
import StorageConsole.Operation

/-!
What a command does: the lines that it prints, or the error that it ends with.
-/
namespace StorageConsole.CommandLine

open Workflow

/-- A workflow that may end with an error for the user. -/
abbrev Attempt (α : Type) := ExceptT String Workflow α

/-- The settings that the general options leave. -/
def Invocation.settings (i : Invocation) (config : Config) : Config :=
  { config with
    serverUrl := i.serverUrl.getD config.serverUrl
    sessionFolder := i.sessionFolder.getD config.sessionFolder }

/-- The settings for a run: those of the settings file, if one is named, under the environment's
and the general options. -/
def Invocation.configure (i : Invocation) (file : Option String) (env : Config.Environment) :
    Except ConfigError Config := do
  let config ← match i.config with
    | none => pure .default
    | some path => Config.ofFile path file
  return i.settings (← config.override env)

def fill (form : FormName) (values : List (String × Json)) : Workflow Unit :=
  let values : FormValues := Named.ofList values
  setAlways (.setForm form (form.snapshot values))

def requireSession (config : Config) : Attempt Unit := do
  if !(← restore config) then
    throw "not logged in, run `datamesh-console login <name> <password>` first"

/-- Goes to a path, and nowhere else. -/
def visitOnly (path : String) : Attempt Unit := do
  match ← perform (.visit path) with
  | .error e => throw e.message
  | .ok route =>
    if route.path ≠ path then
      throw (path ++ " is not available, redirected to " ++ route.path)

def padRight (width : Nat) (text : String) : String :=
  text ++ String.ofList (List.replicate (width - text.length) ' ')

def padLeft (width : Nat) (text : String) : String :=
  String.ofList (List.replicate (width - text.length) ' ') ++ text

def repoLine (r : Repo) : String :=
  padRight 32 r.title ++ " " ++ padLeft 8 r.sizeTitle ++ "  " ++ r.branchCountTitle

def commitLine (c : Commit) : String :=
  padRight 12 c.id ++ " " ++ padLeft 15 (Text.showInt c.millis) ++ " " ++ padRight 16 c.author
    ++ " " ++ c.message

/-- The line below a page; an empty list has one page too. -/
def pageLine {α : Type} (page : Listing.Page α) (noun : String) : String :=
  "page " ++ Text.showNat page.current ++ " of " ++ Text.showNat (max page.count 1) ++ " ("
    ++ Text.showNat page.total ++ " " ++ noun ++ ")"

/-- The message that the console shows, if it shows one. -/
def shownMessage : Workflow (List String) := do
  return (← state).applicationMessage.toList

/-- The last signal that tells why a registration or its login failed. -/
def failureReason (signals : List Signal) : String :=
  let reasons := signals.filterMap fun
    | .registrationFailed message | .loginFailed message => some message
    | _ => none
  reasons.getLastD "registration failed"

def runLogin (config : Config) (name password : String) (remember : Bool) :
    Attempt (List String) := do
  fill .login [("Name", .str name), ("Password", .str password), ("Remember", .bool remember)]
  runHook config .loginSubmit
  let s ← state
  match s.user with
  | some user => return ["logged in as " ++ user.name]
  | none => throw ("login failed: " ++ (s.calls .login).error.getD loginFailedMessage)

def runWhoami (config : Config) : Attempt (List String) := do
  if ← restore config then
    match (← state).user with
    | some user => return [user.name ++ " <" ++ user.email.getD "no email" ++ ">"]
    | none => return []
  else
    return ["not logged in"]

/-- A registration keeps its session, unlike one made from a form. -/
def runRegister (config : Config) (email name password : String) : Attempt (List String) := do
  fill .register [("Email", .str email), ("Name", .str name), ("Password", .str password)]
  runHook config .registerSubmit
  match (← state).user with
  | none => throw (failureReason (← perform .listen))
  | some user =>
    match ← keepSession user with
    | .error e => throw (e.message config.sessionFolder)
    | .ok () => return ["registered and logged in as " ++ name]

def runRepos (config : Config) (search : Option String) (page : Nat) :
    Attempt (List String) := do
  requireSession config
  visitOnly (repoPagePath page)
  runHook config .repoList
  if let some search := search then
    setAlways (.setRepoSearch search)
  let page := (← state).repoPage config.repoPageSize
  return page.items.map repoLine ++ [pageLine page "repos"]

def runCreateRepo (config : Config) (name : String) : Attempt (List String) := do
  requireSession config
  visitOnly "/repos"
  runHook config .repoFormReset
  fill .repo [("Name", .str name)]
  runHook config .repoFormSubmit
  shownMessage

def runCommits (config : Config) (location : RepoLocation) (search : Option String) (page : Nat) :
    Attempt (List String) := do
  requireSession config
  visitOnly (location.pageUrl page)
  runHook config .commitList
  if let some search := search then
    setAlways (.setCommitSearch search)
  let page := (← state).commitPage config.commitPageSize
  return page.items.map commitLine ++ [pageLine page "commits"]

def runAddCollaborator (config : Config) (space name collaborator : String) :
    Attempt (List String) := do
  requireSession config
  visitOnly ("/repo/" ++ space ++ "/" ++ name)
  runHook config .repoList
  runHook config (.collaboratorName collaborator)
  runHook config .collaboratorAdd
  shownMessage

def runPlans (config : Config) : Attempt (List String) := do
  requireSession config
  return [(← state).publicConfig.encode.indented]

def runPay (config : Config) (plan token : String) : Attempt (List String) := do
  requireSession config
  visitOnly "/payment"
  fill .payment [("Plan", .str plan)]
  runHook config (.tokenReceived token)
  shownMessage

/-- The lines that a command prints. Watching goes on for as long as the program runs; here it only
goes to its route. -/
def Command.run (config : Config) : Command → Attempt (List String)
  | .login name password remember => runLogin config name password remember
  | .logout => do
    Workflow.logout config
    return ["logged out"]
  | .whoami => runWhoami config
  | .register email name password => runRegister config email name password
  | .repos search page => runRepos config search page
  | .createRepo name => runCreateRepo config name
  | .commits space name branch search page =>
    runCommits config ⟨space, name, branch⟩ search page
  | .addCollaborator space name collaborator => runAddCollaborator config space name collaborator
  | .plans => runPlans config
  | .pay plan token => runPay config plan token
  | .watch path => do
    match ← Operation.coldStartWorkflow config path with
    | .landed (.error e) => throw e.message
    | _ => return []

/-- A command as a workflow. -/
def Command.workflow (config : Config) (command : Command) :
    Workflow (Except String (List String)) :=
  (command.run config).run

end StorageConsole.CommandLine
