import StorageConsole.Config.Basic
import StorageConsole.Workflow.Basic

/-!
Login, registration, logout, and the restoring of a remembered session. A silent login neither
redirects nor reports a failure.
-/
namespace StorageConsole.Workflow

/-- Loads the public configuration; when that fails it is empty. -/
def loadPublicConfig : Workflow Unit := do
  match (← call .config ()).toExcept with
  | .ok config => set (.setPublicConfig config)
  | .error _ => set (.setPublicConfig .empty)

/-- What the user learns of a failed login. -/
def loginFailedMessage : String := "incorrect details"

def refuseLogin (silent : Bool) : Workflow Bool := do
  if !silent then
    signal (.loginFailed loginFailedMessage)
  return false

/-- Makes credentials that the backend has confirmed the session. It is kept only if it is to be
remembered, and a failure to keep it does not matter. -/
def enterSession (config : Config) (session : Credentials) (silent : Bool) : Workflow Bool := do
  setAlways (.setUser (some session))
  if session.remember then
    let _ ← keepSession session
  if !silent then
    signal .loggedIn
    goTo config.landingPath
  loadPublicConfig
  set (.setReposLoaded false)
  return true

/-- Checks credentials with the backend and makes them the session. -/
def login (config : Config) (credentials : Credentials) (silent : Bool) : Workflow Bool := do
  match (← call .login credentials).toExcept with
  | .ok profile =>
    if profile.isValid then enterSession config (credentials.merge profile) silent
    else refuseLogin silent
  | .error _ => refuseLogin silent

/-- The credentials typed into the login form. -/
def typedCredentials (values : FormValues) : Credentials :=
  { Credentials.typed (values.typed "Name") (values.typed "Password") with
    remember := values.isTicked "Remember" }

def submitLogin (config : Config) : Workflow Bool := do
  match ← validForm .login with
  | some values => login config (typedCredentials values) false
  | none => return false

def notCreatedMessage : String := "user was not created"

def refuseRegistration (message : String) : Workflow Bool := do
  tell message
  signal (.registrationFailed message)
  return false

/-- Creates an account and logs in to it. -/
def register (config : Config) (registration : Registration) : Workflow Bool := do
  match (← call .register registration).toExcept with
  | .error message => refuseRegistration message
  | .ok outcome =>
    if outcome.created then
      if ← login config (.typed registration.name registration.password) false then
        signal .registered
        return true
      else
        return false
    else
      refuseRegistration (outcome.firstError.getD notCreatedMessage)

/-- The registration typed into the register form. -/
def typedRegistration (values : FormValues) : Registration :=
  ⟨values.typed "Email", values.typed "Name", values.typed "Password"⟩

def submitRegistration (config : Config) : Workflow Bool := do
  match ← validForm .register with
  | some values => register config (typedRegistration values)
  | none => return false

/-- Ends the session and forgets the stored one; without a session it does no harm. -/
def logout (config : Config) : Workflow Unit := do
  let _ ← perform .forget
  setAlways (.setUser none)
  goTo config.logoutPath

/-- Goes where a login or a registration leads. -/
def land (config : Config) : Workflow Unit := goTo config.landingPath

/-- The credentials of a stored session, if they are readable and name somebody. -/
def restorable? : Except StorageError (Option String) → Option Credentials
  | .ok (some text) =>
    match Credentials.ofText text with
    | .ok credentials => if credentials.name.isEmpty then none else some credentials
    | .error _ => none
  | .ok none | .error _ => none

/-- Logs in silently with the stored session, if there is one. -/
def restore (config : Config) : Workflow Bool := do
  match restorable? (← perform .retrieve) with
  | some credentials => login config credentials true
  | none => return false

end StorageConsole.Workflow
