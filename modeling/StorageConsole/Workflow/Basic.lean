import StorageConsole.State.Store
import StorageConsole.Storage

/-!
Workflows: what an operation of the console does, as a tree that branches on what its effects and
its calls to the backend return. Between two calls a workflow runs without interruption; at a call
anything else may happen before the reply comes in.
-/
namespace StorageConsole

open Backend (Api LoadResult)

/-- What a workflow does without waiting for anybody. -/
inductive Effect where
  /-- Reads the state. -/
  | look
  /-- Reads the signals emitted so far. -/
  | listen
  /-- Changes the state; a closed gate drops the change. -/
  | write (action : Action)
  /-- Emits a signal; a closed gate drops it. -/
  | emit (signal : Signal)
  /-- Sends the front end elsewhere; a closed gate drops the redirect. -/
  | redirect (path : String)
  /-- Changes the state whatever the gate says. -/
  | force (action : Action)
  /-- Goes to a path whatever the gate says. -/
  | visit (path : String)
  /-- Puts a text under the session's key. -/
  | keep (text : String)
  | retrieve
  | forget
  | startLoop
  | stopLoop
  deriving DecidableEq, Repr

/-- What an effect returns. -/
@[reducible] def Effect.Result : Effect → Type
  | look => State
  | listen => List Signal
  | visit _ => Except NavigationError Route.Match
  | keep _ | forget => Except StorageError Unit
  | retrieve => Except StorageError (Option String)
  | write _ | emit _ | redirect _ | force _ | startLoop | stopLoop => Unit

inductive Workflow (α : Type) : Type where
  | done (value : α)
  | act (effect : Effect) (next : effect.Result → Workflow α)
  /-- Calls the backend and waits for its reply. -/
  | await (api : Api) (payload : api.Payload) (next : LoadResult api.Answer → Workflow α)

namespace Workflow
variable {α β : Type}

protected def bind : Workflow α → (α → Workflow β) → Workflow β
  | done value, f => f value
  | act effect next, f => act effect fun r => (next r).bind f
  | await api payload next, f => await api payload fun r => (next r).bind f

instance : Monad Workflow where
  pure := done
  bind := Workflow.bind

def perform (effect : Effect) : Workflow effect.Result := act effect done

def call (api : Api) (payload : api.Payload) : Workflow (LoadResult api.Answer) :=
  await api payload done

/-- The state as it is now. -/
def state : Workflow State := perform .look

def set (action : Action) : Workflow Unit := perform (.write action)

def setAlways (action : Action) : Workflow Unit := perform (.force action)

def signal (signal : Signal) : Workflow Unit := perform (.emit signal)

def goTo (path : String) : Workflow Unit := perform (.redirect path)

/-- Shows a message to the user. -/
def tell (text : String) : Workflow Unit := do
  set (.setMessage (some text))
  signal (.message text)

/-- Keeps a session beyond the end of the program. -/
def keepSession (session : Credentials) : Workflow (Except StorageError Unit) :=
  perform (.keep session.toText)

/-- The values of a form that is valid; otherwise its errors are shown. -/
def validForm (form : FormName) : Workflow (Option FormValues) := do
  let snapshot := (← state).form form
  if snapshot.valid then
    return some snapshot.values
  else
    set (.touchForm form)
    return none

end Workflow

end StorageConsole
