import StorageConsole.Operation

/-!
The console at work: the state, the stored session, the control loop, and the jobs that wait for
the backend. A step starts an operation, hands a reply to a job, gives a loop its turn or lets time
pass. A job runs until its next call without interruption, and jobs may be answered in any order.
-/
namespace StorageConsole

open Backend (Api CallError LoadResult Reply Request)

/-- The loop whose gate a job writes through; a job without one always may. -/
abbrev Gate := Option LoopId

/-- A call that waits for its reply. -/
structure Pending (α : Type) where
  api : Api
  ticket : Nat
  /-- The id that the reply must echo; a registration has none. -/
  id : Option Nat
  next : LoadResult api.Answer → Workflow α

inductive Progress (α : Type) where
  | finished (value : α)
  | waiting (call : Pending α)

abbrev JobId := Nat

structure Job where
  id : JobId
  gate : Gate
  pending : Pending Outcome

structure Console extends Store where
  config : Config
  storage : Storage
  /-- The tickets handed out so far. A ticket is a 64-bit word; fewer than 2^64 calls begin. -/
  tickets : Nat
  /-- The records made of calls, in the order in which they were made. -/
  records : List Action
  client : Backend.Client
  /-- All requests sent, in the order of sending. -/
  requests : List Request
  now : Nat
  loop : ControlLoop
  /-- The jobs that wait, in the order in which they began to. -/
  jobs : List Job
  jobsStarted : Nat
  /-- What the jobs that are done have returned, in the order in which they ended. -/
  finished : List (JobId × Outcome)

namespace Console
variable {α : Type}

def start (config : Config) (table : Route.Table) (storage : Storage) : Console where
  toStore := .start table
  config := config
  storage := storage
  tickets := 0
  records := []
  client := .ofEndpoint config.endpoint
  requests := []
  now := 0
  loop := .idle config.loopInterval
  jobs := []
  jobsStarted := 0
  finished := []

def onStore (change : Store → Store) (c : Console) : Console :=
  { c with toStore := change c.toStore }

def isOpen (c : Console) (gate : Gate) : Bool :=
  match gate with
  | none => true
  | some id => c.loop.isOpen id

/-- Changes the store unless the gate is closed. -/
def through (gate : Gate) (change : Store → Store) (c : Console) : Console :=
  c.onStore (.through (c.isOpen gate) change)

/-- Makes a record of a call. It passes every gate, so that a call of a stopped loop still comes to
an end. -/
def record (c : Console) (a : Action) : Console :=
  { c.onStore (·.dispatch a) with records := c.records ++ [a] }

/-- Takes the next ticket and records a call under it. -/
def beginCall (c : Console) (api : Api) : Nat × Console :=
  let ticket := c.tickets + 1
  (ticket, { c with tickets := ticket }.record (.callRequested api ticket))

/-- The record of a call's end. -/
def completion (api : Api) (ticket : Nat) : Except CallError (api.Answer × Json) → Action
  | .ok (_, raw) => .callAnswered api ticket raw
  | .error e => .callFailed api ticket (api.display e)

def endCall (c : Console) (api : Api) (ticket : Nat)
    (outcome : Except CallError (api.Answer × Json)) : LoadResult api.Answer × Console :=
  (api.report outcome, c.record (completion api ticket outcome))

/-- In whose name a call is made at this moment. -/
def identify (c : Console) (api : Api) (payload : api.Payload) :
    Except CallError (Option Credentials) :=
  match api.identity with
  | .nobody => .ok none
  | .payload => .ok (api.payloadCredentials payload)
  | .session =>
    match c.state.user with
    | some user => .ok (some user)
    | none => .error .unauthenticated

/-- Sends a message; what comes back is the id that the reply must echo. -/
def send (c : Console) (message : Backend.Message) (sender : Option Credentials) :
    Option Nat × Console :=
  let (id, request, client) := c.client.request message sender false
  (id, { c with client, requests := c.requests ++ [request] })

/-- Carries out an effect. -/
def perform (c : Console) (gate : Gate) : (e : Effect) → e.Result × Console
  | .look => (c.state, c)
  | .listen => (c.signals, c)
  | .write action => ((), c.through gate (·.dispatch action))
  | .emit signal => ((), c.through gate (·.emit signal))
  | .redirect path => ((), c.through gate (·.redirect path))
  | .force action => ((), c.onStore (·.dispatch action))
  | .visit path =>
    let (result, store) := c.toStore.navigate path
    (result, { c with toStore := store })
  | .keep text =>
    let (result, storage) := c.storage.save c.config.sessionKey text
    (result, { c with storage })
  | .retrieve => (c.storage.load c.config.sessionKey, c)
  | .forget =>
    let (result, storage) := c.storage.remove c.config.sessionKey
    (result, { c with storage })
  | .startLoop => ((), { c with loop := c.loop.start })
  | .stopLoop => ((), { c with loop := c.loop.stop })

/-- What begins a call: it takes a ticket and sends its request, or fails at once. -/
def call (c : Console) (api : Api) (payload : api.Payload) :
    Nat × Except CallError (Option Nat) × Console :=
  let (ticket, c) := c.beginCall api
  match c.identify api payload with
  | .error e => (ticket, .error e, c)
  | .ok sender => let (id, c) := c.send (api.message payload) sender; (ticket, .ok id, c)

/-- Runs a workflow up to its end or to its next wait for the backend. -/
def advance (gate : Gate) : Workflow α → Console → Progress α × Console
  | .done value, c => (.finished value, c)
  | .act effect next, c =>
    let (result, c) := c.perform gate effect
    advance gate (next result) c
  | .await api payload next, c =>
    let (ticket, sent, c) := c.call api payload
    match sent with
    | .error e =>
      let (result, c) := c.endCall api ticket (.error e)
      advance gate (next result) c
    | .ok id => (.waiting ⟨api, ticket, id, next⟩, c)

/-- Goes on with a workflow after the reply to its call. -/
def resume (gate : Gate) (p : Pending α) (reply : Reply) (c : Console) : Progress α × Console :=
  let (result, c) := c.endCall p.api p.ticket (p.api.answerOf p.id reply)
  advance gate (p.next result) c

/-- Runs a workflow to its end with nothing in between; a backend answers each request. -/
def complete {m : Type → Type} [Monad m] (backend : Request → m Reply) :
    Workflow α → Console → m (α × Console)
  | .done value, c => pure (value, c)
  | .act effect next, c =>
    let (result, c) := c.perform none effect
    complete backend (next result) c
  | .await api payload next, c =>
    let (ticket, sent, c) := c.call api payload
    match sent with
    | .error e =>
      let (result, c) := c.endCall api ticket (.error e)
      complete backend (next result) c
    | .ok id => do
      let reply ← backend (c.requests.getLastD default)
      let (result, c) := c.endCall api ticket (api.answerOf id reply)
      complete backend (next result) c

/-- What a loop reads at its turn. -/
def loopView (c : Console) : LoopView := c.toStore.loopView c.now

/-- Puts a job among those that wait, or among those that are done. With a pass ends the loop's
work on it. -/
def settle (id : JobId) (gate : Gate) : Progress Outcome × Console → Console
  | (.waiting pending, c) => { c with jobs := c.jobs ++ [⟨id, gate, pending⟩] }
  | (.finished outcome, c) =>
    let c := { c with finished := c.finished ++ [(id, outcome)] }
    match gate with
    | some loop => { c with loop := c.loop.passEnded c.loopView loop }
    | none => c

/-- Begins a job and runs it as far as it goes. -/
def begin (c : Console) (gate : Gate) (work : Workflow Outcome) : Console :=
  settle c.jobsStarted gate (advance gate work { c with jobsStarted := c.jobsStarted + 1 })

def run (c : Console) (op : Operation) : Console := c.begin none (op.workflow c.config)

/-- Hands a reply to a job that waits for one. -/
def answer (c : Console) (id : JobId) (reply : Reply) : Console :=
  match c.jobs.find? (·.id == id) with
  | none => c
  | some job =>
    settle id job.gate
      (resume job.gate job.pending reply { c with jobs := c.jobs.filter (·.id != id) })

/-- Gives a loop its turn, in which a pass may begin. -/
def giveTurn (c : Console) (id : LoopId) : Console :=
  let (hook, loop) := c.loop.turn c.loopView id
  let c := { c with loop }
  match hook with
  | some hook => c.begin (some id) ((Operation.refresh hook).workflow c.config)
  | none => c

end Console

/-- What can happen to a console. -/
inductive Event where
  | run (op : Operation)
  | answer (id : JobId) (reply : Reply)
  | turn (id : LoopId)
  | elapse (milliseconds : Nat)

namespace Console

def step (c : Console) : Event → Console
  | .run op => c.run op
  | .answer id reply => c.answer id reply
  | .turn id => c.giveTurn id
  | .elapse milliseconds => { c with now := c.now + milliseconds }

def runAll (c : Console) (events : List Event) : Console := events.foldl step c

end Console

end StorageConsole
