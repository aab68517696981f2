import StorageConsole.Hook
import StorageConsole.Watch

/-!
The control loop, which keeps reloading what the current route shows. A loop reads the route, runs
the route's hook and sleeps until its interval is over or another route is published. Each loop has a
gate and a stop signal of its own: starting or stopping cancels the current loop by them, and a loop
that has been cancelled leaves as soon as it gets a turn.
-/
namespace StorageConsole

abbrev LoopId := Nat

/-- What a loop is cancelled by. -/
structure LoopHandle where
  /-- The gate of the loop's writes. -/
  active : Bool
  /-- What a sleeping loop is woken by in order to leave. -/
  stop : Watch.Channel Bool
  deriving DecidableEq, Repr, Inhabited

namespace LoopHandle

def fresh : LoopHandle := ⟨true, .start false⟩

def cancel (h : LoopHandle) : LoopHandle := ⟨false, h.stop.send true⟩

end LoopHandle

/-- Where a loop stands between two turns. -/
inductive LoopPhase where
  /-- Is about to begin an iteration. -/
  | ready
  /-- Runs the hook of a route of that generation. -/
  | refreshing (generation : Nat) (updates : Watch.Receiver)
  /-- Has read a route of that generation and sleeps until the deadline. -/
  | asleep (generation deadline : Nat) (updates : Watch.Receiver)
  deriving DecidableEq, Repr, Inhabited

structure LoopRun where
  id : LoopId
  /-- What it has seen of its stop signal. -/
  stop : Watch.Receiver
  phase : LoopPhase
  deriving DecidableEq, Repr, Inhabited

/-- What a loop reads of the state. -/
structure RouteReading where
  generation : Nat
  hook : Option HookName
  deriving DecidableEq, Repr

/-- What a loop can look at: the time, and the state as it has been published. -/
structure LoopView where
  now : Nat
  updates : Watch.Channel RouteReading
  deriving DecidableEq, Repr

def LoopView.generation (view : LoopView) : Nat := view.updates.value.generation

def LoopView.hook (view : LoopView) : Option HookName := view.updates.value.hook

/-- What a sleeping loop waits for. The first that is there wakes it. -/
inductive Waker where
  | interval
  | stop
  | route
  deriving DecidableEq, Repr

namespace Waker

/-- An order in which a loop may look at them; it takes any. -/
def all : List Waker := [interval, stop, route]

end Waker

/-- What comes next for a loop. -/
inductive LoopMove where
  | leave
  | iterate
  | stay (phase : LoopPhase)
  deriving DecidableEq, Repr

structure ControlLoop where
  interval : Nat
  /-- The handles of the loops started so far; the loops are numbered in this order. -/
  handles : List LoopHandle
  /-- The loop that was started last, unless it has been stopped. -/
  current : Option LoopId
  /-- The loops that have not left yet. -/
  runs : List LoopRun
  deriving DecidableEq, Repr, Inhabited

namespace ControlLoop

def idle (interval : Nat) : ControlLoop := ⟨interval, [], none, []⟩

def started (c : ControlLoop) : Nat := c.handles.length

def isRunning (c : ControlLoop) : Bool := c.current.isSome

/-- Whether the gate of a loop is open. -/
def isOpen (c : ControlLoop) (id : LoopId) : Bool := c.handles[id]?.any (·.active)

def cancel (c : ControlLoop) (id : LoopId) : ControlLoop :=
  { c with handles := c.handles.modify id .cancel }

/-- Cancels the current loop, if there is one. -/
def stop (c : ControlLoop) : ControlLoop :=
  match c.current with
  | some id => { c.cancel id with current := none }
  | none => c

/-- Makes a new loop the current one. -/
def enlist (c : ControlLoop) : ControlLoop :=
  let handle := LoopHandle.fresh
  { c with
    handles := c.handles ++ [handle]
    current := some c.started
    runs := c.runs ++ [⟨c.started, handle.stop.subscribe, .ready⟩] }

/-- Starts a loop, which takes the place of the current one. -/
def start (c : ControlLoop) : ControlLoop := c.stop.enlist

def run? (c : ControlLoop) (id : LoopId) : Option LoopRun := c.runs.find? (·.id == id)

def leave (c : ControlLoop) (id : LoopId) : ControlLoop :=
  { c with runs := c.runs.filter (·.id != id) }

def enter (c : ControlLoop) (id : LoopId) (phase : LoopPhase) : ControlLoop :=
  { c with runs := c.runs.map fun run => if run.id = id then { run with phase } else run }

/-- Whether a loop has been told to stop and has not seen it. -/
def isTold (c : ControlLoop) (run : LoopRun) : Bool :=
  c.handles[run.id]?.any fun handle => (run.stop.changed? handle.stop).isSome

/-- Looks at the last publication, unless it has been seen, and whether its route is another than that
of the generation. -/
def routeChanged (view : LoopView) (generation : Nat) (updates : Watch.Receiver) :
    Bool × Watch.Receiver :=
  match updates.changed? view.updates with
  | none => (false, updates)
  | some updates => (view.generation != generation, updates)

/-- Whether a waker is there, and what of the state has been seen then. -/
def poll (c : ControlLoop) (view : LoopView) (run : LoopRun) (generation deadline : Nat)
    (updates : Watch.Receiver) : Waker → Bool × Watch.Receiver
  | .interval => (deadline ≤ view.now, updates)
  | .stop => (c.isTold run, updates)
  | .route => routeChanged view generation updates

/-- Looks at wakers in this order, up to the first that is there. -/
def select (c : ControlLoop) (view : LoopView) (run : LoopRun) (generation deadline : Nat) :
    List Waker → Watch.Receiver → LoopMove
  | [], updates => .stay (.asleep generation deadline updates)
  | waker :: wakers, updates =>
    match c.poll view run generation deadline updates waker with
    | (false, updates) => c.select view run generation deadline wakers updates
    | (true, _) => if waker = .stop then .leave else .iterate

/-- Whether a loop is ready, or something has woken it. -/
def isDue (c : ControlLoop) (view : LoopView) (run : LoopRun) : Bool :=
  match run.phase with
  | .ready => true
  | .refreshing _ _ => false
  | .asleep _ deadline updates =>
    c.isTold run || (updates.changed? view.updates).isSome || deadline ≤ view.now

/-- The first loop that has something to do. -/
def due? (c : ControlLoop) (view : LoopView) : Option LoopId :=
  (c.runs.find? (c.isDue view)).map (·.id)

section
variable (order : List Waker) (c : ControlLoop) (view : LoopView)

/-- Begins to wait for the next iteration. -/
def sleepIn (run : LoopRun) (generation : Nat) (updates : Watch.Receiver) : ControlLoop :=
  match c.select view run generation (view.now + c.interval) order updates with
  | .leave => c.leave run.id
  | .iterate => c.enter run.id .ready
  | .stay phase => c.enter run.id phase

/-- Begins an iteration: the loop reads the route and runs its hook, if there is one. If its gate is
closed it leaves. -/
def iterateIn (run : LoopRun) : Option HookName × ControlLoop :=
  if c.isOpen run.id then
    let (route, updates) := view.updates.subscribe.borrowAndUpdate view.updates
    match route.hook with
    | some hook => (some hook, c.enter run.id (.refreshing route.generation updates))
    | none => (none, c.sleepIn order view run route.generation updates)
  else (none, c.leave run.id)

/-- What comes next for a loop that gets a turn. -/
def moveIn (run : LoopRun) : LoopMove :=
  match run.phase with
  | .ready => .iterate
  | .refreshing generation updates => .stay (.refreshing generation updates)
  | .asleep generation deadline updates => c.select view run generation deadline order updates

/-- A loop's turn: the hook of the pass that begins, if one does. A loop with nothing to do gets none. -/
def turnIn (id : LoopId) : Option HookName × ControlLoop :=
  match c.run? id with
  | none => (none, c)
  | some run =>
    if c.isDue view run then
      match c.moveIn order view run with
      | .leave => (none, c.leave id)
      | .iterate => c.iterateIn order view run
      | .stay phase => (none, c.enter id phase)
    else (none, c)

/-- The end of a loop's pass. -/
def passEndedIn (id : LoopId) : ControlLoop :=
  match c.run? id with
  | some run =>
    match run.phase with
    | .refreshing generation updates =>
      if c.isOpen id then c.sleepIn order view run generation updates else c.leave id
    | _ => c
  | none => c

end

def turn : ControlLoop → LoopView → LoopId → Option HookName × ControlLoop := turnIn Waker.all

def passEnded : ControlLoop → LoopView → LoopId → ControlLoop := passEndedIn Waker.all

end ControlLoop

end StorageConsole
