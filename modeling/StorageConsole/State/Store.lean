import StorageConsole.ControlLoop
import StorageConsole.State.Basic

/-!
The state together with the signals emitted and the routes that can be taken. Every write publishes
the state, even one that changes nothing. What a closed gate drops never happens at all: neither the
write nor the signal nor the redirect.
-/
namespace StorageConsole

/-- A navigation that met too many redirects. -/
structure NavigationError where
  path : String
  deriving DecidableEq, Repr, Inhabited

def NavigationError.message (e : NavigationError) : String :=
  "redirect loop while navigating to " ++ e.path

structure Store where
  table : Route.Table
  state : State
  /-- How often the state has been published. -/
  version : Nat
  /-- All signals, in the order in which they were emitted. -/
  signals : List Signal

namespace Store

def start (table : Route.Table) : Store := ⟨table, .start, 0, []⟩

def updates (s : Store) : Watch.Channel State := ⟨s.state, s.version⟩

/-- Publishes what an action makes of the state. -/
def dispatch (s : Store) (a : Action) : Store :=
  let updates := s.updates.send (a.apply s.state)
  { s with state := updates.value, version := updates.version }

/-- What a control loop can look at. -/
def loopView (s : Store) (now : Nat) : LoopView :=
  ⟨now, s.updates.map fun state => ⟨state.routeGeneration, state.route.policy.hook⟩⟩

def emit (s : Store) (signal : Signal) : Store := { s with signals := s.signals ++ [signal] }

/-- Follows the guard from a path and publishes the route that it lets pass. -/
def navigate (s : Store) (path : String) : Except NavigationError Route.Match × Store :=
  let (landed, targets) :=
    s.table.follow s.state.user.isSome Route.Table.maxRedirects (s.table.resolve path)
  let s := { s with signals := s.signals ++ targets.map .redirected }
  match landed with
  | some route => (.ok route, s.dispatch (.publishRoute route))
  | none => (.error ⟨path⟩, s)

/-- Tells the front end to go elsewhere and goes there, if that is possible. -/
def redirect (s : Store) (path : String) : Store :=
  ((s.emit (.redirected path)).navigate path).2

/-- Does something unless the gate is closed. -/
def through (isOpen : Bool) (change : Store → Store) (s : Store) : Store :=
  if isOpen then change s else s

end Store

end StorageConsole
