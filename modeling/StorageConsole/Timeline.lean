import StorageConsole.State.Store
import StorageConsole.Text.Integer

/-!
The control loop on a clock of its own. A pass takes some milliseconds and then writes a message
through the gate of its loop; everything that is due at an instant happens before time goes on, the
ends of passes first and in the order in which the passes began.
-/
namespace StorageConsole

/-- A pass that is under way. -/
structure Pass where
  number : Nat
  loop : LoopId
  ends : Nat
  deriving DecidableEq, Repr

inductive TimelineEntry where
  | began (pass : Nat) (hook : HookName) (time : Nat)
  /-- Whether the gate of the pass's loop was still open. -/
  | ended (pass : Nat) (isOpen : Bool) (time : Nat)
  deriving DecidableEq, Repr

/-- When a loop in this phase is over with its sleep. -/
def LoopPhase.deadline? : LoopPhase → Option Nat
  | asleep _ deadline _ => some deadline
  | ready | refreshing _ _ => none

structure Timeline extends Store where
  now : Nat
  loop : ControlLoop
  /-- How long each pass takes. -/
  duration : Nat → Nat
  /-- The passes under way, in the order in which they began. -/
  passes : List Pass
  passesBegun : Nat
  log : List TimelineEntry

namespace Timeline

def start (table : Route.Table) (interval : Nat) (duration : Nat → Nat) : Timeline where
  toStore := .start table
  now := 0
  loop := .idle interval
  duration := duration
  passes := []
  passesBegun := 0
  log := []

def view (t : Timeline) : LoopView := t.toStore.loopView t.now

def passMessage (number : Nat) : String := "pass " ++ Text.showNat number

/-- Ends a pass: its message is written if the gate is open, and its loop goes to sleep. -/
def endPass (t : Timeline) (pass : Pass) : Timeline :=
  let isOpen := t.loop.isOpen pass.loop
  let store := t.toStore.through isOpen
    (·.dispatch (.setMessage (some (passMessage pass.number))))
  { t with
    toStore := store
    loop := t.loop.passEnded (store.loopView t.now) pass.loop
    passes := t.passes.filter (·.number != pass.number)
    log := t.log ++ [.ended pass.number isOpen t.now] }

/-- Begins a pass; one that takes no time ends at once. -/
def beginPass (t : Timeline) (loop : LoopId) (hook : HookName) : Timeline :=
  let pass : Pass :=
    ⟨t.passesBegun + 1, loop, t.now + t.duration (t.passesBegun + 1)⟩
  let t := { t with
    passes := t.passes ++ [pass]
    passesBegun := pass.number
    log := t.log ++ [.began pass.number hook t.now] }
  if pass.ends = t.now then t.endPass pass else t

def giveTurn (t : Timeline) (id : LoopId) : Timeline :=
  let (hook, loop) := t.loop.turn t.view id
  let t := { t with loop }
  match hook with
  | some hook => t.beginPass id hook
  | none => t

/-- Lets everything happen that is due at this instant. -/
def settle (t : Timeline) : Timeline :=
  let t := (t.passes.filter (·.ends ≤ t.now)).foldl endPass t
  (t.loop.runs.map (·.id)).foldl giveTurn t

/-- The instants at which something is going to be due: a pass or a sleep comes to its end. -/
def deadlines (t : Timeline) : List Nat :=
  t.passes.map (·.ends) ++ t.loop.runs.filterMap (·.phase.deadline?)

/-- How long nothing will be due, at least one millisecond and at most `limit`. -/
def quiet (t : Timeline) (limit : Nat) : Nat :=
  max 1 ((t.deadlines.map (· - t.now)).foldl min limit)

/-- Lets time pass from one deadline to the next. What is due before the end happens on the way, and
what is due at the end is still to come. -/
def wait (t : Timeline) (milliseconds : Nat) : Timeline :=
  if milliseconds = 0 then t
  else
    let settled := t.settle
    let pause := settled.quiet milliseconds
    wait { settled with now := settled.now + pause } (milliseconds - pause)
termination_by milliseconds
decreasing_by simp only [quiet]; omega

end Timeline

/-- What can happen on a timeline. The loops get no turn before time passes or all is settled. -/
inductive TimelineEvent where
  | start
  | stop
  | dispatch (action : Action)
  | navigate (path : String)
  | wait (milliseconds : Nat)
  | settle
  deriving DecidableEq, Repr

namespace Timeline

def step (t : Timeline) : TimelineEvent → Timeline
  | .start => { t with loop := t.loop.start }
  | .stop => { t with loop := t.loop.stop }
  | .dispatch action => { t with toStore := t.toStore.dispatch action }
  | .navigate path => { t with toStore := (t.toStore.navigate path).2 }
  | .wait milliseconds => t.wait milliseconds
  | .settle => t.settle

def runAll (t : Timeline) (events : List TimelineEvent) : Timeline := events.foldl step t

end Timeline

end StorageConsole
