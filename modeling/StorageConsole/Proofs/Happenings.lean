import StorageConsole.Proofs.Phases
import StorageConsole.Timeline

/-!
A timeline's course, one happening after another. The loops may take their turns and the passes come
to their ends in any order, but the clock moves only when no loop has anything to do, and no further
than to the next deadline.
-/
namespace StorageConsole

/-- One thing that happens on a timeline. -/
inductive Happening where
  | start
  | stop
  | dispatch (action : Action)
  | navigate (path : String)
  | passEnd (pass : Pass)
  | turn (id : LoopId)
  | elapse (milliseconds : Nat)
  deriving DecidableEq

/-- The event that asks for a happening; the tasks and the clock go on by themselves. -/
def Happening.asked? : Happening → Option TimelineEvent
  | start => some .start
  | stop => some .stop
  | dispatch action => some (.dispatch action)
  | navigate path => some (.navigate path)
  | passEnd _ | turn _ | elapse _ => none

/-- Whether the tasks of the loops do it, in no time. -/
def Happening.isTask : Happening → Bool
  | passEnd _ | turn _ => true
  | _ => false

/-- Whether the event is more than time for the tasks. -/
def TimelineEvent.isAsked : TimelineEvent → Bool
  | wait _ | settle => false
  | _ => true

def TimelineEntry.isBegan : TimelineEntry → Bool
  | began _ _ _ => true
  | ended _ _ _ => false

theorem Action.apply_generation (a : Action) (s : State) :
    s.routeGeneration ≤ (a.apply s).routeGeneration := by
  cases a with
  | publishRoute route => exact Nat.le_succ _
  | _ => exact Nat.le_refl _

namespace Store

/-- Each write has a version of its own. -/
theorem precedes_dispatch (s : Store) (a : Action) (now : Nat) :
    (s.loopView now).Precedes ((s.dispatch a).loopView now) where
  version := Nat.le_succ _
  generation := a.apply_generation s.state
  silent hsame := absurd hsame (Nat.succ_ne_self _)

theorem precedes_navigate (s : Store) (path : String) (now : Nat) :
    (s.loopView now).Precedes ((s.navigate path).2.loopView now) := by
  unfold navigate
  split
  split
  · exact precedes_dispatch _ _ now
  · exact .refl _

end Store

namespace Timeline
variable {t t' : Timeline} {id other : LoopId} {pass : Pass} {h : Happening}
  {hs : List Happening}

def happen (t : Timeline) : Happening → Timeline
  | .start => t.step .start
  | .stop => t.step .stop
  | .dispatch action => t.step (.dispatch action)
  | .navigate path => t.step (.navigate path)
  | .passEnd pass => t.endPass pass
  | .turn id => t.giveTurn id
  | .elapse milliseconds => { t with now := t.now + milliseconds }

def happenAll (t : Timeline) (hs : List Happening) : Timeline := hs.foldl happen t

/-- Whether it can happen now: a pass ends when its time has come, and the clock moves when no loop has
anything to do, up to the next deadline. -/
def allows (t : Timeline) : Happening → Bool
  | .passEnd pass => t.passes.contains pass && pass.ends ≤ t.now
  | .elapse milliseconds =>
    (t.loop.due? t.view).isNone && t.deadlines.all (t.now + milliseconds ≤ ·)
  | _ => true

/-- Whether the happenings can follow each other. -/
def isTimely (t : Timeline) : List Happening → Bool
  | [] => true
  | h :: hs => t.allows h && (t.happen h).isTimely hs

/-- Whether a turn would make the loop read the route. -/
def reads (t : Timeline) (id : LoopId) : Bool := t.loop.reads t.view id

theorem happenAll_cons (t : Timeline) (h : Happening) (hs : List Happening) :
    t.happenAll (h :: hs) = (t.happen h).happenAll hs := rfl

theorem happenAll_append (t : Timeline) (xs ys : List Happening) :
    t.happenAll (xs ++ ys) = (t.happenAll xs).happenAll ys := List.foldl_append ..

theorem isTimely_append (t : Timeline) (xs ys : List Happening) :
    t.isTimely (xs ++ ys) = (t.isTimely xs && (t.happenAll xs).isTimely ys) := by
  induction xs generalizing t with
  | nil => rfl
  | cons h xs ih => simp only [List.cons_append, isTimely, ih, happenAll_cons, Bool.and_assoc]

/-- What each happening that is allowed keeps, the whole course keeps. -/
theorem happenAll_keeps {P : Timeline → Prop}
    (hstep : ∀ h ∈ hs, ∀ t, t.allows h = true → P t → P (t.happen h))
    (timely : t.isTimely hs = true) (ht : P t) : P (t.happenAll hs) := by
  induction hs generalizing t with
  | nil => exact ht
  | cons h hs ih =>
    obtain ⟨ha, htimely⟩ := Bool.and_eq_true_iff.mp timely
    exact ih (fun h hh => hstep h (.tail _ hh)) htimely (hstep h (.head _) t ha ht)

/-- The end of a pass writes at most a message. -/
theorem endPass_state (t : Timeline) (pass : Pass) :
    ∃ message, (t.endPass pass).state = { t.state with applicationMessage := message } := by
  cases ho : t.loop.isOpen pass.loop with
  | true =>
    refine ⟨some (passMessage pass.number), ?_⟩
    simp [endPass, Store.through, ho, Store.dispatch, Store.updates, Action.apply]
  | false => exact ⟨t.state.applicationMessage, by simp [endPass, Store.through, ho]⟩

theorem endPass_generation (t : Timeline) (pass : Pass) :
    (t.endPass pass).view.generation = t.view.generation := by
  obtain ⟨message, hs⟩ := endPass_state t pass
  have hg : (t.endPass pass).state.routeGeneration = t.state.routeGeneration := by rw [hs]
  exact hg

theorem endPass_hook (t : Timeline) (pass : Pass) : (t.endPass pass).view.hook = t.view.hook := by
  obtain ⟨message, hs⟩ := endPass_state t pass
  have hr : (t.endPass pass).state.route = t.state.route := by rw [hs]
  exact congrArg (·.policy.hook) hr

theorem precedes_endPass (t : Timeline) (pass : Pass) :
    t.view.Precedes (t.endPass pass).view := by
  unfold view endPass Store.through
  dsimp only
  split
  · exact t.toStore.precedes_dispatch _ t.now
  · exact .refl _

/-- The pass that a loop would begin now. -/
def nextPass (t : Timeline) (id : LoopId) : Pass :=
  ⟨t.passesBegun + 1, id, t.now + t.duration (t.passesBegun + 1)⟩

/-- The timeline with the loop's next pass under way. -/
def launch (t : Timeline) (id : LoopId) (hook : HookName) : Timeline :=
  { t with
    loop := t.loop.enter id (.refreshing t.view.generation t.view.updates.subscribe)
    passes := t.passes ++ [t.nextPass id]
    passesBegun := t.passesBegun + 1
    log := t.log ++ [.began (t.passesBegun + 1) hook t.now] }

/-- The kinds of turns: the loop has nothing to do, it leaves, it goes on sleeping, it finds no hook
and sleeps, or it begins a pass, which may end at once. -/
inductive Turned (t : Timeline) (id : LoopId) : Timeline → Prop where
  | waits (due : t.loop.isDueAt t.view id = false) : Turned t id t
  | leaves (due : t.loop.isDueAt t.view id = true) (closed : t.loop.isOpen id = false) :
      Turned t id { t with loop := t.loop.leave id }
  | dozes {phase : LoopPhase} (stands : t.loop.phase? id = some phase)
      (opened : t.loop.isOpen id = true) (idle : phase.goesOn t.view = false) :
      Turned t id { t with loop := t.loop.enter id (phase.caughtUp t.view) }
  | rests (reads : t.reads id = true) (hook : t.view.hook = none) :
      Turned t id { t with
        loop := t.loop.enter id (t.loop.slept t.view t.view.generation t.view.updates.subscribe) }
  | begins {hook : HookName} (reads : t.reads id = true) (found : t.view.hook = some hook)
      (lasts : t.duration (t.passesBegun + 1) ≠ 0) : Turned t id (t.launch id hook)
  | flashes {hook : HookName} (reads : t.reads id = true) (found : t.view.hook = some hook)
      (instant : t.duration (t.passesBegun + 1) = 0) :
      Turned t id ((t.launch id hook).endPass (t.nextPass id))

theorem turned (hw : t.loop.Wired) (id : LoopId) : t.Turned id (t.giveTurn id) := by
  have ht : t.loop.Turned t.view id (t.loop.turn t.view id) :=
    ControlLoop.turned hw ControlLoop.mem_wakers t.view id
  unfold giveTurn
  generalize t.loop.turn t.view id = r at ht
  cases ht with
  | waits due => exact .waits due
  | leaves due closed => exact .leaves due closed
  | dozes stands opened due idle => exact .dozes stands opened idle
  | rests reads hook => exact .rests reads hook
  | @begins hook reads found =>
    by_cases hd : t.duration (t.passesBegun + 1) = 0
    · have hf := Turned.flashes reads found hd
      simpa [beginPass, hd, launch, nextPass] using hf
    · have hb := Turned.begins reads found hd
      simpa [beginPass, hd, launch, nextPass] using hb

/-- What a loop reads of the state is the same after a turn. -/
theorem view_giveTurn (hw : t.loop.Wired) (id : LoopId) :
    t.view.Precedes (t.giveTurn id).view ∧ (t.giveTurn id).now = t.now ∧
      (t.giveTurn id).view.generation = t.view.generation ∧
      (t.giveTurn id).view.hook = t.view.hook := by
  have ht := turned hw id
  generalize t.giveTurn id = u at ht
  cases ht with
  | @flashes hook _ _ _ =>
    exact ⟨precedes_endPass (t.launch id hook) _, rfl, endPass_generation (t.launch id hook) _,
      endPass_hook (t.launch id hook) _⟩
  | _ => exact ⟨.refl _, rfl, rfl, rfl⟩

/-- The loop moves once, and once more if its pass ends at once. -/
theorem moved_giveTurn (hw : t.loop.Wired) (id : LoopId) :
    ∃ l, t.loop.Moved id l ∧ l.Moved id (t.giveTurn id).loop := by
  have ht := turned hw id
  generalize t.giveTurn id = u at ht
  cases ht with
  | waits _ => exact ⟨_, .stays, .stays⟩
  | leaves _ _ => exact ⟨_, .leaves, .stays⟩
  | dozes _ _ _ => exact ⟨_, .enters _, .stays⟩
  | rests _ _ => exact ⟨_, .enters _, .stays⟩
  | begins _ _ _ => exact ⟨_, .enters _, .stays⟩
  | @flashes hook _ _ _ =>
    exact ⟨(t.launch id hook).loop, .enters _, ControlLoop.moved_passEnded _ _ _⟩

/-- Tasks take no time. -/
theorem now_of_task (hw : t.loop.Wired) (hk : h.isTask = true) : (t.happen h).now = t.now := by
  cases h with
  | passEnd pass => rfl
  | turn id => exact (view_giveTurn hw id).2.1
  | start | stop | dispatch _ | navigate _ | elapse _ => cases hk

/-- Tasks leave what loops read as it is. -/
theorem generation_of_task (hw : t.loop.Wired) (hk : h.isTask = true) :
    (t.happen h).state.routeGeneration = t.state.routeGeneration := by
  cases h with
  | passEnd pass => exact endPass_generation t pass
  | turn id => exact (view_giveTurn hw id).2.2.1
  | start | stop | dispatch _ | navigate _ | elapse _ => cases hk

theorem hook_of_task (hw : t.loop.Wired) (hk : h.isTask = true) :
    (t.happen h).state.route.policy.hook = t.state.route.policy.hook := by
  cases h with
  | passEnd pass => exact endPass_hook t pass
  | turn id => exact (view_giveTurn hw id).2.2.2
  | start | stop | dispatch _ | navigate _ | elapse _ => cases hk

theorem control_of_task (hw : t.loop.Wired) (hk : h.isTask = true) :
    (t.happen h).loop.control = t.loop.control := by
  cases h with
  | passEnd pass => exact (ControlLoop.moved_passEnded t.loop _ pass.loop).control_eq
  | turn id =>
    obtain ⟨l, hm, hm'⟩ := moved_giveTurn hw id
    exact hm'.control_eq.trans hm.control_eq
  | start | stop | dispatch _ | navigate _ | elapse _ => cases hk

/-- Tasks open and close no gate. -/
theorem isOpen_of_task (hw : t.loop.Wired) (hk : h.isTask = true) (id : LoopId) :
    (t.happen h).loop.isOpen id = t.loop.isOpen id :=
  ControlLoop.isOpen_of_control (control_of_task hw hk) id

theorem phase?_giveTurn_other (hw : t.loop.Wired) (he : other ≠ id) :
    (t.giveTurn id).loop.phase? other = t.loop.phase? other := by
  obtain ⟨l, hm, hm'⟩ := moved_giveTurn hw id
  exact (hm'.phase?_other he).trans (hm.phase?_other he)

theorem phase?_endPass_other (pass : Pass) (he : id ≠ pass.loop) :
    (t.endPass pass).loop.phase? id = t.loop.phase? id :=
  (ControlLoop.moved_passEnded t.loop _ pass.loop).phase?_other he

theorem later_happen (hw : t.loop.Wired) (h : Happening) : t.loop.Later (t.happen h).loop := by
  cases h with
  | start => exact t.loop.later_start
  | stop => exact t.loop.later_stop
  | dispatch _ | navigate _ | elapse _ => exact .refl _
  | passEnd pass => exact t.loop.later_passEnded _ pass.loop
  | turn id =>
    obtain ⟨l, hm, hm'⟩ := moved_giveTurn hw id
    exact hm.later.trans hm'.later

theorem later_happenAll (hw : t.loop.Wired) (hs : List Happening) :
    t.loop.Later (t.happenAll hs).loop := by
  induction hs generalizing t with
  | nil => exact .refl _
  | cons h hs ih =>
    have hlater := later_happen hw h
    exact hlater.trans (ih (hlater.wired hw))

/-- Publications are counted and never uncounted. -/
theorem precedes_happen (hw : t.loop.Wired) (h : Happening) :
    t.view.Precedes (t.happen h).view := by
  cases h with
  | dispatch action => exact t.toStore.precedes_dispatch action t.now
  | navigate path => exact t.toStore.precedes_navigate path t.now
  | start | stop => exact .refl _
  | elapse _ => exact ⟨Nat.le_refl _, Nat.le_refl _, fun _ => rfl⟩
  | passEnd pass => exact precedes_endPass t pass
  | turn id => exact (view_giveTurn hw id).1

/-- Where a loop stands once its pass has ended. -/
theorem phase?_endPass {generation : Nat} {updates : Watch.Receiver} (hw : t.loop.Wired)
    (hp : t.loop.phase? pass.loop = some (.refreshing generation updates)) :
    (t.endPass pass).loop.phase? pass.loop =
      if t.loop.isOpen pass.loop then
        some (t.loop.slept (t.endPass pass).view generation updates)
      else none := by
  change (t.loop.passEnded (t.endPass pass).view pass.loop).phase? pass.loop = _
  rw [ControlLoop.passEnded_eq hw hp]
  split
  · exact ControlLoop.phase?_enter_self hp _
  · exact ControlLoop.phase?_leave_self

/-- Whether the loop runs the hook of a route of that generation. -/
def Refreshes (t : Timeline) (id : LoopId) (generation : Nat) : Prop :=
  ∃ updates, t.loop.phase? id = some (.refreshing generation updates)

/-- Whether the loop has read a route of that generation and sleeps until the deadline. -/
def Sleeps (t : Timeline) (id : LoopId) (generation deadline : Nat) : Prop :=
  ∃ updates, t.loop.phase? id = some (.asleep generation deadline updates)

theorem phase?_endPass_of_idle (h : ∀ generation, ¬ t.Refreshes id generation) (pass : Pass) :
    (t.endPass pass).loop.phase? id = t.loop.phase? id := by
  by_cases he : id = pass.loop
  · subst he
    change (t.loop.passEnded (t.endPass pass).view pass.loop).phase? pass.loop = _
    rw [ControlLoop.passEnded_of_idle fun generation updates hp => h generation ⟨updates, hp⟩]
  · exact phase?_endPass_other pass he

theorem interval_happen (hw : t.loop.Wired) (h : Happening) :
    (t.happen h).loop.interval = t.loop.interval := by
  by_cases hk : h.isTask = true
  · exact congrArg (·.1) (control_of_task hw hk)
  · cases h with
    | passEnd _ | turn _ => exact absurd rfl hk
    | start | stop =>
      simp only [happen, step, ControlLoop.start, ControlLoop.enlist, ControlLoop.stop]
      split <;> rfl
    | dispatch _ | navigate _ | elapse _ => rfl

theorem interval_happenAll (hw : t.loop.Wired) (hs : List Happening) :
    (t.happenAll hs).loop.interval = t.loop.interval := by
  induction hs generalizing t with
  | nil => rfl
  | cons h hs ih => exact (ih ((later_happen hw h).wired hw)).trans (interval_happen hw h)

/-! ## Passes that begin -/

/-- The passes begun so far. -/
def begun (t : Timeline) : List TimelineEntry := t.log.filter (·.isBegan)

/-- What a loop that reads the route now begins: a pass if the route has a hook. -/
def nextBegun (t : Timeline) : List TimelineEntry :=
  t.state.route.policy.hook.toList.map (.began (t.passesBegun + 1) · t.now)

/-- The passes that a happening begins. -/
def begins (t : Timeline) : Happening → List TimelineEntry
  | .turn id => if t.reads id then t.nextBegun else []
  | _ => []

theorem begun_endPass (t : Timeline) (pass : Pass) : (t.endPass pass).begun = t.begun := by
  simp [begun, endPass, TimelineEntry.isBegan]

/-- A turn begins a pass just if its loop reads a route with a hook, and the pass is counted. -/
theorem begins_giveTurn (hw : t.loop.Wired) (id : LoopId) :
    (t.giveTurn id).begun = t.begun ++ t.begins (.turn id) ∧
      (t.giveTurn id).passesBegun = t.passesBegun + (t.begins (.turn id)).length := by
  have hidle : t.reads id = false → t.begins (.turn id) = [] := by
    intro hr
    simp [begins, hr]
  have hlaunch : ∀ hook, t.reads id = true → t.view.hook = some hook →
      (t.launch id hook).begun = t.begun ++ t.begins (.turn id) ∧
        (t.launch id hook).passesBegun = t.passesBegun + (t.begins (.turn id)).length := by
    intro hook hr hf
    have hroute : t.state.route.policy.hook = some hook := hf
    constructor
    · simp [begins, hr, nextBegun, hroute, begun, launch, TimelineEntry.isBegan]
    · simp [begins, hr, nextBegun, hroute, launch]
  have ht := turned hw id
  generalize t.giveTurn id = u at ht
  cases ht with
  | waits due =>
    rw [hidle (Bool.eq_false_iff.mpr fun hr => by simp [ControlLoop.due_of_reads hr] at due)]
    exact ⟨(List.append_nil _).symm, rfl⟩
  | leaves _ closed =>
    rw [hidle (by simp [reads, ControlLoop.reads, closed])]
    exact ⟨(List.append_nil _).symm, rfl⟩
  | dozes stands _ idle =>
    rw [hidle (ControlLoop.reads_of_idle hw stands idle)]
    exact ⟨(List.append_nil _).symm, rfl⟩
  | rests hr hook =>
    have hroute : t.state.route.policy.hook = none := hook
    simp [begins, hr, nextBegun, hroute, begun]
  | begins hr hf _ => exact hlaunch _ hr hf
  | flashes hr hf _ =>
    obtain ⟨hbegun, hcount⟩ := hlaunch _ hr hf
    exact ⟨(begun_endPass _ _).trans hbegun, hcount⟩

/-- A pass begins only in the turn of a loop that reads the route. -/
theorem begun_happen (hw : t.loop.Wired) (h : Happening) :
    (t.happen h).begun = t.begun ++ t.begins h := by
  cases h with
  | turn id => exact (begins_giveTurn hw id).1
  | passEnd pass => exact (begun_endPass t pass).trans (List.append_nil _).symm
  | start | stop | dispatch _ | navigate _ | elapse _ => exact (List.append_nil _).symm

theorem passesBegun_happen (hw : t.loop.Wired) (h : Happening) :
    (t.happen h).passesBegun = t.passesBegun + (t.begins h).length := by
  cases h with
  | turn id => exact (begins_giveTurn hw id).2
  | _ => rfl

end Timeline

end StorageConsole
