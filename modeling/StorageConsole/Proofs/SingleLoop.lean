import StorageConsole.Proofs.Settling

/-!
One loop at a time. However starts, stops, navigations, dispatches and the clock interleave, the only
open gate is the one of the last start, passes of one loop never overlap, a pass begins only in the
turn of the loop whose gate is open, and starting several times in a row begins no more than one
pass.
-/
namespace StorageConsole

/-- Whether the gate of a loop is open after these events: the loop's start is the last one, and no
stop follows it. Loops are numbered by the starts before them. -/
def KeepsOpen (events : List TimelineEvent) (id : LoopId) : Prop :=
  ∃ before after, events = before ++ .start :: after ∧ before.count .start = id ∧
    .start ∉ after ∧ .stop ∉ after

theorem keepsOpen_append {events : List TimelineEvent} {e : TimelineEvent} {id : LoopId} :
    KeepsOpen (events ++ [e]) id ↔
      (e = .start ∧ events.count .start = id) ∨
      (e ≠ .start ∧ e ≠ .stop ∧ KeepsOpen events id) := by
  constructor
  · rintro ⟨before, after, heq, hcount, hstart, hstop⟩
    rcases List.eq_nil_or_concat after with rfl | ⟨after, last, rfl⟩
    · obtain ⟨rfl, he⟩ := List.append_inj' heq rfl
      exact .inl ⟨by simpa using he, hcount⟩
    · have heq' : events ++ [e] = (before ++ .start :: after) ++ [last] := by
        rw [heq, List.concat_eq_append, List.append_assoc, List.cons_append]
      obtain ⟨rfl, he⟩ := List.append_inj' heq' rfl
      have hlast : e = last := by simpa using he
      subst hlast
      simp only [List.concat_eq_append, List.mem_append, List.mem_singleton, not_or] at hstart hstop
      exact .inr ⟨fun h => hstart.2 h.symm, fun h => hstop.2 h.symm,
        before, after, rfl, hcount, hstart.1, hstop.1⟩
  · rintro (⟨rfl, hcount⟩ | ⟨hne, hne', before, after, rfl, hcount, hstart, hstop⟩)
    · exact ⟨events, [], rfl, hcount, List.not_mem_nil, List.not_mem_nil⟩
    · refine ⟨before, after ++ [e], by simp, hcount, ?_, ?_⟩
      · simpa using ⟨hstart, hne.symm⟩
      · simpa using ⟨hstop, hne'.symm⟩

namespace Timeline

variable {t : Timeline} {id other : LoopId} {h : Happening} {hs calls tasks : List Happening}
  {events : List TimelineEvent}

/-- The gates are as the starts and stops so far left them. -/
structure Gated (events : List TimelineEvent) (t : Timeline) : Prop where
  started : t.loop.started = events.count .start
  gates : ∀ id, t.loop.isOpen id = true ↔ KeepsOpen events id

theorem gated_start (table : Route.Table) (interval : Nat) (duration : Nat → Nat) :
    Gated [] (start table interval duration) where
  started := rfl
  gates id := by
    constructor
    · intro ho
      cases ho
    · rintro ⟨before, after, heq, _⟩
      simp at heq

theorem gated_of_control {t' : Timeline} (hg : Gated events t)
    (hh : t'.loop.control = t.loop.control) : Gated events t' where
  started := by
    have hhandles : t'.loop.handles = t.loop.handles := congrArg (·.2.1) hh
    rw [ControlLoop.started, hhandles]
    exact hg.started
  gates id := by
    rw [ControlLoop.isOpen_of_control hh id]
    exact hg.gates id

theorem gated_happen (hw : t.loop.Wired) (hg : Gated events t) (h : Happening) :
    Gated (events ++ h.asked?.toList) (t.happen h) := by
  have hkept : ∀ e : TimelineEvent, e ≠ .start → e ≠ .stop →
      (t.happen h).loop.control = t.loop.control → Gated (events ++ [e]) (t.happen h) := by
    intro e hne hne' hh
    have hg' := gated_of_control hg hh
    refine ⟨?_, fun id => ?_⟩
    · rw [List.count_append, List.count_singleton, beq_false_of_ne hne]
      exact hg'.started
    · rw [keepsOpen_append, hg'.gates id]
      simp [hne, hne']
  cases h with
  | start =>
    refine ⟨?_, fun id => ?_⟩
    · have hstarted : (t.happen .start).loop.started = t.loop.started + 1 := t.loop.started_start
      rw [hg.started] at hstarted
      simpa [Happening.asked?] using hstarted
    · change t.loop.start.isOpen id = true ↔ KeepsOpen (events ++ [.start]) id
      rw [keepsOpen_append, ControlLoop.isOpen_start, hw.closed_stop, Bool.false_or, beq_iff_eq,
        hg.started]
      simp [eq_comm]
  | stop =>
    refine ⟨?_, fun id => ?_⟩
    · have hstarted : (t.happen .stop).loop.started = t.loop.started := t.loop.started_stop
      rw [hg.started] at hstarted
      simpa [Happening.asked?] using hstarted
    · change t.loop.stop.isOpen id = true ↔ KeepsOpen (events ++ [.stop]) id
      rw [keepsOpen_append, hw.closed_stop]
      simp
  | dispatch action => exact hkept (.dispatch action) (by simp) (by simp) rfl
  | navigate path => exact hkept (.navigate path) (by simp) (by simp) rfl
  | passEnd pass =>
    have hh := control_of_task (h := .passEnd pass) hw rfl
    simpa [Happening.asked?] using gated_of_control hg hh
  | turn id =>
    have hh := control_of_task (h := .turn id) hw rfl
    simpa [Happening.asked?] using gated_of_control hg hh
  | elapse milliseconds =>
    have hg' : Gated events (t.happen (.elapse milliseconds)) := gated_of_control hg rfl
    simpa [Happening.asked?] using hg'

theorem gated_happenAll (hw : t.loop.Wired) (hg : Gated events t) (hs : List Happening) :
    Gated (events ++ hs.filterMap Happening.asked?) (t.happenAll hs) := by
  induction hs generalizing t events with
  | nil =>
    rw [List.filterMap_nil, List.append_nil]
    exact hg
  | cons h hs ih =>
    have hnext := ih ((later_happen hw h).wired hw) (gated_happen hw hg h)
    have hsplit : (h :: hs).filterMap Happening.asked? =
        h.asked?.toList ++ hs.filterMap Happening.asked? := by
      cases ha : h.asked? <;> simp [ha]
    rw [hsplit, ← List.append_assoc]
    exact hnext

/-! ## Several starts in a row -/

/-- The open loop, if there is one, has not had its first turn yet. -/
def Fresh (t : Timeline) : Prop :=
  ∀ id, t.loop.isOpen id = true → t.loop.phase? id = some .ready

/-- The open loop, if there is one, has read the route as it is now, and its sleep is not over. -/
def Served (t : Timeline) : Prop :=
  ∀ id, t.loop.isOpen id = true →
    t.Refreshes id t.state.routeGeneration ∨
    ∃ deadline, t.now < deadline ∧ t.Sleeps id t.state.routeGeneration deadline

theorem Served.reads_eq (hs : t.Served) (ha : t.Aware) (id : LoopId) : t.reads id = false := by
  cases ho : t.loop.isOpen id with
  | false => rw [reads, ControlLoop.reads, ho, Bool.false_and]
  | true =>
    rcases hs id ho with ⟨updates, hp⟩ | ⟨deadline, hlt, hsleeps⟩
    · exact reads_of_goesOn ha.wired ho hp
    · have hawaits : t.Awaits id t.state.routeGeneration deadline := .inl hsleeps
      rw [← Bool.not_eq_true, hawaits.reads_iff ha ho, not_or, not_not]
      exact ⟨rfl, Nat.not_le_of_lt hlt⟩

theorem begins_of_served (hs : t.Served) (ha : t.Aware) (h : Happening) : t.begins h = [] := by
  cases h with
  | turn id => simp [begins, hs.reads_eq ha id]
  | _ => rfl

/-- A loop that reads the route is served by the turn. -/
theorem served_giveTurn (ha : t.Aware) (positive : 0 < t.loop.interval) (hr : t.reads id = true) :
    (t.giveTurn id).Served := by
  have hnow : (t.giveTurn id).now = t.now := now_of_task (h := .turn id) ha.wired rfl
  have hgen : (t.giveTurn id).state.routeGeneration = t.state.routeGeneration :=
    generation_of_task (h := .turn id) ha.wired rfl
  intro other ho
  have ho' : t.loop.isOpen other = true :=
    (isOpen_of_task (h := .turn id) ha.wired rfl other).symm.trans ho
  obtain rfl := ha.wired.unique (ControlLoop.open_of_reads hr) ho'
  rw [hgen, hnow]
  rcases phase?_of_reads ha positive hr with hp | hp
  · exact .inl hp
  · exact .inr ⟨t.now + t.loop.interval, by omega, _, hp⟩

/-- Tasks never make a loop read the route that has been served. -/
theorem served_task (ha : t.Aware) (positive : 0 < t.loop.interval) (hs : t.Served)
    (hk : h.isTask = true) : (t.happen h).Served := by
  intro id ho
  have ho' : t.loop.isOpen id = true := (isOpen_of_task ha.wired hk id).symm.trans ho
  have hgen := generation_of_task ha.wired hk
  have hnow := now_of_task ha.wired hk
  rw [hgen, hnow]
  rcases hs id ho' with hp | ⟨deadline, hlt, hsleeps⟩
  · rcases hp.happen ha positive ho' h with hp | hsleeps | ⟨_, hlater⟩
    · exact .inl hp
    · rw [hnow] at hsleeps
      exact .inr ⟨_, Nat.lt_add_of_pos_right positive, hsleeps⟩
    · rw [hgen] at hlater
      exact absurd hlater (Nat.lt_irrefl _)
  · refine .inr ⟨deadline, hlt, hsleeps.happen ha.wired ho' ?_⟩
    rintro ⟨_, hreads⟩
    cases (hs.reads_eq ha id).symm.trans hreads

theorem begun_of_served (ha : t.Aware) (positive : 0 < t.loop.interval) (hs : t.Served)
    (hk : ∀ h ∈ tasks, h.isTask = true) : (t.happenAll tasks).begun = t.begun := by
  induction tasks generalizing t with
  | nil => rfl
  | cons h tasks ih =>
    have hpos : 0 < (t.happen h).loop.interval := by rwa [interval_happen ha.wired]
    have hnext := ih (aware_happen ha h) hpos (served_task ha positive hs (hk h (.head _)))
      fun h hm => hk h (.tail _ hm)
    have hsame := begun_happen ha.wired h
    rw [begins_of_served hs ha h, List.append_nil] at hsame
    exact hnext.trans hsame

theorem Fresh.reads_eq (hf : t.Fresh) (hw : t.loop.Wired) (id : LoopId) :
    t.reads id = t.loop.isOpen id := by
  cases ho : t.loop.isOpen id with
  | false => rw [reads, ControlLoop.reads, ho, Bool.false_and]
  | true => exact reads_of_goesOn hw ho (hf id ho)

/-- A loop stays fresh until it reads the route. -/
theorem fresh_task (hw : t.loop.Wired) (hf : t.Fresh) (hk : h.isTask = true)
    (hr : ∀ id, h = .turn id → t.reads id = false) : (t.happen h).Fresh := by
  intro id ho
  have ho' : t.loop.isOpen id = true := (isOpen_of_task hw hk id).symm.trans ho
  have hp := hf id ho'
  refine phase?_happen_of_idle hw hp (by simp) fun hturn => ?_
  have hnot := hr id hturn
  rw [hf.reads_eq hw, ho'] at hnot
  cases hnot

/-- Once the tasks of a fresh timeline have nothing left to do, exactly one pass has begun if a loop
runs on a route with a hook, and none otherwise. -/
theorem begun_of_fresh (ha : t.Aware) (positive : 0 < t.loop.interval) (hf : t.Fresh)
    (hk : ∀ h ∈ tasks, h.isTask = true)
    (done : ∀ id, (t.happenAll tasks).loop.isDueAt (t.happenAll tasks).view id = false) :
    (t.happenAll tasks).begun = t.begun ++ if t.loop.isRunning then t.nextBegun else [] := by
  induction tasks generalizing t with
  | nil =>
    have hstopped : t.loop.isRunning = false := by
      cases hrun : t.loop.isRunning with
      | false => rfl
      | true =>
        obtain ⟨id, ho⟩ := ha.wired.isRunning_iff.mp hrun
        have hdue : t.loop.isDueAt t.view id = true := ControlLoop.isDueAt_eq ha.wired (hf id ho)
        have hnot : t.loop.isDueAt t.view id = false := done id
        rw [hdue] at hnot
        cases hnot
    simp [hstopped, happenAll]
  | cons h tasks ih =>
    have hpos : 0 < (t.happen h).loop.interval := by rwa [interval_happen ha.wired]
    have haware := aware_happen ha h
    have htask := hk h (.head _)
    have hrest : ∀ h ∈ tasks, h.isTask = true := fun h hm => hk h (.tail _ hm)
    have hstep := begun_happen ha.wired h
    by_cases hr : ∃ id, h = .turn id ∧ t.reads id = true
    · obtain ⟨id, rfl, hr⟩ := hr
      have hrun : t.loop.isRunning = true :=
        ha.wired.isRunning_iff.mpr ⟨id, ControlLoop.open_of_reads hr⟩
      have hserved := begun_of_served haware hpos (served_giveTurn ha positive hr) hrest
      rw [happenAll_cons, if_pos hrun]
      simp only [begins, hr, if_true] at hstep
      exact hserved.trans hstep
    · have hidle : ∀ id, h = .turn id → t.reads id = false := by
        intro id he
        cases hreads : t.reads id with
        | false => rfl
        | true => exact absurd ⟨id, he, hreads⟩ hr
      have hnone : t.begins h = [] := by
        cases h with
        | turn id => simp [begins, hidle id rfl]
        | _ => rfl
      have hnext := ih haware hpos (fresh_task ha.wired hf htask hidle) hrest done
      have hcurrent : (t.happen h).loop.current = t.loop.current :=
        congrArg (·.2.2) (control_of_task ha.wired htask)
      have hrun : (t.happen h).loop.isRunning = t.loop.isRunning :=
        congrArg Option.isSome hcurrent
      have hcount := passesBegun_happen ha.wired h
      rw [hnone, List.append_nil] at hstep
      rw [hnone, List.length_nil, Nat.add_zero] at hcount
      have hentries : (t.happen h).nextBegun = t.nextBegun := by
        rw [nextBegun, nextBegun, hcount, now_of_task ha.wired htask, hook_of_task ha.wired htask]
      rw [happenAll_cons, hnext, hstep, hrun, hentries]

theorem fresh_start (hw : t.loop.Wired) : (t.happen .start).Fresh := by
  intro id ho
  change t.loop.start.isOpen id = true at ho
  rw [ControlLoop.isOpen_start, hw.closed_stop, Bool.false_or, beq_iff_eq] at ho
  subst ho
  exact ControlLoop.phase?_start_self hw

theorem fresh_asked (hw : t.loop.Wired) (hf : t.Fresh) (ha : h.asked?.isSome = true) :
    (t.happen h).Fresh := by
  cases h with
  | start => exact fresh_start hw
  | stop =>
    intro id ho
    cases (hw.closed_stop id).symm.trans ho
  | dispatch _ | navigate _ => exact hf
  | passEnd _ | turn _ | elapse _ => cases ha

/-- After a start the open loop is fresh until the tasks get their turns. -/
theorem fresh_calls (hw : t.loop.Wired) (ha : ∀ h ∈ calls, h.asked?.isSome = true)
    (hm : .start ∈ calls) : (t.happenAll calls).Fresh := by
  have hkeeps : ∀ {calls} {t : Timeline}, t.loop.Wired → t.Fresh →
      (∀ h ∈ calls, h.asked?.isSome = true) → (t.happenAll calls).Fresh := by
    intro calls
    induction calls with
    | nil => exact fun _ hf _ => hf
    | cons h calls ih =>
      exact fun hw hf ha => ih ((later_happen hw h).wired hw) (fresh_asked hw hf (ha h (.head _)))
        fun h hm => ha h (.tail _ hm)
  obtain ⟨before, after, rfl⟩ := List.append_of_mem hm
  have hreached := (later_happenAll hw before).wired hw
  rw [happenAll_append, happenAll_cons]
  exact hkeeps ((later_happen hreached .start).wired hreached) (fresh_start hreached)
    fun h hm => ha h (List.mem_append_right _ (.tail _ hm))

theorem begun_calls (hw : t.loop.Wired) (ha : ∀ h ∈ calls, h.asked?.isSome = true) :
    (t.happenAll calls).begun = t.begun := by
  induction calls generalizing t with
  | nil => rfl
  | cons h calls ih =>
    have hnone : t.begins h = [] := by
      have hfirst := ha h (.head _)
      cases h with
      | turn id => cases hfirst
      | _ => rfl
    have hstep := begun_happen hw h
    rw [hnone, List.append_nil] at hstep
    exact (ih ((later_happen hw h).wired hw) fun h hm => ha h (.tail _ hm)).trans hstep

/-! ## The loops of a timeline -/

theorem passes_happen (hw : t.loop.Wired) (h : Happening) {pass : Pass}
    (hp : pass ∈ (t.happen h).passes) : pass ∈ t.passes ∨ h = .turn pass.loop := by
  cases h with
  | start | stop | dispatch _ | navigate _ | elapse _ => exact .inl hp
  | passEnd _ => exact .inl (List.mem_filter.mp hp).1
  | turn id =>
    have ht := turned hw id
    change pass ∈ (t.giveTurn id).passes at hp
    generalize t.giveTurn id = u at ht hp
    have hlaunch : ∀ {hook}, pass ∈ (t.launch id hook).passes →
        pass ∈ t.passes ∨ Happening.turn id = .turn pass.loop := by
      intro hook hm
      rcases List.mem_append.mp hm with hm | hm
      · exact .inl hm
      · rw [List.mem_singleton.mp hm]
        exact .inr rfl
    cases ht with
    | waits _ => exact .inl hp
    | leaves _ _ => exact .inl hp
    | dozes _ _ _ => exact .inl hp
    | rests _ _ => exact .inl hp
    | begins _ _ _ => exact hlaunch hp
    | flashes _ _ _ => exact hlaunch (List.mem_filter.mp hp).1

/-- How the loops stand at any moment of a timeline on which these events have been asked for. -/
structure SingleLoop (events : List TimelineEvent) (t : Timeline) : Prop where
  gates : ∀ id, t.loop.isOpen id = true ↔ KeepsOpen events id
  alone : ∀ id other, t.loop.isOpen id = true → t.loop.isOpen other = true → other = id
  running : t.loop.isRunning = true ↔ ∃ id, t.loop.isOpen id = true
  /-- Two passes under way belong to different loops. -/
  apart : (t.passes.map (·.loop)).Nodup
  begins : ∀ h, (t.happen h).begun ≠ t.begun → ∃ id hook, h = .turn id ∧
    t.loop.isOpen id = true ∧ t.state.route.policy.hook = some hook ∧
    (t.happen h).begun = t.begun ++ [.began (t.passesBegun + 1) hook t.now] ∧
    ∀ pass ∈ (t.happen h).passes, pass ∈ t.passes ∨ pass.loop = id
  /-- A loop that was started and is not open never begins a pass again. -/
  closed : ∀ id < t.loop.started, t.loop.isOpen id = false → ∀ hs, t.isTimely hs = true →
    ((t.happenAll hs).happen (.turn id)).begun = (t.happenAll hs).begun
  /-- However often the loop is started before the tasks run: once they have nothing left to do, one
  pass has begun if a loop is running and the route has a hook. -/
  restarts : ∀ calls, (∀ h ∈ calls, h.asked?.isSome = true) → .start ∈ calls →
    ∀ tasks, (∀ h ∈ tasks, h.isTask = true) →
      let called := t.happenAll calls
      let done := called.happenAll tasks
      (∀ id, done.loop.isDueAt done.view id = false) →
        done.begun = t.begun ++ if called.loop.isRunning then called.nextBegun else []
  settles : ∀ calls, (∀ h ∈ calls, h.asked?.isSome = true) → .start ∈ calls →
    let called := t.happenAll calls
    called.settle.begun = t.begun ++ if called.loop.isRunning then called.nextBegun else []

theorem singleLoop_of_coherent (positive : 0 < t.loop.interval) (hc : t.Coherent)
    (hg : Gated events t) : SingleLoop events t where
  gates := hg.gates
  alone _ _ ho ho' := hc.aware.wired.unique ho ho'
  running := hc.aware.wired.isRunning_iff
  apart := hc.single
  begins h hne := by
    have hstep := begun_happen hc.aware.wired h
    cases h with
    | turn id =>
      cases hr : t.reads id with
      | false => simp [Timeline.begins, hr] at hstep; exact absurd hstep hne
      | true =>
        simp only [Timeline.begins, hr, if_true] at hstep
        cases hhook : t.state.route.policy.hook with
        | none => simp [nextBegun, hhook] at hstep; exact absurd hstep hne
        | some hook =>
          simp only [nextBegun, hhook, Option.toList_some, List.map_cons, List.map_nil] at hstep
          refine ⟨id, hook, rfl, ControlLoop.open_of_reads hr, rfl, hstep, fun pass hp => ?_⟩
          rcases passes_happen hc.aware.wired (.turn id) hp with hm | he
          · exact .inl hm
          · cases he
            exact .inr rfl
    | _ => exact absurd (hstep.trans (List.append_nil _)) hne
  closed id hid hclosed hs _ := by
    have hlaterOn := later_happenAll hc.aware.wired hs
    have hlater : (t.happenAll hs).loop.isOpen id = false := hlaterOn.closed id hid hclosed
    have hnot : (t.happenAll hs).reads id = false := by simp [reads, ControlLoop.reads, hlater]
    have hstep := begun_happen (hlaterOn.wired hc.aware.wired) (.turn id)
    simpa [Timeline.begins, hnot] using hstep
  restarts calls ha hm tasks hk := by
    intro called done hdone
    have hcalled : called.Aware := aware_happenAll hc.aware calls
    have hpos : 0 < called.loop.interval := by rwa [interval_happenAll hc.aware.wired]
    have hbegun := begun_of_fresh hcalled hpos (fresh_calls hc.aware.wired ha hm) hk hdone
    rwa [begun_calls hc.aware.wired ha] at hbegun
  settles calls ha hm := by
    intro called
    have hcalled : called.Aware := aware_happenAll hc.aware calls
    have hpos : 0 < called.loop.interval := by rwa [interval_happenAll hc.aware.wired]
    have hk : ∀ h ∈ called.settling, h.isTask = true := fun h hh => isTask_of_mem_settling hh
    have hdone := (settled_settling hcalled hpos).loops
    have hbegun := begun_of_fresh hcalled hpos (fresh_calls hc.aware.wired ha hm) hk hdone
    rw [begun_calls hc.aware.wired ha, ← settle_eq] at hbegun
    exact hbegun

/-- Only one loop runs: at any moment of any course of a timeline, and every run of events is such a
course. -/
theorem single_loop_runs (table : Route.Table) (interval : Nat) (duration : Nat → Nat)
    (positive : 0 < interval) :
    (∀ hs, (start table interval duration).isTimely hs = true →
      SingleLoop (hs.filterMap Happening.asked?) ((start table interval duration).happenAll hs)) ∧
    ∀ events, ∃ hs, (start table interval duration).isTimely hs = true ∧
      hs.filterMap Happening.asked? = events.filter (·.isAsked) ∧
      (start table interval duration).runAll events =
        (start table interval duration).happenAll hs := by
  have hc := coherent_start table interval duration
  constructor
  · intro hs timely
    have hpos : 0 < ((start table interval duration).happenAll hs).loop.interval := by
      rw [interval_happenAll hc.aware.wired]
      exact positive
    have hg := gated_happenAll hc.aware.wired (gated_start table interval duration) hs
    exact singleLoop_of_coherent hpos (coherent_happenAll timely hc) hg
  · intro events
    exact unfold_runAll hc positive events

/-- A loop is cancelled while its pass is under way, and two starts begin one more pass beside it. -/
theorem single_loop_runs_overtaking :
    let route : Route.Match := ⟨"/repos", none, .empty, ⟨none, none, some .repoList⟩⟩
    let t := start .empty 10 fun _ => 3
    let hs := [.dispatch (.publishRoute route), .start, .turn 0, .elapse 2, .start, .start, .turn 1,
      .turn 2, .elapse 1, .passEnd ⟨1, 0, 3⟩]
    0 < 10 ∧ t.isTimely hs = true ∧ SingleLoop (hs.filterMap Happening.asked?) (t.happenAll hs) ∧
      (t.happenAll hs).begun = [.began 1 .repoList 0, .began 2 .repoList 2] ∧
      (t.happenAll hs).passes = [⟨2, 2, 5⟩] := by
  have htimely : (start .empty 10 fun _ => 3).isTimely [.dispatch (.publishRoute
      ⟨"/repos", none, .empty, ⟨none, none, some .repoList⟩⟩), .start, .turn 0, .elapse 2, .start,
      .start, .turn 1, .turn 2, .elapse 1, .passEnd ⟨1, 0, 3⟩] = true := by decide
  exact ⟨by decide, htimely,
    (single_loop_runs .empty 10 (fun _ => 3) (by decide)).1 _ htimely, by decide, by decide⟩

end Timeline

end StorageConsole
