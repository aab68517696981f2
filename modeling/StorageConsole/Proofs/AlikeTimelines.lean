import StorageConsole.Proofs.Coherence

/-!
Writes that have no bearing on the routes. Each publishes the state and so wakes the loop that sleeps,
and yet all goes on as if it had not happened, but for what the loops have marked as seen.
-/
namespace StorageConsole

/-- Whether the event is more than a write that has no bearing on the routes. -/
def TimelineEvent.isMoving : TimelineEvent → Bool
  | dispatch action => action.steers
  | _ => true

/-- A phase without what has been seen of the state. -/
def LoopPhase.unmarked : LoopPhase → LoopPhase
  | ready => ready
  | refreshing generation _ => refreshing generation default
  | asleep generation deadline _ => asleep generation deadline default

namespace LoopPhase
variable {phase phase' : LoopPhase} {view view' : LoopView}

@[simp] theorem unmarked_caughtUp (view : LoopView) (phase : LoopPhase) :
    (phase.caughtUp view).unmarked = phase.unmarked := by cases phase <;> rfl

theorem eq_of_unmarked {generation : Nat} {updates : Watch.Receiver}
    (h : phase'.unmarked = (refreshing generation updates).unmarked) :
    ∃ updates', phase' = refreshing generation updates' := by
  cases phase' with
  | refreshing generation' updates' => cases h; exact ⟨updates', rfl⟩
  | ready | asleep _ _ _ => cases h

/-- Whether a closed loop has something to do does not depend on what it has seen. -/
theorem isDue_unmarked (h : phase'.unmarked = phase.unmarked) :
    phase'.isDue view' false = phase.isDue view false := by
  cases phase <;> cases phase' <;> first | rfl | cases h

/-- Neither does it depend on that whether a loop goes on that has missed no publication. -/
theorem goesOn_unmarked (h : phase'.unmarked = phase.unmarked)
    (hg : view'.generation = view.generation) (hn : view'.now = view.now)
    (hr : ∀ generation updates, phase.reading? = some (generation, updates) →
      view.Recalls generation updates)
    (hr' : ∀ generation updates, phase'.reading? = some (generation, updates) →
      view'.Recalls generation updates) : phase'.goesOn view' = phase.goesOn view := by
  cases phase with
  | ready | refreshing _ _ => cases phase' <;> first | rfl | cases h
  | asleep generation deadline updates =>
    cases phase' with
    | ready | refreshing _ _ => cases h
    | asleep generation' deadline' updates' =>
      cases h
      have hleft := (hr _ _ rfl).wakes_iff deadline
      have hright := (hr' _ _ rfl).wakes_iff deadline
      rw [hg, hn] at hright
      exact Bool.eq_iff_iff.mpr (hright.trans hleft.symm)

end LoopPhase

namespace ControlLoop
variable {l l' : ControlLoop} {id : LoopId} {phase phase' : LoopPhase} {view view' : LoopView}

/-- The loops without what each has seen of the state. -/
def unmarked (l : ControlLoop) : ControlLoop :=
  { l with runs := l.runs.map fun run => { run with phase := run.phase.unmarked } }

theorem control_of_unmarked (h : l'.unmarked = l.unmarked) : l'.control = l.control := by
  have hcontrol : l'.unmarked.control = l.unmarked.control := congrArg control h
  exact hcontrol

theorem ids_of_unmarked (h : l'.unmarked = l.unmarked) :
    l'.runs.map (·.id) = l.runs.map (·.id) := by
  have hruns := congrArg (fun l : ControlLoop => l.runs.map (·.id)) h
  simpa [unmarked, Function.comp_def] using hruns

theorem phase?_unmarked (l : ControlLoop) (id : LoopId) :
    l.unmarked.phase? id = (l.phase? id).map LoopPhase.unmarked := by
  simp only [phase?, run?, unmarked, List.find?_map, Option.map_map, Function.comp_def]

theorem phase?_of_unmarked (h : l'.unmarked = l.unmarked) (id : LoopId) :
    (l'.phase? id).map LoopPhase.unmarked = (l.phase? id).map LoopPhase.unmarked := by
  rw [← phase?_unmarked, ← phase?_unmarked, h]

theorem exists_phase?_of_unmarked (h : l'.unmarked = l.unmarked) (hp : l.phase? id = some phase) :
    ∃ phase', l'.phase? id = some phase' ∧ phase'.unmarked = phase.unmarked := by
  have hsame := phase?_of_unmarked h id
  rw [hp, Option.map_some] at hsame
  exact Option.map_eq_some_iff.mp hsame

theorem unmarked_leave (l : ControlLoop) (id : LoopId) :
    (l.leave id).unmarked = l.unmarked.leave id := by
  simp only [unmarked, leave, List.filter_map, Function.comp_def]

theorem unmarked_enter (l : ControlLoop) (id : LoopId) (phase : LoopPhase) :
    (l.enter id phase).unmarked = l.unmarked.enter id phase.unmarked := by
  simp only [unmarked, enter, List.map_map]
  congr 1
  refine List.map_congr_left fun run _ => ?_
  simp only [Function.comp_apply]
  split <;> rfl

/-- It takes more than marks to tell a loop from where it stands. -/
theorem unmarked_stays (hw : l.Wired) (hp : l.phase? id = some phase) :
    l.unmarked.enter id phase.unmarked = l.unmarked := by
  simp only [unmarked, enter, List.map_map]
  congr 1
  refine List.map_congr_left fun run hr => ?_
  simp only [Function.comp_apply]
  split
  · next hid =>
    subst hid
    cases (phase?_of_mem hw hr).symm.trans hp
    rfl
  · rfl

theorem unmarked_stop (l : ControlLoop) : l.stop.unmarked = l.unmarked.stop := by
  unfold stop
  cases hc : l.current <;> simp [unmarked, cancel, hc]

theorem unmarked_start (l : ControlLoop) : l.start.unmarked = l.unmarked.start := by
  have hs := unmarked_stop l
  simp only [start, ← hs]
  simp [enlist, unmarked, started, LoopPhase.unmarked]

theorem unmarked_slept (hi : l'.interval = l.interval) (hg : view'.generation = view.generation)
    (hn : view'.now = view.now) {generation : Nat} {updates updates' : Watch.Receiver}
    (hr : view.Recalls generation updates) (hr' : view'.Recalls generation updates') :
    (l'.slept view' generation updates').unmarked = (l.slept view generation updates).unmarked := by
  have hleft := hr.wakes_iff (view.now + l.interval)
  have hright := hr'.wakes_iff (view'.now + l'.interval)
  rw [hg, hn, hi] at hright
  have hsame : view'.wakes generation (view.now + l.interval) updates' =
      view.wakes generation (view.now + l.interval) updates :=
    Bool.eq_iff_iff.mpr (hright.trans hleft.symm)
  unfold slept
  rw [hn, hi, hsame]
  split <;> rfl

end ControlLoop

namespace Timeline

variable {t t' : Timeline} {id : LoopId} {pass : Pass}

/-- Two timelines that differ at most in what neither navigations nor loops look at, and in what the
loops have marked as seen. -/
structure Alike (t t' : Timeline) : Prop where
  table : t'.table = t.table
  user : t'.state.user = t.state.user
  route : t'.state.route = t.state.route
  generation : t'.state.routeGeneration = t.state.routeGeneration
  now : t'.now = t.now
  loop : t'.loop.unmarked = t.loop.unmarked
  duration : t'.duration = t.duration
  passes : t'.passes = t.passes
  passesBegun : t'.passesBegun = t.passesBegun
  log : t'.log = t.log

/-- Two such timelines on which no loop has missed a publication. -/
structure Twins (t t' : Timeline) : Prop extends Alike t t' where
  left : t.Aware
  right : t'.Aware

theorem Twins.refl (h : t.Aware) : t.Twins t :=
  ⟨⟨rfl, rfl, rfl, rfl, rfl, rfl, rfl, rfl, rfl, rfl⟩, h, h⟩

namespace Twins

theorem isOpen_eq (h : t.Twins t') (id : LoopId) : t'.loop.isOpen id = t.loop.isOpen id :=
  ControlLoop.isOpen_of_control (ControlLoop.control_of_unmarked h.loop) id

theorem interval_eq (h : t.Twins t') : t'.loop.interval = t.loop.interval :=
  congrArg (·.1) (ControlLoop.control_of_unmarked h.loop)

theorem hook_eq (h : t.Twins t') : t'.view.hook = t.view.hook :=
  congrArg (·.policy.hook) h.route

theorem goesOn_eq (h : t.Twins t') {phase phase' : LoopPhase} (hp : t.loop.phase? id = some phase)
    (hp' : t'.loop.phase? id = some phase') (hsame : phase'.unmarked = phase.unmarked) :
    phase'.goesOn t'.view = phase.goesOn t.view :=
  LoopPhase.goesOn_unmarked hsame h.generation h.now (fun _ _ => h.left.recalls _ _ _ _ hp)
    fun _ _ => h.right.recalls _ _ _ _ hp'

theorem reads_eq (h : t.Twins t') (id : LoopId) : t'.reads id = t.reads id := by
  cases hp : t.loop.phase? id with
  | none =>
    have hnone := ControlLoop.phase?_of_unmarked h.loop id
    rw [hp, Option.map_none, Option.map_eq_none_iff] at hnone
    rw [ControlLoop.phase?_eq_none] at hp hnone
    simp [reads, ControlLoop.reads, hp, hnone]
  | some phase =>
    obtain ⟨phase', hp', hsame⟩ := ControlLoop.exists_phase?_of_unmarked h.loop hp
    rw [reads, reads, ControlLoop.reads_eq h.left.wired hp, ControlLoop.reads_eq h.right.wired hp',
      h.isOpen_eq, h.goesOn_eq hp hp' hsame]

end Twins

/-- A write with no bearing on the routes leaves what is alike alike. -/
theorem twins_dispatch (h : t.Twins t') {action : Action} (hs : action.steers = false) :
    (t.step (.dispatch action)).Twins t' := by
  obtain ⟨huser, hroute, hgeneration⟩ := Action.apply_of_not_steers hs t.state
  exact { h with
    user := h.user.trans huser.symm
    route := h.route.trans hroute.symm
    generation := h.generation.trans hgeneration.symm
    left := aware_happen h.left (.dispatch action) }

theorem endPass_table (t : Timeline) (pass : Pass) : (t.endPass pass).table = t.table := by
  cases ho : t.loop.isOpen pass.loop <;>
    simp [endPass, Store.through, ho, Store.dispatch]

theorem unmarked_passEnded (h : t.Twins t') (pass : Pass) :
    (t'.endPass pass).loop.unmarked = (t.endPass pass).loop.unmarked := by
  change (t'.loop.passEnded (t'.endPass pass).view pass.loop).unmarked =
    (t.loop.passEnded (t.endPass pass).view pass.loop).unmarked
  by_cases hrefreshes : ∃ generation, t.Refreshes pass.loop generation
  · obtain ⟨generation, updates, hp⟩ := hrefreshes
    obtain ⟨phase', hp', hsame⟩ := ControlLoop.exists_phase?_of_unmarked h.loop hp
    obtain ⟨updates', rfl⟩ := LoopPhase.eq_of_unmarked hsame
    have hr := (h.left.recalls _ _ _ _ hp rfl).later (precedes_endPass t pass)
    have hr' := (h.right.recalls _ _ _ _ hp' rfl).later (precedes_endPass t' pass)
    have hg : (t'.endPass pass).view.generation = (t.endPass pass).view.generation := by
      rw [endPass_generation, endPass_generation]
      exact h.generation
    rw [ControlLoop.passEnded_eq h.left.wired hp, ControlLoop.passEnded_eq h.right.wired hp',
      h.isOpen_eq]
    split
    · rw [ControlLoop.unmarked_enter, ControlLoop.unmarked_enter, h.loop,
        ControlLoop.unmarked_slept h.interval_eq hg h.now hr hr']
    · rw [ControlLoop.unmarked_leave, ControlLoop.unmarked_leave, h.loop]
  · have hidle : ∀ generation updates,
        t'.loop.phase? pass.loop ≠ some (.refreshing generation updates) := by
      intro generation updates hp'
      obtain ⟨phase, hp, hsame⟩ := ControlLoop.exists_phase?_of_unmarked h.loop.symm hp'
      obtain ⟨updates', rfl⟩ := LoopPhase.eq_of_unmarked hsame
      exact hrefreshes ⟨generation, updates', hp⟩
    rw [ControlLoop.passEnded_of_idle hidle, ControlLoop.passEnded_of_idle
      fun generation updates hp => hrefreshes ⟨generation, updates, hp⟩, h.loop]

theorem twins_endPass (h : t.Twins t') (pass : Pass) : (t.endPass pass).Twins (t'.endPass pass) := by
  obtain ⟨message, hs⟩ := endPass_state t pass
  obtain ⟨message', hs'⟩ := endPass_state t' pass
  refine ⟨⟨?_, ?_, ?_, ?_, h.now, unmarked_passEnded h pass, h.duration, ?_, h.passesBegun, ?_⟩,
    aware_endPass h.left pass, aware_endPass h.right pass⟩
  · rw [endPass_table, endPass_table, h.table]
  · rw [hs, hs']
    exact h.user
  · rw [hs, hs']
    exact h.route
  · rw [hs, hs']
    exact h.generation
  · change t'.passes.filter _ = t.passes.filter _
    rw [h.passes]
  · change t'.log ++ [.ended pass.number (t'.loop.isOpen pass.loop) t'.now] =
      t.log ++ [.ended pass.number (t.loop.isOpen pass.loop) t.now]
    rw [h.log, h.isOpen_eq, h.now]

theorem nextPass_eq (h : t.Twins t') (id : LoopId) : t'.nextPass id = t.nextPass id := by
  rw [nextPass, nextPass, h.passesBegun, h.now, h.duration]

theorem twins_launch (h : t.Twins t') (hr : t.reads id = true) (hook : HookName) :
    (t.launch id hook).Twins (t'.launch id hook) where
  toAlike := { h.toAlike with
    loop := by
      change (t'.loop.enter id _).unmarked = (t.loop.enter id _).unmarked
      rw [ControlLoop.unmarked_enter, ControlLoop.unmarked_enter, h.loop]
      exact congrArg (fun generation => t.loop.unmarked.enter id (.refreshing generation default))
        h.generation
    passes := by
      change t'.passes ++ [t'.nextPass id] = t.passes ++ [t.nextPass id]
      rw [h.passes, nextPass_eq h]
    passesBegun := congrArg (· + 1) h.passesBegun
    log := by
      change t'.log ++ [.began (t'.passesBegun + 1) hook t'.now] =
        t.log ++ [.began (t.passesBegun + 1) hook t.now]
      rw [h.log, h.passesBegun, h.now] }
  left := aware_launch h.left hr hook
  right := aware_launch h.right ((h.reads_eq id).trans hr) hook

/-- What becomes of a timeline in a turn in which the loop does not read the route. -/
theorem giveTurn_of_not_reads (hw : t.loop.Wired) (hr : t.reads id = false) :
    ∃ l, t.giveTurn id = { t with loop := l } ∧ l.unmarked =
      if !t.loop.isOpen id && (t.loop.phase? id).any (·.isDue t.view false) then
        t.loop.unmarked.leave id
      else t.loop.unmarked := by
  have ht := turned hw id
  generalize t.giveTurn id = u at ht
  have hdue : t.loop.isOpen id = false →
      t.loop.isDueAt t.view id = (t.loop.phase? id).any (·.isDue t.view false) := by
    intro ho
    cases hp : t.loop.phase? id with
    | none => simp [ControlLoop.isDueAt, ControlLoop.phase?_eq_none.mp hp]
    | some phase => rw [ControlLoop.isDueAt_eq hw hp, ho, Option.any_some]
  cases ht with
  | waits due =>
    refine ⟨t.loop, rfl, (if_neg ?_).symm⟩
    cases ho : t.loop.isOpen id with
    | true => exact Bool.false_ne_true
    | false => simp [← hdue ho, due]
  | leaves due closed =>
    refine ⟨_, rfl, ?_⟩
    rw [closed, ← hdue closed, due, ControlLoop.unmarked_leave]
    rfl
  | @dozes phase stands opened _ =>
    refine ⟨_, rfl, ?_⟩
    rw [opened, ControlLoop.unmarked_enter, LoopPhase.unmarked_caughtUp]
    exact ControlLoop.unmarked_stays hw stands
  | rests reads _ | begins reads _ _ | flashes reads _ _ => simp [hr] at reads

/-- What becomes of it in a turn in which the loop reads the route. -/
theorem giveTurn_of_reads (hw : t.loop.Wired) (hr : t.reads id = true) :
    t.giveTurn id = match t.view.hook with
      | none => { t with
          loop := t.loop.enter id (t.loop.slept t.view t.view.generation t.view.updates.subscribe) }
      | some hook =>
        if t.duration (t.passesBegun + 1) = 0 then (t.launch id hook).endPass (t.nextPass id)
        else t.launch id hook := by
  have ht := turned hw id
  generalize t.giveTurn id = u at ht
  cases ht with
  | waits due => simp [ControlLoop.due_of_reads hr] at due
  | leaves _ closed => simp [ControlLoop.open_of_reads hr] at closed
  | dozes stands _ idle =>
    cases (ControlLoop.reads_of_idle hw stands idle).symm.trans hr
  | rests _ hook => rw [hook]
  | begins _ found lasts => simp only [found, if_neg lasts]
  | flashes _ found instant => simp only [found, if_pos instant]

theorem twins_giveTurn (h : t.Twins t') (id : LoopId) : (t.giveTurn id).Twins (t'.giveTurn id) := by
  cases hr : t.reads id with
  | false =>
    have hr' : t'.reads id = false := (h.reads_eq id).trans hr
    obtain ⟨l, hgives, hl⟩ := giveTurn_of_not_reads h.left.wired hr
    obtain ⟨l', hgives', hl'⟩ := giveTurn_of_not_reads h.right.wired hr'
    have hdue : (t'.loop.phase? id).any (·.isDue t'.view false) =
        (t.loop.phase? id).any (·.isDue t.view false) := by
      cases hp : t.loop.phase? id with
      | none =>
        have hnone := ControlLoop.phase?_of_unmarked h.loop id
        rw [hp, Option.map_none, Option.map_eq_none_iff] at hnone
        rw [hnone]
        rfl
      | some phase =>
        obtain ⟨phase', hp', hsame⟩ := ControlLoop.exists_phase?_of_unmarked h.loop hp
        rw [hp', Option.any_some, Option.any_some]
        exact LoopPhase.isDue_unmarked hsame
    have hloop : l'.unmarked = l.unmarked := by rw [hl, hl', h.isOpen_eq, hdue, h.loop]
    have hleft := aware_giveTurn h.left id
    have hright := aware_giveTurn h.right id
    rw [hgives] at hleft ⊢
    rw [hgives'] at hright ⊢
    exact { h with loop := hloop, left := hleft, right := hright }
  | true =>
    have hr' : t'.reads id = true := (h.reads_eq id).trans hr
    have hgives := giveTurn_of_reads h.left.wired hr
    have hgives' := giveTurn_of_reads h.right.wired hr'
    rw [h.hook_eq] at hgives'
    cases hhook : t.view.hook with
    | none =>
      have hleft := aware_giveTurn h.left id
      have hright := aware_giveTurn h.right id
      rw [hhook] at hgives hgives'
      rw [hgives] at hleft ⊢
      rw [hgives'] at hright ⊢
      refine ⟨{ h.toAlike with loop := ?_ }, hleft, hright⟩
      have hg : t'.view.generation = t.view.generation := h.generation
      have hknown := t'.view.recalls_subscribe
      rw [hg] at hknown
      rw [ControlLoop.unmarked_enter, ControlLoop.unmarked_enter, h.loop, hg,
        ControlLoop.unmarked_slept h.interval_eq hg h.now t.view.recalls_subscribe hknown]
    | some hook =>
      have hlaunch := twins_launch h hr hook
      rw [hhook] at hgives hgives'
      rw [hgives, hgives', h.duration, h.passesBegun, nextPass_eq h]
      dsimp only
      split
      · exact twins_endPass hlaunch _
      · exact hlaunch

theorem twins_foldl {α : Type} {f : Timeline → α → Timeline}
    (hf : ∀ t t' : Timeline, t.Twins t' → ∀ a, (f t a).Twins (f t' a)) (xs : List α)
    (h : t.Twins t') : (xs.foldl f t).Twins (xs.foldl f t') := by
  induction xs generalizing t t' with
  | nil => exact h
  | cons x xs ih => exact ih (hf _ _ h x)

theorem twins_settle (h : t.Twins t') : t.settle.Twins t'.settle := by
  have hends := twins_foldl (f := endPass) (fun _ _ h pass => twins_endPass h pass)
    (t.passes.filter (·.ends ≤ t.now)) h
  have hturns := twins_foldl (f := giveTurn) (fun _ _ h id => twins_giveTurn h id)
    (((t.passes.filter (·.ends ≤ t.now)).foldl endPass t).loop.runs.map (·.id)) hends
  simp only [settle, h.passes, h.now]
  rwa [ControlLoop.ids_of_unmarked hends.loop]

theorem deadlines_eq (h : t.Twins t') : t'.deadlines = t.deadlines := by
  have hunmarked : ∀ l : ControlLoop, l.runs.filterMap (·.phase.deadline?) =
      l.unmarked.runs.filterMap (·.phase.deadline?) := by
    intro l
    rw [ControlLoop.unmarked, List.filterMap_map]
    refine List.filterMap_congr fun run _ => ?_
    cases hp : run.phase <;> simp [LoopPhase.unmarked, LoopPhase.deadline?, hp]
  rw [deadlines, deadlines, hunmarked t'.loop, hunmarked t.loop, h.loop, h.passes]

theorem twins_wait (h : t.Twins t') (milliseconds : Nat) :
    (t.wait milliseconds).Twins (t'.wait milliseconds) := by
  induction milliseconds using Nat.strongRecOn generalizing t t' with
  | _ milliseconds ih =>
    rw [wait.eq_def t, wait.eq_def t']
    split
    · exact h
    · next hne =>
      have hs := twins_settle h
      have hquiet : t'.settle.quiet milliseconds = t.settle.quiet milliseconds := by
        simp only [quiet, deadlines_eq hs, hs.now]
      have hone : 1 ≤ t.settle.quiet milliseconds := Nat.le_max_left _ _
      simp only [hquiet]
      refine ih _ (by omega) { hs with now := ?_, left := ?_, right := ?_ }
      · exact congrArg (· + t.settle.quiet milliseconds) hs.now
      · exact aware_happen hs.left (.elapse _)
      · exact aware_happen hs.right (.elapse _)

theorem twins_dispatched (h : t.Twins t') (action : Action) :
    (t.step (.dispatch action)).Twins (t'.step (.dispatch action)) := by
  have hleft := aware_happen h.left (.dispatch action)
  have hright := aware_happen h.right (.dispatch action)
  cases action with
  | setUser _ => exact { h with user := rfl, left := hleft, right := hright }
  | publishRoute _ =>
    exact { h with
      route := rfl
      generation := congrArg (· + 1) h.generation
      left := hleft
      right := hright }
  | _ => exact { h with left := hleft, right := hright }

theorem twins_navigate (h : t.Twins t') (path : String) :
    (t.step (.navigate path)).Twins (t'.step (.navigate path)) := by
  have hleft := aware_happen h.left (.navigate path)
  have hright := aware_happen h.right (.navigate path)
  simp only [happen, step, Store.navigate, h.table, h.user] at hleft hright ⊢
  generalize t.table.follow t.state.user.isSome _ _ = found at hleft hright
  obtain ⟨landed, targets⟩ := found
  cases landed with
  | none => exact { h with table := rfl, left := hleft, right := hright }
  | some route =>
    exact { h with
      table := rfl
      route := rfl
      generation := congrArg (· + 1) h.generation
      left := hleft
      right := hright }

theorem twins_step (h : t.Twins t') (e : TimelineEvent) : (t.step e).Twins (t'.step e) := by
  cases e with
  | start =>
    refine { h with
      loop := ?_
      left := aware_happen h.left .start
      right := aware_happen h.right .start }
    change t'.loop.start.unmarked = t.loop.start.unmarked
    rw [ControlLoop.unmarked_start, ControlLoop.unmarked_start, h.loop]
  | stop =>
    refine { h with
      loop := ?_
      left := aware_happen h.left .stop
      right := aware_happen h.right .stop }
    change t'.loop.stop.unmarked = t.loop.stop.unmarked
    rw [ControlLoop.unmarked_stop, ControlLoop.unmarked_stop, h.loop]
  | dispatch action => exact twins_dispatched h action
  | navigate path => exact twins_navigate h path
  | wait milliseconds => exact twins_wait h milliseconds
  | settle => exact twins_settle h

/-- Writes that have no bearing on the routes can be left out. -/
theorem twins_runAll (h : t.Twins t') (events : List TimelineEvent) :
    (t.runAll events).Twins (t'.runAll (events.filter (·.isMoving))) := by
  induction events generalizing t t' with
  | nil => exact h
  | cons e events ih =>
    cases hm : e.isMoving with
    | true =>
      rw [List.filter_cons_of_pos hm]
      exact ih (twins_step h e)
    | false =>
      rw [List.filter_cons_of_neg (by simp [hm])]
      cases e with
      | dispatch action => exact ih (twins_dispatch h hm)
      | start | stop | navigate _ | wait _ | settle => cases hm

end Timeline

end StorageConsole
