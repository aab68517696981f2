import StorageConsole.Proofs.Step
import StorageConsole.Proofs.Wakeups

/-!
The phases of the loops: what a start, a stop, a turn and the end of a pass make of each of them.
-/
namespace StorageConsole

namespace LoopPhase

/-- The generation of the route that a loop in this phase has read, and what it has seen since. -/
def reading? : LoopPhase → Option (Nat × Watch.Receiver)
  | ready => none
  | refreshing generation updates => some (generation, updates)
  | asleep generation _ updates => some (generation, updates)

/-- Whether a loop in this phase has something to do. -/
def isDue (view : LoopView) (isOpen : Bool) : LoopPhase → Bool
  | ready => true
  | refreshing _ _ => false
  | asleep _ deadline updates =>
    !isOpen || updates.seen != view.updates.version || deadline ≤ view.now

/-- Whether an uncancelled loop in this phase goes on to its next iteration. -/
def goesOn (view : LoopView) : LoopPhase → Bool
  | ready => true
  | refreshing _ _ => false
  | asleep generation deadline updates => view.wakes generation deadline updates

/-- The phase of a loop that has seen all that was published and goes on sleeping. -/
def caughtUp (view : LoopView) : LoopPhase → LoopPhase
  | asleep generation deadline _ => asleep generation deadline view.updates.subscribe
  | phase => phase

theorem isDue_of_goesOn {view : LoopView} {phase : LoopPhase} (h : phase.goesOn view = true)
    (isOpen : Bool) : phase.isDue view isOpen = true := by
  cases phase with
  | ready => rfl
  | refreshing _ _ => cases h
  | asleep generation deadline updates =>
    rcases Bool.or_eq_true_iff.mp h with hd | hr
    · rw [isDue, hd, Bool.or_true]
    · rw [isDue, (Bool.and_eq_true_iff.mp hr).1, Bool.or_true, Bool.true_or]

/-- Who has seen everything and goes on sleeping has nothing to do. -/
theorem isDue_caughtUp {view : LoopView} {phase : LoopPhase} (h : phase.goesOn view = false) :
    (phase.caughtUp view).isDue view true = false := by
  cases phase with
  | ready => cases h
  | refreshing _ _ => rfl
  | asleep generation deadline updates =>
    have hlater : decide (deadline ≤ view.now) = false := (Bool.or_eq_false_iff.mp h).1
    simp only [caughtUp, isDue, Watch.Channel.subscribe, bne_self_eq_false, hlater]
    rfl

/-- A closed loop has something to do whatever it sees. -/
theorem isDue_closed (view view' : LoopView) (phase : LoopPhase) :
    phase.isDue view false = phase.isDue view' false := by cases phase <;> rfl

end LoopPhase

namespace ControlLoop

variable {l l' : ControlLoop} {view : LoopView} {id other : LoopId} {phase : LoopPhase}
  {generation deadline : Nat} {updates : Watch.Receiver} {order : List Waker} {run : LoopRun}

/-- Where a loop stands, unless it has left. -/
def phase? (l : ControlLoop) (id : LoopId) : Option LoopPhase := (l.run? id).map (·.phase)

/-- Whether a loop has not left and has something to do. -/
def isDueAt (l : ControlLoop) (view : LoopView) (id : LoopId) : Bool :=
  (l.run? id).any (l.isDue view)

/-- Whether a turn would make the loop read the route. -/
def reads (l : ControlLoop) (view : LoopView) (id : LoopId) : Bool :=
  l.isOpen id && (l.run? id).any fun run =>
    l.isDue view run && l.moveIn Waker.all view run == .iterate

theorem run?_of_phase? (h : l.phase? id = some phase) :
    ∃ run ∈ l.runs, l.run? id = some run ∧ run.id = id ∧ run.phase = phase := by
  obtain ⟨run, hr, rfl⟩ := Option.map_eq_some_iff.mp h
  exact ⟨run, mem_of_run? hr, hr, id_of_run? hr, rfl⟩

theorem phase?_of_run? (h : l.run? id = some run) : l.phase? id = some run.phase := by
  rw [phase?, h, Option.map_some]

theorem phase?_eq_none : l.phase? id = none ↔ l.run? id = none := Option.map_eq_none_iff

theorem isDue_eq (h : l.Wired) (hr : run ∈ l.runs) :
    l.isDue view run = run.phase.isDue view (l.isOpen run.id) := by
  unfold isDue
  cases hp : run.phase with
  | ready | refreshing _ _ => rfl
  | asleep generation deadline updates =>
    have hunseen : (updates.changed? view.updates).isSome =
        (updates.seen != view.updates.version) := by
      by_cases hs : updates.seen = view.updates.version
      · rw [Watch.Receiver.changed?_of_seen hs, hs, bne_self_eq_false, Option.isSome_none]
      · rw [Watch.Receiver.changed?_of_unseen hs, bne_iff_ne.mpr hs, Option.isSome_some]
    simp only [LoopPhase.isDue, h.isTold_eq hr, hunseen]

theorem isDueAt_eq (h : l.Wired) (hp : l.phase? id = some phase) :
    l.isDueAt view id = phase.isDue view (l.isOpen id) := by
  obtain ⟨run, hm, hr, rfl, rfl⟩ := run?_of_phase? hp
  rw [isDueAt, hr, Option.any_some, isDue_eq h hm]

theorem phase?_of_isDueAt (h : l.isDueAt view id = true) : ∃ phase, l.phase? id = some phase := by
  cases hr : l.run? id with
  | none => simp [isDueAt, hr] at h
  | some run => exact ⟨run.phase, phase?_of_run? hr⟩

/-- What comes next for an uncancelled loop, in whichever order it looks at the wakers. -/
theorem moveIn_eq (untold : l.isTold run = false) (hall : ∀ waker, waker ∈ order) :
    l.moveIn order view run =
      if run.phase.goesOn view then .iterate else .stay (run.phase.caughtUp view) := by
  unfold moveIn
  cases run.phase with
  | ready => rfl
  | refreshing _ _ => rfl
  | asleep generation deadline updates =>
    cases hw : view.wakes generation deadline updates with
    | true => simp [LoopPhase.goesOn, hw, select_of_woken untold hw hall]
    | false =>
      simp [LoopPhase.goesOn, LoopPhase.caughtUp, hw,
        select_of_unwoken untold hw (.inl (hall .route))]

theorem isTold_of_open (h : l.Wired) (hr : run ∈ l.runs) (ho : l.isOpen run.id = true) :
    l.isTold run = false := by rw [h.isTold_eq hr, ho, Bool.not_true]

/-- An uncancelled loop reads the route just if it goes on. -/
theorem reads_eq (h : l.Wired) (hp : l.phase? id = some phase) :
    l.reads view id = (l.isOpen id && phase.goesOn view) := by
  obtain ⟨run, hm, hr, rfl, rfl⟩ := run?_of_phase? hp
  rw [reads, hr, Option.any_some, isDue_eq h hm]
  cases ho : l.isOpen run.id with
  | false => rfl
  | true =>
    rw [Bool.true_and, Bool.true_and, moveIn_eq (isTold_of_open h hm ho) mem_wakers]
    cases hgo : run.phase.goesOn view with
    | true => rw [LoopPhase.isDue_of_goesOn hgo, if_pos rfl, beq_self_eq_true, Bool.and_self]
    | false => exact Bool.and_false _

theorem reads_of_idle (h : l.Wired) (hp : l.phase? id = some phase)
    (idle : phase.goesOn view = false) : l.reads view id = false := by
  rw [reads_eq h hp, idle, Bool.and_false]

theorem open_of_reads (h : l.reads view id = true) : l.isOpen id = true :=
  (Bool.and_eq_true_iff.mp h).1

theorem due_of_reads (h : l.reads view id = true) : l.isDueAt view id = true := by
  have hany := (Bool.and_eq_true_iff.mp h).2
  cases hr : l.run? id with
  | none => simp [hr] at hany
  | some run =>
    rw [hr, Option.any_some] at hany
    rw [isDueAt, hr, Option.any_some, (Bool.and_eq_true_iff.mp hany).1]

/-- Where loops are told apart by their ids, each stands where its run says. -/
theorem phase?_of_mem (h : l.Wired) (hr : run ∈ l.runs) :
    l.phase? run.id = some run.phase := by
  have hsome : l.run? run.id = some run := by
    cases hf : l.run? run.id with
    | none => simpa using List.find?_eq_none.mp hf run hr
    | some run' => rw [List.inj_on_of_nodup_map h.distinct (mem_of_run? hf) hr (id_of_run? hf)]
  exact phase?_of_run? hsome

theorem phase?_enter_self (h : l.phase? id = some phase) (phase' : LoopPhase) :
    (l.enter id phase').phase? id = some phase' := by
  obtain ⟨run, _, hr, hid, _⟩ := run?_of_phase? h
  simp only [run?] at hr
  have hsame : ((fun run : LoopRun => run.id == id) ∘ fun run : LoopRun =>
      if run.id = id then { run with phase := phase' } else run) = fun run => run.id == id := by
    funext run
    simp only [Function.comp_apply]
    split <;> rfl
  simp only [phase?, run?, enter, List.find?_map, hsame, hr, Option.map_some, hid, if_true]

theorem phase?_enter_other (h : other ≠ id) (phase' : LoopPhase) :
    (l.enter id phase').phase? other = l.phase? other := by
  have hsame : ((fun run : LoopRun => run.id == other) ∘ fun run : LoopRun =>
      if run.id = id then { run with phase := phase' } else run) = fun run => run.id == other := by
    funext run
    simp only [Function.comp_apply]
    split <;> rfl
  simp only [phase?, run?, enter, List.find?_map, hsame, Option.map_map]
  cases hf : l.runs.find? (·.id == other) with
  | none => rfl
  | some run =>
    have hid : run.id = other := by simpa using List.find?_some hf
    have hne : run.id ≠ id := fun he => h (hid.symm.trans he)
    simp [hne]

theorem phase?_leave_self : (l.leave id).phase? id = none := by
  simp [phase?, run?, leave]

theorem phase?_leave_other (h : other ≠ id) : (l.leave id).phase? other = l.phase? other := by
  have hsame : (fun run : LoopRun => decide ((run.id != id) = true ∧ (run.id == other) = true)) =
      fun run => run.id == other := by
    funext run
    by_cases hid : run.id = other
    · simp [hid, h]
    · simp [hid]
  simp only [phase?, run?, leave, List.find?_filter, hsame]

theorem phase?_stop (l : ControlLoop) (id : LoopId) : l.stop.phase? id = l.phase? id := by
  rw [phase?, phase?, run?, run?, runs_stop]

theorem phase?_start_other (h : other ≠ l.started) : l.start.phase? other = l.phase? other := by
  have hnew : (l.started == other) = false := by simpa using h.symm
  simp [phase?, run?, runs_start, List.find?_append, hnew]

theorem phase?_start_self (h : l.Wired) : l.start.phase? l.started = some .ready := by
  have hnone : l.runs.find? (·.id == l.started) = none :=
    List.find?_eq_none.mpr fun run hr => by simpa using Nat.ne_of_lt (h.numbered run hr)
  simp [phase?, run?, runs_start, List.find?_append, hnone]

/-- The kinds of turns: the loop has nothing to do, it leaves, it goes on sleeping, it finds no hook
and sleeps, or it begins a pass. -/
inductive Turned (l : ControlLoop) (view : LoopView) (id : LoopId) :
    Option HookName × ControlLoop → Prop where
  | waits (due : l.isDueAt view id = false) : Turned l view id (none, l)
  | leaves (due : l.isDueAt view id = true) (closed : l.isOpen id = false) :
      Turned l view id (none, l.leave id)
  | dozes {phase : LoopPhase} (stands : l.phase? id = some phase) (opened : l.isOpen id = true)
      (due : l.isDueAt view id = true) (idle : phase.goesOn view = false) :
      Turned l view id (none, l.enter id (phase.caughtUp view))
  | rests (reads : l.reads view id = true) (hook : view.hook = none) :
      Turned l view id (none, l.enter id (l.slept view view.generation view.updates.subscribe))
  | begins {hook : HookName} (reads : l.reads view id = true) (found : view.hook = some hook) :
      Turned l view id (some hook, l.enter id (.refreshing view.generation view.updates.subscribe))

/-- A loop that is about to read the route does so, unless it has been cancelled. -/
theorem iterateIn_of_closed (ho : l.isOpen run.id = false) :
    l.iterateIn order view run = (none, l.leave run.id) := by
  rw [iterateIn, ho]
  rfl

theorem turned (h : l.Wired) (hall : ∀ waker, waker ∈ order) (view : LoopView) (id : LoopId) :
    Turned l view id (l.turnIn order view id) := by
  unfold turnIn
  cases hr : l.run? id with
  | none => exact .waits (by simp [isDueAt, hr])
  | some run =>
    have hdueAt : l.isDueAt view id = l.isDue view run := by simp [isDueAt, hr]
    have hm := mem_of_run? hr
    have hp := phase?_of_run? hr
    obtain rfl := id_of_run? hr
    dsimp only
    split
    · next hd =>
      have hdue := hdueAt.trans hd
      cases ho : l.isOpen run.id with
      | false =>
        -- Whether it is told to stop or goes on, a cancelled loop finds its gate closed.
        have hmove : l.moveIn order view run = .leave ∨ l.moveIn order view run = .iterate := by
          unfold moveIn
          cases hphase : run.phase with
          | ready => exact .inr rfl
          | refreshing _ _ => simp [isDue, hphase] at hd
          | asleep _ _ _ => exact select_of_told (by rw [h.isTold_eq hm, ho, Bool.not_false]) (hall _) _
        rcases hmove with hmove | hmove
        · rw [hmove]
          exact .leaves hdue ho
        · rw [hmove, iterateIn_of_closed ho]
          exact .leaves hdue ho
      | true =>
        have untold := isTold_of_open h hm ho
        rw [moveIn_eq untold hall]
        cases hgo : run.phase.goesOn view with
        | false => exact .dozes hp ho hdue hgo
        | true =>
          have hreads : l.reads view run.id = true := by rw [reads_eq h hp, ho, hgo, Bool.and_self]
          rw [if_pos rfl, iterateIn, if_pos ho]
          dsimp only [Watch.Receiver.borrowAndUpdate]
          cases hh : view.updates.value.hook with
          | none =>
            dsimp only
            rw [sleepIn_eq untold hall]
            exact .rests hreads hh
          | some hook => exact .begins hreads hh
    · next hd => exact .waits (hdueAt.trans (Bool.not_eq_true _ ▸ hd))

/-- There is one way only for a turn to go. -/
theorem Turned.unique {r r' : Option HookName × ControlLoop} (hw : l.Wired)
    (h : Turned l view id r) (h' : Turned l view id r') : r' = r := by
  have hawake : l.reads view id = true → l.isDueAt view id = true ∧ l.isOpen id = true :=
    fun hr => ⟨due_of_reads hr, open_of_reads hr⟩
  cases h with
  | waits due =>
    cases h' with
    | waits _ => rfl
    | leaves due' _ | dozes _ _ due' _ => simp [due] at due'
    | rests reads _ | begins reads _ => simp [hawake reads] at due
  | leaves due closed =>
    cases h' with
    | leaves _ _ => rfl
    | waits due' => simp [due] at due'
    | dozes _ opened _ _ => simp [closed] at opened
    | rests reads _ | begins reads _ => simp [hawake reads] at closed
  | dozes stands opened due idle =>
    have hr := reads_of_idle hw stands idle
    cases h' with
    | waits due' => simp [due] at due'
    | leaves _ closed => simp [opened] at closed
    | dozes stands' _ _ _ => cases stands.symm.trans stands'; rfl
    | rests reads _ | begins reads _ => simp [hr] at reads
  | rests reads hook =>
    cases h' with
    | waits due' => simp [hawake reads] at due'
    | leaves _ closed => simp [hawake reads] at closed
    | dozes stands _ _ idle => simp [reads_of_idle hw stands idle] at reads
    | rests _ _ => rfl
    | begins _ found => simp [hook] at found
  | begins reads found =>
    cases h' with
    | waits due' => simp [hawake reads] at due'
    | leaves _ closed => simp [hawake reads] at closed
    | dozes stands _ _ idle => simp [reads_of_idle hw stands idle] at reads
    | rests _ hook => simp [found] at hook
    | begins _ found' => cases found.symm.trans found'; rfl

/-- A turn goes the same way in whichever order the loop looks at the wakers. -/
theorem turnIn_eq (h : l.Wired) (hall : ∀ waker, waker ∈ order) (view : LoopView) (id : LoopId) :
    l.turnIn order view id = l.turn view id :=
  (turned h mem_wakers view id).unique h (turned h hall view id)

/-- A pass's end puts its loop to sleep, or lets it go if it has been cancelled. -/
theorem passEndedIn_eq (h : l.Wired) (hall : ∀ waker, waker ∈ order)
    (hp : l.phase? id = some (.refreshing generation updates)) :
    l.passEndedIn order view id =
      if l.isOpen id then l.enter id (l.slept view generation updates) else l.leave id := by
  obtain ⟨run, hm, hr, rfl, hphase⟩ := run?_of_phase? hp
  simp only [passEndedIn, hr, hphase]
  split
  · next ho => exact sleepIn_eq (isTold_of_open h hm ho) hall
  · rfl

theorem passEnded_eq (h : l.Wired) (hp : l.phase? id = some (.refreshing generation updates)) :
    l.passEnded view id =
      if l.isOpen id then l.enter id (l.slept view generation updates) else l.leave id :=
  passEndedIn_eq h mem_wakers hp

/-- A loop without a pass does not notice the end of one. -/
theorem passEndedIn_of_idle
    (h : ∀ generation updates, l.phase? id ≠ some (.refreshing generation updates)) :
    l.passEndedIn order view id = l := by
  unfold passEndedIn
  split
  · next run hr =>
    split
    · next generation updates hphase =>
      exact absurd ((phase?_of_run? hr).trans (congrArg some hphase)) (h _ _)
    · rfl
  · rfl

theorem Wired.lt_started (h : l.Wired) (hp : l.phase? id = some phase) : id < l.started := by
  obtain ⟨run, hm, _, rfl, _⟩ := run?_of_phase? hp
  exact h.numbered run hm

theorem passEnded_of_idle
    (h : ∀ generation updates, l.phase? id ≠ some (.refreshing generation updates)) :
    l.passEnded view id = l := passEndedIn_of_idle h

/-- A pass ends the same way in whichever order its loop looks at the wakers. -/
theorem passEndedIn_eq_passEnded (hw : l.Wired) (hall : ∀ waker, waker ∈ order) (view : LoopView)
    (id : LoopId) : l.passEndedIn order view id = l.passEnded view id := by
  by_cases hp : ∃ generation updates, l.phase? id = some (.refreshing generation updates)
  · obtain ⟨generation, updates, hp⟩ := hp
    rw [passEndedIn_eq hw hall hp, passEnded_eq hw hp]
  · have hidle : ∀ generation updates, l.phase? id ≠ some (.refreshing generation updates) :=
      fun generation updates hr => hp ⟨generation, updates, hr⟩
    rw [passEndedIn_of_idle hidle, passEnded_of_idle hidle]

/-- What only a start or a stop changes. -/
def control (l : ControlLoop) : Nat × List LoopHandle × Option LoopId :=
  (l.interval, l.handles, l.current)

theorem Moved.control_eq (h : l.Moved id l') : l'.control = l.control := by cases h <;> rfl

theorem isOpen_of_control (h : l'.control = l.control) (id : LoopId) :
    l'.isOpen id = l.isOpen id := by
  have hh : l'.handles = l.handles := congrArg (·.2.1) h
  rw [isOpen, isOpen, hh]

/-- The other loops stay where they stand. -/
theorem Moved.phase?_other (h : l.Moved id l') (he : other ≠ id) :
    l'.phase? other = l.phase? other := by
  cases h with
  | stays => rfl
  | leaves => exact phase?_leave_other he
  | enters phase => exact phase?_enter_other he phase

end ControlLoop

end StorageConsole
