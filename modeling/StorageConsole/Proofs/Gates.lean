import Mathlib.Data.List.Nodup
import StorageConsole.ControlLoop

/-!
Gates and stop signals. The loops move on one by one, and only a start or a stop touches what a loop
is cancelled by; hence a gate that was closed stays closed, only the current loop has an open one, and
each other loop has been told to stop.
-/
namespace StorageConsole.ControlLoop

variable {l l' l'' : ControlLoop} {view : LoopView} {id : LoopId} {run : LoopRun}
  {order : List Waker}

theorem id_of_run? (h : l.run? id = some run) : run.id = id := by simpa using List.find?_some h

theorem mem_of_run? (h : l.run? id = some run) : run ∈ l.runs := List.mem_of_find?_eq_some h

/-- What can become of a loop by itself: nothing, it leaves, or it enters a phase. -/
inductive Moved (l : ControlLoop) (id : LoopId) : ControlLoop → Prop where
  | stays : Moved l id l
  | leaves : Moved l id (l.leave id)
  | enters (phase : LoopPhase) : Moved l id (l.enter id phase)

theorem moved_sleepIn (l : ControlLoop) (view : LoopView) (run : LoopRun) (generation : Nat)
    (updates : Watch.Receiver) :
    l.Moved run.id (l.sleepIn order view run generation updates) := by
  unfold sleepIn
  split
  · exact .leaves
  · exact .enters _
  · exact .enters _

theorem moved_iterateIn (l : ControlLoop) (view : LoopView) (run : LoopRun) :
    l.Moved run.id (l.iterateIn order view run).2 := by
  unfold iterateIn
  split
  · dsimp only
    split
    · exact .enters _
    · exact moved_sleepIn l view run _ _
  · exact .leaves

theorem moved_turn (l : ControlLoop) (view : LoopView) (id : LoopId) :
    l.Moved id (l.turn view id).2 := by
  unfold turn turnIn
  split
  · exact .stays
  · next run hr =>
    obtain rfl := id_of_run? hr
    split
    · split
      · exact .leaves
      · exact moved_iterateIn l view run
      · exact .enters _
    · exact .stays

theorem moved_passEnded (l : ControlLoop) (view : LoopView) (id : LoopId) :
    l.Moved id (l.passEnded view id) := by
  unfold passEnded passEndedIn
  split
  · next run hr =>
    obtain rfl := id_of_run? hr
    split
    · split
      · exact moved_sleepIn l view run _ _
      · exact .leaves
    · exact .stays
  · exact .stays

/-- A pass begins only in a loop that has not left, with the hook of the route that is shown. -/
theorem of_turn {hook : HookName} (h : l.turn view id = (some hook, l')) :
    (∃ run ∈ l.runs, run.id = id) ∧ view.hook = some hook := by
  unfold turn turnIn at h
  split at h
  · cases h
  · next run hr =>
    refine ⟨⟨run, mem_of_run? hr, id_of_run? hr⟩, ?_⟩
    split at h
    · split at h
      · cases h
      · unfold iterateIn at h
        split at h
        · dsimp only at h
          split at h
          · next found =>
            cases h
            exact found
          · cases h
        · cases h
      · cases h
    · cases h

/-! ## Gates -/

theorem isOpen_cancel (l : ControlLoop) (id other : LoopId) :
    (l.cancel id).isOpen other = (l.isOpen other && other != id) := by
  simp only [isOpen, cancel, List.getElem?_modify]
  by_cases h : other = id
  · subst h
    cases l.handles[other]? <;> simp [LoopHandle.cancel]
  · have hne : ¬ id = other := fun he => h he.symm
    simp [hne, h]

theorem isOpen_stop (l : ControlLoop) (id : LoopId) :
    l.stop.isOpen id = (l.isOpen id && l.current != some id) := by
  unfold stop
  split
  · next current hcurrent =>
    have hne : (id != current) = (some current != some id) := by simp [bne, BEq.comm]
    rw [hcurrent, ← hne]
    exact isOpen_cancel l current id
  · next hcurrent => simp [hcurrent]

theorem started_stop (l : ControlLoop) : l.stop.started = l.started := by
  unfold stop
  split
  · exact List.length_modify ..
  · rfl

theorem started_start (l : ControlLoop) : l.start.started = l.started + 1 := by
  rw [start, started, enlist, List.length_append, List.length_singleton]
  exact congrArg (· + 1) (started_stop l)

theorem isOpen_start (l : ControlLoop) (id : LoopId) :
    l.start.isOpen id = (l.stop.isOpen id || id == l.started) := by
  have hlength : l.stop.handles.length = l.started := started_stop l
  simp only [start, enlist, isOpen, List.getElem?_append]
  split
  · next hlt =>
    have hne : id ≠ l.started := Nat.ne_of_lt (hlength ▸ hlt)
    simp [hne]
  · next hge =>
    have hnone : l.stop.handles[id]? = none := List.getElem?_eq_none (Nat.le_of_not_lt hge)
    rw [hnone]
    by_cases h : id = l.started
    · simp [h, hlength, LoopHandle.fresh]
    · have hlate : 0 < id - l.stop.handles.length := by
        rw [hlength] at hge ⊢
        exact Nat.sub_pos_of_lt (Nat.lt_of_le_of_ne (Nat.le_of_not_lt hge) (Ne.symm h))
      simp [h, Nat.ne_of_gt hlate]

theorem runs_stop (l : ControlLoop) : l.stop.runs = l.runs := by
  unfold stop
  split <;> rfl

/-- The loops, told apart by their numbers, with all that they are cancelled by. -/
structure Wired (l : ControlLoop) : Prop where
  gate : ∀ id, l.isOpen id = true ↔ l.current = some id
  distinct : (l.runs.map (·.id)).Nodup
  numbered : ∀ run ∈ l.runs, run.id < l.started
  listening : ∀ run ∈ l.runs, run.stop = LoopHandle.fresh.stop.subscribe
  signalled : ∀ handle ∈ l.handles, handle.active = (handle.stop.version == 0)

/-- A loop has been told to stop just if its gate is closed. -/
theorem Wired.isTold_eq (h : l.Wired) (hr : run ∈ l.runs) : l.isTold run = !l.isOpen run.id := by
  have hlt : run.id < l.handles.length := h.numbered run hr
  have hsignalled := h.signalled _ (List.getElem_mem hlt)
  rw [isTold, isOpen, List.getElem?_eq_getElem hlt, h.listening run hr]
  simp only [Option.any_some, hsignalled]
  by_cases hzero : (l.handles[run.id]).stop.version = 0
  · simp [Watch.Receiver.changed?, LoopHandle.fresh, Watch.Channel.subscribe, Watch.Channel.start,
      hzero]
  · simp [Watch.Receiver.changed?, LoopHandle.fresh, Watch.Channel.subscribe, Watch.Channel.start,
      hzero, Ne.symm hzero]

theorem Wired.unique {other : LoopId} (h : l.Wired) (ho : l.isOpen id = true)
    (ho' : l.isOpen other = true) : other = id :=
  Option.some.inj (((h.gate other).mp ho').symm.trans ((h.gate id).mp ho))

theorem Wired.isRunning_iff (h : l.Wired) : l.isRunning = true ↔ ∃ id, l.isOpen id = true := by
  simp only [isRunning, Option.isSome_iff_exists, h.gate]

theorem wired_idle (interval : Nat) : (idle interval).Wired :=
  ⟨by simp [idle, isOpen], by simp [idle], by simp [idle], by simp [idle], by simp [idle]⟩

/-- A stop closes the only gate that may be open. -/
theorem Wired.closed_stop (h : l.Wired) (id : LoopId) : l.stop.isOpen id = false := by
  rw [isOpen_stop, Bool.and_eq_false_iff]
  by_cases ho : l.isOpen id = true
  · exact .inr (by simp [(h.gate id).mp ho])
  · exact .inl (by simpa using ho)

theorem Wired.stop (h : l.Wired) : l.stop.Wired where
  gate id := by
    have hcurrent : l.stop.current = none := by
      unfold ControlLoop.stop
      split
      · rfl
      · next hnone => exact hnone
    simp [h.closed_stop, hcurrent]
  distinct := by
    rw [runs_stop]
    exact h.distinct
  numbered := by
    rw [runs_stop, started_stop]
    exact h.numbered
  listening := by
    rw [runs_stop]
    exact h.listening
  signalled handle hm := by
    unfold ControlLoop.stop at hm
    split at hm
    · obtain ⟨i, hi, rfl⟩ := List.mem_iff_getElem.mp hm
      simp only [cancel, List.getElem_modify]
      split
      · rfl
      · exact h.signalled _ (List.getElem_mem _)
    · exact h.signalled handle hm

theorem runs_start (l : ControlLoop) :
    l.start.runs = l.runs ++ [⟨l.started, LoopHandle.fresh.stop.subscribe, .ready⟩] := by
  rw [start, enlist, runs_stop, started_stop]

theorem Wired.start (h : l.Wired) : l.start.Wired where
  gate id := by
    have hcurrent : l.start.current = some l.started := congrArg some (started_stop l)
    rw [isOpen_start, h.closed_stop, Bool.false_or, beq_iff_eq, hcurrent, Option.some.injEq]
    exact eq_comm
  distinct := by
    have hfresh : l.started ∉ l.runs.map (·.id) := by
      intro hm
      obtain ⟨run, hr, hid⟩ := List.mem_map.mp hm
      exact Nat.ne_of_lt (h.numbered run hr) hid
    simpa [runs_start, List.nodup_append] using ⟨h.distinct, fun run hr hid =>
      hfresh (List.mem_map.mpr ⟨run, hr, hid⟩)⟩
  numbered run hr := by
    rw [runs_start] at hr
    rw [started_start]
    rcases List.mem_append.mp hr with hr | hr
    · exact Nat.lt_succ_of_lt (h.numbered run hr)
    · rw [List.mem_singleton.mp hr]
      exact Nat.lt_succ_self _
  listening run hr := by
    rw [runs_start] at hr
    rcases List.mem_append.mp hr with hr | hr
    · exact h.listening run hr
    · rw [List.mem_singleton.mp hr]
  signalled handle hm := by
    rcases List.mem_append.mp hm with hm | hm
    · exact h.stop.signalled handle hm
    · rw [List.mem_singleton.mp hm]
      rfl

theorem ids_enter (l : ControlLoop) (id : LoopId) (phase : LoopPhase) :
    (l.enter id phase).runs.map (·.id) = l.runs.map (·.id) := by
  simp only [enter, List.map_map]
  refine List.map_congr_left fun run _ => ?_
  simp only [Function.comp_apply]
  split <;> rfl

theorem Wired.moved (h : l.Wired) (hm : l.Moved id l') : l'.Wired := by
  cases hm with
  | stays => exact h
  | leaves =>
    have hin : ∀ run ∈ (l.leave id).runs, run ∈ l.runs := fun _ hr => (List.mem_filter.mp hr).1
    exact ⟨h.gate, h.distinct.sublist (List.filter_sublist.map _),
      fun run hr => h.numbered run (hin run hr), fun run hr => h.listening run (hin run hr),
      h.signalled⟩
  | enters phase =>
    refine ⟨h.gate, ids_enter l id phase ▸ h.distinct, fun run hr => ?_, fun run hr => ?_,
      h.signalled⟩
    · obtain ⟨run', hr', rfl⟩ := List.mem_map.mp hr
      split <;> exact h.numbered run' hr'
    · obtain ⟨run', hr', rfl⟩ := List.mem_map.mp hr
      split <;> exact h.listening run' hr'

/-! ## What can become of the loops -/

/-- A closed gate stays closed, loops are numbered in order, and all stay wired. -/
structure Later (l l' : ControlLoop) : Prop where
  started : l.started ≤ l'.started
  closed : ∀ id < l.started, l.isOpen id = false → l'.isOpen id = false
  wired : l.Wired → l'.Wired

theorem Later.refl (l : ControlLoop) : l.Later l :=
  ⟨Nat.le_refl _, fun _ _ h => h, fun h => h⟩

theorem Later.trans (h : l.Later l') (h' : l'.Later l'') : l.Later l'' where
  started := Nat.le_trans h.started h'.started
  closed id hid hc := h'.closed id (Nat.lt_of_lt_of_le hid h.started) (h.closed id hid hc)
  wired hw := h'.wired (h.wired hw)

theorem later_stop (l : ControlLoop) : l.Later l.stop where
  started := Nat.le_of_eq (started_stop l).symm
  closed id _ hc := by rw [isOpen_stop, hc, Bool.false_and]
  wired hw := hw.stop

theorem later_start (l : ControlLoop) : l.Later l.start where
  started := by
    rw [started_start]
    exact Nat.le_succ _
  closed id hid hc := by
    have hne : id ≠ l.started := Nat.ne_of_lt hid
    simp [isOpen_start, isOpen_stop, hc, hne]
  wired hw := hw.start

theorem Moved.later (h : l.Moved id l') : l.Later l' where
  started := by cases h <;> exact Nat.le_refl _
  closed _ _ hc := by cases h <;> exact hc
  wired hw := hw.moved h

theorem later_turn (l : ControlLoop) (view : LoopView) (id : LoopId) :
    l.Later (l.turn view id).2 := (moved_turn l view id).later

theorem later_passEnded (l : ControlLoop) (view : LoopView) (id : LoopId) :
    l.Later (l.passEnded view id) := (moved_passEnded l view id).later

end StorageConsole.ControlLoop
