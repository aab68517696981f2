import StorageConsole.Proofs.Gates

/-!
What wakes a sleeping loop. In whichever order it looks at the wakers, a loop that has been cancelled
goes no further than to its closed gate, and another one goes on just if its interval is over or a
publication that it has not seen shows another route. Because each publication has a version of its
own, a loop that has seen all of them has missed no route.
-/
namespace StorageConsole

variable {view view' : LoopView} {generation deadline : Nat} {updates : Watch.Receiver}

namespace LoopView

/-- The view at a later moment: either nothing has been published meanwhile, or the version tells. -/
structure Precedes (view view' : LoopView) : Prop where
  version : view.updates.version ≤ view'.updates.version
  generation : view.generation ≤ view'.generation
  silent : view'.updates.version = view.updates.version → view'.generation = view.generation

/-- A receiver that was marked when the route of a generation was read, or later on while it was
still that route: if it has seen all publications, the route is still the same. -/
structure Recalls (view : LoopView) (generation : Nat) (updates : Watch.Receiver) : Prop where
  seen : updates.seen ≤ view.updates.version
  past : generation ≤ view.generation
  current : updates.seen = view.updates.version → generation = view.generation

theorem recalls_subscribe (view : LoopView) :
    view.Recalls view.generation view.updates.subscribe :=
  ⟨Nat.le_refl _, Nat.le_refl _, fun _ => rfl⟩

/-- No publication escapes a receiver. -/
theorem Recalls.later (h : view.Recalls generation updates) (hv : view.Precedes view') :
    view'.Recalls generation updates where
  seen := Nat.le_trans h.seen hv.version
  past := Nat.le_trans h.past hv.generation
  current hseen := by
    have hsame : view'.updates.version = view.updates.version :=
      Nat.le_antisymm (hseen ▸ h.seen) hv.version
    rw [hv.silent hsame]
    exact h.current (hseen.trans hsame)

theorem Precedes.refl (view : LoopView) : view.Precedes view :=
  ⟨Nat.le_refl _, Nat.le_refl _, fun _ => rfl⟩

/-- Whether an uncancelled loop that sleeps goes on. -/
def wakes (view : LoopView) (generation deadline : Nat) (updates : Watch.Receiver) : Bool :=
  deadline ≤ view.now || (updates.seen != view.updates.version && view.generation != generation)

/-- A route that has been published is never missed, and nothing else that is published counts. -/
theorem Recalls.wakes_iff (h : view.Recalls generation updates) (deadline : Nat) :
    view.wakes generation deadline updates = true ↔
      view.generation ≠ generation ∨ deadline ≤ view.now := by
  have hunseen : view.generation ≠ generation → updates.seen ≠ view.updates.version :=
    fun hne hseen => hne (h.current hseen).symm
  simp only [wakes, Bool.or_eq_true, decide_eq_true_eq, Bool.and_eq_true, bne_iff_ne]
  constructor
  · rintro (hd | ⟨_, hg⟩)
    · exact .inr hd
    · exact .inl hg
  · rintro (hg | hd)
    · exact .inr ⟨hunseen hg, hg⟩
    · exact .inl hd

/-- A loop that nothing wakes may forget what it had not seen. -/
theorem Recalls.catchUp (h : view.Recalls generation updates)
    (idle : view.wakes generation deadline updates = false) :
    view.Recalls generation view.updates.subscribe := by
  have hnot : ¬ (view.generation ≠ generation ∨ deadline ≤ view.now) := by
    rw [← h.wakes_iff, idle]
    exact Bool.false_ne_true
  exact ⟨Nat.le_refl _, h.past, fun _ => Decidable.byContradiction fun hne =>
    hnot (.inl (Ne.symm hne))⟩

end LoopView

namespace ControlLoop

variable {l : ControlLoop} {run : LoopRun} {order : List Waker}

theorem mem_wakers (waker : Waker) : waker ∈ Waker.all := by cases waker <;> decide

theorem routeChanged_eq (view : LoopView) (generation : Nat) (updates : Watch.Receiver) :
    routeChanged view generation updates =
      (updates.seen != view.updates.version && view.generation != generation,
        view.updates.subscribe) := by
  by_cases h : updates.seen = view.updates.version
  · have hmark : updates = view.updates.subscribe := congrArg Watch.Receiver.mk h
    rw [routeChanged, Watch.Receiver.changed?_of_seen h, h, bne_self_eq_false, Bool.false_and, hmark]
  · rw [routeChanged, Watch.Receiver.changed?_of_unseen h, bne_iff_ne.mpr h, Bool.true_and]

/-- A loop that nothing wakes goes on sleeping, and has seen all that was published. -/
theorem select_of_unwoken (untold : l.isTold run = false)
    (idle : view.wakes generation deadline updates = false)
    (looks : .route ∈ order ∨ updates = view.updates.subscribe) :
    l.select view run generation deadline order updates =
      .stay (.asleep generation deadline view.updates.subscribe) := by
  induction order generalizing updates with
  | nil =>
    obtain rfl := looks.resolve_left List.not_mem_nil
    rfl
  | cons waker order ih =>
    have hidle := Bool.or_eq_false_iff.mp idle
    cases waker with
    | interval =>
      simp only [select, poll, hidle.1]
      exact ih idle (by simpa using looks)
    | stop =>
      simp only [select, poll, untold]
      exact ih idle (by simpa using looks)
    | route =>
      simp only [select, poll, routeChanged_eq, hidle.2]
      refine ih ?_ (.inr rfl)
      simpa [LoopView.wakes, Watch.Channel.subscribe] using hidle.1

/-- A loop that has not been told to stop goes on once something wakes it. -/
theorem select_of_woken (untold : l.isTold run = false)
    (woken : view.wakes generation deadline updates = true) (hall : ∀ waker, waker ∈ order) :
    l.select view run generation deadline order updates = .iterate := by
  -- The wakers that are still to be looked at include the one that is there.
  have hwoken : (deadline ≤ view.now ∧ .interval ∈ order) ∨
      ((updates.seen != view.updates.version && view.generation != generation) = true ∧
        .route ∈ order) := by
    rcases Bool.or_eq_true_iff.mp woken with hd | hr
    · exact .inl ⟨of_decide_eq_true hd, hall _⟩
    · exact .inr ⟨hr, hall _⟩
  clear hall woken
  induction order generalizing updates with
  | nil => rcases hwoken with ⟨_, hm⟩ | ⟨_, hm⟩ <;> cases hm
  | cons waker order ih =>
    cases waker with
    | interval =>
      by_cases hd : deadline ≤ view.now
      · simp [select, poll, hd]
      · simp only [select, poll, hd, decide_false]
        exact ih (by simpa [hd] using hwoken)
    | stop =>
      simp only [select, poll, untold]
      exact ih (by simpa using hwoken)
    | route =>
      simp only [select, poll, routeChanged_eq]
      cases hr : updates.seen != view.updates.version && view.generation != generation with
      | true => rfl
      | false => exact ih (.inl (by simpa [hr] using hwoken))

/-- A loop that has been told to stop does not go on sleeping. -/
theorem select_of_told (told : l.isTold run = true) (stop : .stop ∈ order)
    (updates : Watch.Receiver) :
    l.select view run generation deadline order updates = .leave ∨
      l.select view run generation deadline order updates = .iterate := by
  induction order generalizing updates with
  | nil => cases stop
  | cons waker order ih =>
    rw [select]
    split
    · next hpoll =>
      have hne : waker ≠ .stop := by
        rintro rfl
        rw [poll, told] at hpoll
        cases hpoll
      exact ih (List.mem_of_ne_of_mem hne.symm stop) _
    · split
      · exact .inl rfl
      · exact .inr rfl

/-- Where a loop stands that begins to wait: it is about to go on if another route has been published
since it read the route. -/
def slept (l : ControlLoop) (view : LoopView) (generation : Nat) (updates : Watch.Receiver) :
    LoopPhase :=
  if view.wakes generation (view.now + l.interval) updates then .ready
  else .asleep generation (view.now + l.interval) view.updates.subscribe

theorem sleepIn_eq (untold : l.isTold run = false) (hall : ∀ waker, waker ∈ order) :
    l.sleepIn order view run generation updates =
      l.enter run.id (l.slept view generation updates) := by
  rw [sleepIn, slept]
  cases hw : view.wakes generation (view.now + l.interval) updates with
  | true => simp [select_of_woken untold hw hall]
  | false => simp [select_of_unwoken untold hw (.inl (hall _))]

/-- A loop sleeps for its interval, if that is not empty, unless it has missed a route. -/
theorem slept_eq (positive : 0 < l.interval) (h : view.Recalls generation updates) :
    l.slept view generation updates =
      if view.generation = generation then
        .asleep generation (view.now + l.interval) view.updates.subscribe
      else .ready := by
  have hnot : ¬ view.now + l.interval ≤ view.now := by omega
  have hw : view.wakes generation (view.now + l.interval) updates = true ↔
      view.generation ≠ generation := by rw [h.wakes_iff, or_iff_left hnot]
  by_cases hg : view.generation = generation
  · rw [slept, if_neg (fun hwakes => hw.mp hwakes hg), if_pos hg]
  · rw [slept, if_pos (hw.mpr hg), if_neg hg]

end ControlLoop

end StorageConsole
