import StorageConsole.Proofs.Happenings

/-!
What all moments of a timeline have in common. No loop misses a publication: what it has seen of the
state tells whether the route that it has read is still the same. And each loop that is refreshing has
one pass under way.
-/
namespace StorageConsole.Timeline

variable {t t' : Timeline} {id other : LoopId} {pass : Pass} {h : Happening}
  {hs : List Happening} {generation deadline : Nat}

/-- The loops with what they are cancelled by and what they have seen of the state. -/
structure Aware (t : Timeline) : Prop where
  wired : t.loop.Wired
  recalls : ∀ id phase generation updates, t.loop.phase? id = some phase →
    phase.reading? = some (generation, updates) → t.view.Recalls generation updates

theorem aware_start (table : Route.Table) (interval : Nat) (duration : Nat → Nat) :
    (start table interval duration).Aware where
  wired := ControlLoop.wired_idle interval
  recalls := by simp [start, ControlLoop.phase?, ControlLoop.run?, ControlLoop.idle]

/-- Only one loop moves; the others see no less than they saw. -/
theorem Aware.move (ha : t.Aware) (id : LoopId) (hw : t'.loop.Wired) (hv : t.view.Precedes t'.view)
    (hother : ∀ other, other ≠ id → t'.loop.phase? other = t.loop.phase? other)
    (hself : ∀ phase generation updates, t'.loop.phase? id = some phase →
      phase.reading? = some (generation, updates) → t'.view.Recalls generation updates) :
    t'.Aware where
  wired := hw
  recalls other phase generation updates hp hr := by
    by_cases he : other = id
    · subst he
      exact hself phase generation updates hp hr
    · rw [hother other he] at hp
      exact (ha.recalls other phase generation updates hp hr).later hv

/-- A loop that goes to sleep knows the route, since otherwise it would not. -/
theorem recalls_of_slept {l : ControlLoop} {view : LoopView} {generation generation' : Nat}
    {updates updates' : Watch.Receiver} (h : view.Recalls generation updates)
    (hr : (l.slept view generation updates).reading? = some (generation', updates')) :
    view.Recalls generation' updates' := by
  unfold ControlLoop.slept at hr
  split at hr
  · cases hr
  · next hw =>
    cases hr
    exact h.catchUp (Bool.not_eq_true _ ▸ hw)

theorem recalls_of_caughtUp {view : LoopView} {phase : LoopPhase} {generation : Nat}
    {updates : Watch.Receiver} (idle : phase.goesOn view = false)
    (h : ∀ generation updates, phase.reading? = some (generation, updates) →
      view.Recalls generation updates)
    (hr : (phase.caughtUp view).reading? = some (generation, updates)) :
    view.Recalls generation updates := by
  cases phase with
  | ready => cases hr
  | refreshing _ _ => exact h _ _ hr
  | asleep generation' deadline updates' =>
    cases hr
    exact (h _ _ rfl).catchUp idle

theorem aware_endPass (ha : t.Aware) (pass : Pass) : (t.endPass pass).Aware := by
  have hlater : t.loop.Later (t.endPass pass).loop := t.loop.later_passEnded _ pass.loop
  refine ha.move pass.loop (hlater.wired ha.wired) (precedes_endPass t pass)
    (fun _ => phase?_endPass_other pass) ?_
  intro phase generation updates hp hr
  by_cases hrefreshes : ∃ generation, t.Refreshes pass.loop generation
  · obtain ⟨generation', updates', hbefore⟩ := hrefreshes
    have hknown := ha.recalls _ _ _ _ hbefore rfl
    rw [phase?_endPass ha.wired hbefore] at hp
    split at hp
    · cases hp
      exact recalls_of_slept (hknown.later (precedes_endPass t pass)) hr
    · cases hp
  · rw [phase?_endPass_of_idle (not_exists.mp hrefreshes)] at hp
    exact (ha.recalls _ _ _ _ hp hr).later (precedes_endPass t pass)

/-- Where a loop stands that a turn has made enter a phase. -/
theorem phase?_entered (hd : t.loop.isDueAt t.view id = true) (phase : LoopPhase) :
    (t.loop.enter id phase).phase? id = some phase := by
  obtain ⟨phase', hp⟩ := ControlLoop.phase?_of_isDueAt hd
  exact ControlLoop.phase?_enter_self hp phase

theorem aware_launch (ha : t.Aware) (hr : t.reads id = true) (hook : HookName) :
    (t.launch id hook).Aware := by
  refine ha.move id (ha.wired.moved (.enters _)) (.refl _)
    (fun _ he => ControlLoop.phase?_enter_other he _) ?_
  intro phase generation updates hp hreading
  cases (phase?_entered (ControlLoop.due_of_reads hr) _).symm.trans hp
  cases hreading
  exact t.view.recalls_subscribe

theorem aware_giveTurn (ha : t.Aware) (id : LoopId) : (t.giveTurn id).Aware := by
  have ht := turned ha.wired id
  generalize t.giveTurn id = u at ht
  cases ht with
  | waits _ => exact ha
  | leaves _ _ =>
    refine ha.move id (ha.wired.moved .leaves) (.refl _)
      (fun _ he => ControlLoop.phase?_leave_other he) ?_
    intro phase generation updates hp
    cases ControlLoop.phase?_leave_self.symm.trans hp
  | dozes stands _ idle =>
    refine ha.move id (ha.wired.moved (.enters _)) (.refl _)
      (fun _ he => ControlLoop.phase?_enter_other he _) ?_
    intro phase generation updates hp hr
    cases (ControlLoop.phase?_enter_self stands _).symm.trans hp
    exact recalls_of_caughtUp idle (fun _ _ => ha.recalls id _ _ _ stands) hr
  | rests reads _ =>
    refine ha.move id (ha.wired.moved (.enters _)) (.refl _)
      (fun _ he => ControlLoop.phase?_enter_other he _) ?_
    intro phase generation updates hp hr
    cases (phase?_entered (ControlLoop.due_of_reads reads) _).symm.trans hp
    exact recalls_of_slept t.view.recalls_subscribe hr
  | begins reads _ _ => exact aware_launch ha reads _
  | flashes reads _ _ => exact aware_endPass (aware_launch ha reads _) _

/-- Whatever happens, no loop misses a publication. -/
theorem aware_happen (ha : t.Aware) (h : Happening) : (t.happen h).Aware := by
  have hlater := later_happen ha.wired h
  have hv := precedes_happen ha.wired h
  cases h with
  | start =>
    refine ha.move t.loop.started (hlater.wired ha.wired) hv
      (fun _ he => ControlLoop.phase?_start_other he) ?_
    intro phase generation updates hp hr
    cases (ControlLoop.phase?_start_self ha.wired).symm.trans hp
    cases hr
  | stop =>
    refine ⟨hlater.wired ha.wired, fun id phase generation updates hp hr => ?_⟩
    exact ha.recalls id phase generation updates ((t.loop.phase?_stop id).symm.trans hp) hr
  | dispatch _ | navigate _ | elapse _ =>
    exact ⟨ha.wired, fun id phase generation updates hp hr =>
      (ha.recalls id phase generation updates hp hr).later hv⟩
  | passEnd pass => exact aware_endPass ha pass
  | turn id => exact aware_giveTurn ha id

theorem aware_happenAll (ha : t.Aware) (hs : List Happening) : (t.happenAll hs).Aware := by
  induction hs generalizing t with
  | nil => exact ha
  | cons h hs ih => exact ih (aware_happen ha h)

/-- A loop that has read the route either runs the hook or has gone to sleep, and then it has seen all
that was published. -/
theorem phase?_of_reads (ha : t.Aware) (positive : 0 < t.loop.interval) (hr : t.reads id = true) :
    (t.giveTurn id).Refreshes id t.state.routeGeneration ∨
    (t.giveTurn id).loop.phase? id = some (.asleep t.state.routeGeneration
      (t.now + t.loop.interval) (t.giveTurn id).view.updates.subscribe) := by
  have hdue : t.loop.isDueAt t.view id = true := ControlLoop.due_of_reads hr
  have hopen : t.loop.isOpen id = true := ControlLoop.open_of_reads hr
  have hlaunched : ∀ hook, (t.launch id hook).loop.phase? (t.nextPass id).loop = _ :=
    fun _ => phase?_entered hdue _
  have ht := turned ha.wired id
  generalize t.giveTurn id = u at ht
  cases ht with
  | waits due => simp [hdue] at due
  | leaves _ closed => simp [hopen] at closed
  | dozes stands opened idle =>
    cases (ControlLoop.reads_of_idle ha.wired stands idle).symm.trans hr
  | rests _ _ =>
    have hslept := ControlLoop.slept_eq positive t.view.recalls_subscribe
    rw [if_pos rfl] at hslept
    exact .inr ((phase?_entered hdue _).trans (congrArg some hslept))
  | begins _ _ _ => exact .inl ⟨_, hlaunched _⟩
  | @flashes hook _ _ _ =>
    let launched := t.launch id hook
    have hwired : launched.loop.Wired := ha.wired.moved (.enters _)
    have hsame : (launched.endPass (t.nextPass id)).view.generation = t.view.generation :=
      endPass_generation launched (t.nextPass id)
    have hknown := t.view.recalls_subscribe.later (precedes_endPass launched (t.nextPass id))
    have hend := phase?_endPass hwired (hlaunched hook)
    have hgate : launched.loop.isOpen (t.nextPass id).loop = true := hopen
    have hslept := ControlLoop.slept_eq (l := launched.loop) positive hknown
    rw [if_pos hgate] at hend
    rw [if_pos hsame] at hslept
    exact .inr (hend.trans (congrArg some hslept))

/-- The passes under way are told apart by their numbers, and each loop that is refreshing has one of
them. -/
structure Coherent (t : Timeline) : Prop where
  aware : t.Aware
  begun : ∀ pass ∈ t.passes, pass.number ≤ t.passesBegun
  apart : (t.passes.map (·.number)).Nodup
  single : (t.passes.map (·.loop)).Nodup
  underway : ∀ id, (∃ pass ∈ t.passes, pass.loop = id) ↔ ∃ generation, t.Refreshes id generation

theorem coherent_start (table : Route.Table) (interval : Nat) (duration : Nat → Nat) :
    (start table interval duration).Coherent where
  aware := aware_start table interval duration
  begun := by simp [start]
  apart := by simp [start]
  single := by simp [start]
  underway id := by
    simp [start, Refreshes, ControlLoop.phase?, ControlLoop.run?, ControlLoop.idle]

/-- The passes may stay as they are where the same loops are refreshing. -/
theorem Coherent.congr (hc : t.Coherent) (ha : t'.Aware)
    (hpasses : t'.passes = t.passes) (hbegun : t'.passesBegun = t.passesBegun)
    (hsame : ∀ id, (∃ generation, t'.Refreshes id generation) ↔
      ∃ generation, t.Refreshes id generation) : t'.Coherent where
  aware := ha
  begun := by
    rw [hpasses, hbegun]
    exact hc.begun
  apart := by
    rw [hpasses]
    exact hc.apart
  single := by
    rw [hpasses]
    exact hc.single
  underway id := by
    rw [hpasses, hsame]
    exact hc.underway id

/-- A loop that is not refreshing may move to any phase in which it is not either. -/
theorem Coherent.move (hc : t.Coherent) (id : LoopId) (ha : t'.Aware)
    (hpasses : t'.passes = t.passes) (hbegun : t'.passesBegun = t.passesBegun)
    (hother : ∀ other, other ≠ id → t'.loop.phase? other = t.loop.phase? other)
    (hbefore : ∀ generation, ¬ t.Refreshes id generation)
    (hafter : ∀ generation, ¬ t'.Refreshes id generation) : t'.Coherent := by
  refine hc.congr ha hpasses hbegun fun other => ?_
  by_cases he : other = id
  · subst he
    exact iff_of_false (not_exists.mpr hafter) (not_exists.mpr hbefore)
  · simp only [Refreshes, hother other he]

theorem not_refreshes_of_phase? {phase : LoopPhase} (hp : t.loop.phase? id = some phase)
    (idle : ∀ generation updates, phase ≠ .refreshing generation updates) (generation : Nat) :
    ¬ t.Refreshes id generation := by
  rintro ⟨updates, hp'⟩
  exact idle _ _ (Option.some.inj (hp.symm.trans hp'))

theorem not_refreshing_of_due (hw : t.loop.Wired) (hd : t.loop.isDueAt t.view id = true)
    (generation : Nat) : ¬ t.Refreshes id generation := by
  rintro ⟨updates, hp⟩
  rw [ControlLoop.isDueAt_eq hw hp] at hd
  cases hd

theorem coherent_launch (hc : t.Coherent) (hr : t.reads id = true) (hook : HookName) :
    (t.launch id hook).Coherent := by
  have hdue : t.loop.isDueAt t.view id = true := ControlLoop.due_of_reads hr
  have hbefore := not_refreshing_of_due hc.aware.wired hdue
  have hself := phase?_entered hdue (.refreshing t.view.generation t.view.updates.subscribe)
  have hidle : ∀ pass ∈ t.passes, pass.loop ≠ id := by
    intro pass hm he
    obtain ⟨generation, hg⟩ := (hc.underway id).mp ⟨pass, hm, he⟩
    exact hbefore generation hg
  refine ⟨aware_launch hc.aware hr hook, ?_, ?_, ?_, ?_⟩
  · intro pass hm
    rcases List.mem_append.mp hm with hm | hm
    · exact Nat.le_succ_of_le (hc.begun pass hm)
    · rw [List.mem_singleton.mp hm]
      exact Nat.le_refl _
  · have hfresh : ∀ pass ∈ t.passes, pass.number ≠ t.passesBegun + 1 :=
      fun pass hm => Nat.ne_of_lt (Nat.lt_succ_of_le (hc.begun pass hm))
    simpa [launch, nextPass, List.nodup_append] using ⟨hc.apart, hfresh⟩
  · simpa [launch, nextPass, List.nodup_append] using ⟨hc.single, hidle⟩
  · intro other
    simp only [launch, List.mem_append, List.mem_singleton, Refreshes]
    by_cases he : other = id
    · subst he
      rw [hself]
      exact ⟨fun _ => ⟨_, _, rfl⟩, fun _ => ⟨_, .inr rfl, rfl⟩⟩
    · rw [ControlLoop.phase?_enter_other he]
      refine Iff.trans ?_ (hc.underway other)
      constructor
      · rintro ⟨pass, hm | rfl, rfl⟩
        · exact ⟨pass, hm, rfl⟩
        · exact absurd rfl he
      · rintro ⟨pass, hm, hl⟩
        exact ⟨pass, .inl hm, hl⟩

/-- The pass of a loop that is refreshing is the only one with its number and the only one of its
loop. -/
theorem Coherent.eq_of_number (hc : t.Coherent) {pass' : Pass} (hp : pass ∈ t.passes)
    (hp' : pass' ∈ t.passes) (hn : pass'.number = pass.number) : pass' = pass :=
  List.inj_on_of_nodup_map hc.apart hp' hp hn

theorem Coherent.eq_of_loop (hc : t.Coherent) {pass' : Pass} (hp : pass ∈ t.passes)
    (hp' : pass' ∈ t.passes) (hl : pass'.loop = pass.loop) : pass' = pass :=
  List.inj_on_of_nodup_map hc.single hp' hp hl

theorem not_refreshing_of_slept {l : ControlLoop} {view : LoopView} {generation : Nat}
    {updates : Watch.Receiver} :
    ∀ generation' updates',
      l.slept view generation updates ≠ .refreshing generation' updates' := by
  intro generation' updates' h
  unfold ControlLoop.slept at h
  split at h <;> cases h

theorem coherent_endPass (hc : t.Coherent) (hp : pass ∈ t.passes) : (t.endPass pass).Coherent := by
  have hw := hc.aware.wired
  obtain ⟨generation, updates, hg⟩ := (hc.underway pass.loop).mp ⟨pass, hp, rfl⟩
  have hself := phase?_endPass hw hg
  refine ⟨aware_endPass hc.aware pass, fun pass' hm => hc.begun pass' (List.mem_filter.mp hm).1,
    hc.apart.sublist (List.filter_sublist.map _), hc.single.sublist (List.filter_sublist.map _),
    fun other => ?_⟩
  by_cases he : other = pass.loop
  · subst he
    constructor
    · rintro ⟨pass', hm, hl⟩
      obtain ⟨hm, hn⟩ := List.mem_filter.mp hm
      exact absurd (congrArg Pass.number (hc.eq_of_loop hp hm hl)) (bne_iff_ne.mp hn)
    · rintro ⟨generation', updates', hg'⟩
      have hnone := hself.symm.trans hg'
      split at hnone
      · exact absurd (Option.some.inj hnone) (not_refreshing_of_slept _ _)
      · cases hnone
  · simp only [Refreshes, phase?_endPass_other pass he]
    refine Iff.trans ?_ (hc.underway other)
    constructor
    · rintro ⟨pass', hm, hl⟩
      exact ⟨pass', (List.mem_filter.mp hm).1, hl⟩
    · rintro ⟨pass', hm, hl⟩
      refine ⟨pass', List.mem_filter.mpr ⟨hm, bne_iff_ne.mpr fun hn => he ?_⟩, hl⟩
      rw [← hl, hc.eq_of_number hp hm hn]

theorem coherent_giveTurn (hc : t.Coherent) (id : LoopId) : (t.giveTurn id).Coherent := by
  have hw := hc.aware.wired
  have ha := aware_giveTurn hc.aware id
  have ht := turned hw id
  generalize t.giveTurn id = u at ht ha
  cases ht with
  | waits _ => exact hc
  | leaves due closed =>
    refine hc.move id ha rfl rfl
      (fun _ he => ControlLoop.phase?_leave_other he) (not_refreshing_of_due hw due) ?_
    rintro generation ⟨updates, hp⟩
    cases ControlLoop.phase?_leave_self.symm.trans hp
  | @dozes phase stands _ _ =>
    refine hc.congr ha rfl rfl fun other => ?_
    by_cases he : other = id
    · subst he
      simp only [Refreshes, stands, ControlLoop.phase?_enter_self stands]
      cases phase <;> simp [LoopPhase.caughtUp]
    · simp only [Refreshes, ControlLoop.phase?_enter_other he]
  | rests reads _ =>
    have hdue : t.loop.isDueAt t.view id = true := ControlLoop.due_of_reads reads
    refine hc.move id ha rfl rfl
      (fun _ he => ControlLoop.phase?_enter_other he _) (not_refreshing_of_due hw hdue) ?_
    exact not_refreshes_of_phase? (phase?_entered hdue _) not_refreshing_of_slept
  | begins reads _ _ => exact coherent_launch hc reads _
  | flashes reads _ _ =>
    exact coherent_endPass (coherent_launch hc reads _) (by simp [launch])

theorem coherent_happen (h : Happening) (ha : t.allows h = true) (hc : t.Coherent) :
    (t.happen h).Coherent := by
  have haware := aware_happen hc.aware h
  have hw := hc.aware.wired
  cases h with
  | start =>
    refine hc.move t.loop.started haware rfl rfl
      (fun _ he => ControlLoop.phase?_start_other he) ?_
      (not_refreshes_of_phase? (ControlLoop.phase?_start_self hw) (by simp))
    rintro generation ⟨updates, hp⟩
    exact Nat.lt_irrefl _ (hw.lt_started hp)
  | stop =>
    refine hc.congr haware rfl rfl fun id => ?_
    have hphase : (t.happen .stop).loop.phase? id = t.loop.phase? id := t.loop.phase?_stop id
    simp only [Refreshes, hphase]
  | dispatch _ | navigate _ | elapse _ => exact hc.congr haware rfl rfl fun _ => Iff.rfl
  | passEnd pass =>
    have hp : pass ∈ t.passes := by simpa using (Bool.and_eq_true_iff.mp ha).1
    exact coherent_endPass hc hp
  | turn id => exact coherent_giveTurn hc id

theorem coherent_happenAll (timely : t.isTimely hs = true) (hc : t.Coherent) :
    (t.happenAll hs).Coherent :=
  happenAll_keeps (fun h _ _ ha hc => coherent_happen h ha hc) timely hc

/-! ## Waiting for the next iteration -/

theorem reads_of_goesOn {phase : LoopPhase} (hw : t.loop.Wired) (ho : t.loop.isOpen id = true)
    (hp : t.loop.phase? id = some phase) : t.reads id = phase.goesOn t.view := by
  rw [reads, ControlLoop.reads_eq hw hp, ho, Bool.true_and]

/-- A turn in which an uncancelled loop does not read the route changes at most what it has seen. -/
theorem phase?_of_not_reads (hw : t.loop.Wired) (ho : t.loop.isOpen id = true)
    (hr : t.reads id = false) :
    (t.giveTurn id).loop.phase? id = t.loop.phase? id ∨
      ∃ phase, t.loop.phase? id = some phase ∧
        (t.giveTurn id).loop.phase? id = some (phase.caughtUp t.view) := by
  have ht := turned hw id
  generalize t.giveTurn id = u at ht
  cases ht with
  | waits _ => exact .inl rfl
  | leaves _ closed => simp [ho] at closed
  | dozes stands _ _ => exact .inr ⟨_, stands, ControlLoop.phase?_enter_self stands _⟩
  | rests reads _ | begins reads _ _ | flashes reads _ _ => simp [hr] at reads

/-- A loop stays where it stands but for its turns and the end of its pass. -/
theorem phase?_happen {phase : LoopPhase} (hw : t.loop.Wired)
    (hp : t.loop.phase? id = some phase) (hturn : h ≠ .turn id)
    (hend : ∀ pass, h = .passEnd pass → (t.endPass pass).loop.phase? id = some phase) :
    (t.happen h).loop.phase? id = some phase := by
  cases h with
  | start => exact (ControlLoop.phase?_start_other (Nat.ne_of_lt (hw.lt_started hp))).trans hp
  | stop => exact (t.loop.phase?_stop id).trans hp
  | dispatch _ | navigate _ | elapse _ => exact hp
  | passEnd pass => exact hend pass rfl
  | turn other =>
    have he : id ≠ other := fun he => hturn (by rw [he])
    exact (phase?_giveTurn_other hw he).trans hp

theorem phase?_happen_of_idle {phase : LoopPhase} (hw : t.loop.Wired)
    (hp : t.loop.phase? id = some phase)
    (idle : ∀ generation updates, phase ≠ .refreshing generation updates) (hturn : h ≠ .turn id) :
    (t.happen h).loop.phase? id = some phase :=
  phase?_happen hw hp hturn fun pass _ =>
    (phase?_endPass_of_idle (not_refreshes_of_phase? hp idle) pass).trans hp

/-- Only a turn in which it reads the route wakes an uncancelled loop. -/
theorem Sleeps.happen (hs : t.Sleeps id generation deadline) (hw : t.loop.Wired)
    (ho : t.loop.isOpen id = true) (hr : ¬ (h = .turn id ∧ t.reads id = true)) :
    (t.happen h).Sleeps id generation deadline := by
  obtain ⟨updates, hp⟩ := hs
  by_cases hturn : h = .turn id
  · subst hturn
    have hnot : t.reads id = false := by simpa using hr
    rcases phase?_of_not_reads hw ho hnot with hsame | ⟨phase, hp', hafter⟩
    · exact ⟨updates, hsame.trans hp⟩
    · cases hp.symm.trans hp'
      exact ⟨_, hafter⟩
  · exact ⟨updates, phase?_happen_of_idle hw hp (by simp) hturn⟩

/-- The loop has read a route of that generation, has finished the iteration and waits for the
deadline, unless another route has been published by then. -/
def Awaits (t : Timeline) (id : LoopId) (generation deadline : Nat) : Prop :=
  t.Sleeps id generation deadline ∨
    t.loop.phase? id = some .ready ∧ generation < t.state.routeGeneration

/-- A loop that refreshes goes on with it until its pass ends, and waits from then on. -/
theorem Refreshes.happen (hr : t.Refreshes id generation) (ha : t.Aware)
    (positive : 0 < t.loop.interval) (ho : t.loop.isOpen id = true) (h : Happening) :
    (t.happen h).Refreshes id generation ∨
      (t.happen h).Awaits id generation ((t.happen h).now + t.loop.interval) := by
  obtain ⟨updates, hp⟩ := hr
  by_cases hturn : h = .turn id
  · subst hturn
    left
    have hnot : t.reads id = false := reads_of_goesOn ha.wired ho hp
    rcases phase?_of_not_reads ha.wired ho hnot with hsame | ⟨phase, hp', hafter⟩
    · exact ⟨updates, hsame.trans hp⟩
    · cases hp.symm.trans hp'
      exact ⟨_, hafter⟩
  · by_cases hends : ∃ pass, h = .passEnd pass ∧ id = pass.loop
    · obtain ⟨pass, rfl, rfl⟩ := hends
      have hknown := (ha.recalls _ _ _ _ hp rfl).later (precedes_endPass t pass)
      have hend := phase?_endPass ha.wired hp
      rw [if_pos ho, ControlLoop.slept_eq positive hknown] at hend
      split at hend
      · exact .inr (.inl ⟨_, hend⟩)
      · next hne => exact .inr (.inr ⟨hend, Nat.lt_of_le_of_ne hknown.past (Ne.symm hne)⟩)
    · exact .inl ⟨updates, phase?_happen ha.wired hp hturn fun pass he =>
        (phase?_endPass_other pass fun hid => hends ⟨pass, he, hid⟩).trans hp⟩

/-- A loop that waits reads the route once another one is published or its deadline is reached. -/
theorem Awaits.reads_iff (h : t.Awaits id generation deadline) (ha : t.Aware)
    (ho : t.loop.isOpen id = true) :
    t.reads id = true ↔ t.state.routeGeneration ≠ generation ∨ deadline ≤ t.now := by
  rcases h with ⟨updates, hp⟩ | ⟨hp, hlt⟩
  · rw [reads_of_goesOn ha.wired ho hp]
    exact (ha.recalls _ _ _ _ hp rfl).wakes_iff deadline
  · rw [reads_of_goesOn ha.wired ho hp]
    exact iff_of_true rfl (.inl (Nat.ne_of_gt hlt))

theorem Awaits.past (h : t.Awaits id generation deadline) (ha : t.Aware) :
    generation ≤ t.state.routeGeneration := by
  rcases h with ⟨updates, hp⟩ | ⟨_, hlt⟩
  · exact (ha.recalls _ _ _ _ hp rfl).past
  · exact Nat.le_of_lt hlt

/-- Whatever else happens, the loop goes on waiting until it reads the route. -/
theorem Awaits.happen (hs : t.Awaits id generation deadline) (hw : t.loop.Wired)
    (ho : t.loop.isOpen id = true) (hr : ¬ (h = .turn id ∧ t.reads id = true)) :
    (t.happen h).Awaits id generation deadline := by
  rcases hs with hs | ⟨hp, hlt⟩
  · exact .inl (hs.happen hw ho hr)
  · refine .inr ⟨?_, Nat.lt_of_lt_of_le hlt (precedes_happen hw h).generation⟩
    have hturn : h ≠ .turn id := fun he => hr ⟨he, reads_of_goesOn hw ho hp⟩
    exact phase?_happen_of_idle hw hp (by simp) hturn

end StorageConsole.Timeline
