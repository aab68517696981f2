import StorageConsole.Proofs.Coherence

/-!
Settling and waiting, unfolded into happenings. A timeline that has settled has nothing left to do
at its instant, so the clock may move to the next deadline; every run of events is therefore a
timely course.
-/
namespace StorageConsole.Timeline

variable {t : Timeline} {id other : LoopId} {pass : Pass} {h : Happening} {hs : List Happening}

/-- The passes whose time has come end. -/
def dueEnds (t : Timeline) : List Happening :=
  (t.passes.filter (·.ends ≤ t.now)).map .passEnd

/-- All that happens when a timeline settles: passes end, then each loop has its turn. -/
def settling (t : Timeline) : List Happening :=
  t.dueEnds ++ (t.happenAll t.dueEnds).loop.runs.map fun run => .turn run.id

theorem settle_eq (t : Timeline) : t.settle = t.happenAll t.settling := by
  have hends : t.happenAll t.dueEnds = (t.passes.filter (·.ends ≤ t.now)).foldl endPass t := by
    rw [happenAll, dueEnds, List.foldl_map]
    rfl
  rw [settling, happenAll_append, hends]
  simp only [settle, happenAll, List.foldl_map]
  rfl

theorem isTask_of_mem_settling (hh : h ∈ t.settling) : h.isTask = true := by
  rcases List.mem_append.mp hh with hh | hh
  · obtain ⟨pass, _, rfl⟩ := List.mem_map.mp hh
    rfl
  · obtain ⟨run, _, rfl⟩ := List.mem_map.mp hh
    rfl

theorem isTimely_passEnds {passes : List Pass} (hn : (passes.map (·.number)).Nodup)
    (hp : ∀ pass ∈ passes, pass ∈ t.passes ∧ pass.ends ≤ t.now) :
    t.isTimely (passes.map .passEnd) = true := by
  induction passes generalizing t with
  | nil => rfl
  | cons pass passes ih =>
    obtain ⟨hfirst, hrest⟩ := List.nodup_cons.mp hn
    obtain ⟨hm, he⟩ := hp pass (.head _)
    have hallowed : t.allows (.passEnd pass) = true := by simp [allows, hm, he]
    refine Bool.and_eq_true_iff.mpr ⟨hallowed, ih hrest fun pass' hm' => ?_⟩
    obtain ⟨hin, hend⟩ := hp pass' (.tail _ hm')
    have hne : pass'.number ≠ pass.number := fun hn' =>
      hfirst (List.mem_map.mpr ⟨pass', hm', hn'⟩)
    exact ⟨List.mem_filter.mpr ⟨hin, bne_iff_ne.mpr hne⟩, hend⟩

theorem isTimely_turns (t : Timeline) (ids : List LoopId) :
    t.isTimely (ids.map .turn) = true := by
  induction ids generalizing t with
  | nil => rfl
  | cons id ids ih => exact ih _

theorem isTimely_settling (hc : t.Coherent) : t.isTimely t.settling = true := by
  rw [settling, isTimely_append, Bool.and_eq_true_iff]
  refine ⟨isTimely_passEnds (hc.apart.sublist (List.filter_sublist.map _)) ?_, ?_⟩
  · intro pass hm
    simpa using List.mem_filter.mp hm
  · have hturns := isTimely_turns (t.happenAll t.dueEnds)
      ((t.happenAll t.dueEnds).loop.runs.map (·.id))
    rwa [List.map_map] at hturns

theorem passes_passEnds {passes : List Pass} (hp : pass ∈ (t.happenAll (passes.map .passEnd)).passes) :
    pass ∈ t.passes ∧ pass ∉ passes := by
  induction passes generalizing t with
  | nil => exact ⟨hp, List.not_mem_nil⟩
  | cons first passes ih =>
    obtain ⟨hm, hn⟩ := ih hp
    obtain ⟨hin, hne⟩ := List.mem_filter.mp hm
    refine ⟨hin, fun hmem => ?_⟩
    rcases List.mem_cons.mp hmem with rfl | hmem
    · exact (bne_iff_ne.mp hne) rfl
    · exact hn hmem

/-- After its turn a loop has nothing to do. -/
theorem isDueAt_giveTurn_self (ha : t.Aware) (positive : 0 < t.loop.interval) :
    (t.giveTurn id).loop.isDueAt (t.giveTurn id).view id = false := by
  have hw : (t.giveTurn id).loop.Wired := (aware_giveTurn ha id).wired
  by_cases hr : t.reads id = true
  · have hopen : (t.giveTurn id).loop.isOpen id = true :=
      (isOpen_of_task (h := .turn id) ha.wired rfl id).trans (ControlLoop.open_of_reads hr)
    have hnow : (t.giveTurn id).view.now = t.now := now_of_task (h := .turn id) ha.wired rfl
    rcases phase?_of_reads ha positive hr with ⟨updates, hp⟩ | hp
    · rw [ControlLoop.isDueAt_eq hw hp]
      rfl
    · have hlater : ¬ t.now + t.loop.interval ≤ t.now := by omega
      rw [ControlLoop.isDueAt_eq hw hp]
      simp [LoopPhase.isDue, hopen, hnow, hlater, Watch.Channel.subscribe]
  · have ht := turned ha.wired id
    generalize t.giveTurn id = u at ht hw
    cases ht with
    | waits due => exact due
    | leaves _ _ =>
      have hgone : (t.loop.leave id).run? id = none :=
        ControlLoop.phase?_eq_none.mp ControlLoop.phase?_leave_self
      simp [ControlLoop.isDueAt, hgone]
    | @dozes phase stands opened idle =>
      have hopen : (t.loop.enter id (phase.caughtUp t.view)).isOpen id = true := opened
      have hself := ControlLoop.phase?_enter_self stands (phase.caughtUp t.view)
      exact (ControlLoop.isDueAt_eq hw hself).trans
        (hopen ▸ LoopPhase.isDue_caughtUp idle)
    | rests reads _ => exact absurd reads hr
    | begins reads _ _ => exact absurd reads hr
    | flashes reads _ _ => exact absurd reads hr

/-- A loop's turn gives no other loop anything to do. Only an open loop writes at its turn, and all
others have been told to stop before. -/
theorem isDueAt_giveTurn_other (ha : t.Aware) (he : other ≠ id)
    (hd : (t.giveTurn id).loop.isDueAt (t.giveTurn id).view other = true) :
    t.loop.isDueAt t.view other = true := by
  have hw : (t.giveTurn id).loop.Wired := (aware_giveTurn ha id).wired
  obtain ⟨phase, hafter⟩ := ControlLoop.phase?_of_isDueAt hd
  have hbefore := (phase?_giveTurn_other ha.wired he).symm.trans hafter
  have hgate : (t.giveTurn id).loop.isOpen other = t.loop.isOpen other :=
    isOpen_of_task (h := .turn id) ha.wired rfl other
  rw [ControlLoop.isDueAt_eq hw hafter, hgate] at hd
  rw [ControlLoop.isDueAt_eq ha.wired hbefore]
  cases ho : t.loop.isOpen other with
  | false =>
    rw [ho] at hd
    exact (phase.isDue_closed t.view _).trans hd
  | true =>
    have hview : (t.giveTurn id).view = t.view := by
      have ht := turned ha.wired id
      generalize t.giveTurn id = u at ht
      cases ht with
      | flashes reads _ _ =>
        exact absurd (ha.wired.unique (ControlLoop.open_of_reads reads) ho) he
      | _ => rfl
    rwa [ho, hview] at hd

/-- Once each loop that had something to do has had its turn, none has. -/
theorem isDueAt_turns {ids : List LoopId} (ha : t.Aware) (positive : 0 < t.loop.interval)
    (hids : ∀ id, t.loop.isDueAt t.view id = true → id ∈ ids) (id : LoopId) :
    (t.happenAll (ids.map .turn)).loop.isDueAt (t.happenAll (ids.map .turn)).view id = false := by
  induction ids generalizing t with
  | nil =>
    cases hd : t.loop.isDueAt t.view id with
    | false => exact hd
    | true => exact absurd (hids id hd) List.not_mem_nil
  | cons first ids ih =>
    have hpos : 0 < (t.happen (.turn first)).loop.interval := by rwa [interval_happen ha.wired]
    refine ih (aware_giveTurn ha first) hpos fun other hd => ?_
    by_cases he : other = first
    · subst he
      exact absurd hd (by rw [show t.happen (.turn other) = t.giveTurn other from rfl,
        isDueAt_giveTurn_self ha positive]; exact Bool.false_ne_true)
    · exact (List.mem_cons.mp (hids other (isDueAt_giveTurn_other ha he hd))).resolve_left he

theorem passes_giveTurn (hw : t.loop.Wired) (hp : ∀ pass ∈ t.passes, t.now < pass.ends) :
    ∀ pass ∈ (t.giveTurn id).passes, t.now < pass.ends := by
  have ht := turned hw id
  generalize t.giveTurn id = u at ht
  intro pass hm
  cases ht with
  | waits _ => exact hp pass hm
  | leaves _ _ => exact hp pass hm
  | dozes _ _ _ => exact hp pass hm
  | rests _ _ => exact hp pass hm
  | begins _ _ lasts =>
    rcases List.mem_append.mp hm with hm | hm
    · exact hp pass hm
    · rw [List.mem_singleton.mp hm]
      exact Nat.lt_add_of_pos_right (Nat.pos_of_ne_zero lasts)
  | flashes _ _ _ =>
    obtain ⟨hm, hn⟩ := List.mem_filter.mp hm
    rcases List.mem_append.mp hm with hm | hm
    · exact hp pass hm
    · rw [List.mem_singleton.mp hm] at hn
      exact absurd rfl (bne_iff_ne.mp hn)

theorem now_of_tasks (hw : t.loop.Wired) (hk : ∀ h ∈ hs, h.isTask = true) :
    (t.happenAll hs).now = t.now := by
  induction hs generalizing t with
  | nil => rfl
  | cons h hs ih =>
    have hfirst := hk h (.head _)
    exact (ih ((later_happen hw h).wired hw) fun h hh => hk h (.tail _ hh)).trans
      (now_of_task hw hfirst)

theorem passes_turns {ids : List LoopId} (hw : t.loop.Wired)
    (hp : ∀ pass ∈ t.passes, t.now < pass.ends) :
    ∀ pass ∈ (t.happenAll (ids.map .turn)).passes, t.now < pass.ends := by
  induction ids generalizing t with
  | nil => exact hp
  | cons id ids ih =>
    have hnow : (t.happen (.turn id)).now = t.now := now_of_task hw rfl
    have hrest := ih (t := t.happen (.turn id)) ((later_happen hw _).wired hw)
      (by rw [hnow]; exact passes_giveTurn hw hp)
    rwa [hnow] at hrest

/-- Nothing is going to happen before time passes. -/
structure Settled (t : Timeline) : Prop where
  loops : ∀ id, t.loop.isDueAt t.view id = false
  passes : ∀ pass ∈ t.passes, t.now < pass.ends

theorem settled_settling (ha : t.Aware) (positive : 0 < t.loop.interval) :
    (t.happenAll t.settling).Settled := by
  let ended := t.happenAll t.dueEnds
  have haware : ended.Aware := aware_happenAll ha _
  have hpos : 0 < ended.loop.interval := by rwa [interval_happenAll ha.wired]
  have hnow : ended.now = t.now :=
    now_of_tasks ha.wired fun h hh => isTask_of_mem_settling (List.mem_append_left _ hh)
  have hends : ∀ pass ∈ ended.passes, ended.now < pass.ends := by
    intro pass hm
    obtain ⟨hin, hnot⟩ := passes_passEnds hm
    rw [hnow]
    by_contra hle
    exact hnot (List.mem_filter.mpr ⟨hin, by simpa using hle⟩)
  have hall : t.happenAll t.settling =
      ended.happenAll ((ended.loop.runs.map (·.id)).map .turn) := by
    rw [settling, happenAll_append, List.map_map]
    rfl
  rw [hall]
  constructor
  · refine isDueAt_turns haware hpos fun id hd => ?_
    obtain ⟨phase, hp⟩ := ControlLoop.phase?_of_isDueAt hd
    obtain ⟨run, hm, _, hid, _⟩ := ControlLoop.run?_of_phase? hp
    exact List.mem_map.mpr ⟨run, hm, hid⟩
  · intro pass hm
    have hlt := passes_turns haware.wired hends pass hm
    have hafter : (ended.happenAll ((ended.loop.runs.map (·.id)).map .turn)).now = ended.now := by
      refine now_of_tasks haware.wired fun h hh => ?_
      obtain ⟨_, _, rfl⟩ := List.mem_map.mp hh
      rfl
    rwa [hafter]

theorem due?_eq_none (hc : t.Coherent) (hd : ∀ id, t.loop.isDueAt t.view id = false) :
    t.loop.due? t.view = none := by
  simp only [ControlLoop.due?, Option.map_eq_none_iff, List.find?_eq_none]
  intro run hr
  have hidle := hd run.id
  rw [ControlLoop.isDueAt_eq hc.aware.wired (ControlLoop.phase?_of_mem hc.aware.wired hr),
    ← ControlLoop.isDue_eq hc.aware.wired hr] at hidle
  rw [hidle]
  exact Bool.false_ne_true

theorem foldl_min_le (limit : Nat) (ns : List Nat) :
    ns.foldl min limit ≤ limit ∧ ∀ n ∈ ns, ns.foldl min limit ≤ n := by
  induction ns generalizing limit with
  | nil => simp
  | cons n ns ih =>
    obtain ⟨hle, hall⟩ := ih (min limit n)
    have hfirst := Nat.le_min.mp hle
    refine ⟨hfirst.1, fun m hm => ?_⟩
    rcases List.mem_cons.mp hm with rfl | hm
    · exact hfirst.2
    · exact hall m hm

theorem lt_deadlines (hc : t.Coherent) (hs : t.Settled) : ∀ deadline ∈ t.deadlines,
    t.now < deadline := by
  intro deadline hm
  rcases List.mem_append.mp hm with hm | hm
  · obtain ⟨pass, hp, rfl⟩ := List.mem_map.mp hm
    exact hs.passes pass hp
  · obtain ⟨run, hr, hd⟩ := List.mem_filterMap.mp hm
    have hp := ControlLoop.phase?_of_mem hc.aware.wired hr
    have hidle := hs.loops run.id
    rw [ControlLoop.isDueAt_eq hc.aware.wired hp] at hidle
    cases hphase : run.phase with
    | asleep generation deadline' updates =>
      rw [hphase] at hd
      cases hd
      simp only [hphase, LoopPhase.isDue, Bool.or_eq_false_iff, decide_eq_false_iff_not] at hidle
      exact Nat.lt_of_not_le hidle.2
    | ready | refreshing _ _ =>
      rw [hphase] at hd
      cases hd

/-- On a settled timeline the clock may move to the next deadline. -/
theorem allows_quiet (hc : t.Coherent) (hs : t.Settled) (limit : Nat) :
    t.allows (.elapse (t.quiet limit)) = true := by
  have hnone := due?_eq_none hc hs.loops
  simp only [allows, hnone, Option.isNone_none, Bool.true_and, List.all_eq_true, decide_eq_true_eq]
  intro deadline hm
  have hlt := lt_deadlines hc hs deadline hm
  have hle := (foldl_min_le limit (t.deadlines.map (· - t.now))).2 _ (List.mem_map_of_mem hm)
  simp only [quiet]
  omega

theorem unfold_wait (hc : t.Coherent) (positive : 0 < t.loop.interval) (milliseconds : Nat) :
    ∃ hs, t.isTimely hs = true ∧ hs.filterMap Happening.asked? = [] ∧
      t.wait milliseconds = t.happenAll hs := by
  induction milliseconds using Nat.strongRecOn generalizing t with
  | _ milliseconds ih =>
    rw [wait]
    split
    · exact ⟨[], rfl, rfl, rfl⟩
    · next hne =>
      let settled := t.happenAll t.settling
      let pause := settled.quiet milliseconds
      have hsettling := isTimely_settling hc
      have hcoherent : settled.Coherent := coherent_happenAll hsettling hc
      have hallowed := allows_quiet hcoherent
        (settled_settling hc.aware positive) milliseconds
      have hnext : (settled.happen (.elapse pause)).Coherent := coherent_happen _ hallowed hcoherent
      have hpos : 0 < (settled.happen (.elapse pause)).loop.interval := by
        rwa [interval_happen hcoherent.aware.wired, interval_happenAll hc.aware.wired]
      have hless : milliseconds - pause < milliseconds := by
        have hone : 1 ≤ pause := Nat.le_max_left _ _
        omega
      obtain ⟨hs, htimely, hasked, heq⟩ := ih _ hless hnext hpos
      refine ⟨t.settling ++ .elapse pause :: hs, ?_, ?_, ?_⟩
      · rw [isTimely_append, isTimely, hsettling, hallowed, htimely]
        rfl
      · have hnone : t.settling.filterMap Happening.asked? = [] := by
          refine List.filterMap_eq_nil_iff.mpr fun h hh => ?_
          have hk := isTask_of_mem_settling hh
          cases h <;> first | rfl | cases hk
        rw [List.filterMap_append, hnone, List.nil_append]
        exact hasked
      · rw [happenAll_append, happenAll_cons, ← heq, settle_eq]
        rfl

/-- An event is a course of its own. -/
theorem unfold_step (hc : t.Coherent) (positive : 0 < t.loop.interval) (e : TimelineEvent) :
    ∃ hs, t.isTimely hs = true ∧ hs.filterMap Happening.asked? = [e].filter (·.isAsked) ∧
      t.step e = t.happenAll hs := by
  cases e with
  | start => exact ⟨[.start], rfl, rfl, rfl⟩
  | stop => exact ⟨[.stop], rfl, rfl, rfl⟩
  | dispatch action => exact ⟨[.dispatch action], rfl, rfl, rfl⟩
  | navigate path => exact ⟨[.navigate path], rfl, rfl, rfl⟩
  | wait milliseconds => exact unfold_wait hc positive milliseconds
  | settle =>
    refine ⟨t.settling, isTimely_settling hc, ?_, settle_eq t⟩
    refine List.filterMap_eq_nil_iff.mpr fun h hh => ?_
    have hk := isTask_of_mem_settling hh
    cases h <;> first | rfl | cases hk

/-- Every run of events is a timely course in which what was asked for happens in that order. -/
theorem unfold_runAll (hc : t.Coherent) (positive : 0 < t.loop.interval)
    (events : List TimelineEvent) :
    ∃ hs, t.isTimely hs = true ∧
      hs.filterMap Happening.asked? = events.filter (·.isAsked) ∧
      t.runAll events = t.happenAll hs := by
  induction events generalizing t with
  | nil => exact ⟨[], rfl, rfl, rfl⟩
  | cons e events ih =>
    obtain ⟨hs, htimely, hasked, heq⟩ := unfold_step hc positive e
    have hc' : (t.step e).Coherent := by
      rw [heq]
      exact coherent_happenAll htimely hc
    have hpos : 0 < (t.step e).loop.interval := by
      rwa [heq, interval_happenAll hc.aware.wired]
    obtain ⟨hs', htimely', hasked', heq'⟩ := ih hc' hpos
    refine ⟨hs ++ hs', ?_, ?_, ?_⟩
    · rw [isTimely_append, htimely, ← heq, htimely']
      rfl
    · rw [List.filterMap_append, hasked, hasked', ← List.filter_append]
      rfl
    · rw [happenAll_append, ← heq, ← heq']
      rfl

end StorageConsole.Timeline
