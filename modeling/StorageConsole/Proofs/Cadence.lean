import StorageConsole.Proofs.AlikeTimelines
import StorageConsole.Proofs.Settling

/-!
When a loop reads the route again. An iteration that has read the route and finished is followed by
the next one at once if another route has been published meanwhile, and otherwise when the interval
is over or at the first publication, whichever comes first. Nothing else that is written to the state
moves an iteration.
-/
namespace StorageConsole

namespace Timeline

variable {t t' : Timeline} {id : LoopId} {h : Happening} {hs mid rest : List Happening}
  {seen deadline time : Nat}

/-- Whether a pass of the loop is under way. -/
def isRefreshing (t : Timeline) (id : LoopId) : Bool := t.passes.any (·.loop == id)

/-- The happenings up to the moment at which the loop's refresh is done. -/
structure Finishes (t : Timeline) (id : LoopId) (hs : List Happening) : Prop where
  busy : ∀ n < hs.length, (t.happenAll (hs.take n)).isRefreshing id = true
  done : (t.happenAll hs).isRefreshing id = false

/-- The times at which the loop reads the route. -/
def readings (t : Timeline) (id : LoopId) : List Happening → List Nat
  | [] => []
  | h :: hs =>
    let later := (t.happen h).readings id hs
    if h = .turn id ∧ t.reads id = true then t.now :: later else later

/-- The time at which the first route is published. -/
def firstPublication? (t : Timeline) : List Happening → Option Nat
  | [] => none
  | h :: hs =>
    if (t.happen h).state.routeGeneration ≠ t.state.routeGeneration then some t.now
    else (t.happen h).firstPublication? hs

/-- When a loop that has seen the route of a generation and may sleep until the deadline has to read
the route again. -/
def nextReading (t : Timeline) (seen deadline : Nat) (hs : List Happening) : Nat :=
  if t.state.routeGeneration ≠ seen then t.now
  else
    match t.firstPublication? hs with
    | none => deadline
    | some time => min deadline time

theorem now_happen (hw : t.loop.Wired) (h : Happening) : t.now ≤ (t.happen h).now := by
  by_cases hk : h.isTask = true
  · exact Nat.le_of_eq (now_of_task hw hk).symm
  · cases h with
    | elapse milliseconds => exact Nat.le_add_right _ _
    | passEnd _ | turn _ => exact absurd rfl hk
    | start | stop | dispatch _ | navigate _ => exact Nat.le_refl _

theorem le_firstPublication (hw : t.loop.Wired) (hp : t.firstPublication? hs = some time) :
    t.now ≤ time := by
  induction hs generalizing t with
  | nil => cases hp
  | cons h hs ih =>
    rw [firstPublication?] at hp
    split at hp
    · cases hp
      exact Nat.le_refl _
    · exact Nat.le_trans (now_happen hw h) (ih ((later_happen hw h).wired hw) hp)

/-- A loop that is due has to read the route now. -/
theorem nextReading_of_due (hw : t.loop.Wired)
    (hd : t.state.routeGeneration ≠ seen ∨ deadline ≤ t.now) (hle : t.now ≤ deadline)
    (hs : List Happening) : t.nextReading seen deadline hs = t.now := by
  unfold nextReading
  split
  · rfl
  · next hg =>
    have heq : deadline ≤ t.now := hd.resolve_left hg
    split
    · omega
    · next time hp =>
      have htime := le_firstPublication hw hp
      omega

/-- The clock stands still while a loop has something to do. -/
theorem now_of_due (hw : t.loop.Wired) (hd : t.loop.isDueAt t.view id = true)
    (ha : t.allows h = true) : (t.happen h).now = t.now := by
  cases h with
  | elapse milliseconds =>
    have hnone := (Bool.and_eq_true_iff.mp ha).1
    obtain ⟨phase, hp⟩ := ControlLoop.phase?_of_isDueAt hd
    obtain ⟨run, hm, hr, _, _⟩ := ControlLoop.run?_of_phase? hp
    rw [ControlLoop.isDueAt, hr, Option.any_some] at hd
    simp only [ControlLoop.due?, Option.isNone_iff_eq_none, Option.map_eq_none_iff,
      List.find?_eq_none] at hnone
    exact absurd hd (hnone _ hm)
  | passEnd pass => rfl
  | turn other => exact now_of_task (h := .turn other) hw rfl
  | start | stop | dispatch _ | navigate _ => rfl

/-- The clock never passes the deadline of a loop that waits. -/
theorem now_le_deadline (hs : t.Awaits id seen deadline) (hw : t.loop.Wired)
    (hle : t.now ≤ deadline) (ha : t.allows h = true) : (t.happen h).now ≤ deadline := by
  rcases hs with ⟨updates, hp⟩ | ⟨hp, _⟩
  · obtain ⟨run, hm, _, _, hphase⟩ := ControlLoop.run?_of_phase? hp
    cases h with
    | elapse milliseconds =>
      have hall := List.all_eq_true.mp (Bool.and_eq_true_iff.mp ha).2
      have hmem : deadline ∈ t.deadlines :=
        List.mem_append_right _ (List.mem_filterMap.mpr ⟨run, hm, hphase ▸ rfl⟩)
      exact of_decide_eq_true (hall _ hmem)
    | passEnd pass => exact hle
    | turn other => exact Nat.le_trans (Nat.le_of_eq (now_of_task (h := .turn other) hw rfl)) hle
    | start | stop | dispatch _ | navigate _ => exact hle
  · rw [now_of_due hw (ControlLoop.isDueAt_eq hw hp) ha]
    exact hle

/-- A loop that is open in the end has been open since it was started. -/
theorem open_of_later (hw : t.loop.Wired) (hid : id < t.loop.started) (hs : List Happening)
    (ho : (t.happenAll hs).loop.isOpen id = true) : t.loop.isOpen id = true := by
  cases hb : t.loop.isOpen id with
  | true => rfl
  | false =>
    have hclosed := (later_happenAll hw hs).closed id hid hb
    rw [hclosed] at ho
    cases ho

theorem isRefreshing_iff (hc : t.Coherent) :
    t.isRefreshing id = true ↔ ∃ generation, t.Refreshes id generation := by
  rw [← hc.underway id]
  simp [isRefreshing]

theorem Refreshes.lt_started (hr : t.Refreshes id seen) (hw : t.loop.Wired) :
    id < t.loop.started := by
  obtain ⟨updates, hp⟩ := hr
  exact hw.lt_started hp

theorem Awaits.lt_started (hs : t.Awaits id seen deadline) (hw : t.loop.Wired) :
    id < t.loop.started := by
  rcases hs with ⟨updates, hp⟩ | ⟨hp, _⟩
  · exact hw.lt_started hp
  · exact hw.lt_started hp

theorem not_refreshes_of_awaits (hs : t.Awaits id seen deadline) (generation : Nat) :
    ¬ t.Refreshes id generation := by
  rcases hs with ⟨updates, hp⟩ | ⟨hp, _⟩
  · exact not_refreshes_of_phase? hp (by simp) generation
  · exact not_refreshes_of_phase? hp (by simp) generation

/-- Once an iteration is finished, its loop waits, and remembers what the iteration has read. -/
theorem awaits_of_finishes (hc : t.Coherent) (positive : 0 < t.loop.interval)
    (timely : t.isTimely hs = true) (hf : t.Finishes id hs)
    (ho : (t.happenAll hs).loop.isOpen id = true)
    (hp : t.Refreshes id seen ∨ t.Awaits id seen (t.now + t.loop.interval)) :
    (t.happenAll hs).Awaits id seen ((t.happenAll hs).now + t.loop.interval) := by
  have hw := hc.aware.wired
  induction hs generalizing t with
  | nil =>
    rcases hp with hp | hp
    · have hbusy := (isRefreshing_iff hc).mpr ⟨seen, hp⟩
      exact absurd (hbusy.symm.trans hf.done) nofun
    · exact hp
  | cons h hs ih =>
    obtain ⟨ha, htimely⟩ := Bool.and_eq_true_iff.mp timely
    obtain ⟨generation, hg⟩ := (isRefreshing_iff hc).mp (hf.busy 0 (Nat.succ_pos _))
    have hrefreshes : t.Refreshes id seen :=
      hp.resolve_right fun hs => not_refreshes_of_awaits hs generation hg
    have hopen := open_of_later hw (hrefreshes.lt_started hw) (h :: hs) ho
    have hnext : (t.happen h).Finishes id hs :=
      ⟨fun n hn => hf.busy (n + 1) (Nat.succ_lt_succ hn), hf.done⟩
    have hinterval := interval_happen hw h
    have hcoherent := coherent_happen h ha hc
    have hrest := ih hcoherent (hinterval.symm ▸ positive) htimely hnext ho
      (hinterval.symm ▸ hrefreshes.happen hc.aware positive hopen h) hcoherent.aware.wired
    rw [hinterval] at hrest
    exact hrest

/-- Routes are published in no time. -/
theorem now_of_publication (hw : t.loop.Wired)
    (hg : (t.happen h).state.routeGeneration ≠ t.state.routeGeneration) :
    (t.happen h).now = t.now := by
  by_cases hk : h.isTask = true
  · exact now_of_task hw hk
  · cases h with
    | elapse milliseconds => exact absurd rfl hg
    | passEnd _ | turn _ => exact absurd rfl hk
    | start | stop | dispatch _ | navigate _ => rfl

/-- As long as a loop waits, the time of its next reading stays as it is. -/
theorem nextReading_happen (haware : t.Aware) (ho : t.loop.isOpen id = true)
    (hp : t.Awaits id seen deadline) (hle : t.now ≤ deadline) (ha : t.allows h = true)
    (hs : List Happening) :
    (t.happen h).nextReading seen deadline hs = t.nextReading seen deadline (h :: hs) := by
  have hw := haware.wired
  have hw' := (later_happen hw h).wired hw
  have hle' := now_le_deadline hp hw hle ha
  have hgen : t.state.routeGeneration ≤ (t.happen h).state.routeGeneration :=
    (precedes_happen hw h).generation
  have hseen := hp.past haware
  by_cases hr : t.reads id = true
  · have hdue := (hp.reads_iff haware ho).mp hr
    have hnow := now_of_due hw (ControlLoop.due_of_reads hr) ha
    have hdue' : (t.happen h).state.routeGeneration ≠ seen ∨ deadline ≤ (t.happen h).now := by
      omega
    rw [nextReading_of_due hw hdue hle, nextReading_of_due hw' hdue' hle', hnow]
  · have hidle : ¬ (t.state.routeGeneration ≠ seen ∨ deadline ≤ t.now) :=
      fun hd => hr ((hp.reads_iff haware ho).mpr hd)
    have hsame : t.state.routeGeneration = seen := by omega
    have hbefore : t.now < deadline := by omega
    by_cases hpub : (t.happen h).state.routeGeneration = t.state.routeGeneration
    · simp [nextReading, firstPublication?, hpub, hsame]
    · have hnow := now_of_publication hw hpub
      have hmin : min deadline t.now = t.now := by omega
      have hnew : (t.happen h).state.routeGeneration ≠ seen := by omega
      have hnew' : (t.happen h).state.routeGeneration ≠ t.state.routeGeneration := hpub
      rw [nextReading, if_pos hnew, nextReading, if_neg (by simp [hsame]), firstPublication?,
        if_pos hnew', hnow]
      exact hmin.symm

/-- In the course of these happenings the loop reads the route at that time first, and if it has not
read it by the end, it is going to at that time. -/
structure ReadsNextAt (t : Timeline) (id : LoopId) (time : Nat) (hs : List Happening) : Prop where
  first : ∀ reading, (t.readings id hs).head? = some reading → reading = time
  pending : t.readings id hs = [] → (t.happenAll hs).now ≤ time ∧
    ((t.happenAll hs).reads id = true ↔ (t.happenAll hs).now = time)

theorem readsNextAt_of_awaits (hc : t.Coherent) (timely : t.isTimely hs = true)
    (ho : (t.happenAll hs).loop.isOpen id = true) (hp : t.Awaits id seen deadline)
    (hle : t.now ≤ deadline) : t.ReadsNextAt id (t.nextReading seen deadline hs) hs := by
  have hw := hc.aware.wired
  induction hs generalizing t with
  | nil =>
    have hopen : t.loop.isOpen id = true := ho
    refine ⟨fun reading hr => (by cases hr), fun _ => ?_⟩
    change t.now ≤ _ ∧ (t.reads id = true ↔ t.now = _)
    rw [hp.reads_iff hc.aware hopen]
    by_cases hg : t.state.routeGeneration = seen
    · simp only [nextReading, hg, firstPublication?]
      simp
      omega
    · simp [nextReading, hg]
  | cons h hs ih =>
    obtain ⟨ha, htimely⟩ := Bool.and_eq_true_iff.mp timely
    have hopen := open_of_later hw (hp.lt_started hw) (h :: hs) ho
    by_cases hr : h = .turn id ∧ t.reads id = true
    · have hdue := (hp.reads_iff hc.aware hopen).mp hr.2
      have hreading : t.readings id (h :: hs) = t.now :: (t.happen h).readings id hs := by
        rw [readings, if_pos hr]
      rw [nextReading_of_due hw hdue hle]
      refine ⟨fun reading hhead => ?_, fun hnone => ?_⟩
      · rw [hreading, List.head?_cons, Option.some.injEq] at hhead
        exact hhead.symm
      · rw [hreading] at hnone
        cases hnone
    · have hcoherent := coherent_happen h ha hc
      have hnext := ih hcoherent htimely ho (hp.happen hw hopen hr)
        (now_le_deadline hp hw hle ha) hcoherent.aware.wired
      have hreading : t.readings id (h :: hs) = (t.happen h).readings id hs := by
        rw [readings, if_neg hr]
      rw [nextReading_happen hc.aware hopen hp hle ha] at hnext
      refine ⟨fun reading hhead => ?_, fun hnone => ?_⟩
      · rw [hreading] at hhead
        exact hnext.first reading hhead
      · rw [hreading] at hnone
        exact hnext.pending hnone

/-- Iterations come when they have to. A loop that has read the route in an iteration, finished it and
not been cancelled reads the route again at once if another route is published by then, and otherwise
when its interval is over or at the first publication after that, whichever comes first; each
iteration runs the hook of the route it reads. In which order a loop looks at what may wake it makes no
difference. Every run of events is a course of this kind, and writes that have no bearing on the
routes can be left out of it. -/
theorem iterations_on_time (table : Route.Table) (interval : Nat) (duration : Nat → Nat)
    (positive : 0 < interval) :
    (∀ before id mid rest,
      (start table interval duration).isTimely (before ++ .turn id :: (mid ++ rest)) = true →
      let read := (start table interval duration).happenAll before
      let done := (read.happen (.turn id)).happenAll mid
      read.reads id = true → (read.happen (.turn id)).Finishes id mid →
      (done.happenAll rest).loop.isOpen id = true →
        (read.happen (.turn id)).begun = read.begun ++ read.nextBegun ∧
        done.ReadsNextAt id
          (done.nextReading read.state.routeGeneration (done.now + interval) rest) rest) ∧
    (∀ hs, let t := (start table interval duration).happenAll hs
      ∀ order : List Waker, (∀ waker, waker ∈ order) → ∀ view id,
        t.loop.turnIn order view id = t.loop.turn view id ∧
        t.loop.passEndedIn order view id = t.loop.passEnded view id) ∧
    ∀ events,
      (∃ hs, (start table interval duration).isTimely hs = true ∧
        hs.filterMap Happening.asked? = events.filter (·.isAsked) ∧
        (start table interval duration).runAll events =
          (start table interval duration).happenAll hs) ∧
      ((start table interval duration).runAll events).Alike
        ((start table interval duration).runAll (events.filter (·.isMoving))) := by
  have hc := coherent_start table interval duration
  refine ⟨?_, ?_, ?_⟩
  · intro before id mid rest timely read done hr hf ho
    rw [isTimely_append, isTimely, isTimely_append] at timely
    simp only [Bool.and_eq_true] at timely
    obtain ⟨hbefore, hturn, hmid, hrest⟩ := timely
    have hread : read.Coherent := coherent_happenAll hbefore hc
    have hturned : (read.happen (.turn id)).Coherent := coherent_happen (.turn id) hturn hread
    have hdone : done.Coherent := coherent_happenAll hmid hturned
    have hfirst : read.loop.interval = interval := interval_happenAll hc.aware.wired before
    have hinterval : (read.happen (.turn id)).loop.interval = interval :=
      (interval_happen hread.aware.wired (.turn id)).trans hfirst
    constructor
    · have hstep := begun_happen hread.aware.wired (.turn id)
      simpa only [begins, hr, if_true] using hstep
    · have hnow : (read.happen (.turn id)).now = read.now := now_of_task hread.aware.wired rfl
      have hafter : (read.happen (.turn id)).Refreshes id read.state.routeGeneration ∨
          (read.happen (.turn id)).Awaits id read.state.routeGeneration
            ((read.happen (.turn id)).now + (read.happen (.turn id)).loop.interval) := by
        rw [hnow, hinterval, ← hfirst]
        exact (phase?_of_reads hread.aware (hfirst.symm ▸ positive) hr).imp_right fun hp =>
          .inl ⟨_, hp⟩
      have hid : id < (read.happen (.turn id)).loop.started := by
        rcases hafter with hp | hp
        · exact hp.lt_started hturned.aware.wired
        · exact hp.lt_started hturned.aware.wired
      have hlater := later_happenAll hturned.aware.wired mid
      have hopen : done.loop.isOpen id = true :=
        open_of_later hdone.aware.wired (Nat.lt_of_lt_of_le hid hlater.started) rest ho
      have hwaits := awaits_of_finishes hturned (hinterval.symm ▸ positive) hmid hf hopen hafter
      rw [hinterval] at hwaits
      exact readsNextAt_of_awaits hdone hrest ho hwaits (Nat.le_add_right _ _)
  · intro hs t order hall view id
    have hw : t.loop.Wired := (aware_happenAll hc.aware hs).wired
    exact ⟨ControlLoop.turnIn_eq hw hall view id,
      ControlLoop.passEndedIn_eq_passEnded hw hall view id⟩
  · intro events
    exact ⟨unfold_runAll hc positive events, (twins_runAll (.refl hc.aware) events).toAlike⟩

/-- A refresh of three milliseconds ends beside other writes, and a navigation four milliseconds later
wakes the loop at once. -/
theorem iterations_on_time_woken :
    let route : Route.Match := ⟨"/repos", none, .empty, ⟨none, none, some .repoList⟩⟩
    let before : List Happening := [.dispatch (.publishRoute route), .start]
    let mid := [.elapse 2, .dispatch (.setMessage none), .elapse 1, .passEnd ⟨1, 0, 3⟩]
    let rest := [.dispatch (.setInitialized true), .turn 0, .elapse 4, .navigate "/help", .turn 0]
    let t := start .empty 10 fun _ => 3
    let read := t.happenAll before
    let done := (read.happen (.turn 0)).happenAll mid
    0 < 10 ∧ t.isTimely (before ++ .turn 0 :: (mid ++ rest)) = true ∧ read.reads 0 = true ∧
      (read.happen (.turn 0)).Finishes 0 mid ∧ (done.happenAll rest).loop.isOpen 0 = true ∧
      (read.happen (.turn 0)).begun = read.begun ++ [.began 1 .repoList 0] ∧
      done.ReadsNextAt 0 7 rest ∧ done.readings 0 rest = [7] := by
  intro route before mid rest t read done
  have htimely : t.isTimely (before ++ .turn 0 :: (mid ++ rest)) = true := by decide
  have hreads : read.reads 0 = true := by decide
  have hfinishes : (read.happen (.turn 0)).Finishes 0 mid := ⟨by decide, by decide⟩
  have hopen : (done.happenAll rest).loop.isOpen 0 = true := by decide
  have hnext : done.nextReading read.state.routeGeneration (done.now + 10) rest = 7 := by decide
  have h := (iterations_on_time .empty 10 (fun _ => 3) (by decide)).1 before 0 mid rest htimely hreads
    hfinishes hopen
  refine ⟨by decide, htimely, hreads, hfinishes, hopen, h.1, ?_, by decide⟩
  have hready := h.2
  rwa [hnext] at hready

end Timeline

end StorageConsole
