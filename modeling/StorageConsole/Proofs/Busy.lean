import StorageConsole.Proofs.Compositional
import StorageConsole.Proofs.Fencing

/-!
Marks of busyness: the state shows that a form or a payment is being worked on, or that an api is
being called, only while a job waits that will take the mark down again.
-/
namespace StorageConsole

open Backend (Api CallError LoadResult Reply)

/-- A mark in the state that some work is under way. -/
inductive BusyMark where
  | repoForm
  | collaboratorForm
  | payment
  deriving DecidableEq, Repr

namespace BusyMark

def isUp : BusyMark → State → Bool
  | repoForm, s => s.repoFormLoading
  | collaboratorForm, s => s.collaboratorFormLoading
  | payment, s => s.paymentLoading

/-- The calls that may be waited for while the mark is up. -/
def awaited : BusyMark → List Api
  | repoForm => [.repoList, .repoCreate]
  | collaboratorForm => [.invite]
  | payment => [.pay]

end BusyMark

/-- The mark that an action turns, and whether it puts it up. -/
def Action.turns? : Action → Option (BusyMark × Bool)
  | setRepoFormLoading value => some (.repoForm, value)
  | setCollaboratorFormLoading value => some (.collaboratorForm, value)
  | setPaymentLoading value => some (.payment, value)
  | _ => none

def Effect.turns? : Effect → Option (BusyMark × Bool)
  | write a | force a => a.turns?
  | _ => none

theorem Action.isUp_apply_of_steady {a : Action} (ha : a.turns? = none) (mark : BusyMark)
    (s : State) : mark.isUp (a.apply s) = mark.isUp s := by
  cases a with
  | setRepoFormLoading _ | setCollaboratorFormLoading _ | setPaymentLoading _ => cases ha
  | _ => cases mark <;> rfl

theorem Action.isUp_apply_of_turns {a : Action} {turned : BusyMark} {value : Bool}
    (ha : a.turns? = some (turned, value)) (mark : BusyMark) (s : State) :
    mark.isUp (a.apply s) = if mark = turned then value else mark.isUp s := by
  cases a with
  | setRepoFormLoading _ | setCollaboratorFormLoading _ | setPaymentLoading _ =>
    cases ha
    cases mark <;> rfl
  | _ => cases ha

/-- What a workflow does that turns no mark. -/
def steady : Discipline Unit where
  mayDo _ e := e.turns? = none
  afterDo _ _ _ := ()
  mayCall _ _ _ := True
  afterCall _ _ _ := ()

/-- What a workflow does that has put up the mark of its phase, if any, and is to take it down: it
turns no other mark, and it waits for no other calls than those of the mark. -/
def lowering : Discipline (Option BusyMark) where
  mayDo up e := ∀ turned value, e.turns? = some (turned, value) → up = none ∨ up = some turned
  afterDo up e _ :=
    match e.turns? with
    | none => up
    | some (turned, value) => if value then some turned else none
  mayCall up api _ := ∀ mark ∈ up, api ∈ mark.awaited
  afterCall up _ _ := up

namespace Workflow
variable {α : Type} {w : Workflow α} {up : Option BusyMark} {mark : BusyMark}

/-- The workflow turns no mark. -/
def Steady (w : Workflow α) : Prop := steady.Follows () w fun _ _ => True

/-- The workflow takes down every mark that it puts up. -/
def Settles (w : Workflow α) : Prop := lowering.Follows none w fun up _ => up = none

theorem turns?_of_isLocal {e : Effect} (he : e.isLocal) : e.turns? = none := by
  cases e with
  | write a => cases a <;> first | rfl | cases he
  | emit _ | redirect _ => rfl
  | _ => cases he

theorem compositional_steady : Compositional @Steady :=
  steady.compositional_unit rfl fun _ => turns?_of_isLocal

/-- A pass of the control loop turns no mark. -/
theorem steady_pass (config : Config) (name : HookName) :
    Steady ((Operation.refresh name).workflow config) := by
  have hsteady : Compositional @Steady := compositional_steady
  have hcall : ∀ (api : Api) (payload : api.Payload), Steady (call api payload) :=
    fun _ _ => ⟨trivial, fun _ => trivial⟩
  have hset : ∀ a : Action, a.turns? = none → Steady (set a) := fun _ ha => ⟨ha, fun _ => trivial⟩
  have hlist : Steady listRepos := hsteady.listRepos (hcall _ _) fun _ _ => hset _ rfl
  have hload : Steady loadPublicConfig :=
    hsteady.loadPublicConfig (hcall _ _) fun _ => hset _ rfl
  have hcommits : ∀ branchId, Steady (loadCommits branchId) :=
    fun _ => hsteady.loadCommits (hcall _ _)
  exact hsteady.bind (hsteady.refresh hlist hcommits hload name) fun _ => hsteady.pure _

/-- An effect that turns no mark leaves the phase as it is. -/
theorem lowering_of_steady {e : Effect} (he : e.turns? = none) (up : Option BusyMark) :
    lowering.mayDo up e ∧ ∀ r, lowering.afterDo up e r = up := by
  refine ⟨fun turned value hturns => ?_, fun r => ?_⟩
  · cases he.symm.trans hturns
  · simp only [lowering, he]

/-- In each phase what leaves it as it is may go on. -/
theorem compositional_lowering (up : Option BusyMark) :
    Compositional fun w => lowering.Follows up w fun up' _ => up' = up :=
  lowering.compositional (fun _ => Iff.rfl) (lowering_of_steady rfl up)
    fun _ he => lowering_of_steady (turns?_of_isLocal he) up

theorem lowering_perform {e : Effect} (he : e.turns? = none) (up : Option BusyMark) :
    lowering.Follows up (perform e) fun up' _ => up' = up := lowering_of_steady he up

theorem lowering_call {api : Api} {payload : api.Payload} (h : ∀ mark ∈ up, api ∈ mark.awaited) :
    lowering.Follows up (call api payload) fun up' _ => up' = up := ⟨h, fun _ => rfl⟩

/-- Reloading the list leaves a mark up that was up before. -/
theorem lowering_listRepos (h : ∀ mark ∈ up, .repoList ∈ mark.awaited) :
    lowering.Follows up listRepos fun up' _ => up' = up :=
  (compositional_lowering up).listRepos (lowering_call h) fun _ _ => lowering_perform rfl up

theorem compositional_settles : Compositional @Settles := compositional_lowering none

theorem settles_perform {e : Effect} (he : e.turns? = none) : Settles (perform e) :=
  lowering_perform he none

theorem settles_call (api : Api) (payload : api.Payload) : Settles (call api payload) :=
  lowering_call nofun

theorem settles_listRepos : Settles listRepos := lowering_listRepos nofun

theorem follows_turn {a : Action} {f : Unit → Workflow α} {Q : Option BusyMark → α → Prop}
    {value : Bool} (ha : a.turns? = some (mark, value)) (hup : up = none ∨ up = some mark)
    (hf : lowering.Follows (if value then some mark else none) (f ()) Q) :
    lowering.Follows up (set a >>= f) Q := by
  have he : (Effect.write a).turns? = some (mark, value) := ha
  have hmay : lowering.mayDo up (.write a) := by
    intro _ _ hturns
    cases he.symm.trans hturns
    exact hup
  have hafter : ∀ r, lowering.afterDo up (.write a) r = if value then some mark else none := by
    simp [lowering, he]
  refine ⟨hmay, fun r => ?_⟩
  rw [hafter]
  exact hf

/-- A call of a mark that is up, after which the mark is taken down before anything else. -/
theorem follows_call_lower {api : Api} {payload : api.Payload} {a : Action}
    {rest : LoadResult api.Answer → Workflow α} (h : api ∈ mark.awaited)
    (ha : a.turns? = some (mark, false)) (hrest : ∀ r, Settles (rest r)) :
    lowering.Follows (some mark) (do
      let r ← call api payload
      set a
      rest r) fun up _ => up = none := by
  have hcall : lowering.mayCall (some mark) api payload := by
    rintro other ⟨⟩
    exact h
  exact Discipline.follows_bind.mpr (Discipline.follows_call.mpr
    ⟨hcall, fun r => follows_turn ha (.inr rfl) (hrest r)⟩)

theorem settles_createRepo (volume : VolumeName) : Settles (createRepo volume) := by
  have hlist : lowering.Follows (some .repoForm) listRepos fun up _ => up = some .repoForm :=
    lowering_listRepos (by rintro mark ⟨⟩; decide)
  have hsettles : Compositional @Settles := compositional_settles
  refine follows_turn rfl (.inl rfl) (hlist.bind fun up _ hup => ?_)
  subst hup
  refine (lowering_perform (e := .look) rfl _).bind fun up s hup => ?_
  subst hup
  split
  · exact follows_turn rfl (.inr rfl) hsettles.tell_return
  · refine follows_call_lower (by decide) rfl fun r => ?_
    split
    · exact hsettles.tell_return
    · exact hsettles.bind (hsettles.tell _) fun _ =>
        hsettles.bind (settles_perform rfl) fun _ => hsettles.pure true

theorem settles_invite (repo : Repo) (collaborator : String) :
    Settles (invite repo collaborator) := by
  have hsettles : Compositional @Settles := compositional_settles
  refine follows_turn rfl (.inl rfl) (follows_call_lower (by decide) rfl fun r => ?_)
  split
  · exact hsettles.tell_return
  · exact hsettles.bind (hsettles.set rfl) fun _ => hsettles.bind (hsettles.tell _) fun _ =>
      hsettles.bind settles_listRepos fun _ => hsettles.pure true

theorem settles_pay (config : Config) (payment : Payment) : Settles (pay config payment) := by
  have hsettles : Compositional @Settles := compositional_settles
  refine follows_turn rfl (.inl rfl) (follows_call_lower (by decide) rfl fun r => ?_)
  split
  · exact hsettles.bind (hsettles.tell _) fun _ =>
      hsettles.bind (settles_perform rfl) fun _ => hsettles.pure true
  · exact hsettles.tell_return
  · exact hsettles.tell_return

theorem hasParts_settles (config : Config) : HasParts @Settles config := by
  have hsettles : Compositional @Settles := compositional_settles
  have hload : Settles loadPublicConfig :=
    hsettles.loadPublicConfig (settles_call _ _) fun _ => settles_perform rfl
  have hlogin : ∀ credentials silent, Settles (login config credentials silent) := fun _ _ =>
    hsettles.login (settles_call _ _) fun _ =>
      hsettles.enterSession (settles_perform rfl) (fun _ => settles_perform rfl) hload _
  have hform : ∀ form, Settles (validForm form) :=
    hsettles.validForm_of_state (settles_perform rfl)
  exact {
    listRepos := settles_listRepos
    loadCommits := fun _ => hsettles.loadCommits (settles_call _ _)
    loadPublicConfig := hload
    login := fun _ => hlogin _ _
    submitLogin := hsettles.submitLogin (hform _) fun _ => hlogin _ _
    submitRegistration := hsettles.submitRegistration (hform _) fun _ =>
      hsettles.register (settles_call _ _) (hlogin _ _)
    restore := hsettles.restore (settles_perform rfl) fun _ => hlogin _ _
    logout := hsettles.logout (settles_perform rfl) (settles_perform rfl)
    invite := settles_invite
    pay := settles_pay config }

end Workflow

/-- Whether the event leaves the marks and the state of calls to the workflows. -/
def Event.sparesMarks : Event → Bool
  | run (.dispatch a) => !a.isRecord && a.turns?.isNone
  | _ => true

theorem Event.sparesMarks_dispatch {a : Action} :
    (run (.dispatch a)).sparesMarks ↔ a.isRecord = false ∧ a.turns? = none := by
  simp [sparesMarks]

namespace Workflow

/-- Every operation takes down the marks that it puts up. -/
theorem settles_workflow {config : Config} {op : Operation} (h : (Event.run op).sparesMarks) :
    Settles (op.workflow config) := by
  refine compositional_settles.workflow (hasParts_settles config) (fun _ => settles_createRepo)
    (fun e he => settles_perform ?_) ?_ (fun _ _ => settles_perform rfl)
    (fun _ _ _ => settles_call _ _)
  · cases e with
    | force a => cases a <;> first | rfl | cases he
    | write _ => cases he
    | _ => rfl
  · rintro a rfl
    exact settles_perform (Event.sparesMarks_dispatch.mp h).2

end Workflow

namespace Console
variable {α : Type} {c c' : Console} {gate : Gate} {e : Event} {events : List Event}
  {mark : BusyMark} {jobs : List Job} {up : Option BusyMark} {w : Workflow α} {job : Job}

/-- What is left of the work has put the mark up, and takes it down before it ends. -/
def Owes (mark : BusyMark) (p : Pending α) : Prop :=
  p.api ∈ mark.awaited ∧ ∀ r, lowering.Follows (some mark) (p.next r) fun up _ => up = none

/-- If the mark is up then one of these jobs will take it down. -/
def Owed (mark : BusyMark) (jobs : List Job) (c : Console) : Prop :=
  mark.isUp c.state → ∃ job ∈ jobs, job.gate = none ∧ Owes mark job.pending

/-- If the mark is up then it is that of the phase, or another job will take it down. -/
def Minded (mark : BusyMark) (jobs : List Job) (up : Option BusyMark) (c : Console) : Prop :=
  up ≠ some mark → Owed mark jobs c

theorem isUp_perform_of_steady {effect : Effect} (he : effect.turns? = none) (mark : BusyMark) :
    mark.isUp (c.perform gate effect).2.state = mark.isUp c.state := by
  obtain hs | ⟨a, rfl | rfl, hs⟩ | ⟨route, generation, hs⟩ := perform_state c gate effect
  · rw [hs]
  · rw [hs, Action.isUp_apply_of_steady he]
  · rw [hs, Action.isUp_apply_of_steady he]
  · rw [hs]
    cases mark <;> rfl

theorem isUp_record {a : Action} (ha : a.isRecord) (mark : BusyMark) :
    mark.isUp (c.record a).state = mark.isUp c.state := by
  refine Action.isUp_apply_of_steady ?_ mark c.state
  cases a <;> first | rfl | cases ha

theorem isUp_endCall {api : Api} {ticket : Nat}
    {outcome : Except CallError (api.Answer × Json)} (mark : BusyMark) :
    mark.isUp (c.endCall api ticket outcome).2.state = mark.isUp c.state :=
  isUp_record completion_isRecord mark

theorem isUp_call (mark : BusyMark) (api : Api) (payload : api.Payload) :
    mark.isUp (c.call api payload).2.2.state = mark.isUp c.state := by
  have hbegin : mark.isUp (c.beginCall api).2.state = mark.isUp c.state :=
    isUp_record (c := { c with tickets := c.tickets + 1 }) rfl mark
  obtain ⟨_, _, hc⟩ | ⟨_, _, hc⟩ := call_cases c api payload <;> rw [hc] <;> exact hbegin

theorem isUp_perform_of_turns {effect : Effect} {turned : BusyMark} {value : Bool}
    (he : effect.turns? = some (turned, value)) (mark : BusyMark) :
    mark.isUp (c.perform none effect).2.state =
      if mark = turned then value else mark.isUp c.state := by
  cases effect with
  | write a => exact Action.isUp_apply_of_turns he mark c.state
  | force a => exact Action.isUp_apply_of_turns he mark c.state
  | _ => cases he

/-- Each step of a workflow that settles keeps its mark minded. -/
theorem keeps_minded (mark : BusyMark) (jobs : List Job) :
    lowering.Keeps none (Minded mark jobs) where
  act := by
    intro up effect c hmay h
    cases ht : effect.turns? with
    | none =>
      have hafter : ∀ r, lowering.afterDo up effect r = up := by simp [lowering, ht]
      rw [hafter]
      intro hne hup
      exact h hne ((isUp_perform_of_steady ht mark).symm.trans hup)
    | some turn =>
      obtain ⟨turned, value⟩ := turn
      have hafter : ∀ r, lowering.afterDo up effect r = if value then some turned else none := by
        simp [lowering, ht]
      rw [hafter]
      intro hne hup
      rw [isUp_perform_of_turns ht] at hup
      by_cases hm : mark = turned
      · subst hm
        rw [if_pos rfl] at hup
        subst hup
        exact absurd rfl hne
      · rw [if_neg hm] at hup
        refine h ?_ hup
        rcases hmay turned value ht with rfl | rfl
        · exact nofun
        · rintro ⟨⟩
          exact hm rfl
  fail := by
    intro up api payload c ticket e c' _ h hc hne hup
    have hcall := isUp_call (c := c) mark api payload
    rw [hc] at hcall
    rw [isUp_endCall, hcall] at hup
    exact h hne hup

theorem isUp_advance_of_steady (hw : w.Steady) (mark : BusyMark) :
    mark.isUp (advance gate w c).2.state = mark.isUp c.state := by
  induction w generalizing c with
  | done value => rfl
  | act effect next ih => exact (ih _ (hw.2 _)).trans (isUp_perform_of_steady hw.1 mark)
  | await api payload next ih =>
    have hcall := isUp_call (c := c) mark api payload
    rcases hc : c.call api payload with ⟨ticket, sent, c'⟩
    rw [hc] at hcall
    cases sent with
    | error e =>
      rw [advance_await_error hc, ih _ (hw.2 _)]
      exact (isUp_endCall mark).trans hcall
    | ok id =>
      rw [advance_await_ok hc]
      exact hcall

/-- Work that turns no mark leaves each mark to the job that owes it. -/
theorem owed_settle_of_steady {work : Workflow Outcome} (hw : work.Steady) (id : JobId)
    (h : Owed mark c.jobs c) :
    Owed mark (settle id gate (advance gate work c)).jobs
      (settle id gate (advance gate work c)) := by
  intro hup
  rw [settle_toStore, isUp_advance_of_steady hw] at hup
  obtain ⟨job, hj, howes⟩ := h hup
  exact ⟨job, mem_settle_jobs.mpr (.inl (by rwa [advance_jobs])), howes⟩

/-- Work that settles has taken its mark down when it ends, and owes it while it waits. -/
theorem owed_settle_of_settling {work : Workflow Outcome}
    (hw : lowering.Follows up work fun up _ => up = none) (id : JobId)
    (h : Minded mark c.jobs up c) :
    Owed mark (settle id none (advance none work c)).jobs
      (settle id none (advance none work c)) := by
  have hjobs : (advance none work c).2.jobs = c.jobs := advance_jobs
  have hrest := rests_advance (keeps_minded mark c.jobs) hw h
  generalize advance none work c = r at hjobs hrest
  intro hup
  rw [settle_toStore] at hup
  have hother : Owed mark c.jobs r.2 →
      ∃ job ∈ (settle id none r).jobs, job.gate = none ∧ Owes mark job.pending := by
    intro ho
    obtain ⟨job, hj, howes⟩ := ho hup
    exact ⟨job, mem_settle_jobs.mpr (.inl (by rwa [hjobs])), howes⟩
  cases hrest with
  | finished kept ends =>
    subst ends
    exact hother (kept nofun)
  | @waiting up c c' api payload ticket _ next kept allowed called rest =>
    by_cases hmine : up = some mark
    · subst hmine
      exact ⟨_, mem_settle_jobs.mpr (.inr ⟨_, rfl, rfl⟩), rfl, allowed mark rfl, rest⟩
    · have hcall := isUp_call (c := c) mark api payload
      rw [called] at hcall
      exact hother fun hup => kept hmine (hcall.symm.trans hup)

/-- What a run keeps whose events spare the marks. -/
structure Tended (c : Console) : Prop where
  sound : c.Sound
  settling : c.Disciplined lowering (fun up _ => up = none) fun gate => gate = none
  passing : c.Disciplined steady (fun _ _ => True) fun gate => gate ≠ none
  owed : ∀ mark, Owed mark c.jobs c

theorem tended_start {config : Config} {table : Route.Table} {storage : Storage} :
    (start config table storage).Tended where
  sound := sound_start
  settling := by
    intro job hj
    cases hj
  passing := by
    intro job hj
    cases hj
  owed mark hup := by cases mark <;> cases hup

/-- When the job that is answered does not owe the mark, another one does. -/
theorem owed_without (hn : c.Numbered) (hj : job ∈ c.jobs) (h : Owed mark c.jobs c)
    (hnot : ¬ (job.gate = none ∧ Owes mark job.pending)) :
    Owed mark (c.without job.id).jobs c := by
  intro hup
  obtain ⟨other, ho, howes⟩ := h hup
  have hid : other.id ≠ job.id := by
    intro hid
    have he := hn.eq_of_id ho hj hid
    subst he
    exact hnot howes
  exact ⟨other, List.mem_filter.mpr ⟨ho, bne_iff_ne.mpr hid⟩, howes⟩

theorem owed_begin {work : Workflow Outcome} (hsettles : gate = none → work.Settles)
    (hsteady : gate ≠ none → work.Steady) (h : Owed mark c.jobs c) :
    Owed mark (c.begin gate work).jobs (c.begin gate work) := by
  by_cases hg : gate = none
  · subst hg
    exact owed_settle_of_settling (c := { c with jobsStarted := c.jobsStarted + 1 })
      (hsettles rfl) _ fun _ => h
  · exact owed_settle_of_steady (c := { c with jobsStarted := c.jobsStarted + 1 }) (hsteady hg) _ h

theorem owed_goOn (h : c.Tended) (hj : job ∈ c.jobs) (reply : Reply) :
    Owed mark (c.goOn job reply).jobs (c.goOn job reply) := by
  have hn := h.sound.numbered
  -- The record of the call's end turns no mark.
  have hended : ∀ outcome, Owed mark (c.without job.id).jobs c →
      Owed mark (c.without job.id).jobs
        ((c.without job.id).endCall job.pending.api job.pending.ticket outcome).2 := by
    intro outcome ho hup
    exact ho ((isUp_endCall mark).symm.trans hup)
  cases hg : job.gate with
  | some loop =>
    obtain ⟨_, payload, _, hnext⟩ := h.passing job hj (by rw [hg]; exact nofun)
    have ho := owed_without hn hj (h.owed mark) fun hx => by cases hg.symm.trans hx.1
    rw [goOn, hg]
    exact owed_settle_of_steady (hnext _) _ (hended _ ho)
  | none =>
    rw [goOn, hg]
    by_cases howes : Owes mark job.pending
    · exact owed_settle_of_settling (howes.2 _) _ fun hne => absurd rfl hne
    · obtain ⟨up, payload, _, hnext⟩ := h.settling job hj hg
      have ho := owed_without hn hj (h.owed mark) fun hx => howes hx.2
      exact owed_settle_of_settling (hnext _) _ fun _ => hended _ ho

theorem tended_step (he : e.sparesMarks) (h : c.Tended) : (c.step e).Tended where
  sound := by
    refine sound_step (fun a ha => ?_) h.sound
    subst ha
    exact (Event.sparesMarks_dispatch.mp he).1
  settling := by
    refine disciplined_step (s := none) (fun _ op hop => Workflow.settles_workflow ?_) ?_ h.settling
    · rwa [← hop]
    · intro id hid
      cases hid
  passing := by
    exact disciplined_step (s := ()) (fun hn => absurd rfl hn)
      (fun _ _ hook => Workflow.steady_pass _ hook) h.passing
  owed mark := by
    have hs := stepped c e
    generalize c.step e = d at hs
    cases hs with
    | ran op =>
      exact owed_begin (fun _ => Workflow.settles_workflow he) (fun hn => absurd rfl hn)
        (h.owed mark)
    | @passed id hook loop turn =>
      exact owed_begin (c := { c with loop }) nofun (fun _ => Workflow.steady_pass _ hook)
        (h.owed mark)
    | answered hj reply => exact owed_goOn h hj reply
    | idle => exact h.owed mark

theorem tended_runAll (he : ∀ e ∈ events, e.sparesMarks) (h : c.Tended) :
    (c.runAll events).Tended :=
  runAll_keeps (fun e hm _ => tended_step (he e hm)) h

/-- The state shows that an api is called only while its newest call waits. -/
theorem Sound.waiting_of_loading {api : Api} (h : c.Sound) (hl : (c.state.calls api).loading) :
    ∃ job ∈ c.jobs, job.pending.api = api ∧
      job.pending.ticket = (c.state.calls api).ticket := by
  obtain ⟨newest, hnewest, _⟩ := (h.ledger.shows api).loading.mp hl
  have hf := h.fenced hnewest
  rw [hf.ticket]
  exact hf.waiting.mp hl

/-- However operations, loops and replies interleave, what the state shows to be under way is the
work of a job that waits: of the newest call of an api, or of a job that has its form's mark up.
Once no job waits, nothing is shown to be under way. -/
theorem nothing_stays_busy (config : Config) (table : Route.Table) (storage : Storage)
    {events : List Event} (spared : ∀ e ∈ events, e.sparesMarks) :
    let c := (start config table storage).runAll events
    (∀ api, (c.state.calls api).loading → ∃ job ∈ c.jobs, job.pending.api = api ∧
      job.pending.ticket = (c.state.calls api).ticket) ∧
    (∀ mark : BusyMark, mark.isUp c.state → ∃ job ∈ c.jobs, job.gate = none ∧
      job.pending.api ∈ mark.awaited) ∧
    (c.jobs = [] → (∀ api, (c.state.calls api).loading = false) ∧
      c.state.repoFormLoading = false ∧ c.state.collaboratorFormLoading = false ∧
      c.state.paymentLoading = false) := by
  intro c
  have hc : c.Tended := tended_runAll spared tended_start
  have hcalls : ∀ api, (c.state.calls api).loading → ∃ job ∈ c.jobs, job.pending.api = api ∧
      job.pending.ticket = (c.state.calls api).ticket := fun api => hc.sound.waiting_of_loading
  have hmarks : ∀ mark : BusyMark, mark.isUp c.state → ∃ job ∈ c.jobs, job.gate = none ∧
      job.pending.api ∈ mark.awaited := by
    intro mark hup
    obtain ⟨job, hj, hg, howes⟩ := hc.owed mark hup
    exact ⟨job, hj, hg, howes.1⟩
  refine ⟨hcalls, hmarks, fun hidle => ?_⟩
  have hdown : ∀ mark : BusyMark, mark.isUp c.state = false := by
    intro mark
    rw [Bool.eq_false_iff]
    intro hup
    obtain ⟨job, hj, _⟩ := hmarks mark hup
    simp [hidle] at hj
  refine ⟨fun api => ?_, hdown .repoForm, hdown .collaboratorForm, hdown .payment⟩
  rw [Bool.eq_false_iff]
  intro hl
  obtain ⟨job, hj, _⟩ := hcalls api hl
  simp [hidle] at hj

/-- Somebody logs in, submits the form of a repo, and lists the repos at the same time. -/
def submitAndList : List Event :=
  [.run (.login (.typed "ann" "secret")), .answer 0 .confirmation, .answer 0 .unreachable,
    .run (.updateForm .repo (.ofList [("Name", .str "apples")])), .run (.hook .repoFormSubmit),
    .run (.hook .repoList)]

/-- Everything is answered, the form's last call after a logout. -/
def logoutAndAnswer : List Event :=
  [.answer 2 .unreachable, .run .logout, .answer 3 .unreachable, .answer 2 .unreachable]

theorem nothing_stays_busy_submitAndList :
    (∀ e ∈ submitAndList ++ logoutAndAnswer, e.sparesMarks) ∧
    ((start .default .empty (.memory .empty)).runAll submitAndList).state.repoFormLoading ∧
    ((start .default .empty (.memory .empty)).runAll
      (submitAndList ++ logoutAndAnswer)).jobs.length = 0 ∧
    ((start .default .empty (.memory .empty)).runAll
      (submitAndList ++ logoutAndAnswer)).state.repoFormLoading = false := by
  have hspared : ∀ e ∈ submitAndList ++ logoutAndAnswer, e.sparesMarks := by decide
  have hup : ((start .default .empty (.memory .empty)).runAll
      submitAndList).state.repoFormLoading := by decide +kernel
  have hidle : ((start .default .empty (.memory .empty)).runAll
      (submitAndList ++ logoutAndAnswer)).jobs.length = 0 := by decide +kernel
  obtain ⟨_, _, hquiet⟩ := nothing_stays_busy .default .empty (.memory .empty) hspared
  exact ⟨hspared, hup, hidle, (hquiet (List.eq_nil_of_length_eq_zero hidle)).2.1⟩

end Console
end StorageConsole
