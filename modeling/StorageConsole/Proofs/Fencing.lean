import StorageConsole.Proofs.Ledger

/-!
Fencing of calls: however loads, operations and loops interleave, the state shows how the newest
call of each api stands, and each load returns what came of its own call.
-/
namespace StorageConsole

open Backend (Api CallError LoadResult Reply)

/-- A move of a run: an event, or a load that is dispatched through a gate. -/
inductive Move where
  | event (e : Event)
  | load (gate : Gate) (api : Api) (payload : api.Payload)

/-- Whether the move leaves it to the calls to make their records. -/
def Move.isHonest : Move → Bool
  | event (.run (.dispatch a)) => !a.isRecord
  | _ => true

/-- The first reply that some moves hand to a job. -/
def Move.firstReply? (id : JobId) : List Move → Option Reply
  | [] => none
  | event (.answer other reply) :: moves =>
    if other = id then some reply else firstReply? id moves
  | _ :: moves => firstReply? id moves

theorem Move.firstReply?_cons_of_ne {id : JobId} {m : Move} {moves : List Move}
    (h : ∀ reply, m ≠ .event (.answer id reply)) :
    firstReply? id (m :: moves) = firstReply? id moves := by
  cases m with
  | load gate api payload => rfl
  | event e =>
    cases e with
    | answer other reply => exact if_neg fun ho => h reply (by rw [ho])
    | _ => rfl

theorem unrecorded_workflow {config : Config} {op : Operation}
    (h : ∀ a, op = .dispatch a → a.isRecord = false) :
    unrecorded.Follows () (op.workflow config) fun _ _ => True :=
  Workflow.follows_workflow (fun _ _ => isUnrecorded_of_conduct) (fun _ _ => trivial)
    (fun _ => rfl) fun a ha => by simp [unrecorded, Effect.isUnrecorded, h a ha]

namespace Console
variable {c : Console} {api : Api} {payload : api.Payload} {gate : Gate} {m : Move}
  {moves : List Move} {job : Job} {id : JobId}

def make (c : Console) : Move → Console
  | .event e => c.step e
  | .load gate api payload => c.begin gate ((Operation.load api payload).workflow c.config)

def makeAll (c : Console) (moves : List Move) : Console := moves.foldl make c

theorem makeAll_concat (c : Console) (moves : List Move) (m : Move) :
    c.makeAll (moves ++ [m]) = (c.makeAll moves).make m := List.foldl_concat ..

/-- What comes of the call of a load that begins now, when it is answered in the course of the later
moves or has failed at once. -/
def ownOutcome? (c : Console) (api : Api) (payload : api.Payload) (later : List Move) :
    Option (Except CallError (api.Answer × Json)) :=
  match c.identify api payload with
  | .error e => some (.error e)
  | .ok sender =>
    (Move.firstReply? c.jobsStarted later).map
      (api.answerOf (c.client.request (api.message payload) sender false).1)

/-- What fencing promises of an api whose newest call has the given ticket. -/
structure Fenced (c : Console) (api : Api) (newest : Nat) : Prop where
  ticket : (c.state.calls api).ticket = newest
  loading : (c.state.calls api).loading ↔ newest ∉ c.completed api
  waiting : (c.state.calls api).loading ↔
    ∃ job ∈ c.jobs, job.pending.api = api ∧ job.pending.ticket = newest
  error : (c.state.calls api).loading → (c.state.calls api).error = none
  answered : ∀ raw, .callAnswered api newest raw ∈ c.records →
    (c.state.calls api).lastAnswer = some raw ∧ (c.state.calls api).error = none
  failed : ∀ e, .callFailed api newest e ∈ c.records → (c.state.calls api).error = some e
  stale : ∀ t ∈ c.requested api, t ≠ newest → ∀ outcome,
    (c.endCall api t outcome).2.state = c.state

/-- What a load that began in one console has come to in a later one: it has returned exactly what
came of its own call, and that is on record. -/
structure ReturnsOwn (c : Console) (api : Api) (payload : api.Payload) (later : List Move)
    (c' : Console) : Prop where
  returned : ∀ result, (c.jobsStarted, result) ∈ c'.finished ↔
    ∃ outcome, c.ownOutcome? api payload later = some outcome ∧
      result = .loaded api (api.report outcome)
  recorded : ∀ outcome, c.ownOutcome? api payload later = some outcome →
    completion api (c.tickets + 1) outcome ∈ c'.records

/-- What every honest run keeps. -/
structure Sound (c : Console) : Prop where
  numbered : c.Numbered
  disciplined : c.Disciplined unrecorded (fun _ _ => True) fun _ => True
  ledger : Ledger c.waitingFor c

theorem sound_start {config : Config} {table : Route.Table} {storage : Storage} :
    (start config table storage).Sound := by
  refine ⟨numbered_start, ?_, Ledger.start⟩
  intro job hj
  cases hj

theorem Sound.begin {work : Workflow Outcome} (h : c.Sound)
    (hw : unrecorded.Follows () work fun _ _ => True) : (c.begin gate work).Sound :=
  ⟨numbered_begin h.numbered, disciplined_begin (fun _ => hw) h.disciplined,
    ledger_begin hw h.ledger⟩

theorem sound_step {e : Event} (he : ∀ a, e = .run (.dispatch a) → a.isRecord = false)
    (h : c.Sound) : (c.step e).Sound := by
  have hs := stepped c e
  generalize c.step e = d at hs
  cases hs with
  | ran op => exact h.begin (unrecorded_workflow fun a ha => he a (ha ▸ rfl))
  | @passed id hook loop turn =>
    have hl : Sound { c with loop } :=
      ⟨⟨h.numbered.apart, h.numbered.begun⟩, h.disciplined, h.ledger.congr rfl rfl rfl⟩
    exact hl.begin (unrecorded_workflow fun a ha => by cases ha)
  | answered hj reply =>
    exact ⟨numbered_goOn hj h.numbered, disciplined_goOn hj h.disciplined,
      ledger_goOn h.numbered hj (h.disciplined _ hj trivial) h.ledger⟩
  | idle =>
    exact ⟨⟨h.numbered.apart, h.numbered.begun⟩, h.disciplined, h.ledger.congr rfl rfl rfl⟩

theorem sound_make (hm : m.isHonest) (h : c.Sound) : (c.make m).Sound := by
  cases m with
  | event e =>
    refine sound_step (fun a ha => ?_) h
    subst ha
    simpa [Move.isHonest] using hm
  | load gate api payload => exact h.begin (unrecorded_workflow fun a ha => by cases ha)

theorem sound_makeAll (hm : ∀ m ∈ moves, m.isHonest) (h : c.Sound) : (c.makeAll moves).Sound := by
  induction moves generalizing c with
  | nil => exact h
  | cons m moves ih =>
    exact ih (fun m' hm' => hm m' (.tail _ hm')) (sound_make (hm m (.head _)) h)

theorem Sound.fenced {newest : Nat} (h : c.Sound) (hn : c.newest? api = some newest) :
    c.Fenced api newest := by
  have hs := h.ledger.shows api
  have hreq : newest ∈ c.requested api := List.mem_of_getLast? hn
  have hload : (c.state.calls api).loading ↔ newest ∉ c.completed api := by
    rw [hs.loading, hn]
    simp
  refine ⟨h.ledger.ticket_eq hn, hload, ?_, hs.error, fun raw => hs.answered newest raw hn,
    fun e => hs.failed newest e hn, fun t ht hne outcome => ?_⟩
  · have ho := h.ledger.isOpen api newest
    rw [hload]
    constructor
    · intro hc
      obtain ⟨job, hj, he⟩ := List.mem_map.mp (ho.mpr ⟨hreq, hc⟩)
      cases he
      exact ⟨job, hj, rfl, rfl⟩
    · rintro ⟨job, hj, rfl, rfl⟩
      exact (ho.mp (List.mem_map_of_mem hj)).2
  · have hle := h.ledger.le_newest hn ht
    refine endCall_state_of_stale ?_
    rw [h.ledger.ticket_eq hn]
    omega

theorem mem_make_jobs (hj : job ∈ c.jobs)
    (hm : ∀ reply, m ≠ .event (.answer job.id reply)) : job ∈ (c.make m).jobs := by
  cases m with
  | event e => exact mem_step_jobs hj fun reply he => hm reply (by rw [he])
  | load gate api payload => exact mem_begin_jobs_of_mem hj

theorem mem_make_finished {ended : JobId × Outcome} (hid : ended.1 < c.jobsStarted)
    (hm : ∀ reply, m = .event (.answer ended.1 reply) → ∀ job ∈ c.jobs, job.id ≠ ended.1) :
    ended ∈ (c.make m).finished ↔ ended ∈ c.finished := by
  cases m with
  | event e => exact mem_step_finished hid fun reply he => hm reply (by rw [he])
  | load gate api payload => exact mem_begin_finished hid

theorem numbered_make (h : c.Numbered) : (c.make m).Numbered := by
  cases m with
  | event e => exact numbered_step h
  | load gate api payload => exact numbered_begin h

theorem numbered_makeAll (h : c.Numbered) : (c.makeAll moves).Numbered := by
  induction moves generalizing c with
  | nil => exact h
  | cons m moves ih => exact ih (numbered_make h)

/-- A job that has returned does not return again. -/
theorem makeAll_finished (h : c.Numbered) {first : Outcome} (hf : (id, first) ∈ c.finished)
    (result : Outcome) : (id, result) ∈ (c.makeAll moves).finished ↔ result = first := by
  have hmem : id ∈ c.finished.map (·.1) := List.mem_map_of_mem hf
  induction moves generalizing c with
  | nil =>
    have hn := (List.nodup_append.mp h.apart).2.1
    constructor
    · intro hr
      have he := List.inj_on_of_nodup_map hn hr hf rfl
      cases he
      rfl
    · rintro rfl
      exact hf
  | cons m moves ih =>
    have hid : id < c.jobsStarted := h.begun id (List.mem_append_right _ hmem)
    have hfree : ∀ job ∈ c.jobs, job.id ≠ id := fun job hj =>
      (List.nodup_append.mp h.apart).2.2 _ (List.mem_map_of_mem hj) _ hmem
    have hm : (id, first) ∈ (c.make m).finished :=
      (mem_make_finished hid fun _ _ => hfree).mpr hf
    exact ih (numbered_make h) hm (List.mem_map_of_mem hm)

theorem make_answer {reply : Reply} (h : c.Numbered) (hj : job ∈ c.jobs) :
    c.make (.event (.answer job.id reply)) = c.goOn job reply := h.answer_eq hj

/-- A load that waits returns what comes of the first reply to it. -/
theorem makeAll_finished_of_waiting {p : Pending Outcome} {own : LoadResult p.api.Answer → Outcome}
    (hp : p.next = fun r => pure (own r)) (h : c.Numbered) (hj : ⟨id, gate, p⟩ ∈ c.jobs)
    (result : Outcome) :
    (id, result) ∈ (c.makeAll moves).finished ↔
      ∃ reply, Move.firstReply? id moves = some reply ∧
        result = own (p.api.report (p.api.answerOf p.id reply)) := by
  induction moves generalizing c with
  | nil =>
    have hfree := (List.nodup_append.mp h.apart).2.2 _ (List.mem_map_of_mem hj)
    simp only [Move.firstReply?, reduceCtorEq, false_and, exists_false, iff_false]
    exact fun hr => hfree _ (List.mem_map_of_mem hr) rfl
  | cons m moves ih =>
    -- The first reply makes the job return; any other move leaves it waiting.
    by_cases hm : ∃ reply, m = .event (.answer id reply)
    · obtain ⟨reply, rfl⟩ := hm
      have hf : (id, own (p.api.report (p.api.answerOf p.id reply))) ∈
          (c.goOn ⟨id, gate, p⟩ reply).finished := by
        refine mem_settle_finished.mpr (.inr ⟨_, ?_, rfl⟩)
        simp only [resume, hp]
        rfl
      have hm : c.make (.event (.answer id reply)) = c.goOn ⟨id, gate, p⟩ reply := make_answer h hj
      have hr : (id, result) ∈ ((c.goOn ⟨id, gate, p⟩ reply).makeAll moves).finished ↔ result = _ :=
        makeAll_finished (numbered_goOn hj h) hf result
      change (id, result) ∈ ((c.make _).makeAll moves).finished ↔ _
      rw [hm, hr]
      simp [Move.firstReply?]
    · have hne : ∀ reply, m ≠ .event (.answer id reply) := fun reply he => hm ⟨reply, he⟩
      rw [Move.firstReply?_cons_of_ne hne]
      exact ih (numbered_make h) (mem_make_jobs hj hne)

theorem make_records (c : Console) (m : Move) : c.records <+: (c.make m).records := by
  cases m with
  | event e => exact step_records c e
  | load gate api payload => exact begin_records c gate _

theorem makeAll_records : c.records <+: (c.makeAll moves).records := by
  induction moves generalizing c with
  | nil => exact List.prefix_refl _
  | cons m moves ih => exact (make_records c m).trans ih

theorem completion_of_waiting {p : Pending Outcome} {reply : Reply} (h : c.Numbered)
    (hj : ⟨id, gate, p⟩ ∈ c.jobs) (hr : Move.firstReply? id moves = some reply) :
    completion p.api p.ticket (p.api.answerOf p.id reply) ∈ (c.makeAll moves).records := by
  induction moves generalizing c with
  | nil => cases hr
  | cons m moves ih =>
    by_cases hm : ∃ reply, m = .event (.answer id reply)
    · obtain ⟨reply', rfl⟩ := hm
      have he : reply' = reply := by simpa [Move.firstReply?] using hr
      subst he
      have hm : c.make (.event (.answer id reply')) = c.goOn ⟨id, gate, p⟩ reply' :=
        make_answer h hj
      have hg := goOn_records c ⟨id, gate, p⟩ reply'
      rw [← hm] at hg
      exact (hg.trans makeAll_records).subset (List.mem_append_right _ (List.mem_singleton_self _))
    · have hne : ∀ reply, m ≠ .event (.answer id reply) := fun reply he => hm ⟨reply, he⟩
      rw [Move.firstReply?_cons_of_ne hne] at hr
      exact ih (numbered_make h) (mem_make_jobs hj hne) hr

/-- A load that can be sent waits for its reply. -/
theorem load_ok {sender : Option Credentials} (h : c.identify api payload = .ok sender) :
    ⟨c.jobsStarted, gate, api, c.tickets + 1,
      (c.client.request (api.message payload) sender false).1,
      fun r => pure (.loaded api r)⟩ ∈ (c.make (.load gate api payload)).jobs := by
  refine mem_settle_jobs.mpr (.inr ⟨_, ?_, rfl⟩)
  obtain ⟨e, he, _⟩ | ⟨sender', hs, hc⟩ :=
    call_cases { c with jobsStarted := c.jobsStarted + 1 } api payload
  · cases h.symm.trans he
  · cases h.symm.trans hs
    exact congrArg Prod.fst (advance_await_ok hc)

/-- A load that cannot be sent has failed at once. -/
theorem load_error {e : CallError} (h : c.identify api payload = .error e) :
    (c.jobsStarted, .loaded api (api.report (.error e))) ∈
        (c.make (.load gate api payload)).finished ∧
      completion api (c.tickets + 1) (.error e) ∈ (c.make (.load gate api payload)).records := by
  obtain ⟨e', he, hc⟩ | ⟨sender, hs, _⟩ :=
    call_cases { c with jobsStarted := c.jobsStarted + 1 } api payload
  · cases h.symm.trans he
    have ha : advance gate ((Operation.load api payload).workflow c.config)
        { c with jobsStarted := c.jobsStarted + 1 } =
        (.finished (.loaded api (api.report (.error e))), _) := advance_await_error hc
    simp only [make, begin, ha]
    refine ⟨mem_settle_finished.mpr (.inr ⟨_, rfl, rfl⟩), ?_⟩
    rw [settle_records]
    exact List.mem_append_right _ (List.mem_singleton_self _)
  · cases h.symm.trans hs

/-- A load returns to its caller what came of its own call, whatever happens around it. -/
theorem load_returns_own (h : c.Numbered) (later : List Move) (result : Outcome) :
    (c.jobsStarted, result) ∈ ((c.make (.load gate api payload)).makeAll later).finished ↔
      ∃ outcome, c.ownOutcome? api payload later = some outcome ∧
        result = .loaded api (api.report outcome) := by
  cases hi : c.identify api payload with
  | error e =>
    rw [makeAll_finished (numbered_make h) (load_error hi).1, ownOutcome?, hi]
    simp
  | ok sender =>
    rw [makeAll_finished_of_waiting rfl (numbered_make h) (load_ok hi), ownOutcome?, hi]
    simp

theorem load_records_own (h : c.Numbered) {later : List Move}
    {outcome : Except CallError (api.Answer × Json)}
    (ho : c.ownOutcome? api payload later = some outcome) :
    completion api (c.tickets + 1) outcome ∈
      ((c.make (.load gate api payload)).makeAll later).records := by
  cases hi : c.identify api payload with
  | error e =>
    rw [ownOutcome?, hi] at ho
    cases ho
    exact makeAll_records.subset (load_error hi).2
  | ok sender =>
    simp only [ownOutcome?, hi, Option.map_eq_some_iff] at ho
    obtain ⟨reply, hr, rfl⟩ := ho
    exact completion_of_waiting (numbered_make h) (load_ok hi) hr

/-- In every run the state shows of each api how its newest call stands, ends of older calls change
nothing, and each load returns once and as its own call has ended. -/
theorem calls_are_fenced (config : Config) (table : Route.Table) (storage : Storage)
    {moves : List Move} (honest : ∀ m ∈ moves, m.isHonest) :
    let c := (start config table storage).makeAll moves
    (∀ api newest, c.newest? api = some newest → c.Fenced api newest) ∧
    (c.finished.map (·.1)).Nodup ∧
    ∀ earlier gate api payload later, moves = earlier ++ .load gate api payload :: later →
      ((start config table storage).makeAll earlier).ReturnsOwn api payload later c := by
  have hs : ((start config table storage).makeAll moves).Sound :=
    sound_makeAll honest sound_start
  refine ⟨fun api newest hn => hs.fenced hn, (List.nodup_append.mp hs.numbered.apart).2.1, ?_⟩
  rintro earlier gate api payload later rfl
  have he : ((start config table storage).makeAll earlier).Numbered :=
    (sound_makeAll (fun m hm => honest m (List.mem_append_left _ hm)) sound_start).numbered
  have hc : (start config table storage).makeAll (earlier ++ .load gate api payload :: later) =
      (((start config table storage).makeAll earlier).make
        (.load gate api payload)).makeAll later := List.foldl_append ..
  rw [hc]
  exact ⟨load_returns_own he later, fun outcome => load_records_own he⟩

/-- Two overlapping loads, one of them through a closed gate; the newer is answered first. -/
def overtaking : List Move :=
  [.load none .login .empty, .load (some 0) .login .empty, .event (.answer 1 .unreachable),
    .event (.answer 0 .unreachable)]

theorem calls_are_fenced_overtaking :
    ((start .default .empty (.memory .empty)).makeAll overtaking).Fenced .login 2 ∧
      (start .default .empty (.memory .empty)).ReturnsOwn .login .empty overtaking.tail
        ((start .default .empty (.memory .empty)).makeAll overtaking) := by
  have honest : ∀ m ∈ overtaking, m.isHonest := by decide
  obtain ⟨hf, _, hr⟩ := calls_are_fenced .default .empty (.memory .empty) honest
  exact ⟨hf .login 2 rfl, hr [] none .login .empty overtaking.tail rfl⟩

end Console

end StorageConsole
