import StorageConsole.Proofs.Fencing
import StorageConsole.Proofs.Sending

/-!
What goes out in the course of a run. A move sends at most one request: the job that it sets to work
runs up to a call that goes out, and then it waits. The call is noted together with the console on
which the job has come to it.
-/
namespace StorageConsole

open Backend (Api CallError LoadResult Reply)

/-- A job that is set to work, with the console that it finds. -/
structure Work where
  id : JobId
  gate : Gate
  workflow : Workflow Outcome
  console : Console

/-- Whether a call goes out and leaves its job waiting, and the console, like this. -/
structure Sending.Starts (x : Sending) (p : Pending Outcome) (d : Console) : Prop where
  api : p.api = x.api
  called : x.console.call x.api x.payload = (p.ticket, .ok p.id, d)

namespace Console
variable {α : Type} {c d : Console} {gate : Gate} {w : Workflow α} {api : Api}
  {payload : api.Payload}

/-- The call at which a workflow comes to rest. One that fails at once does not go out. -/
def sending? (gate : Gate) : Workflow α → Console → Option Sending
  | .done _, _ => none
  | .act effect next, c =>
    let (result, c) := c.perform gate effect
    sending? gate (next result) c
  | .await api payload next, c =>
    let (ticket, sent, d) := c.call api payload
    match sent with
    | .error e =>
      let (result, d) := d.endCall api ticket (.error e)
      sending? gate (next result) d
    | .ok _ => some ⟨c, api, payload⟩

/-- How work comes to rest: it has ended and sent nothing, or it has just made the call. -/
inductive Reaches (c : Console) : Option Sending → Progress α × Console → Prop where
  | ended {value d} (client : d.client = c.client) (requests : d.requests = c.requests) :
      Reaches c none (.finished value, d)
  | called {api payload ticket id next d} {e : Console} (client : e.client = c.client)
      (requests : e.requests = c.requests) (call : e.call api payload = (ticket, .ok id, d)) :
      Reaches c (some ⟨e, api, payload⟩) (.waiting ⟨api, ticket, id, next⟩, d)

theorem Reaches.of_eq {sent : Option Sending} {r : Progress α × Console} (h : d.Reaches sent r)
    (client : d.client = c.client) (requests : d.requests = c.requests) : c.Reaches sent r := by
  cases h with
  | ended hclient hrequests => exact .ended (hclient.trans client) (hrequests.trans requests)
  | called hclient hrequests call =>
    exact .called (hclient.trans client) (hrequests.trans requests) call

theorem sending?_await_error {next : LoadResult api.Answer → Workflow α} {ticket : Nat}
    {e : CallError} (h : c.call api payload = (ticket, .error e, d)) :
    sending? gate (.await api payload next) c =
      sending? gate (next (api.report (.error e))) (d.endCall api ticket (.error e)).2 := by
  simp only [sending?, h]
  rfl

theorem sending?_await_ok {next : LoadResult api.Answer → Workflow α} {ticket : Nat}
    {id : Option Nat} (h : c.call api payload = (ticket, .ok id, d)) :
    sending? gate (.await api payload next) c = some ⟨c, api, payload⟩ := by
  simp only [sending?, h]

theorem reaches_advance (gate : Gate) (w : Workflow α) (c : Console) :
    c.Reaches (sending? gate w c) (advance gate w c) := by
  induction w generalizing c with
  | done value => exact .ended rfl rfl
  | act effect next ih =>
    exact (ih _ _).of_eq (perform_client effect) (perform_requests effect)
  | await api payload next ih =>
    rcases hc : c.call api payload with ⟨ticket, sent, d⟩
    cases sent with
    | error e =>
      obtain ⟨_, _, rfl⟩ := call_eq_error hc
      rw [advance_await_error hc, sending?_await_error hc]
      exact (ih _ _).of_eq rfl rfl
    | ok id =>
      rw [advance_await_ok hc, sending?_await_ok hc]
      exact .called rfl rfl hc

end Console

namespace Work

def run (w : Work) : Console :=
  Console.settle w.id w.gate (Console.advance w.gate w.workflow w.console)

def sending? (w : Work) : Option Sending := Console.sending? w.gate w.workflow w.console

end Work

namespace Console
variable {c : Console} {gate : Gate} {m : Move} {moves : List Move} {job : Job} {x : Sending}
  {api : Api} {payload : api.Payload}

def begun (c : Console) (gate : Gate) (workflow : Workflow Outcome) : Work :=
  ⟨c.jobsStarted, gate, workflow, { c with jobsStarted := c.jobsStarted + 1 }⟩

def continued (c : Console) (job : Job) (reply : Reply) : Work :=
  let (result, d) := (c.without job.id).endCall job.pending.api job.pending.ticket
    (job.pending.api.answerOf job.pending.id reply)
  ⟨job.id, job.gate, job.pending.next result, d⟩

/-- The job that a move sets to work. -/
def work? (c : Console) : Move → Option Work
  | .event (.run op) => some (c.begun none (op.workflow c.config))
  | .event (.answer id reply) => (c.jobs.find? (·.id == id)).map (c.continued · reply)
  | .event (.turn id) =>
    let (hook, loop) := c.loop.turn c.loopView id
    hook.map fun hook =>
      { c with loop }.begun (some id) ((Operation.refresh hook).workflow c.config)
  | .event (.elapse _) => none
  | .load gate api payload => some (c.begun gate ((Operation.load api payload).workflow c.config))

/-- The call that goes out by a move. -/
def sent? (c : Console) (m : Move) : Option Sending := (c.work? m).bind Work.sending?

/-- All calls that go out in the course of a run. -/
def sentAll : Console → List Move → List Sending
  | _, [] => []
  | c, m :: moves => (c.sent? m).toList ++ (c.make m).sentAll moves

/-- The kinds of moves: a job begins, perhaps in a loop, a job goes on, or nothing but the clock and
the loops moves. -/
inductive Made (c : Console) : Move → Option Work → Console → Prop where
  | begun {m gate workflow} (loop : ControlLoop)
      (honest : m.isHonest → unrecorded.Follows () workflow fun _ _ => True) :
      Made c m (some ({ c with loop }.begun gate workflow))
        ({ c with loop }.begun gate workflow).run
  | continued {job : Job} (mem : job ∈ c.jobs) (reply : Reply) :
      Made c (.event (.answer job.id reply)) (some (c.continued job reply))
        (c.continued job reply).run
  | idle {m : Move} (loop : ControlLoop) (now : Nat) : Made c m none { c with loop, now }

theorem made (c : Console) (m : Move) : c.Made m (c.work? m) (c.make m) := by
  cases m with
  | load gate api payload =>
    exact .begun c.loop fun _ => unrecorded_workflow fun a ha => by cases ha
  | event e =>
    cases e with
    | run op =>
      exact .begun c.loop fun h => unrecorded_workflow fun a ha => by
        subst ha
        simpa [Move.isHonest] using h
    | elapse milliseconds => exact .idle c.loop (c.now + milliseconds)
    | answer id reply =>
      simp only [make, step, answer, work?]
      cases h : c.jobs.find? (·.id == id) with
      | none => exact .idle c.loop c.now
      | some job =>
        obtain rfl : job.id = id := by simpa using List.find?_some h
        exact .continued (List.mem_of_find?_eq_some h) reply
    | turn id =>
      simp only [make, step, giveTurn, work?]
      rcases c.loop.turn c.loopView id with ⟨hook, loop⟩
      cases hook with
      | none => exact .idle loop c.now
      | some hook => exact .begun loop fun _ => unrecorded_workflow fun a ha => by cases ha

theorem make_of_work? {work : Work} (h : c.work? m = some work) : c.make m = work.run := by
  have hm := made c m
  rw [h] at hm
  generalize c.make m = d at hm
  cases hm <;> rfl

theorem jobs_of_no_work (h : c.work? m = none) : (c.make m).jobs = c.jobs := by
  have hm := made c m
  rw [h] at hm
  generalize c.make m = d at hm
  cases hm
  rfl

/-- What a move comes to: nothing is sent, or one call is and its job waits. -/
inductive Issues (c : Console) : Option Sending → Console → Prop where
  | nothing {d : Console} (client : d.client = c.client) (requests : d.requests = c.requests)
      (jobs : d.jobs ⊆ c.jobs) : Issues c none d
  | call {x : Sending} {p : Pending Outcome} {d : Console} (id : JobId) (gate : Gate)
      (client : x.console.client = c.client) (requests : x.console.requests = c.requests)
      (starts : x.Starts p d) (jobs : d.jobs ⊆ c.jobs) :
      Issues c (some x) { d with jobs := d.jobs ++ [⟨id, gate, p⟩] }

theorem issues_run (w : Work) (client : w.console.client = c.client)
    (requests : w.console.requests = c.requests) (jobs : w.console.jobs ⊆ c.jobs) :
    c.Issues w.sending? w.run := by
  have hjobs : (advance w.gate w.workflow w.console).2.jobs = w.console.jobs := advance_jobs
  have hr := (reaches_advance w.gate w.workflow w.console).of_eq client requests
  rw [Work.run, Work.sending?]
  generalize advance w.gate w.workflow w.console = r at hr hjobs
  generalize Console.sending? w.gate w.workflow w.console = sent at hr
  cases hr with
  | @ended value d hclient hrequests =>
    have hkept : (settle w.id w.gate (.finished value, d)).jobs ⊆ c.jobs := by
      intro job hj
      rcases mem_settle_jobs.mp hj with hj | ⟨_, he, _⟩
      · rw [hjobs] at hj
        exact jobs hj
      · cases he
    obtain ⟨_, _, _, hs⟩ := settle_cases w.id w.gate (.finished value, d)
    refine .nothing ?_ ?_ hkept <;> rw [hs]
    · exact hclient
    · exact hrequests
  | called hclient hrequests call =>
    exact .call w.id w.gate hclient hrequests ⟨rfl, call⟩ (hjobs ▸ jobs)

theorem issues_make (c : Console) (m : Move) : c.Issues (c.sent? m) (c.make m) := by
  have hm := made c m
  rw [sent?]
  generalize c.work? m = work at hm
  generalize c.make m = d at hm
  cases hm with
  | begun loop _ => exact issues_run _ rfl rfl (List.Subset.refl _)
  | continued mem reply => exact issues_run _ rfl rfl (List.filter_subset_self _)
  | idle loop now => exact .nothing rfl rfl (List.Subset.refl _)

theorem requests_make (c : Console) (m : Move) :
    (c.make m).requests = c.requests ++ (c.sent? m).toList.map Sending.request := by
  have hi := issues_make c m
  generalize c.sent? m = sent at hi
  generalize c.make m = d at hi
  cases hi with
  | nothing _ requests _ => exact requests.trans (List.append_nil _).symm
  | call id gate _ requests starts _ =>
    have hsent := requests_of_call starts.called
    rw [requests] at hsent
    exact hsent

/-- The requests of a run are those of the calls that are noted. -/
theorem requests_makeAll (c : Console) (moves : List Move) :
    (c.makeAll moves).requests = c.requests ++ (c.sentAll moves).map Sending.request := by
  induction moves generalizing c with
  | nil => exact (List.append_nil _).symm
  | cons m moves ih =>
    change ((c.make m).makeAll moves).requests = _
    rw [ih, requests_make, sentAll, List.map_append, List.append_assoc]

/-- A load that finds in whose name to call goes out. -/
theorem sent?_load_ok {sender : Option Credentials} (h : c.identify api payload = .ok sender) :
    c.sent? (.load gate api payload) =
      some ⟨{ c with jobsStarted := c.jobsStarted + 1 }, api, payload⟩ := by
  obtain ⟨e, he, _⟩ | ⟨sender', _, hc⟩ :=
    call_cases { c with jobsStarted := c.jobsStarted + 1 } api payload
  · cases h.symm.trans he
  · exact sending?_await_ok hc

theorem sent?_load_error {e : CallError} (h : c.identify api payload = .error e) :
    c.sent? (.load gate api payload) = none := by
  obtain ⟨e', _, hc⟩ | ⟨sender, hs, _⟩ :=
    call_cases { c with jobsStarted := c.jobsStarted + 1 } api payload
  · exact sending?_await_error hc
  · cases h.symm.trans hs

theorem starts_of_sent? (h : c.sent? m = some x) : ∃ p d, x.Starts p d := by
  have hi := issues_make c m
  rw [h] at hi
  generalize c.make m = d at hi
  cases hi with
  | call id gate _ _ starts _ => exact ⟨_, _, starts⟩

theorem starts_of_mem_sentAll (h : x ∈ c.sentAll moves) : ∃ p d, x.Starts p d := by
  induction moves generalizing c with
  | nil => cases h
  | cons m moves ih =>
    rcases List.mem_append.mp h with h | h
    · exact starts_of_sent? (Option.mem_toList.mp h)
    · exact ih h

/-- A job that waits, waits for a call that has gone out. -/
theorem exists_starts (h : job ∈ (c.makeAll moves).jobs) :
    job ∈ c.jobs ∨ ∃ x ∈ c.sentAll moves, ∃ d, x.Starts job.pending d := by
  induction moves generalizing c with
  | nil => exact .inl h
  | cons m moves ih =>
    -- A job that waits after the first move has waited before, or the call of the move is its own.
    obtain h | ⟨x, hx, hd⟩ := ih h
    · have hi := issues_make c m
      generalize hs : c.sent? m = sent at hi
      generalize c.make m = d at hi h
      cases hi with
      | nothing _ _ jobs => exact .inl (jobs h)
      | call id gate _ _ starts jobs =>
        rcases List.mem_append.mp h with h | h
        · exact .inl (jobs h)
        · cases List.mem_singleton.mp h
          refine .inr ⟨_, List.mem_append_left _ ?_, _, starts⟩
          rw [hs]
          exact List.mem_singleton_self _
    · exact .inr ⟨x, List.mem_append_right _ hx, hd⟩

/-- The user of the moment of sending is the one whom the state shows as soon as the job waits. -/
theorem user_of_sent? (h : c.sent? m = some x) : (c.make m).state.user = x.console.state.user := by
  have hi := issues_make c m
  rw [h] at hi
  generalize c.make m = d at hi
  cases hi with
  | call id gate _ _ starts _ =>
    obtain ⟨_, _, _, _, rfl⟩ := call_eq_ok starts.called
    rfl

end Console
end StorageConsole
