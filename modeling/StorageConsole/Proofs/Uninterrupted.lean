import StorageConsole.Proofs.Exchanges

/-!
Runs with nothing in between. An operation that runs to its end at once comes to the console that its
job comes to event by event, each call being answered before anything else happens.
-/
namespace StorageConsole

open Backend (Api CallError LoadResult Reply Request)

namespace Console
variable {σ α : Type} {backend : Request → StateM σ Reply} {c c' : Console} {s : σ} {api : Api}
  {payload : api.Payload} {ticket : Nat}

/-- What the backend replies to the exchanges, one after the other. -/
def replies (backend : Request → StateM σ Reply) : σ → List Exchange → List Reply
  | _, [] => []
  | s, x :: xs =>
    let (reply, s) := (backend x.request).run s
    reply :: replies backend s xs

/-- How many jobs have been started plays no part in what a workflow does. -/
theorem perform_jobsStarted (c : Console) (e : Effect) (n : Nat) :
    perform { c with jobsStarted := n } none e =
      ((c.perform none e).1, { (c.perform none e).2 with jobsStarted := n }) := by
  cases e <;> rfl

theorem call_jobsStarted {sent : Except CallError (Option Nat)}
    (h : c.call api payload = (ticket, sent, c')) (n : Nat) :
    call { c with jobsStarted := n } api payload = (ticket, sent, { c' with jobsStarted := n }) := by
  obtain ⟨e, he, hc⟩ | ⟨sender, hs, hc⟩ := call_cases c api payload
  · cases hc.symm.trans h
    obtain ⟨e', he', hc'⟩ | ⟨sender, hs', _⟩ := call_cases { c with jobsStarted := n } api payload
    · cases he'.symm.trans he
      exact hc'
    · cases hs'.symm.trans he
  · cases hc.symm.trans h
    obtain ⟨e', he', _⟩ | ⟨sender', hs', hc'⟩ := call_cases { c with jobsStarted := n } api payload
    · cases he'.symm.trans hs
    · cases hs'.symm.trans hs
      exact hc'

/-- The job that has come to rest last goes on with the reply to its call. -/
theorem answer_settle {id : JobId} (fresh : ∀ job ∈ c.jobs, job.id ≠ id) (p : Pending Outcome)
    (reply : Reply) :
    (settle id none (.waiting p, c)).step (.answer id reply) =
      settle id none (resume none p reply c) := by
  have hfind : (c.jobs ++ [(⟨id, none, p⟩ : Job)]).find? (·.id == id) = some ⟨id, none, p⟩ := by
    rw [List.find?_append, List.find?_eq_none.mpr fun job hj => by simpa using fresh job hj]
    simp
  have hrest : (c.jobs ++ [(⟨id, none, p⟩ : Job)]).filter (·.id != id) = c.jobs := by
    rw [List.filter_append, List.filter_eq_self.mpr fun job hj => by simpa using fresh job hj]
    simp
  change answer { c with jobs := c.jobs ++ [⟨id, none, p⟩] } id reply = _
  unfold answer
  simp only [hfind, hrest]

/-- Answered call by call, a job comes to what its workflow comes to at once. -/
theorem runAll_answers {id : JobId} (w : Workflow Outcome) (c : Console) (s : σ) (n : Nat)
    (fresh : ∀ job ∈ c.jobs, job.id ≠ id) :
    let ended := ((complete backend w c).run s).1
    (settle id none (advance none w { c with jobsStarted := n })).runAll
        ((replies backend s (exchanges backend w c s)).map (.answer id)) =
      settle id none (.finished ended.1, { ended.2 with jobsStarted := n }) := by
  induction w generalizing c s with
  | done value => rfl
  | act effect next ih =>
    have hjobs : (c.perform none effect).2.jobs = c.jobs :=
      congrArg (·.2.2.1) (perform_frame effect)
    rw [advance, perform_jobsStarted]
    exact ih (c.perform none effect).1 (c.perform none effect).2 s (hjobs ▸ fresh)
  | await api payload next ih =>
    rcases hc : c.call api payload with ⟨ticket, sent, c'⟩
    have hcall := call_jobsStarted hc n
    have hjobs : c'.jobs = c.jobs := by
      have h := congrArg (·.2.2.1) (call_frame c api payload)
      rwa [hc] at h
    cases sent with
    | error e =>
      rw [exchanges_await_error hc, complete_await_error hc, advance_await_error hcall]
      exact ih _ (c'.endCall api ticket (.error e)).2 s (hjobs ▸ fresh)
    | ok sentId =>
      have hrequest : c'.requests.getLastD default = Sending.request ⟨c, api, payload⟩ := by
        rw [Sending.request, hc]
      rw [exchanges_await_ok hc, complete_await_ok hc, advance_await_ok hcall, hrequest]
      have hfirst := answer_settle (c := { c' with jobsStarted := n }) (hjobs ▸ fresh)
        ⟨api, ticket, sentId, next⟩ ((backend (Sending.request ⟨c, api, payload⟩)).run s).1
      refine (congrArg (runAll · _) hfirst).trans ?_
      exact ih _ (c'.endCall api ticket _).2 _ (hjobs ▸ fresh)

/-- An operation that is answered call by call ends as it does when it runs to its end at once. -/
theorem run_answered (hn : c.Numbered) (op : Operation) (backend : Request → StateM σ Reply)
    (s : σ) :
    let work := op.workflow c.config
    let ended := ((complete backend work c).run s).1
    (c.run op).runAll
        ((replies backend s (exchanges backend work c s)).map (.answer c.jobsStarted)) =
      { ended.2 with
        jobsStarted := c.jobsStarted + 1
        finished := ended.2.finished ++ [(c.jobsStarted, ended.1)] } :=
  runAll_answers _ c s _ fun job hj =>
    Nat.ne_of_lt (hn.begun job.id (List.mem_append_left _ (List.mem_map_of_mem hj)))

end Console
end StorageConsole
