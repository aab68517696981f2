import StorageConsole.Proofs.Step

/-!
What a workflow sends that runs to its end with nothing in between. Each call that goes out is noted
together with the console that it is made on.
-/
namespace StorageConsole

open Backend (Api CallError LoadResult Reply Request)

/-- A call that goes out, with the console that it is made on. -/
structure Sending where
  console : Console
  api : Api
  payload : api.Payload

/-- The request that the backend receives. -/
def Sending.request (x : Sending) : Request :=
  (x.console.call x.api x.payload).2.2.requests.getLastD default

namespace Console
variable {σ α : Type} {backend : Request → StateM σ Reply} {c c' : Console} {s : σ} {api : Api}
  {payload : api.Payload} {next : LoadResult api.Answer → Workflow α} {ticket : Nat}

/-- The calls that go out when a workflow runs to its end. -/
def sendings (backend : Request → StateM σ Reply) : Workflow α → Console → σ → List Sending
  | .done _, _, _ => []
  | .act effect next, c, s =>
    let (result, c) := c.perform none effect
    sendings backend (next result) c s
  | .await api payload next, c, s =>
    let (ticket, sent, c') := c.call api payload
    match sent with
    | .error e =>
      let (result, c') := c'.endCall api ticket (.error e)
      sendings backend (next result) c' s
    | .ok id =>
      let (reply, s) := (backend (c'.requests.getLastD default)).run s
      let (result, c') := c'.endCall api ticket (api.answerOf id reply)
      ⟨c, api, payload⟩ :: sendings backend (next result) c' s

theorem sendings_await_error {e : CallError} (h : c.call api payload = (ticket, .error e, c')) :
    sendings backend (.await api payload next) c s =
      sendings backend (next (api.report (.error e))) (c'.endCall api ticket (.error e)).2 s := by
  simp only [sendings, h]
  rfl

theorem sendings_await_ok {id : Option Nat} (h : c.call api payload = (ticket, .ok id, c')) :
    sendings backend (.await api payload next) c s =
      let (reply, s) := (backend (c'.requests.getLastD default)).run s
      ⟨c, api, payload⟩ :: sendings backend (next (api.report (api.answerOf id reply)))
        (c'.endCall api ticket (api.answerOf id reply)).2 s := by
  simp only [sendings, h]
  rfl

theorem complete_await_error {e : CallError} (h : c.call api payload = (ticket, .error e, c')) :
    (complete backend (.await api payload next) c).run s =
      (complete backend (next (api.report (.error e))) (c'.endCall api ticket (.error e)).2).run s := by
  simp only [complete, h]
  rfl

theorem complete_await_ok {id : Option Nat} (h : c.call api payload = (ticket, .ok id, c')) :
    (complete backend (.await api payload next) c).run s =
      let (reply, s) := (backend (c'.requests.getLastD default)).run s
      (complete backend (next (api.report (api.answerOf id reply)))
        (c'.endCall api ticket (api.answerOf id reply)).2).run s := by
  simp only [complete, h]
  rfl

/-- A call that goes out sends what the client makes of it, in the name of the sender whom it finds. -/
theorem exists_sender {id : Option Nat} (h : c.call api payload = (ticket, .ok id, c')) :
    ∃ sender, c.identify api payload = .ok sender ∧
      c.client.request (api.message payload) sender false =
        (id, Sending.request ⟨c, api, payload⟩, c'.client) ∧
      c'.requests = c.requests ++ [Sending.request ⟨c, api, payload⟩] := by
  obtain ⟨sender, hs, _, rfl, rfl⟩ := call_eq_ok h
  have hlast : Sending.request ⟨c, api, payload⟩ =
      (c.client.request (api.message payload) sender false).2.1 := by
    unfold Sending.request
    rw [h]
    exact List.getLastD_concat
  rw [hlast]
  exact ⟨sender, hs, rfl, rfl⟩

theorem requests_of_call {id : Option Nat} (h : c.call api payload = (ticket, .ok id, c')) :
    c'.requests = c.requests ++ [Sending.request ⟨c, api, payload⟩] := by
  obtain ⟨_, _, _, hrequests⟩ := exists_sender h
  exact hrequests

/-- The calls that go out are the requests that the console has sent. -/
theorem requests_complete (w : Workflow α) (c : Console) (s : σ) :
    ((complete backend w c).run s).1.2.requests =
      c.requests ++ (sendings backend w c s).map Sending.request := by
  induction w generalizing c s with
  | done value => exact (List.append_nil _).symm
  | act effect next ih =>
    have h := ih (c.perform none effect).1 (c.perform none effect).2 s
    rw [perform_requests] at h
    exact h
  | await api payload next ih =>
    rcases hc : c.call api payload with ⟨ticket, sent, c'⟩
    cases sent with
    | error e =>
      obtain ⟨_, _, hc'⟩ := call_eq_error hc
      have hrequests : c'.requests = c.requests := by
        rw [hc']
        rfl
      rw [complete_await_error hc, sendings_await_error hc, ih, ← hrequests]
      rfl
    | ok id =>
      rw [complete_await_ok hc, sendings_await_ok hc]
      rcases (backend (c'.requests.getLastD default)).run s with ⟨reply, s'⟩
      have h := ih (api.report (api.answerOf id reply))
        (c'.endCall api ticket (api.answerOf id reply)).2 s'
      rw [List.map_cons, List.append_cons, ← requests_of_call hc]
      exact h

/-- The console after a call and its outcome. -/
def afterCall (c : Console) (api : Api) (payload : api.Payload)
    (outcome : Except CallError (api.Answer × Json)) : Console :=
  ((c.call api payload).2.2.endCall api (c.call api payload).1 outcome).2

theorem afterCall_of_call {sent : Except CallError (Option Nat)}
    (h : c.call api payload = (ticket, sent, c')) (outcome : Except CallError (api.Answer × Json)) :
    c.afterCall api payload outcome = (c'.endCall api ticket outcome).2 := by
  rw [afterCall, h]

/-- A call takes a ticket and makes two records, and it may have sent something. -/
theorem afterCall_eq (c : Console) (api : Api) (payload : api.Payload)
    (outcome : Except CallError (api.Answer × Json)) :
    ∃ client requests, c.afterCall api payload outcome =
      (record { c with tickets := c.tickets + 1, client, requests }
        (.callRequested api (c.tickets + 1))).record (completion api (c.tickets + 1) outcome) := by
  unfold afterCall
  obtain ⟨e, _, hc⟩ | ⟨sender, _, hc⟩ := call_cases c api payload
  · rw [hc]
    exact ⟨c.client, c.requests, rfl⟩
  · rw [hc]
    let sent := (c.client.request (api.message payload) sender false).2
    exact ⟨sent.2, c.requests ++ [sent.1], rfl⟩

/-- Of a call the store keeps nothing but its records. -/
theorem afterCall_toStore (c : Console) (api : Api) (payload : api.Payload)
    (outcome : Except CallError (api.Answer × Json)) :
    ∃ calls version, (c.afterCall api payload outcome).toStore =
      { c.toStore with state := { c.state with calls }, version } := by
  obtain ⟨client, requests, hafter⟩ := afterCall_eq c api payload outcome
  rw [hafter]
  cases outcome <;> exact ⟨_, _, rfl⟩

end Console

end StorageConsole
