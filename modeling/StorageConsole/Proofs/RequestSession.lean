import StorageConsole.Proofs.ClosedGate
import StorageConsole.Proofs.Outgoing

/-!
In whose name requests are sent. A call in the session's name carries the session of the moment in
which it goes out, and without a session it does not go out at all.
-/
namespace StorageConsole

open Backend (Api LoadResult authorization?)

theorem Backend.Client.request_authorization (c : Backend.Client) (message : Backend.Message)
    (sender : Option Credentials) (prompt : Bool) :
    (c.request message sender prompt).2.1.authorization = authorization? sender := by
  cases message <;> rfl

/-- Whether a call has gone out in the right name: a login in that of the credentials that it is to
check, a registration in nobody's, and any other in that of the user of the moment. -/
def Sending.IsIdentified (x : Sending) : Prop :=
  match x.api, x.payload with
  | .login, credentials => x.request.authorization = authorization? (some credentials)
  | .register, _ => x.request.authorization = none
  | .repoList, _ | .repoCreate, _ | .commitList, _ | .invite, _ | .pay, _ | .config, _ =>
    ∃ user, x.console.state.user = some user ∧
      x.request.authorization = authorization? (some user)

namespace Console
variable {c d : Console} {gate : Gate} {m : Move} {moves : List Move} {api : Api}
  {payload : api.Payload} {x : Sending} {p : Pending Outcome}

theorem isIdentified_of_starts (h : x.Starts p d) : x.IsIdentified := by
  obtain ⟨sender, hs, hrequest, _⟩ := exists_sender h.called
  have ha : x.request.authorization = authorization? sender := by
    rw [← Backend.Client.request_authorization x.console.client _ sender false, hrequest]
  obtain ⟨c, api, payload⟩ := x
  have hsession : api.identity = .session →
      ∃ user, c.state.user = some user ∧ sender = some user := by
    intro hi
    simp only [identify, hi] at hs
    split at hs
    · next user hu =>
      cases hs
      exact ⟨user, hu, rfl⟩
    · cases hs
  cases api with
  | login =>
    cases hs
    exact ha
  | register =>
    cases hs
    exact ha
  | repoList | repoCreate | commitList | invite | pay | config =>
    obtain ⟨user, hu, rfl⟩ := hsession rfl
    exact ⟨user, hu, ha⟩

/-- How a call fails that needs a session and finds none: nothing is sent, and what is recorded is
all that happens. -/
structure Refuses (c : Console) (api : Api) (d : Console) : Prop where
  requests : d.requests = c.requests
  recorded : c.OnlyRecords
    [.callRequested api (c.tickets + 1), .callFailed api (c.tickets + 1) "not logged in"] d

/-- What a call returns that finds no session. -/
def notLoggedIn (api : Api) : LoadResult api.Answer := .failed "not logged in" .unauthenticated

section
variable (hlogin : api ≠ .login) (hregister : api ≠ .register) (huser : c.state.user = none)
include hlogin hregister huser

theorem advance_of_refused {α : Type} (gate : Gate) (payload : api.Payload)
    (next : LoadResult api.Answer → Workflow α) :
    ∃ d, c.Refuses api d ∧
      advance gate (.await api payload next) c = advance gate (next (notLoggedIn api)) d := by
  have hidentify : c.identify api payload = .error .unauthenticated := by
    cases api with
    | login => exact absurd rfl hlogin
    | register => exact absurd rfl hregister
    | repoList | repoCreate | commitList | invite | pay | config =>
      simp only [identify, Api.identity, huser]
  have hdisplay : api.display .unauthenticated = "not logged in" := by
    cases api <;> first | rfl | exact absurd rfl hlogin
  obtain ⟨e, he, hc⟩ | ⟨sender, hs, _⟩ := call_cases c api payload
  · cases hidentify.symm.trans he
    have hreport : api.report (.error .unauthenticated) = notLoggedIn api :=
      congrArg (LoadResult.failed · _) hdisplay
    have hbegun : c.OnlyRecords [] c := ⟨by simp, by simp, rfl, rfl⟩
    refine ⟨((c.beginCall api).2.endCall api (c.tickets + 1) (.error .unauthenticated)).2,
      ⟨rfl, ?_⟩, ?_⟩
    · rw [← hdisplay]
      exact (hbegun.beginCall api).record rfl
    · rw [← hreport]
      exact advance_await_error hc
  · cases hidentify.symm.trans hs

end

/-- How a load fails that needs a session and finds none. -/
structure RefusesLoad (c : Console) (api : Api) (d : Console) : Prop extends c.Refuses api d where
  shown : (d.state.calls api).loading = false ∧
    (d.state.calls api).error = some "not logged in"
  returned : (c.jobsStarted, .loaded api (notLoggedIn api)) ∈ d.finished

theorem refusesLoad (h : c.Sound) (hlogin : api ≠ .login) (hregister : api ≠ .register)
    (huser : c.state.user = none) (gate : Gate) (payload : api.Payload) :
    c.RefusesLoad api (c.make (.load gate api payload)) := by
  obtain ⟨d, hd, ha⟩ := advance_of_refused (c := { c with jobsStarted := c.jobsStarted + 1 })
    hlogin hregister huser gate payload fun r => .done (Outcome.loaded api r)
  have hmake : c.make (.load gate api payload) =
      settle c.jobsStarted gate (.finished (.loaded api (notLoggedIn api)), d) :=
    congrArg (settle c.jobsStarted gate) ha
  have hrecords : (c.make (.load gate api payload)).records = c.records ++
      [.callRequested api (c.tickets + 1), .callFailed api (c.tickets + 1) "not logged in"] := by
    rw [hmake, settle_records]
    exact hd.recorded.listed
  have hnewest : (c.make (.load gate api payload)).newest? api = some (c.tickets + 1) := by
    simp [newest?, requested, hrecords, Action.requested?]
  -- The refused call is the newest one of its api, so the state shows how it has failed.
  have hfenced : (c.make (.load gate api payload)).Fenced api (c.tickets + 1) :=
    (sound_make rfl h).fenced hnewest
  refine ⟨⟨?_, ⟨hd.recorded.made, hrecords, ?_, ?_⟩⟩, ⟨?_, ?_⟩, ?_⟩
  · rw [hmake, settle_requests]
    exact hd.requests
  · rw [hmake, settle_toStore]
    exact hd.recorded.state
  · rw [hmake, settle_toStore]
    exact hd.recorded.signals
  · rw [← Bool.not_eq_true, hfenced.loading, not_not]
    simp [completed, hrecords, Action.completed?]
  · exact hfenced.failed _ (by simp [hrecords])
  · rw [hmake]
    exact mem_settle_finished.mpr (.inr ⟨_, rfl, rfl⟩)

/-- Every request of a run carries the name of its moment, and a call that needs a session and finds
none is not sent: it fails at once, and as that it returns. -/
theorem requests_carry_their_session (config : Config) (table : Route.Table) (storage : Storage)
    {moves : List Move} (honest : ∀ m ∈ moves, m.isHonest) :
    let c := start config table storage
    (c.makeAll moves).requests = (c.sentAll moves).map Sending.request ∧
    (∀ x ∈ c.sentAll moves, x.IsIdentified) ∧
    (∀ earlier m later x, moves = earlier ++ m :: later → (c.makeAll earlier).sent? m = some x →
      ((c.makeAll earlier).make m).state.user = x.console.state.user) ∧
    (∀ earlier gate api payload later, moves = earlier ++ .load gate api payload :: later →
      api ≠ .login → api ≠ .register → (c.makeAll earlier).state.user = none →
      (c.makeAll earlier).RefusesLoad api ((c.makeAll earlier).make (.load gate api payload))) ∧
    ∀ (d : Console) (gate : Gate) (api : Api) (payload : api.Payload)
      (next : LoadResult api.Answer → Workflow Outcome),
      api ≠ .login → api ≠ .register → d.state.user = none →
      ∃ e, d.Refuses api e ∧
        advance gate (.await api payload next) d = advance gate (next (notLoggedIn api)) e := by
  refine ⟨requests_makeAll _ moves, fun x hx => ?_, fun _ _ _ _ _ => user_of_sent?, ?_, ?_⟩
  · obtain ⟨p, d, hstarts⟩ := starts_of_mem_sentAll hx
    exact isIdentified_of_starts hstarts
  · rintro earlier gate api payload later rfl hlogin hregister huser
    have hs : ((start config table storage).makeAll earlier).Sound :=
      sound_makeAll (fun m hm => honest m (List.mem_append_left _ hm)) sound_start
    exact refusesLoad hs hlogin hregister huser gate payload
  · exact fun d gate api payload next hlogin hregister huser =>
      advance_of_refused hlogin hregister huser gate payload next

/-- Two logins and a logout among loads, one of which comes too early. -/
def comingAndGoing : List Move :=
  [.load none .repoList (), .event (.run (.login (.typed "ann" "secret"))),
    .event (.answer 1 .confirmation), .event (.run (.login (.typed "bob" "geheim"))),
    .load (some 0) .repoList (), .event (.run .logout), .load none .register ⟨"c@x", "cy", "pw"⟩]

/-- A load after the logout. -/
def tooLate : Move := .load none .commitList "b"

theorem requests_carry_their_session_comingAndGoing :
    (∀ m ∈ comingAndGoing ++ [tooLate], m.isHonest) ∧
    ((start .default .empty (.memory .empty)).sentAll (comingAndGoing ++ [tooLate])).map (·.api) =
      [.login, .config, .login, .repoList, .register] ∧
    (∀ x ∈ (start .default .empty (.memory .empty)).sentAll (comingAndGoing ++ [tooLate]),
      x.IsIdentified) ∧
    ((start .default .empty (.memory .empty)).makeAll comingAndGoing).state.user = none ∧
    ((start .default .empty (.memory .empty)).makeAll comingAndGoing).RefusesLoad .commitList
      (((start .default .empty (.memory .empty)).makeAll comingAndGoing).make tooLate) := by
  have honest : ∀ m ∈ comingAndGoing ++ [tooLate], m.isHonest := by decide
  have huser :
      ((start .default .empty (.memory .empty)).makeAll comingAndGoing).state.user = none := by
    decide +kernel
  obtain ⟨_, hsent, _, hrefused, _⟩ :=
    requests_carry_their_session .default .empty (.memory .empty) honest
  have hlate := hrefused comingAndGoing none .commitList "b" [] rfl (by decide) (by decide) huser
  exact ⟨honest, by decide +kernel, hsent, huser, hlate⟩

end Console
end StorageConsole
