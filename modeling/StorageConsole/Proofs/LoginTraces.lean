import StorageConsole.Proofs.ColdStart
import StorageConsole.Proofs.SessionRestore

/-!
What a login leaves behind. One that fails leaves its request, the entry of its call and, unless it
is silent, word that the details were incorrect; why it has failed cannot be told from that. One
that is not to be remembered leaves what is stored as it was, even somebody else's session.
-/
namespace StorageConsole

open Backend (Api CallError LoadResult Reply Request)

theorem CallState.error_failed (entry : CallState) (ticket : Nat) (text : String) :
    (entry.failed ticket text).error = entry.error ∨
      (entry.failed ticket text).error = some text := by
  unfold failed
  split
  · exact .inr rfl
  · exact .inl rfl

theorem CallState.error_answered (entry : CallState) (ticket : Nat) (answer : Json)
    (h : entry.error = none) : (entry.answered ticket answer).error = none := by
  unfold answered
  split
  · rfl
  · exact h

namespace State
variable {s t u : State} {api : Api}

/-- Two states are the same but for the entry of one api. -/
structure AgreeBut (api : Api) (s t : State) : Prop where
  rest : { t with calls := s.calls } = s
  calls : ∀ other ≠ api, t.calls other = s.calls other

theorem AgreeBut.symm (h : AgreeBut api s t) : AgreeBut api t s :=
  ⟨congrArg (fun x => { x with calls := t.calls }) h.rest.symm,
    fun other ho => (h.calls other ho).symm⟩

theorem AgreeBut.trans (h : AgreeBut api s t) (h' : AgreeBut api t u) : AgreeBut api s u :=
  ⟨(congrArg (fun x => { x with calls := s.calls }) h'.rest :).trans h.rest,
    fun other ho => (h'.calls other ho).trans (h.calls other ho)⟩

theorem agreeBut_updateCall (s : State) (api : Api) (change : CallState → CallState) :
    AgreeBut api s (s.updateCall api change) := ⟨rfl, fun _ h => if_neg h⟩

theorem updateCall_calls (s : State) (api : Api) (change : CallState → CallState) :
    (s.updateCall api change).calls api = change (s.calls api) := if_pos rfl

end State

namespace Console
variable {σ : Type} {backend : Request → StateM σ Reply} {s : σ} {c d : Console} {api : Api}
  {payload : api.Payload} {credentials : Credentials} {silent : Bool}

/-- All that the state learns of a call are the two records of it. -/
theorem afterCall_records (c : Console) (api : Api) (payload : api.Payload)
    (outcome : Except CallError (api.Answer × Json)) :
    (c.afterCall api payload outcome).state =
      (completion api (c.tickets + 1) outcome).apply
        (c.state.updateCall api (·.requested (c.tickets + 1))) := by
  obtain ⟨client, requests, hafter⟩ := afterCall_eq c api payload outcome
  rw [hafter]
  rfl

theorem agreeBut_afterCall (c : Console) (api : Api) (payload : api.Payload)
    (outcome : Except CallError (api.Answer × Json)) :
    State.AgreeBut api c.state (c.afterCall api payload outcome).state := by
  have hended : State.AgreeBut api (c.state.updateCall api (·.requested (c.tickets + 1)))
      (c.afterCall api payload outcome).state := by
    rw [afterCall_records]
    cases outcome <;> simp only [completion, Action.apply, State.agreeBut_updateCall]
  exact (State.agreeBut_updateCall c.state api _).trans hended

/-- After a call its entry has no error but that of the call, and none at all where the entry is
ahead of all tickets, so that the call's end is not noted in it. -/
theorem afterCall_error (c : Console) (api : Api) (payload : api.Payload)
    (outcome : Except CallError (api.Answer × Json)) :
    let entry := (c.afterCall api payload outcome).state.calls api
    entry.error = none ∨ ∃ e, outcome = .error e ∧ entry.error = some (api.display e) := by
  intro entry
  simp only [entry, afterCall_records]
  rcases outcome with e | ⟨answer, raw⟩ <;>
    simp only [completion, Action.apply, State.updateCall_calls]
  · obtain h | h := CallState.error_failed ((c.state.calls api).requested (c.tickets + 1))
      (c.tickets + 1) (api.display e)
    · exact .inl h
    · exact .inr ⟨e, rfl, h⟩
  · exact .inl (CallState.error_answered _ _ _ rfl)

theorem afterCall_requests {sender : Option Credentials}
    (h : c.identify api payload = .ok sender) (outcome : Except CallError (api.Answer × Json)) :
    (c.afterCall api payload outcome).requests =
      c.requests ++ [Sending.request ⟨c, api, payload⟩] := by
  rcases hc : c.call api payload with ⟨ticket, sent, c'⟩
  cases sent with
  | error e => cases h.symm.trans (call_eq_error hc).1
  | ok id =>
    rw [afterCall_of_call hc]
    exact (requests_of_call hc :)

/-- What a failed login leaves behind. -/
structure RefusedLogin (credentials : Credentials) (silent : Bool) (c d : Console) : Prop where
  requests : d.requests = c.requests ++ [Sending.request ⟨c, .login, credentials⟩]
  storage : d.storage = c.storage
  state : State.AgreeBut .login c.state d.state
  error : (d.state.calls .login).error = none ∨
    (d.state.calls .login).error = some "incorrect details"
  signals : d.signals = c.signals ++ refusal silent

theorem refusedLogin_afterCall (c : Console) (credentials : Credentials) (silent : Bool)
    (outcome : Except CallError (Api.login.Answer × Json)) :
    let d := c.afterCall .login credentials outcome
    RefusedLogin credentials silent c { d with signals := d.signals ++ refusal silent } := by
  intro d
  have hkeeps := keepsSession_afterCall c .login credentials outcome
  have hsender : c.identify .login credentials = .ok (some credentials) := rfl
  refine ⟨afterCall_requests hsender outcome, hkeeps.storage,
    agreeBut_afterCall c .login credentials outcome, ?_, congrArg (· ++ _) hkeeps.signals⟩
  obtain hnone | ⟨e, _, herror⟩ := afterCall_error c .login credentials outcome
  · exact .inl hnone
  · exact .inr herror

theorem LoginEnd.refusedLogin {xs : List Exchange} (h : c.LoginEnd credentials silent xs false d) :
    RefusedLogin credentials silent c d := by
  cases h with
  | refused _ called =>
    subst called
    exact refusedLogin_afterCall c credentials silent _

/-- No session is confirmed just if the backend answers with no profile, or with one of nobody. -/
theorem confirmed?_heard_eq_none :
    confirmed? credentials (heard backend s ⟨c, .login, credentials⟩) = none ↔
      ∀ profile, Answers backend s ⟨c, .login, credentials⟩ profile → profile.isValid = false := by
  simp only [answers_iff]
  rcases heard backend s ⟨c, .login, credentials⟩ with e | ⟨profile, raw⟩
  · simp [confirmed?]
  · simp [confirmed?]

/-- The operations that log in with certain credentials: those that they are given, and those that
have been typed into the login form. -/
inductive LogsIn (c : Console) : Operation → Credentials → Prop
  | asked (given : Credentials) : LogsIn c (.login given) given
  | typed (valid : (c.state.form .login).valid) :
      LogsIn c (.hook .loginSubmit) (Workflow.typedCredentials (c.state.form .login).values)

end Console

namespace Workflow
open Console
variable {σ τ : Type} {backend : Request → StateM σ Reply} {s : σ} {c : Console}
  {credentials : Credentials} {silent : Bool}

theorem loginEnd_complete (config : Config) (c : Console) (credentials : Credentials)
    (silent : Bool) (backend : Request → StateM σ Reply) (s : σ) :
    let ended := ((complete backend (login config credentials silent) c).run s).1
    c.LoginEnd credentials silent (exchanges backend (login config credentials silent) c s)
      ended.1 ended.2 :=
  (ends_login_loginEnd config credentials silent c).complete backend s

/-- A login succeeds just if its call confirms a session. -/
theorem login_succeeds (config : Config) (c : Console) (credentials : Credentials) (silent : Bool)
    (backend : Request → StateM σ Reply) (s : σ) :
    ((complete backend (login config credentials silent) c).run s).1.1 =
      (confirmed? credentials (heard backend s ⟨c, .login, credentials⟩)).isSome :=
  (loginEnd_complete config c credentials silent backend s).ok_eq (answeredBy_exchanges ..)

theorem refusedLogin_of_fails (config : Config)
    (h : ((complete backend (login config credentials silent) c).run s).1.1 = false) :
    RefusedLogin credentials silent c
      ((complete backend (login config credentials silent) c).run s).1.2 := by
  have hended := loginEnd_complete config c credentials silent backend s
  dsimp only at hended
  rw [h] at hended
  exact hended.refusedLogin

/-- A login fails just if the backend names nobody in its answer, and whatever else it replies then
leaves the same traces: one request, the entry of its call and, unless the login is silent, the same
signal. -/
theorem failed_login_tells_nothing (config : Config) (c : Console) (credentials : Credentials)
    (silent : Bool) (backend : Request → StateM σ Reply) (s : σ) :
    let ended := ((complete backend (login config credentials silent) c).run s).1
    (ended.1 = false ↔
      ∀ profile, Answers backend s ⟨c, .login, credentials⟩ profile → profile.isValid = false) ∧
    (ended.1 = false → RefusedLogin credentials silent c ended.2 ∧
      ∀ (backend' : Request → StateM τ Reply) (t : τ),
        let other := ((complete backend' (login config credentials silent) c).run t).1
        other.1 = false → other.2.signals = ended.2.signals ∧
          State.AgreeBut .login ended.2.state other.2.state) := by
  intro ended
  refine ⟨?_, fun hended => ?_⟩
  · rw [← confirmed?_heard_eq_none, ← Option.isNone_iff_eq_none, ← Option.isSome_eq_false_iff]
    exact iff_of_eq (congrArg (· = false) (login_succeeds config c credentials silent backend s))
  · have hrefused := refusedLogin_of_fails config hended
    refine ⟨hrefused, fun backend' t => ?_⟩
    intro other hother
    have hrefused' := refusedLogin_of_fails config hother
    exact ⟨hrefused'.signals.trans hrefused.signals.symm,
      hrefused.state.symm.trans hrefused'.state⟩

/-- Somebody is logged in already. -/
def occupied : Console :=
  (start .default .empty keptSession).onStore (·.dispatch (.setUser (some (.typed "ann" "secret"))))

/-- A profile of nobody. -/
def nobody : Reply := .received 200 "\x7b\"id\":0,\"result\":\x7b\"Id\":\"\"\x7d\x7d".toUTF8

/-- What comes of somebody else's login there, with one reply to everything. -/
def attempted (reply : Reply) : Bool × Console :=
  ((complete (fun _ => (pure reply : StateM Unit Reply))
    (login .default (.typed "bob" "geheim") false) occupied).run ()).1

/-- A backend that cannot be reached cannot be told from one that names nobody, except by what is
noted of the call. -/
theorem failed_login_tells_nothing_occupied :
    ((attempted .unreachable).1 = false ∧ (attempted nobody).1 = false) ∧
      RefusedLogin (.typed "bob" "geheim") false occupied (attempted .unreachable).2 ∧
      (attempted nobody).2.signals = (attempted .unreachable).2.signals ∧
      State.AgreeBut .login (attempted .unreachable).2.state (attempted nobody).2.state ∧
      ((attempted .unreachable).2.state.calls .login).error ≠ none ∧
      ((attempted nobody).2.state.calls .login).error = none := by
  have hunreachable : (attempted .unreachable).1 = false := by decide +kernel
  have hnobody : (attempted nobody).1 = false := by decide +kernel
  have hnoted : ((attempted .unreachable).2.state.calls .login).error ≠ none := by decide +kernel
  have hunnoted : ((attempted nobody).2.state.calls .login).error = none := by decide +kernel
  unfold attempted at *
  obtain ⟨_, htells⟩ := failed_login_tells_nothing (τ := Unit) .default occupied
    (.typed "bob" "geheim") false (fun _ => (pure .unreachable : StateM Unit Reply)) ()
  obtain ⟨hrefused, hsame⟩ := htells hunreachable
  obtain ⟨hsignals, hstate⟩ := hsame (fun _ => pure nobody) () hnobody
  exact ⟨⟨hunreachable, hnobody⟩, hrefused, hsignals, hstate, hnoted, hunnoted⟩

/-- Both ways to log in leave the same console. -/
theorem ends_logsIn {op : Operation} (h : c.LogsIn op credentials) (config : Config)
    {Q : List Exchange → Console → Prop}
    (hlogin : Ends (login config credentials false) c fun xs _ d => Q xs d) :
    Ends (op.workflow config) c fun xs _ d => Q xs d := by
  cases h with
  | asked => exact ends_bind.mpr (hlogin.mono fun xs ok d hd => ends_pure.mpr (by simpa using hd))
  | typed valid =>
    refine Ends.returning (Ends.returning ?_ ()) Outcome.nothing
    unfold submitLogin
    rw [ends_bind, ends_validForm, if_pos valid]
    exact hlogin

theorem transient_login_storage (config : Config) {op : Operation} (h : c.LogsIn op credentials)
    (hremember : credentials.remember = false) {profile : Profile} (hvalid : profile.isValid)
    (backend : Request → StateM σ Reply) (s : σ)
    (hanswer : Answers backend s ⟨c, .login, credentials⟩ profile) :
    let d := ((complete backend (op.workflow config) c).run s).1.2
    d.state.user = some (credentials.merge profile) ∧ d.storage = c.storage := by
  intro d
  have hlogin : Ends (login config credentials false) c fun xs _ d =>
      ∃ ok, c.LoginEnd credentials false xs ok d :=
    (ends_login_loginEnd config credentials false c).mono fun _ ok _ hd => ⟨ok, hd⟩
  obtain ⟨ok, hended⟩ := (ends_logsIn h config hlogin).complete backend s
  obtain ⟨_, hin⟩ := hended.enters (answeredBy_exchanges ..) hanswer hvalid
  have hmerged : (credentials.merge profile).remember = false := hremember
  have hstorage := hin.storage
  rw [hmerged, if_neg Bool.false_ne_true] at hstorage
  exact ⟨hin.user, hstorage⟩

/-- A login that is not to be remembered stores nothing and forgets nothing: a session that could be
restored before still can be, whoever left it, and it is the one that the next cold start tries. -/
theorem transient_login_keeps_stored (config : Config) {op : Operation}
    (h : c.LogsIn op credentials) (hremember : credentials.remember = false)
    {profile : Profile} (hvalid : profile.isValid) (backend : Request → StateM σ Reply) (s : σ)
    (hanswer : Answers backend s ⟨c, .login, credentials⟩ profile) :
    let key := c.config.sessionKey
    let stored := restorable? (c.storage.load key)
    let d := ((complete backend (op.workflow config) c).run s).1.2
    d.state.user = some (credentials.merge profile) ∧ restorable? (d.storage.load key) = stored ∧
      ∀ (config' : Config) (table : Route.Table), config'.sessionKey = key →
        Route.Table.build Route.consoleDeclarations = .ok table →
        ∀ (path : String) (backend' : Request → StateM τ Reply) (t : τ),
          let restart := start config' table d.storage
          let work := (Operation.coldStart path).workflow config'
          Restoration restart stored (exchanges backend' work restart t)
            ((complete backend' work restart).run t).1.2.state.user := by
  intro key stored d
  obtain ⟨huser, hstorage⟩ := transient_login_storage config h hremember hvalid backend s hanswer
  have hstored : restorable? (d.storage.load key) = stored :=
    congrArg (fun storage => restorable? (storage.load key)) hstorage
  refine ⟨huser, hstored, ?_⟩
  intro config' table hkey hbuild path backend' t restart work
  have hdirect : restart.table.IsDirect := Route.Table.isDirect_console hbuild
  obtain ⟨route, _, hstarted⟩ := (ends_coldStart config' path hdirect).complete backend' t
  have hrestart : restorable? (restart.storage.load restart.config.sessionKey) = stored :=
    (congrArg (fun k => restorable? (d.storage.load k)) hkey).trans hstored
  rw [← hrestart]
  exact hstarted.restoration

/-- Bob's login over the session that ann has left. -/
def loggedInOver : Console :=
  ((complete confirming ((Operation.login (.typed "bob" "geheim")).workflow .default)
    (start .default .empty keptSession)).run ()).1.2

/-- The cold start after bob's login is ann's. -/
theorem transient_login_keeps_stored_otherUser :
    (LogsIn (start .default .empty keptSession) (.login (.typed "bob" "geheim"))
        (.typed "bob" "geheim") ∧
      Answers confirming () ⟨start .default .empty keptSession, .login, .typed "bob" "geheim"⟩
        namelessProfile) ∧
    loggedInOver.state.userName? = some "bob" ∧
    restorable? (loggedInOver.storage.load "user") = some (.typed "ann" "secret") ∧
    ∃ table, Route.Table.build Route.consoleDeclarations = .ok table ∧
      let restart := start .default table loggedInOver.storage
      let work := (Operation.coldStart "/").workflow .default
      let ended := ((complete confirming work restart).run ()).1.2
      Restoration restart (some (.typed "ann" "secret")) (exchanges confirming work restart ())
          ended.state.user ∧
        ended.state.userName? = some "ann" := by
  have hann : restorable? ((start .default .empty keptSession).storage.load
      (start .default .empty keptSession).config.sessionKey) = some (.typed "ann" "secret") := by
    decide +kernel
  let table : Route.Table := (Route.Table.build Route.consoleDeclarations).toOption.getD .empty
  have hbuild : Route.Table.build Route.consoleDeclarations = .ok table := by decide +kernel
  have hanswer := answers_confirming keptSession (.typed "bob" "geheim")
  obtain ⟨huser, hstored, hrestarts⟩ := transient_login_keeps_stored (τ := Unit) .default
    (.asked _) rfl rfl confirming () hanswer
  rw [hann] at hstored hrestarts
  unfold loggedInOver
  refine ⟨⟨.asked _, hanswer⟩, ?_, hstored, table, hbuild,
    hrestarts .default table rfl hbuild "/" confirming (), ?_⟩
  · rw [State.userName?, huser]
    rfl
  · decide +kernel

/-- The stored session of somebody else outlives a login. -/
theorem stored_session_outlives_login :
    ¬ ∀ (c : Console) (credentials : Credentials) (profile : Profile)
      (backend : Request → StateM Unit Reply), credentials.remember = false → profile.isValid →
      Answers backend () ⟨c, .login, credentials⟩ profile →
      let d := ((complete backend ((Operation.login credentials).workflow c.config) c).run ()).1.2
      restorable? (d.storage.load c.config.sessionKey) = none := by
  intro h
  have hforgotten : ∀ c, Answers confirming () ⟨c, .login, .typed "bob" "geheim"⟩ namelessProfile →
      restorable? (c.storage.load c.config.sessionKey) = none := by
    intro c hanswer
    obtain ⟨_, hstorage⟩ :=
      transient_login_storage c.config (.asked _) rfl rfl confirming () hanswer
    rw [← hstorage]
    exact h c _ namelessProfile confirming rfl rfl hanswer
  refine absurd (hforgotten (start .default .empty keptSession) (answers_confirming _ _)) ?_
  decide +kernel

end Workflow
end StorageConsole
