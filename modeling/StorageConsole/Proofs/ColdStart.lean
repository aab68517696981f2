import StorageConsole.Proofs.RequestSession
import StorageConsole.Proofs.Routing
import StorageConsole.Proofs.Uninterrupted

/-!
The cold start. Whatever text is stored for the session and whatever the backend answers, the
console ends on a page that its visitor may see, with its loop running: a session that cannot be
restored is none, and nothing is said about it.
-/
namespace StorageConsole

open Backend (Api CallError LoadResult Reply Request)

namespace Console
variable {σ α : Type} {backend : Request → StateM σ Reply} {c d e : Console} {s : σ} {api : Api}
  {x : Sending}

/-- Nobody has come or gone, nothing was signalled, and routes and loops are as they were. -/
structure Undisturbed (c d : Console) : Prop where
  user : d.state.user = c.state.user
  table : d.table = c.table
  signals : d.signals = c.signals
  loop : d.loop = c.loop

theorem Undisturbed.trans (h : c.Undisturbed d) (h' : d.Undisturbed e) : c.Undisturbed e :=
  ⟨h'.user.trans h.user, h'.table.trans h.table, h'.signals.trans h.signals, h'.loop.trans h.loop⟩

theorem undisturbed_afterCall (c : Console) (api : Api) (payload : api.Payload)
    (outcome : Except CallError (api.Answer × Json)) :
    c.Undisturbed (c.afterCall api payload outcome) := by
  obtain ⟨client, requests, hafter⟩ := afterCall_eq c api payload outcome
  rw [hafter]
  cases outcome <;> exact ⟨rfl, rfl, rfl, rfl⟩

/-- The calls that go out in a run with nothing in between go out in the right name. -/
theorem isIdentified_of_mem_sendings {w : Workflow α} (h : x ∈ sendings backend w c s) :
    x.IsIdentified := by
  induction w generalizing c s with
  | done value => cases h
  | act effect next ih => exact ih _ h
  | await api payload next ih =>
    rcases hc : c.call api payload with ⟨ticket, sent, c'⟩
    cases sent with
    | error e =>
      rw [sendings_await_error hc] at h
      exact ih _ h
    | ok id =>
      rw [sendings_await_ok hc] at h
      rcases (backend (c'.requests.getLastD default)).run s with ⟨reply, s'⟩
      rcases List.mem_cons.mp h with rfl | h
      · have hstarts : Sending.Starts ⟨c, api, payload⟩
            ⟨api, ticket, id, fun _ => .done .nothing⟩ c' := ⟨rfl, hc⟩
        exact isIdentified_of_starts hstarts
      · exact ih _ h

/-- The session that a login call has confirmed. -/
def confirmed? (credentials : Credentials) :
    Except CallError (Api.login.Answer × Json) → Option Credentials
  | .ok (profile, _) => if profile.isValid then some (credentials.merge profile) else none
  | .error _ => none

/-- What a restoration exchanges with the backend, and whom it leaves logged in: without a stored
session nothing and the user from before, and otherwise the login in the stored session's name,
which the public configuration follows just if the session is confirmed. -/
inductive Restoration (c : Console) : Option Credentials → List Exchange → Option Credentials → Prop
  | unknown : Restoration c none [] c.state.user
  | refused {credentials outcome} (unconfirmed : confirmed? credentials outcome = none) :
      Restoration c (some credentials) [⟨⟨c, .login, credentials⟩, outcome⟩] c.state.user
  | entered {credentials outcome session d loaded}
      (confirmed : confirmed? credentials outcome = some session)
      (inside : d.state.user = some session) : Restoration c (some credentials)
        [⟨⟨c, .login, credentials⟩, outcome⟩, ⟨⟨d, .config, ()⟩, loaded⟩] (some session)

/-- Of a restoration the backend is asked who the user is, and then for the public configuration. -/
theorem Restoration.asks {stored user : Option Credentials} {xs : List Exchange}
    {endpoint : Backend.Endpoint} (h : Restoration c stored xs user)
    (hsent : ∀ x ∈ xs, x.request.Carries endpoint (x.api.message x.payload)) :
    ∀ x ∈ xs, (x.api = .login ∧ x.request.Asks endpoint "CurrentUser" (.obj [])) ∨
      x.api = .config ∧ x.request.Asks endpoint "Config" (.obj []) := by
  intro x hx
  have hx' := hsent x hx
  cases h with
  | unknown => cases hx
  | refused =>
    obtain rfl := List.mem_singleton.mp hx
    exact .inl ⟨rfl, hx'⟩
  | entered =>
    rcases List.mem_pair.mp hx with rfl | rfl
    · exact .inl ⟨rfl, hx'⟩
    · exact .inr ⟨rfl, hx'⟩

end Console

namespace Workflow
open Console
variable {c : Console} {user session credentials : Credentials}

theorem ends_loadPublicConfig (h : c.state.user = some user) :
    Ends loadPublicConfig c fun xs _ d =>
      (∃ loaded, xs = [⟨⟨c, .config, ()⟩, loaded⟩]) ∧ c.Undisturbed d := by
  unfold loadPublicConfig
  rw [ends_bind, ends_call_of_ok (identify_of_user h rfl)]
  intro outcome
  obtain ⟨huser, htable, hsignals, hloop⟩ := undisturbed_afterCall c .config () outcome
  cases (Api.report .config outcome).toExcept <;>
    exact ends_set.mpr ⟨⟨outcome, rfl⟩, huser, htable, hsignals, hloop⟩

/-- A session that is entered in silence loads the public configuration in its own name. -/
theorem ends_enterSession (config : Config) (session : Credentials) (c : Console) :
    Ends (enterSession config session true) c fun xs _ d =>
      (∃ e loaded, e.state.user = some session ∧ xs = [⟨⟨e, .config, ()⟩, loaded⟩]) ∧
        (c.onStore (·.dispatch (.setUser (some session)))).Undisturbed d := by
  have hload : ∀ e, (c.onStore (·.dispatch (.setUser (some session)))).Undisturbed e →
      Ends loadPublicConfig e fun xs _ d =>
        (∃ e loaded, e.state.user = some session ∧ xs = [⟨⟨e, .config, ()⟩, loaded⟩]) ∧
          (c.onStore (·.dispatch (.setUser (some session)))).Undisturbed
            (d.onStore (·.dispatch (.setReposLoaded false))) := by
    intro e he
    refine (ends_loadPublicConfig he.user).mono fun xs _ d hd => ?_
    obtain ⟨⟨loaded, hxs⟩, hd⟩ := hd
    have hset : d.Undisturbed (d.onStore (·.dispatch (.setReposLoaded false))) :=
      ⟨rfl, rfl, rfl, rfl⟩
    exact ⟨⟨e, loaded, he.user, hxs⟩, (he.trans hd).trans hset⟩
  unfold enterSession
  cases session.remember <;>
    simp only [ends_bind, ends_setAlways, ends_keepSession, ends_set, ends_pure, Bool.not_true,
      Bool.false_eq_true, if_true, if_false, List.nil_append, List.append_nil] <;>
    exact hload _ ⟨rfl, rfl, rfl, rfl⟩

/-- What a login does once its call has come to an end. -/
def concludeLogin (config : Config) (silent : Bool) : Option Credentials → Workflow Bool
  | some session => enterSession config session silent
  | none => refuseLogin silent

theorem concludeLogin_confirmed? (config : Config) (credentials : Credentials) (silent : Bool)
    (outcome : Except CallError (Api.login.Answer × Json)) :
    (match (Api.login.report outcome).toExcept with
      | .ok profile =>
        if profile.isValid then enterSession config (credentials.merge profile) silent
        else refuseLogin silent
      | .error _ => refuseLogin silent) =
    concludeLogin config silent (confirmed? credentials outcome) := by
  rcases outcome with e | ⟨profile, raw⟩
  · rfl
  · cases hvalid : profile.isValid <;>
      simp [Api.report, LoadResult.answered, LoadResult.toExcept, confirmed?, concludeLogin, hvalid]

/-- A login always makes its call, and goes on with the session that this confirms. -/
theorem ends_login_iff {config : Config} {silent : Bool}
    {Q : List Exchange → Bool → Console → Prop} :
    Ends (login config credentials silent) c Q ↔
      ∀ outcome, Ends (concludeLogin config silent (confirmed? credentials outcome))
        (c.afterCall .login credentials outcome)
        fun xs => Q (⟨⟨c, .login, credentials⟩, outcome⟩ :: xs) := by
  have hsender : c.identify .login credentials = .ok (some credentials) := rfl
  unfold login
  rw [ends_bind, ends_call_of_ok hsender]
  refine forall_congr' fun outcome => ?_
  rw [← concludeLogin_confirmed?]
  rfl

/-- A silent login disturbs nobody: who is logged in afterwards is all that may change. -/
theorem ends_login (config : Config) (credentials : Credentials) (c : Console) :
    Ends (login config credentials true) c fun xs _ d =>
      Restoration c (some credentials) xs d.state.user ∧ d.table = c.table ∧
        d.signals = c.signals ∧ d.loop = c.loop := by
  refine ends_login_iff.mpr fun outcome => ?_
  have hcall := undisturbed_afterCall c .login credentials outcome
  cases hconfirmed : confirmed? credentials outcome with
  | none =>
    refine ends_pure.mpr ⟨?_, hcall.table, hcall.signals, hcall.loop⟩
    rw [hcall.user]
    exact .refused hconfirmed
  | some session =>
    refine (ends_enterSession config session _).mono fun ys _ d hd => ?_
    obtain ⟨⟨e, loaded, hinside, rfl⟩, hd⟩ := hd
    refine ⟨?_, hd.table.trans hcall.table, hd.signals.trans hcall.signals,
      hd.loop.trans hcall.loop⟩
    rw [hd.user]
    exact .entered hconfirmed hinside

/-- What is restored is what a silent login in the stored session's name leaves. -/
theorem ends_restore_iff {config : Config} {Q : List Exchange → Bool → Console → Prop}
    (h : restorable? (c.storage.load c.config.sessionKey) = some credentials) :
    Ends (restore config) c Q ↔ Ends (login config credentials true) c Q := by
  have hstored : (c.perform none .retrieve).1 = c.storage.load c.config.sessionKey := rfl
  unfold restore
  rw [ends_bind, ends_perform, hstored, h]
  exact Iff.rfl

theorem ends_restore (config : Config) (c : Console) :
    Ends (restore config) c fun xs _ d =>
      Restoration c (restorable? (c.storage.load c.config.sessionKey)) xs d.state.user ∧
        d.table = c.table ∧ d.signals = c.signals ∧ d.loop = c.loop := by
  cases hstored : restorable? (c.storage.load c.config.sessionKey) with
  | none =>
    have hnothing : restorable? (c.perform none .retrieve).1 = none := hstored
    unfold restore
    rw [ends_bind, ends_perform, hnothing]
    exact ends_pure.mpr ⟨.unknown, rfl, rfl, rfl⟩
  | some credentials => exact (ends_restore_iff hstored).mpr (ends_login config credentials c)

end Workflow

namespace Console
variable {c : Console}

/-- What a cold start comes to, before its loop has had a turn: what it has exchanged to restore a
session, and the console on a page that its visitor may see. -/
structure StartedAt (c : Console) (route : Route.Match) (xs : List Exchange) (d : Console) :
    Prop where
  restoration :
    Restoration c (Workflow.restorable? (c.storage.load c.config.sessionKey)) xs d.state.user
  initialized : d.state.initialized
  shown : d.state.route = route
  allowed : route.policy.guard d.state.user.isSome = none
  loop : d.loop = c.loop.start
  signals : ∃ targets : List String, targets.length ≤ 1 ∧
    d.signals = c.signals ++ targets.map .redirected

/-- On a direct table the last part of a cold start lands on an allowed page and starts the loop. -/
theorem ends_landing (path : String) (h : c.table.IsDirect) :
    Ends (do
      let result ← Workflow.perform (.visit path)
      if result.isOk then
        Workflow.perform .startLoop
      return Outcome.landed result) c fun xs outcome d =>
        xs = [] ∧ ∃ (route : Route.Match) (routeGeneration : Nat) (targets : List String),
          outcome = .landed (.ok route) ∧ d.state = { c.state with route, routeGeneration } ∧
          route.policy.guard c.state.user.isSome = none ∧ d.loop = c.loop.start ∧
          targets.length ≤ 1 ∧ d.signals = c.signals ++ targets.map .redirected := by
  obtain ⟨route, targets, hlands, hlength, hsignals, hstate, hallowed⟩ :=
    Store.navigate_of_direct h path
  have hlands : (c.perform none (.visit path)).1 = .ok route := hlands
  rw [ends_bind, ends_perform, hlands]
  change Ends (Workflow.perform .startLoop >>= fun _ => pure (Outcome.landed (.ok route))) _ _
  rw [ends_bind, ends_perform, ends_pure]
  exact ⟨rfl, route, _, targets, rfl, hstate, hallowed, rfl, hlength, hsignals⟩

/-- On a direct table a cold start lands, whatever is stored and whatever the backend answers. -/
theorem ends_coldStart (config : Config) (path : String) (h : c.table.IsDirect) :
    Ends (Operation.coldStartWorkflow config path) c fun xs outcome d =>
      ∃ route, outcome = .landed (.ok route) ∧ c.StartedAt route xs d := by
  unfold Operation.coldStartWorkflow
  rw [ends_bind]
  refine (Workflow.ends_restore config c).mono fun xs _ d hd => ?_
  obtain ⟨hrestored, htable, hsignals, hloop⟩ := hd
  rw [ends_bind, ends_setAlways]
  have hdirect : (d.onStore (·.dispatch (.setInitialized true))).table.IsDirect := by
    rw [← htable] at h
    exact h
  refine (ends_landing path hdirect).mono fun ys outcome e he => ?_
  obtain ⟨rfl, route, generation, targets, rfl, hstate, hallowed, hstarted, hlength, hsent⟩ := he
  have huser : e.state.user = d.state.user := (congrArg State.user hstate :)
  have hinitialized : e.state.initialized := (congrArg State.initialized hstate :)
  have hshown : e.state.route = route := (congrArg State.route hstate :)
  refine ⟨route, rfl, ?_, hinitialized, hshown, ?_,
    hstarted.trans (congrArg ControlLoop.start hloop), targets, hlength, ?_⟩
  · rw [huser, List.nil_append, List.append_nil]
    exact hrestored
  · rw [huser]
    exact hallowed
  · rw [hsent, ← hsignals]
    rfl

/-- On the console's own routes every cold start lands, whatever text is stored for the session and
whatever the backend answers: nothing is sent without a readable session that names somebody, and
otherwise the login in its name, which the public configuration follows just if the login succeeds.
All that is signalled is at most one redirect. The events of the run are the start and the replies
to its job, one after the other. -/
theorem cold_start_always_lands {σ : Type} (config : Config) {table : Route.Table}
    (storage : Storage) (console : Route.Table.build Route.consoleDeclarations = .ok table)
    (backend : Request → StateM σ Reply) (s : σ) (path : String) :
    let c := start config table storage
    let work := (Operation.coldStart path).workflow config
    let xs := exchanges backend work c s
    let ended := ((complete backend work c).run s).1
    (∃ route, ended.1 = .landed (.ok route) ∧ c.StartedAt route xs ended.2) ∧
      ended.2.loop.isRunning ∧ ended.2.requests = xs.map (·.request) ∧
      (∀ x ∈ xs, x.IsIdentified) ∧
      (∀ x ∈ xs, (x.api = .login ∧ x.request.Asks c.client.endpoint "CurrentUser" (.obj [])) ∨
        x.api = .config ∧ x.request.Asks c.client.endpoint "Config" (.obj [])) ∧
      c.runAll (.run (.coldStart path) :: (replies backend s xs).map (.answer 0)) =
        { ended.2 with jobsStarted := 1, finished := ended.2.finished ++ [(0, ended.1)] } := by
  intro c work xs ended
  have hcalls : xs.map Exchange.toSending = sendings backend work c s :=
    exchanges_map_toSending work c s
  have hended : ∃ route, ended.1 = .landed (.ok route) ∧ c.StartedAt route xs ended.2 :=
    (ends_coldStart config path (Route.Table.isDirect_console console)).complete backend s
  refine ⟨hended, ?_, ?_, fun x hx => ?_, ?_,
    run_answered numbered_start (.coldStart path) backend s⟩
  · obtain ⟨route, _, hstarted⟩ := hended
    rw [hstarted.loop]
    rfl
  · have hrequests : ended.2.requests = c.requests ++ (sendings backend work c s).map _ :=
      requests_complete work c s
    rw [hrequests, ← hcalls, List.map_map]
    rfl
  · have hsent : x.toSending ∈ sendings backend work c s := by
      rw [← hcalls]
      exact List.mem_map_of_mem hx
    exact isIdentified_of_mem_sendings hsent
  · obtain ⟨route, _, hstarted⟩ := hended
    exact hstarted.restoration.asks fun x hx => carries_of_mem_exchanges hx

/-- A stored session whose text is no JSON any more. -/
def brokenSession : Storage := .memory (Named.ofList [("user", "\x7b\"Name\":\"ann\"")])

/-- A stored session, kept in a folder. -/
def keptSession : Storage := .folder (.made (Named.ofList
  [("user.json", .file "\x7b\"Name\":\"ann\",\"Password\":\"secret\"\x7d" true)]))

/-- A backend that confirms a console's first call and answers no other one. -/
def confirmingOnce (_ : Request) : StateM Unit Reply := pure .confirmation

/-- With a session that can be read, and without one. -/
theorem cold_start_always_lands_bothWays :
    ∃ table, Route.Table.build Route.consoleDeclarations = .ok table ∧
      (let c := start .default table keptSession
      let work := (Operation.coldStart "/login").workflow .default
      let ended := ((complete confirmingOnce work c).run ()).1
      let xs := exchanges confirmingOnce work c ()
      (∃ route, ended.1 = .landed (.ok route) ∧ c.StartedAt route xs ended.2) ∧
        xs.map (·.api) = [.login, .config] ∧ ended.2.state.route.path = "/dashboard") ∧
      let c := start .default table brokenSession
      let work := (Operation.coldStart "/repos").workflow .default
      let ended := ((complete confirmingOnce work c).run ()).1
      (∃ route, ended.1 = .landed (.ok route) ∧
        c.StartedAt route (exchanges confirmingOnce work c ()) ended.2) ∧
        ended.2.requests = [] ∧ ended.2.state.route.path = "/login" := by
  let table : Route.Table := (Route.Table.build Route.consoleDeclarations).toOption.getD .empty
  have hbuild : Route.Table.build Route.consoleDeclarations = .ok table := by decide +kernel
  have hkept := cold_start_always_lands .default keptSession hbuild confirmingOnce () "/login"
  have hbroken := cold_start_always_lands .default brokenSession hbuild confirmingOnce () "/repos"
  refine ⟨table, hbuild, ⟨hkept.1, ?_, ?_⟩, hbroken.1, ?_, ?_⟩
  · decide +kernel
  · decide +kernel
  · decide +kernel
  · decide +kernel

end Console
end StorageConsole
