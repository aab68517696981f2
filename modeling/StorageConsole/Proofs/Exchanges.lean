import StorageConsole.Proofs.Sending

/-!
What a workflow that runs to its end exchanges with the backend: the calls that go out, each with
what has come of it. `Ends` tells of the exchanges, the value and the console at the end together,
however the calls are answered.
-/
namespace StorageConsole

open Backend (Api CallError LoadResult Reply Request)

/-- A call that has gone out, with what has come of it. -/
structure Exchange extends Sending where
  outcome : Except CallError (api.Answer × Json)

/-- The yes or no that a call has been answered with, if that is how its api answers. -/
def Exchange.verdict? : Exchange → Option (Api × Bool)
  | ⟨⟨_, .repoCreate, _⟩, .ok (yes, _)⟩ => some (.repoCreate, yes)
  | ⟨⟨_, .invite, _⟩, .ok (yes, _)⟩ => some (.invite, yes)
  | ⟨⟨_, .pay, _⟩, .ok (yes, _)⟩ => some (.pay, yes)
  | _ => none

def verdicts (xs : List Exchange) : List (Api × Bool) := xs.filterMap Exchange.verdict?

/-- The request asks for a method with its parameters. -/
def Backend.Request.Asks (r : Request) (endpoint : Backend.Endpoint) (method : String)
    (params : Json) : Prop :=
  ∃ id, r.body = Backend.Envelope.wrap id (endpoint.qualified method) params

/-- The request posts a registration. -/
def Backend.Request.Registers (r : Request) (endpoint : Backend.Endpoint) (body : Json) : Prop :=
  r.url = Backend.withoutPrompt endpoint.registerUrl ∧ r.body = body

/-- The request takes the message to the backend. -/
def Backend.Request.Carries (r : Request) (endpoint : Backend.Endpoint) : Backend.Message → Prop
  | .call method params => r.Asks endpoint method params
  | .registration body => r.Registers endpoint body

namespace Store

/-- A navigation signals nothing but redirects. -/
theorem navigate_signals (s : Store) (path : String) :
    ∃ targets : List String,
      (s.navigate path).2.signals = s.signals ++ targets.map .redirected := by
  unfold navigate
  rcases s.table.follow s.state.user.isSome Route.Table.maxRedirects (s.table.resolve path)
    with ⟨_ | route, targets⟩
  · exact ⟨targets, rfl⟩
  · exact ⟨targets, rfl⟩

theorem redirect_signals (s : Store) (path : String) :
    ∃ targets : List String,
      (s.redirect path).signals = s.signals ++ (path :: targets).map .redirected := by
  obtain ⟨targets, h⟩ := navigate_signals (s.emit (.redirected path)) path
  refine ⟨targets, h.trans ?_⟩
  rw [List.map_cons, List.append_cons]
  rfl

end Store

namespace Console
variable {σ α β : Type} {backend : Request → StateM σ Reply} {c c' : Console} {s : σ} {api : Api}
  {payload : api.Payload} {next : LoadResult api.Answer → Workflow α} {ticket : Nat}
  {w : Workflow α} {Q Q' : List Exchange → α → Console → Prop}

/-- What is exchanged when a workflow runs to its end. -/
def exchanges (backend : Request → StateM σ Reply) : Workflow α → Console → σ → List Exchange
  | .done _, _, _ => []
  | .act effect next, c, s =>
    let (result, c) := c.perform none effect
    exchanges backend (next result) c s
  | .await api payload next, c, s =>
    let (ticket, sent, c') := c.call api payload
    match sent with
    | .error e =>
      let (result, c') := c'.endCall api ticket (.error e)
      exchanges backend (next result) c' s
    | .ok id =>
      let (reply, s) := (backend (c'.requests.getLastD default)).run s
      let outcome := api.answerOf id reply
      let (result, c') := c'.endCall api ticket outcome
      ⟨⟨c, api, payload⟩, outcome⟩ :: exchanges backend (next result) c' s

theorem exchanges_await_error {e : CallError} (h : c.call api payload = (ticket, .error e, c')) :
    exchanges backend (.await api payload next) c s =
      exchanges backend (next (api.report (.error e))) (c'.endCall api ticket (.error e)).2 s := by
  simp only [exchanges, h]
  rfl

theorem exchanges_await_ok {id : Option Nat} (h : c.call api payload = (ticket, .ok id, c')) :
    exchanges backend (.await api payload next) c s =
      let (reply, s) := (backend (c'.requests.getLastD default)).run s
      ⟨⟨c, api, payload⟩, api.answerOf id reply⟩ ::
        exchanges backend (next (api.report (api.answerOf id reply)))
          (c'.endCall api ticket (api.answerOf id reply)).2 s := by
  simp only [exchanges, h]
  rfl

/-- The calls of the exchanges are those that go out. -/
theorem exchanges_map_toSending (w : Workflow α) (c : Console) (s : σ) :
    (exchanges backend w c s).map Exchange.toSending = sendings backend w c s := by
  induction w generalizing c s with
  | done value => rfl
  | act effect next ih => exact ih _ _ s
  | await api payload next ih =>
    rcases hc : c.call api payload with ⟨ticket, sent, c'⟩
    cases sent with
    | error e =>
      rw [exchanges_await_error hc, sendings_await_error hc]
      exact ih _ _ s
    | ok id =>
      rw [exchanges_await_ok hc, sendings_await_ok hc]
      rcases (backend (c'.requests.getLastD default)).run s with ⟨reply, s'⟩
      rw [List.map_cons, ih]

/-- However its calls are answered, the workflow ends as `Q` says of what it has exchanged, of its
value and of the console. -/
def Ends : Workflow α → Console → (List Exchange → α → Console → Prop) → Prop
  | .done value, c, Q => Q [] value c
  | .act effect next, c, Q =>
    let (result, c) := c.perform none effect
    Ends (next result) c Q
  | .await api payload next, c, Q =>
    match c.identify api payload with
    | .error e => Ends (next (api.report (.error e))) (c.afterCall api payload (.error e)) Q
    | .ok _ => ∀ outcome, Ends (next (api.report outcome)) (c.afterCall api payload outcome)
        fun xs => Q (⟨⟨c, api, payload⟩, outcome⟩ :: xs)

theorem ends_await_of_error {e : CallError} (h : c.identify api payload = .error e) :
    Ends (.await api payload next) c Q ↔
      Ends (next (api.report (.error e))) (c.afterCall api payload (.error e)) Q := by
  rw [Ends, h]

theorem ends_await_of_ok {sender : Option Credentials} (h : c.identify api payload = .ok sender) :
    Ends (.await api payload next) c Q ↔
      ∀ outcome, Ends (next (api.report outcome)) (c.afterCall api payload outcome)
        fun xs => Q (⟨⟨c, api, payload⟩, outcome⟩ :: xs) := by
  rw [Ends, h]

/-- What holds of the end however the calls are answered, holds with each backend. -/
theorem Ends.complete (h : Ends w c Q) (backend : Request → StateM σ Reply) (s : σ) :
    Q (exchanges backend w c s) ((complete backend w c).run s).1.1
      ((complete backend w c).run s).1.2 := by
  induction w generalizing c s Q with
  | done value => exact h
  | act effect next ih => exact ih _ h s
  | await api payload next ih =>
    rcases hc : c.call api payload with ⟨ticket, sent, c'⟩
    have hafter := afterCall_of_call hc
    cases sent with
    | error e =>
      rw [ends_await_of_error (call_eq_error hc).1, hafter] at h
      rw [exchanges_await_error hc, complete_await_error hc]
      exact ih _ h s
    | ok id =>
      obtain ⟨sender, hs, _⟩ := call_eq_ok hc
      rw [exchanges_await_ok hc, complete_await_ok hc]
      rcases (backend (c'.requests.getLastD default)).run s with ⟨reply, s'⟩
      have hnext := (ends_await_of_ok hs).mp h (api.answerOf id reply)
      rw [hafter] at hnext
      exact ih _ hnext s'

/-- What comes of a call that the backend is asked in some state. -/
def heard (backend : Request → StateM σ Reply) (s : σ) (x : Sending) :
    Except CallError (x.api.Answer × Json) :=
  match (x.console.call x.api x.payload).2.1 with
  | .error e => .error e
  | .ok id => x.api.answerOf id ((backend x.request).run s).1

/-- The outcomes are what is heard from the backend, one exchange after the other. -/
def AnsweredBy (backend : Request → StateM σ Reply) : σ → List Exchange → Prop
  | _, [] => True
  | s, x :: xs => x.outcome = heard backend s x.toSending ∧
    AnsweredBy backend ((backend x.request).run s).2 xs

theorem AnsweredBy.outcome_eq {x : Sending} {outcome : Except CallError (x.api.Answer × Json)}
    {xs : List Exchange} (h : AnsweredBy backend s (⟨x, outcome⟩ :: xs)) :
    outcome = heard backend s x := h.1

theorem answeredBy_exchanges (backend : Request → StateM σ Reply) (w : Workflow α) (c : Console)
    (s : σ) : AnsweredBy backend s (exchanges backend w c s) := by
  induction w generalizing c s with
  | done value => trivial
  | act effect next ih => exact ih _ _ s
  | await api payload next ih =>
    rcases hc : c.call api payload with ⟨ticket, sent, c'⟩
    cases sent with
    | error e =>
      rw [exchanges_await_error hc]
      exact ih _ _ s
    | ok id =>
      rw [exchanges_await_ok hc]
      have hrequest : c'.requests.getLastD default = Sending.request ⟨c, api, payload⟩ := by
        rw [Sending.request, hc]
      refine ⟨?_, ?_⟩
      · simp only [heard, hc, hrequest]
        rfl
      · rw [hrequest]
        exact ih _ _ _

theorem Ends.mono (h : Ends w c Q) (hQ : ∀ xs a c', Q xs a c' → Q' xs a c') : Ends w c Q' := by
  induction w generalizing c Q Q' with
  | done value => exact hQ [] value c h
  | act effect next ih => exact ih _ h hQ
  | await api payload next ih =>
    cases hs : c.identify api payload with
    | error e =>
      rw [ends_await_of_error hs] at h ⊢
      exact ih _ h hQ
    | ok sender =>
      rw [ends_await_of_ok hs] at h ⊢
      exact fun outcome => ih _ (h outcome) fun xs => hQ (_ :: xs)

@[simp] theorem ends_pure {a : α} : Ends (pure a) c Q ↔ Q [] a c := Iff.rfl

@[simp] theorem ends_bind {f : α → Workflow β} {Q : List Exchange → β → Console → Prop} :
    Ends (w >>= f) c Q ↔ Ends w c fun xs a c' => Ends (f a) c' fun ys => Q (xs ++ ys) := by
  change Ends (w.bind f) c Q ↔ _
  induction w generalizing c Q with
  | done value => exact Iff.rfl
  | act effect next ih => exact ih _
  | await api payload next ih =>
    cases hs : c.identify api payload with
    | error e =>
      rw [Workflow.bind, ends_await_of_error hs, ends_await_of_error hs]
      exact ih _
    | ok sender =>
      rw [Workflow.bind, ends_await_of_ok hs, ends_await_of_ok hs]
      exact forall_congr' fun outcome => ih _

/-- What is returned in the place of the value does not matter to the rest. -/
theorem Ends.returning {Q : List Exchange → Console → Prop} (h : Ends w c fun xs _ c' => Q xs c')
    (b : β) : Ends (w >>= fun _ => pure b) c fun xs _ c' => Q xs c' := by
  simpa using h

@[simp] theorem ends_perform {e : Effect} {Q : List Exchange → e.Result → Console → Prop} :
    Ends (.perform e) c Q ↔ Q [] (c.perform none e).1 (c.perform none e).2 := Iff.rfl

@[simp] theorem ends_state {Q : List Exchange → State → Console → Prop} :
    Ends .state c Q ↔ Q [] c.state c := Iff.rfl

@[simp] theorem ends_set {a : Action} {Q : List Exchange → Unit → Console → Prop} :
    Ends (.set a) c Q ↔ Q [] () (c.onStore (·.dispatch a)) := Iff.rfl

@[simp] theorem ends_setAlways {a : Action} {Q : List Exchange → Unit → Console → Prop} :
    Ends (.setAlways a) c Q ↔ Q [] () (c.onStore (·.dispatch a)) := Iff.rfl

@[simp] theorem ends_signal {signal : Signal} {Q : List Exchange → Unit → Console → Prop} :
    Ends (.signal signal) c Q ↔ Q [] () (c.onStore (·.emit signal)) := Iff.rfl

@[simp] theorem ends_goTo {path : String} {Q : List Exchange → Unit → Console → Prop} :
    Ends (.goTo path) c Q ↔ Q [] () (c.onStore (·.redirect path)) := Iff.rfl

@[simp] theorem ends_tell {text : String} {Q : List Exchange → Unit → Console → Prop} :
    Ends (.tell text) c Q ↔
      Q [] () (c.onStore fun s => (s.dispatch (.setMessage (some text))).emit (.message text)) :=
  Iff.rfl

theorem ends_tell_return {text : String} {a : α} : Ends (do
      Workflow.tell text
      return a) c Q ↔
    Q [] a (c.onStore fun s => (s.dispatch (.setMessage (some text))).emit (.message text)) := by
  rw [ends_bind, ends_tell, ends_pure, List.append_nil]

@[simp] theorem ends_keepSession {session : Credentials}
    {Q : List Exchange → Except StorageError Unit → Console → Prop} :
    Ends (.keepSession session) c Q ↔
      Q [] (c.perform none (.keep session.toText)).1 (c.perform none (.keep session.toText)).2 :=
  Iff.rfl

/-- The values of a valid form are taken, and of another one the errors are shown. -/
theorem ends_validForm {form : FormName} {Q : List Exchange → Option FormValues → Console → Prop} :
    Ends (.validForm form) c Q ↔
      if (c.state.form form).valid then Q [] (some (c.state.form form).values) c
      else Q [] none (c.onStore (·.dispatch (.touchForm form))) := by
  unfold Workflow.validForm
  rw [ends_bind, ends_state]
  cases h : (c.state.form form).valid <;> simp [h]

/-- With a session every call finds in whose name it is made. -/
theorem identify_of_user {user : Credentials} (h : c.state.user = some user)
    (ha : api.identity = .session) : c.identify api payload = .ok (some user) := by
  simp only [identify, ha, h]

theorem isSome_of_identify {sender : Option Credentials} (h : c.identify api payload = .ok sender)
    (ha : api.identity = .session) : c.state.user.isSome = true := by
  cases huser : c.state.user with
  | some user => rfl
  | none =>
    simp only [identify, ha, huser] at h
    cases h

theorem ends_call_of_ok {sender : Option Credentials}
    {Q : List Exchange → LoadResult api.Answer → Console → Prop}
    (h : c.identify api payload = .ok sender) :
    Ends (.call api payload) c Q ↔
      ∀ outcome, Q [⟨⟨c, api, payload⟩, outcome⟩] (api.report outcome)
        (c.afterCall api payload outcome) := ends_await_of_ok h

theorem ends_call_of_error {e : CallError}
    {Q : List Exchange → LoadResult api.Answer → Console → Prop}
    (h : c.identify api payload = .error e) :
    Ends (.call api payload) c Q ↔
      Q [] (api.report (.error e)) (c.afterCall api payload (.error e)) := ends_await_of_error h

/-- How a call comes to its outcome: at once, or in an exchange. -/
inductive Called (c : Console) (api : Api) (payload : api.Payload) :
    List Exchange → Except CallError (api.Answer × Json) → Prop
  | unsent {e} (nobody : c.identify api payload = .error e) : Called c api payload [] (.error e)
  | sent {sender} (found : c.identify api payload = .ok sender) (outcome) :
      Called c api payload [⟨⟨c, api, payload⟩, outcome⟩] outcome

theorem Called.eq_of_user {user : Credentials} {xs : List Exchange}
    {outcome : Except CallError (api.Answer × Json)} (h : c.Called api payload xs outcome)
    (hu : c.state.user = some user) (ha : api.identity = .session) :
    xs = [⟨⟨c, api, payload⟩, outcome⟩] := by
  cases h with
  | unsent nobody => cases (identify_of_user hu ha).symm.trans nobody
  | sent => rfl

/-- The call comes to what is heard of it from the backend. -/
theorem Called.outcome_eq {xs : List Exchange} {outcome : Except CallError (api.Answer × Json)}
    (h : c.Called api payload xs outcome) (hxs : AnsweredBy backend s xs) :
    outcome = heard backend s ⟨c, api, payload⟩ := by
  cases h with
  | unsent nobody =>
    obtain ⟨e, he, hc⟩ | ⟨sender, hs, _⟩ := call_cases c api payload
    · cases nobody.symm.trans he
      rw [heard, hc]
    · cases nobody.symm.trans hs
  | sent => exact hxs.1

theorem ends_call {Q : List Exchange → LoadResult api.Answer → Console → Prop}
    (h : ∀ xs outcome, c.Called api payload xs outcome →
      Q xs (api.report outcome) (c.afterCall api payload outcome)) :
    Ends (.call api payload) c Q := by
  cases hs : c.identify api payload with
  | error e => exact (ends_call_of_error hs).mpr (h _ _ (.unsent hs))
  | ok sender => exact (ends_call_of_ok hs).mpr fun outcome => h _ _ (.sent hs outcome)

/-- What allowed steps keep holds at the end, and none but allowed calls are exchanged. -/
theorem ends_of_follows {τ : Type} {D : Discipline τ} {t : τ} {R : τ → α → Prop}
    {I : τ → Console → Prop}
    (act : ∀ {t e c}, D.mayDo t e → I t c →
      I (D.afterDo t e (c.perform none e).1) (c.perform none e).2)
    (call : ∀ {t api payload c} outcome, D.mayCall t api payload → I t c →
      I (D.afterCall t api (api.report outcome)) (c.afterCall api payload outcome))
    (hw : D.Follows t w R) (h : I t c) :
    Ends w c fun xs a d =>
      (∀ x ∈ xs, ∃ t, D.mayCall t x.api x.payload) ∧ ∃ t, R t a ∧ I t d := by
  induction w generalizing t c with
  | done value => exact ⟨fun _ => nofun, t, hw, h⟩
  | act effect next ih => exact ih _ (hw.2 _) (act hw.1 h)
  | await api payload next ih =>
    have hnext := fun outcome => ih _ (hw.2 (api.report outcome)) (call outcome hw.1 h)
    cases hs : c.identify api payload with
    | error e => exact (ends_await_of_error hs).mpr (hnext _)
    | ok sender =>
      refine (ends_await_of_ok hs).mpr fun outcome => (hnext outcome).mono fun xs a d hd => ?_
      exact ⟨List.forall_mem_cons.mpr ⟨⟨t, hw.1⟩, hd.1⟩, hd.2⟩

/-- However its calls are answered, the workflow sends only what `P` allows, and it ends as `R`
says. -/
def Sends (P : Sending → Prop) (w : Workflow α) (c : Console) (R : α → Console → Prop) : Prop :=
  Ends w c fun xs a d => (∀ x ∈ xs, P x.toSending) ∧ R a d

section
variable {P : Sending → Prop} {R R' : α → Console → Prop}

theorem Sends.forall_sendings (h : Sends P w c R) (backend : Request → StateM σ Reply) (s : σ) :
    ∀ x ∈ sendings backend w c s, P x := by
  rw [← exchanges_map_toSending]
  exact List.forall_mem_map.mpr (h.complete backend s).1

theorem Sends.mono (h : Sends P w c R) (hR : ∀ a d, R a d → R' a d) : Sends P w c R' :=
  Ends.mono h fun _ a d hd => ⟨hd.1, hR a d hd.2⟩

@[simp] theorem sends_pure {a : α} : Sends P (pure a) c R ↔ R a c := by simp [Sends]

@[simp] theorem sends_perform {e : Effect} {R : e.Result → Console → Prop} :
    Sends P (.perform e) c R ↔ R (c.perform none e).1 (c.perform none e).2 := by simp [Sends]

@[simp] theorem sends_state {R : State → Console → Prop} :
    Sends P .state c R ↔ R c.state c := sends_perform

@[simp] theorem sends_set {a : Action} {R : Unit → Console → Prop} :
    Sends P (.set a) c R ↔ R () (c.onStore (·.dispatch a)) := sends_perform

@[simp] theorem sends_setAlways {a : Action} {R : Unit → Console → Prop} :
    Sends P (.setAlways a) c R ↔ R () (c.onStore (·.dispatch a)) := sends_perform

@[simp] theorem sends_bind {f : α → Workflow β} {R : β → Console → Prop} :
    Sends P (w >>= f) c R ↔ Sends P w c fun a d => Sends P (f a) d R := by
  simp only [Sends, ends_bind, List.forall_mem_append]
  constructor
  · refine fun h => h.mono fun xs a d hd => ⟨?_, hd.mono fun ys b e he => ⟨he.1.2, he.2⟩⟩
    -- What is said of the calls before does not depend on how the rest ends.
    exact (hd.complete (fun _ => (pure .unreachable : StateM Unit Reply)) ()).1.1
  · exact fun h => h.mono fun xs a d hd => hd.2.mono fun ys b e he => ⟨⟨hd.1, he.1⟩, he.2⟩

/-- A call that is allowed, whatever becomes of it. -/
theorem sends_call {R : LoadResult api.Answer → Console → Prop} (hP : P ⟨c, api, payload⟩)
    (hR : ∀ result d calls version,
      d.toStore = { c.toStore with state := { c.state with calls }, version } → R result d) :
    Sends P (.call api payload) c R := by
  refine ends_call fun xs outcome hcalled => ⟨?_, ?_⟩
  · cases hcalled with
    | unsent => exact fun _ => nofun
    | sent => exact List.forall_mem_singleton.mpr hP
  · obtain ⟨calls, version, hstore⟩ := afterCall_toStore c api payload outcome
    exact hR _ _ calls version hstore

end

/-- What a hook exchanges when it runs to its end, and the console at its end. -/
def attempt (config : Config) (backend : Request → StateM σ Reply) (hook : Hook) (c : Console)
    (s : σ) : List Exchange × Console :=
  let work := (Operation.hook hook).workflow config
  (exchanges backend work c s, ((complete backend work c).run s).1.2)

/-- What holds of the end of a hook's workflow, holds of an attempt. -/
theorem attempt_keeps {Q : List Exchange → Console → Prop} (config : Config) (hook : Hook)
    (h : Ends (Workflow.runHook config hook) c fun xs _ d => Q xs d)
    (backend : Request → StateM σ Reply) (s : σ) :
    Q (attempt config backend hook c s).1 (attempt config backend hook c s).2 :=
  (h.returning Outcome.nothing).complete backend s

/-- The requests that an attempt sends are those of its exchanges. -/
theorem requests_attempt (config : Config) (backend : Request → StateM σ Reply) (hook : Hook)
    (c : Console) (s : σ) :
    (attempt config backend hook c s).2.requests =
      c.requests ++ (attempt config backend hook c s).1.map (·.request) := by
  have hrequests : (attempt config backend hook c s).2.requests =
      c.requests ++ (sendings backend ((Operation.hook hook).workflow config) c s).map (·.request) :=
    requests_complete _ c s
  rw [← exchanges_map_toSending, List.map_map] at hrequests
  exact hrequests

theorem endpoint_of_call {id : Option Nat} (h : c.call api payload = (ticket, .ok id, c')) :
    c'.client.endpoint = c.client.endpoint := by
  obtain ⟨sender, _, hrequest, _⟩ := exists_sender h
  refine (congrArg (·.2.2.endpoint) hrequest).symm.trans ?_
  cases api.message payload <;> rfl

theorem carries_of_call {id : Option Nat} (h : c.call api payload = (ticket, .ok id, c')) :
    (Sending.request ⟨c, api, payload⟩).Carries c.client.endpoint (api.message payload) := by
  obtain ⟨sender, _, hrequest, _⟩ := exists_sender h
  cases hm : api.message payload with
  | call method params =>
    rw [hm] at hrequest
    exact ⟨c.client.nextId, (congrArg (·.2.1.body) hrequest).symm⟩
  | registration body =>
    rw [hm] at hrequest
    exact ⟨(congrArg (·.2.1.url) hrequest).symm, (congrArg (·.2.1.body) hrequest).symm⟩

/-- What goes out in an exchange takes the call's message to the backend. -/
theorem carries_of_mem_exchanges {x : Exchange} (hx : x ∈ exchanges backend w c s) :
    x.request.Carries c.client.endpoint (x.api.message x.payload) := by
  -- The endpoint is the same throughout.
  generalize hendpoint : c.client.endpoint = endpoint
  induction w generalizing c s with
  | done value => cases hx
  | act effect next ih =>
    have hnext : (c.perform none effect).2.client.endpoint = endpoint := by
      rw [perform_client, hendpoint]
    exact ih _ hx hnext
  | await api payload next ih =>
    rcases hc : c.call api payload with ⟨ticket, sent, c'⟩
    cases sent with
    | error e =>
      obtain ⟨_, _, rfl⟩ := call_eq_error hc
      rw [exchanges_await_error hc] at hx
      exact ih _ hx hendpoint
    | ok id =>
      rw [exchanges_await_ok hc] at hx
      rcases List.mem_cons.mp hx with rfl | hx
      · exact hendpoint ▸ carries_of_call hc
      · exact ih _ hx ((endpoint_of_call hc).trans hendpoint)

/-- What goes out in an exchange asks for the call's method, with the parameters of its payload. -/
theorem asks_of_mem_exchanges {method : String} {params : Json} {x : Exchange}
    (hx : x ∈ exchanges backend w c s) (hm : x.api.message x.payload = .call method params) :
    x.request.Asks c.client.endpoint method params := by
  have h := carries_of_mem_exchanges hx
  rwa [hm] at h

-- From here on only the rules above open it: what a workflow does is long to compute.
attribute [irreducible] Ends

end Console

end StorageConsole
