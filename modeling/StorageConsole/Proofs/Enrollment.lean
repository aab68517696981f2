import StorageConsole.Proofs.ColdStart
import StorageConsole.Proofs.Compositional
import StorageConsole.Proofs.FormTexts
import StorageConsole.Proofs.LoginTraces

/-!
Registration. A form that is not valid is shown with its errors, and nothing is sent. A valid one is
posted once; if the answer says that the account was created, its owner is logged in to it, and
otherwise the user is told what was wrong. The session of a new account is never stored.
-/
namespace StorageConsole

open Backend (Api CallError LoadResult Reply Request authorization? basicToken)

/-- Whether the effect leaves alone what is stored for the session. -/
def Effect.isSparing : Effect → Bool
  | keep _ | forget => false
  | _ => true

/-- A workflow may do anything but store a session or forget one. -/
def sparing : Discipline Unit where
  mayDo _ e := e.isSparing
  afterDo _ _ _ := ()
  mayCall _ _ _ := True
  afterCall _ _ _ := ()

namespace Workflow

/-- No branch of the workflow touches what is stored. -/
def Spares {α : Type} (w : Workflow α) : Prop := sparing.Follows () w fun _ _ => True

theorem compositional_spares : Compositional @Spares := by
  refine sparing.compositional_unit rfl fun e he => ?_
  cases e with
  | keep _ | forget => cases he
  | _ => rfl

theorem spares_perform {e : Effect} (h : e.isSparing) : Spares (perform e) := ⟨h, fun _ => trivial⟩

theorem spares_call (api : Api) (payload : api.Payload) : Spares (call api payload) :=
  ⟨trivial, fun _ => trivial⟩

/-- The session of an account that has just been created is not stored. -/
theorem spares_submitRegistration (config : Config) : Spares (submitRegistration config) := by
  have hspares : Compositional @Spares := compositional_spares
  have hload : Spares loadPublicConfig :=
    hspares.loadPublicConfig (spares_call _ _) fun _ => spares_perform rfl
  have hlogin : ∀ name password, Spares (login config (.typed name password) false) := by
    intro name password
    refine hspares.login (spares_call _ _) fun profile => ?_
    have hforgotten : ((Credentials.typed name password).merge profile).remember = false := rfl
    exact hspares.enterSession (spares_perform rfl) (by simp [hforgotten]) hload _
  exact hspares.submitRegistration (hspares.validForm_of_state (spares_perform rfl) _) fun _ =>
    hspares.register (spares_call _ _) (hlogin _ _)

end Workflow

namespace Console
variable {σ α : Type} {backend : Request → StateM σ Reply} {c d e : Console} {s : σ}

theorem perform_storage_of_sparing {effect : Effect} (h : effect.isSparing) (gate : Gate) :
    (c.perform gate effect).2.storage = c.storage := by
  cases effect with
  | keep _ | forget => cases h
  | _ => rfl

/-- What spares the stored session leaves it as it was, however its calls are answered. -/
theorem storage_of_spares {w : Workflow α} (h : w.Spares) (c : Console) (s : σ) :
    ((complete backend w c).run s).1.2.storage = c.storage := by
  have hended := ends_of_follows (D := sparing) (I := fun _ d => d.storage = c.storage)
    (fun hmay hd => (perform_storage_of_sparing hmay none).trans hd)
    (fun outcome _ hd => (keepsSession_afterCall _ _ _ outcome).storage.trans hd) h rfl
  obtain ⟨_, _, _, hstorage⟩ := hended.complete backend s
  exact hstorage

/-- What is wrong with a registration: the error of the call, or else the first complaint that has
a text. Of an account that was created nothing is wrong. -/
def complaint? : Except CallError (Api.register.Answer × Json) → Option String
  | .error error => some (Api.register.display error)
  | .ok (outcome, _) =>
    if outcome.created then none
    else
      some (([outcome.nameError, outcome.emailError, outcome.passwordError].find? (· ≠ "")).getD
        "user was not created")

/-- What comes of a login that is not silent. -/
inductive Entrance (config : Config) (c : Console) (credentials : Credentials) :
    List Exchange → Bool → Console → Prop
  | refused {outcome d} (unconfirmed : confirmed? credentials outcome = none)
      (user : d.state.user = c.state.user)
      (signals : d.signals = c.signals ++ [.loginFailed "incorrect details"]) :
      Entrance config c credentials [⟨⟨c, .login, credentials⟩, outcome⟩] false d
  | entered {outcome session e loaded d} {targets : List String}
      (confirmed : confirmed? credentials outcome = some session)
      (inside : e.state.user = some session) (user : d.state.user = some session)
      (signals : d.signals =
        c.signals ++ .loggedIn :: (config.landingPath :: targets).map .redirected) :
      Entrance config c credentials
        [⟨⟨c, .login, credentials⟩, outcome⟩, ⟨⟨e, .config, ()⟩, loaded⟩] true d

/-- What comes of a registration: no account, and the user is told why; an account whose owner cannot
be logged in to it; or an account whose owner is. -/
inductive Enrollment (config : Config) (c : Console) (registration : Registration) :
    List Exchange → Console → Prop
  | refused {outcome text d} (complaint : complaint? outcome = some text)
      (user : d.state.user = c.state.user) (message : d.state.applicationMessage = some text)
      (signals : d.signals = c.signals ++ [.message text, .registrationFailed text]) :
      Enrollment config c registration [⟨⟨c, .register, registration⟩, outcome⟩] d
  | excluded {outcome e answer d} (created : complaint? outcome = none)
      (unconfirmed : confirmed? (.typed registration.name registration.password) answer = none)
      (user : d.state.user = c.state.user)
      (signals : d.signals = c.signals ++ [.loginFailed "incorrect details"]) :
      Enrollment config c registration
        [⟨⟨c, .register, registration⟩, outcome⟩,
          ⟨⟨e, .login, .typed registration.name registration.password⟩, answer⟩] d
  | entered {outcome e answer session f loaded d} {targets : List String}
      (created : complaint? outcome = none)
      (confirmed :
        confirmed? (.typed registration.name registration.password) answer = some session)
      (inside : f.state.user = some session) (user : d.state.user = some session)
      (signals : d.signals = c.signals ++ .loggedIn ::
        (config.landingPath :: targets).map .redirected ++ [.registered]) :
      Enrollment config c registration
        [⟨⟨c, .register, registration⟩, outcome⟩,
          ⟨⟨e, .login, .typed registration.name registration.password⟩, answer⟩,
          ⟨⟨f, .config, ()⟩, loaded⟩] d

/-- The console with the errors of a form shown, and nothing else changed. -/
def touched (c : Console) (form : FormName) : Console :=
  c.onStore fun s =>
    { s with
      state := s.state.setForm form { s.state.form form with touched := true }
      version := s.version + 1 }

end Console

namespace Workflow
open Console
variable {c : Console}

theorem ends_enterSession_aloud (config : Config) (session : Credentials) (c : Console) :
    Ends (enterSession config session false) c fun xs ok d =>
      ok = true ∧ (∃ e loaded, e.state.user = some session ∧ xs = [⟨⟨e, .config, ()⟩, loaded⟩]) ∧
        d.state.user = some session ∧ ∃ targets : List String,
          d.signals = c.signals ++ .loggedIn :: (config.landingPath :: targets).map .redirected := by
  have hload : ∀ e : Console, e.state.user = some session → e.signals = c.signals →
      let entered := (e.onStore (·.emit .loggedIn)).onStore (·.redirect config.landingPath)
      Ends loadPublicConfig entered fun xs _ d =>
        (∃ e loaded, e.state.user = some session ∧ xs = [⟨⟨e, .config, ()⟩, loaded⟩]) ∧
          d.state.user = some session ∧ ∃ targets : List String,
            d.signals = c.signals ++ .loggedIn :: (config.landingPath :: targets).map .redirected := by
    intro e huser hsignals entered
    have hinside : entered.state.user = some session := by
      obtain ⟨route, generation, hroute⟩ :=
        Store.redirect_state (e.emit .loggedIn) config.landingPath
      have hstate : entered.state = _ := hroute
      rw [hstate]
      exact huser
    obtain ⟨targets, htargets⟩ := Store.redirect_signals (e.emit .loggedIn) config.landingPath
    refine (ends_loadPublicConfig hinside).mono fun xs _ d hd => ?_
    obtain ⟨⟨loaded, hxs⟩, hd⟩ := hd
    refine ⟨⟨entered, loaded, hinside, hxs⟩, hd.user.trans hinside, targets, ?_⟩
    rw [hd.signals, ← hsignals]
    refine htargets.trans ?_
    rw [Store.emit, List.append_assoc, List.singleton_append]
  unfold enterSession
  cases session.remember <;>
    simp only [ends_bind, ends_setAlways, ends_keepSession, ends_signal, ends_goTo, ends_set,
      ends_pure, Bool.not_false, Bool.false_eq_true, if_true, if_false, List.nil_append,
      List.append_nil, true_and] <;>
    exact hload _ rfl rfl

theorem ends_login_aloud (config : Config) (credentials : Credentials) (c : Console) :
    Ends (login config credentials false) c fun xs ok d =>
      c.Entrance config credentials xs ok d := by
  refine ends_login_iff.mpr fun outcome => ?_
  obtain ⟨huser, _, hsignals, _⟩ := undisturbed_afterCall c .login credentials outcome
  cases hconfirmed : confirmed? credentials outcome with
  | none =>
    simp only [concludeLogin, refuseLogin, Bool.not_false, if_true, ends_bind, ends_signal, ends_pure]
    exact .refused hconfirmed huser (congrArg (· ++ _) hsignals)
  | some session =>
    refine (ends_enterSession_aloud config session _).mono fun xs ok d hd => ?_
    obtain ⟨rfl, ⟨e, loaded, hinside, rfl⟩, hafter, targets, htargets⟩ := hd
    have htold : d.signals =
        c.signals ++ .loggedIn :: (config.landingPath :: targets).map .redirected := by
      rw [htargets, hsignals]
    exact .entered hconfirmed hinside hafter htold

theorem firstError_getD (outcome : RegistrationOutcome) :
    outcome.firstError.getD notCreatedMessage =
      ([outcome.nameError, outcome.emailError, outcome.passwordError].find? (· ≠ "")).getD
        "user was not created" := by
  have hempty : (fun text : String => !text.isEmpty) = fun text => decide (text ≠ "") := by
    funext text
    rw [Bool.eq_iff_iff]
    simp
  rw [RegistrationOutcome.firstError, hempty]
  rfl

theorem ends_refuseRegistration {config : Config} {registration : Registration}
    {outcome : Except CallError (Api.register.Answer × Json)} {message : String}
    (h : complaint? outcome = some message) :
    Ends (refuseRegistration message) (c.afterCall .register registration outcome) fun ys _ d =>
      c.Enrollment config registration ([⟨⟨c, .register, registration⟩, outcome⟩] ++ ys) d := by
  obtain ⟨huser, _, hsignals, _⟩ := undisturbed_afterCall c .register registration outcome
  unfold refuseRegistration
  simp only [ends_bind, ends_tell, ends_signal, ends_pure]
  refine .refused h huser rfl ?_
  rw [← hsignals]
  exact List.append_assoc _ [_] [_]

theorem ends_register (config : Config) (registration : Registration) (c : Console) :
    Ends (register config registration) c fun xs _ d => c.Enrollment config registration xs d := by
  unfold register
  have hsender : c.identify .register registration = .ok none := rfl
  rw [ends_bind, ends_call_of_ok hsender]
  intro outcome
  obtain ⟨huser, _, hsignals, _⟩ := undisturbed_afterCall c .register registration outcome
  rcases outcome with error | ⟨outcome, raw⟩
  · exact ends_refuseRegistration rfl
  · cases hcreated : outcome.created with
    | false =>
      simp only [Api.report, LoadResult.answered, LoadResult.toExcept, hcreated, Bool.false_eq_true,
        if_false, firstError_getD]
      exact ends_refuseRegistration (by simp [complaint?, hcreated])
    | true =>
      have hnone : complaint? (.ok (outcome, raw)) = none := if_pos hcreated
      simp only [Api.report, LoadResult.answered, LoadResult.toExcept, hcreated, if_true]
      rw [ends_bind]
      refine (ends_login_aloud config _ _).mono fun xs ok d hd => ?_
      cases hd with
      | refused unconfirmed user signals =>
        simp only [Bool.false_eq_true, if_false, ends_pure]
        exact .excluded hnone unconfirmed (user.trans huser) (hsignals ▸ signals)
      | entered confirmed inside user signals =>
        simp only [if_true, ends_bind, ends_signal, ends_pure]
        exact .entered hnone confirmed inside user (hsignals ▸ congrArg (· ++ [_]) signals)

theorem ends_submitRegistration (config : Config) (c : Console) :
    Ends (submitRegistration config) c fun xs _ d =>
      if (c.state.form .register).valid then
        c.Enrollment config (typedRegistration (c.state.form .register).values) xs d
      else xs = [] ∧ d = c.touched .register := by
  unfold submitRegistration
  rw [ends_bind, ends_validForm]
  cases (c.state.form .register).valid with
  | false =>
    simp only [Bool.false_eq_true, if_false]
    exact ends_pure.mpr ⟨rfl, rfl⟩
  | true =>
    simp only [if_true]
    exact ends_register config _ c

end Workflow

/-- Whether an exchange is a login that has confirmed a session. -/
def Exchange.Confirms : Exchange → Prop
  | ⟨⟨_, .login, credentials⟩, outcome⟩ => (Console.confirmed? credentials outcome).isSome
  | _ => False

namespace Console
variable {σ : Type} {c d : Console} {config : Config} {registration : Registration}
  {xs : List Exchange}

theorem complaint?_eq_none {outcome : Except CallError (Api.register.Answer × Json)} :
    complaint? outcome = none ↔
      ∃ answer raw, outcome = .ok (answer, raw) ∧ answer.created = true := by
  rcases outcome with error | ⟨answer, raw⟩
  · simp [complaint?]
  · simp [complaint?]

/-- A registration is posted once and before all else, and a login follows just if the account was
created. -/
theorem Enrollment.posts (h : c.Enrollment config registration xs d) :
    ∃ outcome rest, xs = ⟨⟨c, .register, registration⟩, outcome⟩ :: rest ∧
      (∀ x ∈ rest, x.api ≠ .register) ∧
      ((∃ x ∈ rest, x.api = .login) ↔
        ∃ answer raw, outcome = .ok (answer, raw) ∧ answer.created = true) := by
  cases h with
  | @refused outcome text _ complaint =>
    refine ⟨outcome, [], rfl, fun _ => nofun, ?_⟩
    rw [← complaint?_eq_none, complaint]
    simp
  | @excluded outcome e answer _ created =>
    refine ⟨outcome, [⟨⟨e, .login, _⟩, answer⟩], rfl, by simp, ?_⟩
    rw [← complaint?_eq_none, created]
    simp
  | @entered outcome e answer session f loaded _ _ created =>
    refine ⟨outcome, [⟨⟨e, .login, _⟩, answer⟩, ⟨⟨f, .config, ()⟩, loaded⟩], rfl, by simp, ?_⟩
    rw [← complaint?_eq_none, created]
    simp

/-- That the registration has succeeded is said just if the login has, and after that. -/
theorem Enrollment.announces (h : c.Enrollment config registration xs d) :
    ∃ news, d.signals = c.signals ++ news ∧
      (.registered ∈ news ↔ ∃ x ∈ xs, x.Confirms) ∧
      (.registered ∈ news → ∃ between, news = .loggedIn :: between ++ [.registered]) := by
  cases h with
  | refused _ _ _ signals => exact ⟨_, signals, by simp [Exchange.Confirms], by simp⟩
  | excluded _ unconfirmed _ signals =>
    exact ⟨_, signals, by simp [Exchange.Confirms, unconfirmed], by simp⟩
  | entered _ confirmed _ _ signals =>
    rw [List.append_assoc] at signals
    exact ⟨_, signals, by simp [Exchange.Confirms, confirmed], fun _ => ⟨_, rfl⟩⟩

theorem request_login (c : Console) (credentials : Credentials) :
    (Sending.request ⟨c, .login, credentials⟩).authorization = authorization? (some credentials) := by
  obtain ⟨e, he, _⟩ | ⟨sender, hs, hc⟩ := call_cases c .login credentials
  · cases he
  · obtain ⟨sender', hs', hrequest, _⟩ := exists_sender hc
    cases hs'
    exact congrArg (·.2.1.authorization) hrequest.symm

theorem Enrollment.authorization (h : c.Enrollment config registration xs d) :
    ∀ x ∈ xs, x.api = .login → x.request.authorization =
      authorization? (some (.typed registration.name registration.password)) := by
  cases h with
  | refused => simp
  | excluded => simp [request_login]
  | entered => simp [request_login]

/-- The registration is posted as it was typed, and then it is asked who the user is and for the
public configuration. -/
theorem Enrollment.asks {endpoint : Backend.Endpoint} (h : c.Enrollment config registration xs d)
    (hsent : ∀ x ∈ xs, x.request.Carries endpoint (x.api.message x.payload)) :
    ∀ x ∈ xs, (x.api = .register ∧ x.request.Registers endpoint registration.encode) ∨
      (x.api = .login ∧ x.request.Asks endpoint "CurrentUser" (.obj [])) ∨
      x.api = .config ∧ x.request.Asks endpoint "Config" (.obj []) := by
  intro x hx
  have hx' := hsent x hx
  cases h with
  | refused =>
    obtain rfl := List.mem_singleton.mp hx
    exact .inl ⟨rfl, hx'⟩
  | excluded =>
    rcases List.mem_pair.mp hx with rfl | rfl
    · exact .inl ⟨rfl, hx'⟩
    · exact .inr (.inl ⟨rfl, hx'⟩)
  | entered =>
    rcases List.mem_cons.mp hx with rfl | hx
    · exact .inl ⟨rfl, hx'⟩
    · rcases List.mem_pair.mp hx with rfl | rfl
      · exact .inr (.inl ⟨rfl, hx'⟩)
      · exact .inr (.inr ⟨rfl, hx'⟩)

/-- In a valid form a name has been typed. -/
theorem authorization?_of_errors {values : FormValues}
    (h : FormName.register.errors values = []) :
    let registration := Workflow.typedRegistration values
    let credentials := Credentials.typed registration.name registration.password
    authorization? (some credentials) = some (basicToken credentials) := by
  have hvalid : (FormName.register.snapshot values).valid = true := List.isEmpty_iff.mpr h
  have hfield : ⟨"Name", [.required]⟩ ∈ FormName.register.fields := .tail _ (.head _)
  have hcheck := FormName.check_of_valid hvalid hfield (.head _)
  have hname := FormValues.typed_not_blank (Validator.isPresent_of_check hcheck)
  have hsome : (values.typed "Name").isEmpty = false := by
    cases hempty : (values.typed "Name").isEmpty with
    | false => rfl
    | true =>
      rw [String.isEmpty_iff.mp hempty] at hname
      cases hname
  exact if_neg (Bool.eq_false_iff.mp hsome)

/-- Whatever the state, the register form and the replies of the backend, a submission of an invalid
form shows its errors and does nothing else, and one of a valid form comes to one of the outcomes of
`Enrollment`: the registration is posted once, and the login in its name and password follows just if
the answer says that the account was created. Success is announced just if that login succeeds, after
the login, and what is stored is never touched. -/
theorem registration_enters_created_account (config : Config) (c : Console)
    (backend : Request → StateM σ Reply) (s : σ) :
    let form := c.state.form .register
    let registration := Workflow.typedRegistration form.values
    let credentials := Credentials.typed registration.name registration.password
    let submitted := attempt config backend .registerSubmit c s
    (form.valid = false → submitted = ([], c.touched .register)) ∧
    (form.valid = true → c.Enrollment config registration submitted.1 submitted.2 ∧
      (∃ outcome rest, submitted.1 = ⟨⟨c, .register, registration⟩, outcome⟩ :: rest ∧
        (∀ x ∈ rest, x.api ≠ .register) ∧
        ((∃ x ∈ rest, x.api = .login) ↔
          ∃ answer raw, outcome = .ok (answer, raw) ∧ answer.created = true)) ∧
      ∃ news, submitted.2.signals = c.signals ++ news ∧
        (.registered ∈ news ↔ ∃ x ∈ submitted.1, x.Confirms) ∧
        (.registered ∈ news → ∃ between, news = .loggedIn :: between ++ [.registered])) ∧
    (∀ x ∈ submitted.1, x.api = .login →
      x.request.authorization = authorization? (some credentials)) ∧
    (∀ x ∈ submitted.1,
      (x.api = .register ∧ x.request.Registers c.client.endpoint registration.encode) ∨
      (x.api = .login ∧ x.request.Asks c.client.endpoint "CurrentUser" (.obj [])) ∨
      x.api = .config ∧ x.request.Asks c.client.endpoint "Config" (.obj [])) ∧
    (FormName.register.errors form.values = [] →
      authorization? (some credentials) = some (basicToken credentials)) ∧
    submitted.2.requests = c.requests ++ submitted.1.map (·.request) ∧
    submitted.2.storage = c.storage ∧ (Workflow.runHook config .registerSubmit).Spares := by
  intro form registration credentials submitted
  have hall : Workflow.Compositional @Workflow.Spares := Workflow.compositional_spares
  have hspares : (Workflow.runHook config .registerSubmit).Spares :=
    hall.bind (Workflow.spares_submitRegistration config) fun _ => hall.pure ()
  have hended : if form.valid then c.Enrollment config registration submitted.1 submitted.2
      else submitted.1 = [] ∧ submitted.2 = c.touched .register :=
    attempt_keeps config .registerSubmit ((Workflow.ends_submitRegistration config c).returning ())
      backend s
  have hcases : submitted.1 = [] ∨ c.Enrollment config registration submitted.1 submitted.2 := by
    cases hvalid : form.valid with
    | false =>
      rw [hvalid] at hended
      exact .inl hended.1
    | true =>
      rw [if_pos hvalid] at hended
      exact .inr hended
  refine ⟨fun hvalid => ?_, fun hvalid => ?_, ?_, ?_, authorization?_of_errors,
    requests_attempt config backend .registerSubmit c s, ?_, hspares⟩
  · rw [hvalid] at hended
    exact Prod.ext hended.1 hended.2
  · rw [if_pos hvalid] at hended
    exact ⟨hended, hended.posts, hended.announces⟩
  · rcases hcases with hnone | henrolled
    · rw [hnone]
      exact fun _ => nofun
    · exact henrolled.authorization
  · rcases hcases with hnone | henrolled
    · rw [hnone]
      exact fun _ => nofun
    · exact henrolled.asks fun x hx => carries_of_mem_exchanges hx
  · exact storage_of_spares (hall.bind hspares fun _ => hall.pure Outcome.nothing) c s

end Console
end StorageConsole
