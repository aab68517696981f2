import StorageConsole.Proofs.AlikeStates
import StorageConsole.Proofs.Discipline

/-!
Properties that a workflow has as soon as its parts have them. The workflows are gone through once,
for all of these properties: what is left to show for each is that the calls have it, and the
effects in which one workflow differs from the next.
-/
namespace StorageConsole

open Backend (Api LoadResult)

/-- Whether the action changes nothing but what a page shows of itself: its message, its forms, what
is searched on it, and its commits. -/
def Action.isLocal : Action → Bool
  | setMessage _ | touchForm _ | resetForm _ | setReposLoaded _ | setRepoSearch _ | setCommits _
  | setCommitSearch _ | setCollaboratorName _ => true
  | _ => false

/-- Whether the effect goes through the gate, and is one that any workflow may have. -/
def Effect.isLocal : Effect → Bool
  | write a => a.isLocal
  | emit _ | redirect _ => true
  | _ => false

namespace Workflow

/-- A property that a workflow has when its parts have it. After a look at the state the workflow may
go by anything that is there but the passwords. -/
structure Compositional (P : ∀ {α : Type}, Workflow α → Prop) : Prop where
  pure : ∀ {α : Type} (value : α), P (Pure.pure value)
  bind : ∀ {α β : Type} {w : Workflow α} {f : α → Workflow β}, P w → (∀ a, P (f a)) → P (w >>= f)
  look : ∀ {α : Type} {f : State → Workflow α}, (∀ s s', s.Alike s' → f s = f s') →
    (∀ s, P (f s)) → P (state >>= f)
  perform : ∀ {e : Effect}, e.isLocal → P (Workflow.perform e)

end Workflow

/-- A discipline gives such a property for each phase in which it allows the effects of all
workflows, and which these do not leave. -/
theorem Discipline.compositional {σ : Type} {D : Discipline σ} {s : σ} {Q : σ → Prop}
    (phase : ∀ t, Q t ↔ t = s) (looks : D.mayDo s .look ∧ ∀ r, D.afterDo s .look r = s)
    (performs : ∀ e, e.isLocal → D.mayDo s e ∧ ∀ r, D.afterDo s e r = s) :
    Workflow.Compositional fun w => D.Follows s w fun t _ => Q t where
  pure _ := (phase s).mpr rfl
  bind hw hf := hw.bind fun t a ht => by
    obtain rfl := (phase t).mp ht
    exact hf a
  look _ hf := by
    refine ⟨looks.1, fun r => ?_⟩
    rw [looks.2]
    exact hf r
  perform he := ⟨(performs _ he).1, fun r => (phase _).mpr ((performs _ he).2 r)⟩

theorem Discipline.compositional_unit {D : Discipline Unit} (looks : D.mayDo () .look)
    (performs : ∀ e, e.isLocal → D.mayDo () e) :
    Workflow.Compositional fun w => D.Follows () w fun _ _ => True :=
  D.compositional (fun _ => ⟨fun _ => rfl, fun _ => trivial⟩) ⟨looks, fun _ => rfl⟩
    fun e he => ⟨performs e he, fun _ => rfl⟩

namespace Workflow.Compositional
variable {P : ∀ {α : Type}, Workflow α → Prop} {α : Type} {config : Config}
  (h : Compositional @P)
include h

theorem set {a : Action} (ha : a.isLocal) : P (set a) := h.perform ha

theorem tell (text : String) : P (tell text) := h.bind (h.set rfl) fun _ => h.perform rfl

theorem tell_return {text : String} {value : α} : P (do
    Workflow.tell text
    return value) :=
  h.bind (h.tell text) fun _ => h.pure value

/-- Of a form without a password the values may be taken. -/
theorem validForm {form : FormName} (hform : form.hasPassword = false) : P (validForm form) := by
  refine h.look (fun s s' hs => ?_) fun s => ?_
  · rw [hs.form_eq hform]
  · dsimp only
    split
    · exact h.pure _
    · exact h.bind (h.set rfl) fun _ => h.pure _

/-- Where the whole state may be looked at, the values of any form may be taken. -/
theorem validForm_of_state (hstate : P state) (form : FormName) : P (Workflow.validForm form) := by
  refine h.bind hstate fun s => ?_
  dsimp only
  split
  · exact h.pure _
  · exact h.bind (h.set rfl) fun _ => h.pure _

section Listing

theorem listRepos (hcall : P (call .repoList ()))
    (hset : ∀ repos servers, P (Workflow.set (.setRepos repos servers))) : P listRepos := by
  refine h.bind hcall fun r => ?_
  split
  · exact h.bind (h.set rfl) fun _ => hset _ _
  · exact hset _ _

theorem loadPublicConfig (hcall : P (call .config ()))
    (hset : ∀ loaded, P (Workflow.set (.setPublicConfig loaded))) : P loadPublicConfig := by
  refine h.bind hcall fun r => ?_
  split
  · exact hset _
  · exact hset _

theorem loadCommits {branchId : String} (hcall : P (call .commitList branchId)) :
    P (loadCommits branchId) := by
  refine h.bind hcall fun r => ?_
  split
  · exact h.set rfl
  · exact h.set rfl

theorem listCommits (hlist : P Workflow.listRepos)
    (hload : ∀ branchId, P (Workflow.loadCommits branchId)) : P listCommits := by
  refine h.look (by rintro s _ ⟨⟩; rfl) fun before => ?_
  split
  · exact h.pure ()
  · dsimp only
    split
    · refine h.bind hlist fun _ => h.look (by rintro s _ ⟨⟩; rfl) fun s => ?_
      split
      · exact hload _
      · exact h.set rfl
    · refine h.look (by rintro s _ ⟨⟩; rfl) fun s => ?_
      split
      · exact hload _
      · exact h.set rfl

theorem searchRepos (search : String) : P (searchRepos search) := by
  refine h.look (by rintro s _ ⟨⟩; rfl) fun s => ?_
  dsimp only
  split
  · exact h.bind (h.perform rfl) fun _ => h.set rfl
  · exact h.set rfl

theorem searchCommits (search : String) : P (searchCommits search) := by
  refine h.look (by rintro s _ ⟨⟩; rfl) fun s => ?_
  dsimp only
  split
  · split
    · exact h.bind (h.perform rfl) fun _ => h.set rfl
    · exact h.set rfl
  · exact h.set rfl

theorem openCommitPage (page : Nat) : P (openCommitPage page) := by
  refine h.look (by rintro s _ ⟨⟩; rfl) fun s => ?_
  split
  · exact h.perform rfl
  · exact h.pure _

end Listing

section Session

theorem refuseLogin (silent : Bool) : P (refuseLogin silent) := by
  cases silent with
  | true => exact h.pure false
  | false => exact h.bind (h.perform rfl) fun _ => h.pure false

/-- What follows once a session has been entered. -/
theorem welcome (hload : P Workflow.loadPublicConfig) (silent : Bool) : P (do
    if !silent then
      signal .loggedIn
      goTo config.landingPath
    Workflow.loadPublicConfig
    Workflow.set (.setReposLoaded false)
    return true) := by
  have hloaded : P (do
      Workflow.loadPublicConfig
      Workflow.set (.setReposLoaded false)
      return true) :=
    h.bind hload fun _ => h.bind (h.set rfl) fun _ => h.pure true
  cases silent with
  | true => exact hloaded
  | false => exact h.bind (h.perform rfl) fun _ => h.bind (h.perform rfl) fun _ => hloaded

theorem enterSession {session : Credentials} (hset : P (setAlways (.setUser (some session))))
    (hkeep : session.remember → P (keepSession session)) (hload : P Workflow.loadPublicConfig)
    (silent : Bool) : P (enterSession config session silent) := by
  refine h.bind hset fun _ => ?_
  dsimp only
  split
  · next hremember => exact h.bind (hkeep hremember) fun _ => h.welcome hload silent
  · exact h.welcome hload silent

theorem login {credentials : Credentials} {silent : Bool} (hcall : P (call .login credentials))
    (henter : ∀ profile, P (Workflow.enterSession config (credentials.merge profile) silent)) :
    P (login config credentials silent) := by
  refine h.bind hcall fun r => ?_
  split
  · split
    · exact henter _
    · exact h.refuseLogin silent
  · exact h.refuseLogin silent

theorem submitLogin (hform : P (Workflow.validForm .login))
    (hlogin : ∀ credentials, P (Workflow.login config credentials false)) :
    P (submitLogin config) := by
  refine h.bind hform fun values => ?_
  cases values with
  | none => exact h.pure false
  | some values => exact hlogin _

theorem refuseRegistration (message : String) : P (refuseRegistration message) :=
  h.bind (h.tell message) fun _ => h.bind (h.perform rfl) fun _ => h.pure false

theorem register {registration : Registration} (hcall : P (call .register registration))
    (hlogin : P (Workflow.login config (.typed registration.name registration.password) false)) :
    P (register config registration) := by
  refine h.bind hcall fun r => ?_
  split
  · exact h.refuseRegistration _
  · split
    · refine h.bind hlogin fun entered => ?_
      split
      · exact h.bind (h.perform rfl) fun _ => h.pure true
      · exact h.pure false
    · exact h.refuseRegistration _

theorem submitRegistration (hform : P (Workflow.validForm .register))
    (hregister : ∀ registration, P (Workflow.register config registration)) :
    P (submitRegistration config) := by
  refine h.bind hform fun values => ?_
  cases values with
  | none => exact h.pure false
  | some values => exact hregister _

theorem restore (hretrieve : P (Workflow.perform .retrieve))
    (hlogin : ∀ credentials, P (Workflow.login config credentials true)) : P (restore config) := by
  refine h.bind hretrieve fun stored => ?_
  split
  · exact hlogin _
  · exact h.pure false

theorem logout (hforget : P (Workflow.perform .forget)) (hset : P (setAlways (.setUser none))) :
    P (logout config) :=
  h.bind hforget fun _ => h.bind hset fun _ => h.perform rfl

end Session

section Forms

theorem createRepo {volume : VolumeName} (hmark : ∀ up, P (Workflow.set (.setRepoFormLoading up)))
    (hlist : P Workflow.listRepos) (hcall : P (call .repoCreate volume)) :
    P (createRepo volume) := by
  refine h.bind (hmark _) fun _ => h.bind hlist fun _ =>
    h.look (by rintro s _ ⟨⟩; rfl) fun s => ?_
  split
  · exact h.bind (hmark _) fun _ => h.tell_return
  · refine h.bind hcall fun r => h.bind (hmark _) fun _ => ?_
    split
    · exact h.tell_return
    · exact h.bind (h.tell _) fun _ => h.bind (h.perform rfl) fun _ => h.pure true

theorem submitRepoForm (hcreate : ∀ volume, P (Workflow.createRepo volume)) : P submitRepoForm := by
  refine h.bind (h.validForm rfl) fun values => ?_
  cases values with
  | none => exact h.pure false
  | some values =>
    refine h.look (fun s s' hs => by rw [hs.userName?]) fun s => ?_
    split
    · exact h.tell_return
    · exact hcreate _

theorem invite {repo : Repo} {collaborator : String}
    (hmark : ∀ up, P (Workflow.set (.setCollaboratorFormLoading up)))
    (hcall : P (call .invite ⟨repo.id, collaborator⟩)) (hlist : P Workflow.listRepos) :
    P (invite repo collaborator) := by
  refine h.bind (hmark _) fun _ => h.bind hcall fun r => h.bind (hmark _) fun _ => ?_
  split
  · exact h.tell_return
  · exact h.bind (h.set rfl) fun _ => h.bind (h.tell _) fun _ =>
      h.bind hlist fun _ => h.pure true

theorem addCollaborator (hinvite : ∀ repo collaborator, P (Workflow.invite repo collaborator)) :
    P addCollaborator := by
  refine h.look (by rintro s _ ⟨⟩; rfl) fun s => ?_
  dsimp only
  split
  · exact h.tell_return
  · split
    · exact h.tell_return
    · split
      · exact h.tell_return
      · exact hinvite _ _

theorem pay {payment : Payment} (hmark : ∀ up, P (Workflow.set (.setPaymentLoading up)))
    (hcall : P (call .pay payment)) : P (pay config payment) := by
  refine h.bind (hmark _) fun _ => h.bind hcall fun r => h.bind (hmark _) fun _ => ?_
  split
  · exact h.bind (h.tell _) fun _ => h.bind (h.perform rfl) fun _ => h.pure true
  · exact h.tell_return
  · exact h.tell_return

theorem receiveToken (hpay : ∀ payment, P (Workflow.pay config payment)) (token : String) :
    P (receiveToken config token) := by
  unfold Workflow.receiveToken
  split
  · exact h.tell_return
  · refine h.bind (h.validForm rfl) fun values => ?_
    cases values with
    | none => exact h.pure false
    | some values =>
      refine h.look (by rintro s _ ⟨⟩; rfl) fun s => ?_
      split
      · exact h.tell_return
      · exact hpay _

end Forms

end Workflow.Compositional

namespace Workflow

/-- The property holds of the workflows in which more happens than in all others. -/
structure HasParts (P : ∀ {α : Type}, Workflow α → Prop) (config : Config) : Prop where
  listRepos : P listRepos
  loadCommits : ∀ branchId, P (loadCommits branchId)
  loadPublicConfig : P loadPublicConfig
  login : ∀ credentials, P (login config credentials false)
  submitLogin : P (submitLogin config)
  submitRegistration : P (submitRegistration config)
  restore : P (restore config)
  logout : P (logout config)
  invite : ∀ repo collaborator, P (invite repo collaborator)
  pay : ∀ payment, P (pay config payment)

namespace Compositional
variable {P : ∀ {α : Type}, Workflow α → Prop} {config : Config} (h : Compositional @P)
include h

theorem runHook (parts : HasParts @P config) {hook : Hook}
    (hcreate : hook = .repoFormSubmit → ∀ volume, P (Workflow.createRepo volume)) :
    P (runHook config hook) := by
  cases hook with
  | logout => exact parts.logout
  | loginSubmit => exact h.bind parts.submitLogin fun _ => h.pure ()
  | loginSuccess | registerSuccess => exact h.perform rfl
  | registerSubmit => exact h.bind parts.submitRegistration fun _ => h.pure ()
  | repoList => exact parts.listRepos
  | repoSearch search => exact h.searchRepos search
  | repoPage page => exact h.perform rfl
  | repoFormReset => exact h.set rfl
  | repoFormSubmit => exact h.bind (h.submitRepoForm (hcreate rfl)) fun _ => h.pure ()
  | commitList => exact h.listCommits parts.listRepos parts.loadCommits
  | commitSearch search => exact h.searchCommits search
  | commitPage page => exact h.openCommitPage page
  | collaboratorName name => exact h.set rfl
  | collaboratorAdd => exact h.bind (h.addCollaborator parts.invite) fun _ => h.pure ()
  | tokenReceived token => exact h.bind (h.receiveToken parts.pay token) fun _ => h.pure ()
  | configLoad => exact parts.loadPublicConfig

/-- A pass of the control loop lists the repos or the commits, or loads the configuration. -/
theorem refresh (hlist : P Workflow.listRepos)
    (hload : ∀ branchId, P (Workflow.loadCommits branchId)) (hconfig : P Workflow.loadPublicConfig)
    (name : HookName) : P (refresh config name) := by
  cases name with
  | repoList => exact hlist
  | commitList => exact h.listCommits hlist hload
  | configLoad => exact hconfig
  | _ => exact h.pure ()

theorem coldStart (hrestore : P (Workflow.restore config))
    (hinit : P (setAlways (.setInitialized true))) {path : String}
    (hvisit : P (Workflow.perform (.visit path))) (hstart : P (Workflow.perform .startLoop)) :
    P (Operation.coldStartWorkflow config path) := by
  refine h.bind hrestore fun _ => h.bind hinit fun _ => h.bind hvisit fun result => ?_
  dsimp only
  split
  · exact h.bind hstart fun _ => h.pure _
  · exact h.pure _

end Compositional

end Workflow

/-- Whether the effect is one that a front end's own operations have, past every gate. -/
def Effect.isDirect : Effect → Bool
  | force (.setForm _ _) | force (.setInitialized _) | visit _ | startLoop | stopLoop => true
  | _ => false

namespace Workflow.Compositional
variable {P : ∀ {α : Type}, Workflow α → Prop} {config : Config}

/-- A property of all parts is one of every operation whose own effect or call has it. -/
theorem workflow (h : Compositional @P) (parts : HasParts @P config) {op : Operation}
    (hcreate : op = .hook .repoFormSubmit → ∀ volume, P (Workflow.createRepo volume))
    (hdirect : ∀ e : Effect, e.isDirect → P (Workflow.perform e))
    (hdispatch : ∀ a, op = .dispatch a → P (setAlways a))
    (hkeep : ∀ text, op = .keep text → P (Workflow.perform (.keep text)))
    (hcall : ∀ api payload, op = .load api payload → P (call api payload)) :
    P (op.workflow config) := by
  cases op with
  | hook hook =>
    exact h.bind (h.runHook parts fun hs => hcreate (congrArg _ hs)) fun _ => h.pure _
  | refresh name =>
    exact h.bind (h.refresh parts.listRepos parts.loadCommits parts.loadPublicConfig name)
      fun _ => h.pure _
  | updateForm form values => exact h.bind (hdirect _ rfl) fun _ => h.pure _
  | navigate path => exact h.bind (hdirect _ rfl) fun _ => h.pure _
  | coldStart path =>
    exact h.coldStart parts.restore (hdirect _ rfl) (hdirect _ rfl) (hdirect _ rfl)
  | login credentials => exact h.bind (parts.login credentials) fun _ => h.pure _
  | restore => exact h.bind parts.restore fun _ => h.pure _
  | logout => exact h.bind parts.logout fun _ => h.pure _
  | startLoop | stopLoop => exact h.bind (hdirect _ rfl) fun _ => h.pure _
  | dispatch a => exact h.bind (hdispatch a rfl) fun _ => h.pure _
  | keep text => exact h.bind (hkeep text rfl) fun _ => h.pure _
  | load api payload => exact h.bind (hcall api payload rfl) fun _ => h.pure _

end Workflow.Compositional

end StorageConsole
