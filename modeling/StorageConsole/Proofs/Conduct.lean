import StorageConsole.Proofs.Compositional
import StorageConsole.Proofs.Step

/-!
The conduct of the console's own operations: a user is set only on a profile that the backend has
just returned, whoever is logged out is sent elsewhere at once, and what a reply to a list call shows
is the next data to be written.
-/
namespace StorageConsole

open Backend (Api LoadResult Reply)

/-- Whether the action is none of those that set the user, the route, the listed data or a call's
state. -/
def Action.isPlain : Action → Bool
  | setUser _ | publishRoute _ | setPublicConfig _ | setRepos _ _ | callRequested _ _
  | callAnswered _ _ _ | callFailed _ _ _ => false
  | _ => true

/-- Whether the action shows what a list call has returned. -/
def Action.isListing : Action → Bool
  | setPublicConfig _ | setRepos _ _ => true
  | _ => false

/-- Whether the action is a record of a call. -/
def Action.isRecord : Action → Bool
  | callRequested _ _ | callAnswered _ _ _ | callFailed _ _ _ => true
  | _ => false

theorem Console.completion_isRecord {api : Api} {ticket : Nat}
    {outcome : Except Backend.CallError (api.Answer × Json)} :
    (completion api ticket outcome).isRecord := by
  cases outcome <;> rfl

/-- Whether the effect writes nothing but what plain actions change, and keeps no session. -/
def Effect.isMild : Effect → Bool
  | write a | force a => a.isPlain
  | keep _ => false
  | _ => true

/-- The operations of a front end, which leave the state to the workflows. -/
def Operation.isOrdinary : Operation → Bool
  | dispatch _ | keep _ | load _ _ => false
  | _ => true

/-- Whether a call's result confirms credentials. -/
def Backend.Api.admits : (api : Api) → LoadResult api.Answer → Bool
  | .login, r =>
    match r.toExcept with
    | .ok profile => profile.isValid
    | .error _ => false
  | _, _ => false

/-- The reply that confirms the credentials of a console's first call. -/
def Backend.Reply.confirmation : Reply :=
  .received 200 "\x7b\"id\":0,\"result\":\x7b\"Id\":\"u\"\x7d\x7d".toUTF8

/-- The write that shows a list call's result; what could not be loaded is shown as empty. -/
def Backend.Api.shown? : (api : Api) → LoadResult api.Answer → Option Action
  | .repoList, r =>
    match r.toExcept with
    | .ok inventory =>
      some (.setRepos (Listing.sortByLabel Repo.name inventory.repos) inventory.servers)
    | .error _ => some (.setRepos [] [])
  | .config, r =>
    match r.toExcept with
    | .ok plans => some (.setPublicConfig plans)
    | .error _ => some (.setPublicConfig .empty)
  | _, _ => none

/-- Where a workflow stands. -/
inductive Phase where
  | free
  /-- Credentials are confirmed and not yet the session. -/
  | admitted
  /-- The session is new, and its first call is still to come. -/
  | entered
  /-- A result is still to be shown. -/
  | owing (a : Action)
  /-- The session is over, and the front end is still to be sent elsewhere. -/
  | leaving

def conduct : Discipline Phase where
  mayDo
    | .free, e => e.isMild ∨ e = .force (.setUser none)
    | .admitted, e => ∃ user, e = .force (.setUser (some user))
    | .entered, e => (∃ text, e = .keep text) ∨ e.isMild
    | .owing a, e => e.isMild ∨ (e = .write a ∧ a.isListing)
    | .leaving, e => ∃ path, e = .redirect path
  afterDo
    | .free, e, _ => if e = .force (.setUser none) then .leaving else .free
    | .admitted, _, _ => .entered
    | .entered, _, _ => .entered
    | .owing a, e, _ => if e = .write a then .free else .owing a
    | .leaving, _, _ => .free
  mayCall s _ _ := s = .free ∨ s = .entered
  afterCall _ api r :=
    if api.admits r then .admitted else (api.shown? r).elim .free .owing

@[simp] theorem conduct_afterCall {s : Phase} {api : Api} {r : LoadResult api.Answer} :
    conduct.afterCall s api r =
      if api.admits r then .admitted else (api.shown? r).elim .free .owing := rfl

theorem Effect.isPlain_of_mild {e : Effect} {a : Action} (h : e.isMild)
    (ha : e = .write a ∨ e = .force a) : a.isPlain := by
  obtain rfl | rfl := ha
  · exact h
  · exact h

/-- Beyond what plain actions change, only list data and the user are written. -/
theorem written_of_conduct {s : Phase} {e : Effect} {a : Action} (h : conduct.mayDo s e)
    (ha : e = .write a ∨ e = .force a) :
    a.isPlain ∨ a.isListing ∨ ∃ user, a = .setUser user := by
  cases s with
  | free =>
    obtain he | rfl := h
    · exact .inl (Effect.isPlain_of_mild he ha)
    · obtain ha | ha := ha <;> cases ha
      exact .inr (.inr ⟨none, rfl⟩)
  | admitted =>
    obtain ⟨user, rfl⟩ := h
    obtain ha | ha := ha <;> cases ha
    exact .inr (.inr ⟨some user, rfl⟩)
  | entered =>
    obtain ⟨text, rfl⟩ | he := h
    · obtain ha | ha := ha <;> cases ha
    · exact .inl (Effect.isPlain_of_mild he ha)
  | owing shown =>
    obtain he | ⟨rfl, hlisting⟩ := h
    · exact .inl (Effect.isPlain_of_mild he ha)
    · obtain ha | ha := ha <;> cases ha
      exact .inr (.inl hlisting)
  | leaving =>
    obtain ⟨path, rfl⟩ := h
    obtain ha | ha := ha <;> cases ha

namespace Workflow
variable {α : Type}

/-- The workflow keeps to the conduct, and leaves nothing unsettled. -/
def Calm (w : Workflow α) : Prop := conduct.Follows .free w fun s _ => s = .free

/-- A mild effect leaves nothing unsettled. -/
theorem conduct_of_mild {e : Effect} (he : e.isMild) :
    conduct.mayDo .free e ∧ ∀ r, conduct.afterDo .free e r = .free := by
  refine ⟨.inl he, fun _ => if_neg ?_⟩
  rintro rfl
  cases he

theorem compositional_calm : Compositional @Calm := by
  refine conduct.compositional (fun _ => Iff.rfl) (conduct_of_mild rfl) fun e he => ?_
  refine conduct_of_mild ?_
  cases e with
  | write a => cases a <;> first | rfl | cases he
  | emit _ | redirect _ => rfl
  | _ => cases he

theorem calm_perform {e : Effect} (he : e.isMild) : Calm (perform e) := conduct_of_mild he

/-- A call whose result neither confirms credentials nor is to be shown. -/
theorem calm_call (api : Api) (payload : api.Payload) (ha : ∀ r, api.admits r = false)
    (hs : ∀ r, api.shown? r = none) : Calm (call api payload) :=
  Discipline.follows_call.mpr ⟨.inl rfl, fun r => by simp [ha, hs]⟩

/-- Showing a result settles what was owed. -/
theorem follows_show {a : Action} (ha : a.isListing) :
    conduct.Follows (.owing a) (set a) fun s _ => s = .free :=
  ⟨.inr ⟨rfl, ha⟩, fun _ => if_pos rfl⟩

theorem calm_listRepos : Calm listRepos := by
  refine Discipline.follows_bind.mpr (Discipline.follows_call.mpr ⟨.inl rfl, fun r => ?_⟩)
  cases h : r.toExcept with
  | ok inventory =>
    simp only [conduct_afterCall, Api.admits, Api.shown?, h]
    exact ⟨.inl rfl, fun _ => follows_show rfl⟩
  | error e =>
    simp only [conduct_afterCall, Api.admits, Api.shown?, h]
    exact follows_show rfl

theorem follows_loadPublicConfig {s : Phase} (hs : s = .free ∨ s = .entered) :
    conduct.Follows s loadPublicConfig fun s _ => s = .free := by
  refine Discipline.follows_bind.mpr (Discipline.follows_call.mpr ⟨hs, fun r => ?_⟩)
  cases h : r.toExcept with
  | ok plans =>
    simp only [conduct_afterCall, Api.admits, Api.shown?, h]
    exact follows_show rfl
  | error e =>
    simp only [conduct_afterCall, Api.admits, Api.shown?, h]
    exact follows_show rfl

theorem follows_enterSession (config : Config) (session : Credentials) (silent : Bool) :
    conduct.Follows .admitted (enterSession config session silent) fun s _ => s = .free := by
  refine ⟨⟨session, rfl⟩, fun _ => ?_⟩
  have hrest : conduct.Follows .entered (do
      loadPublicConfig
      set (.setReposLoaded false)
      return true) fun s _ => s = .free := by
    refine (follows_loadPublicConfig (.inr rfl)).bind fun s _ hs => ?_
    subst hs
    exact compositional_calm.bind (calm_perform rfl) fun _ => compositional_calm.pure true
  have hland : conduct.Follows .entered (do
      if !silent then
        signal .loggedIn
        goTo config.landingPath
      loadPublicConfig
      set (.setReposLoaded false)
      return true) fun s _ => s = .free := by
    cases silent with
    | true => exact hrest
    | false => exact ⟨.inr rfl, fun _ => ⟨.inr rfl, fun _ => hrest⟩⟩
  change conduct.Follows .entered _ _
  by_cases hr : session.remember
  · simp only [hr]
    exact ⟨.inl ⟨_, rfl⟩, fun _ => hland⟩
  · simp only [hr]
    exact hland

theorem calm_login (config : Config) (credentials : Credentials) (silent : Bool) :
    Calm (login config credentials silent) := by
  have hrefuse : Calm (refuseLogin silent) := compositional_calm.refuseLogin silent
  refine Discipline.follows_bind.mpr (Discipline.follows_call.mpr ⟨.inl rfl, fun r => ?_⟩)
  cases h : r.toExcept with
  | error e =>
    simp only [conduct_afterCall, Api.admits, Api.shown?, h]
    exact hrefuse
  | ok profile =>
    simp only [conduct_afterCall, Api.admits, Api.shown?, h]
    by_cases hp : profile.isValid
    · simp only [hp, if_true]
      exact follows_enterSession _ _ _
    · simp only [hp]
      exact hrefuse

theorem calm_logout (config : Config) : Calm (logout config) := by
  refine compositional_calm.bind (calm_perform rfl) fun _ => ⟨.inr rfl, fun _ => ?_⟩
  let ending : Effect := .force (.setUser none)
  change conduct.Follows (if ending = ending then .leaving else .free) (goTo _) fun s _ => s = .free
  rw [if_pos rfl]
  exact ⟨⟨_, rfl⟩, fun _ => rfl⟩

theorem calm_createRepo (volume : VolumeName) : Calm (createRepo volume) :=
  compositional_calm.createRepo (fun _ => calm_perform rfl) calm_listRepos
    (calm_call _ _ (fun _ => rfl) fun _ => rfl)

theorem hasParts_calm (config : Config) : HasParts @Calm config := by
  have hcalm : Compositional @Calm := compositional_calm
  have hform : ∀ form, Calm (validForm form) := hcalm.validForm_of_state (calm_perform rfl)
  exact {
    listRepos := calm_listRepos
    loadCommits := fun _ => hcalm.loadCommits (calm_call _ _ (fun _ => rfl) fun _ => rfl)
    loadPublicConfig := follows_loadPublicConfig (.inl rfl)
    login := fun _ => calm_login _ _ _
    submitLogin := hcalm.submitLogin (hform _) fun _ => calm_login _ _ _
    submitRegistration := hcalm.submitRegistration (hform _) fun _ =>
      hcalm.register (calm_call _ _ (fun _ => rfl) fun _ => rfl) (calm_login _ _ _)
    restore := hcalm.restore (calm_perform rfl) fun _ => calm_login _ _ _
    logout := calm_logout config
    invite := fun _ _ => hcalm.invite (fun _ => calm_perform rfl)
      (calm_call _ _ (fun _ => rfl) fun _ => rfl) calm_listRepos
    pay := fun _ => hcalm.pay (fun _ => calm_perform rfl)
      (calm_call _ _ (fun _ => rfl) fun _ => rfl) }

/-- Every operation of a front end is conducted well. -/
theorem calm_workflow {config : Config} {op : Operation} (h : op.isOrdinary) :
    Calm (op.workflow config) := by
  refine compositional_calm.workflow (hasParts_calm config) (fun _ => calm_createRepo)
    (fun e he => calm_perform ?_) ?_ ?_ ?_
  · cases e with
    | force a => cases a <;> first | rfl | cases he
    | write _ | keep _ => cases he
    | _ => rfl
  · rintro a rfl
    cases h
  · rintro text rfl
    cases h
  · rintro api payload rfl
    cases h

/-- A discipline without phases that allows all that is conducted well is followed by every operation
whose own write it allows. -/
theorem follows_workflow {D : Discipline Unit} {config : Config} {op : Operation}
    (hdo : ∀ s e, conduct.mayDo s e → D.mayDo () e) (hcall : ∀ api payload, D.mayCall () api payload)
    (hkeep : ∀ text, D.mayDo () (.keep text))
    (hdispatch : ∀ a, op = .dispatch a → D.mayDo () (.force a)) :
    D.Follows () (op.workflow config) fun _ _ => True := by
  cases op with
  | dispatch a => exact ⟨hdispatch a rfl, fun _ => trivial⟩
  | keep text => exact ⟨hkeep text, fun _ => trivial⟩
  | load api payload => exact ⟨hcall api payload, fun _ => trivial⟩
  | _ => exact (calm_workflow rfl).relax hdo fun _ api payload _ => hcall api payload

end Workflow

/-- What happens without anybody writing the state or the storage from outside. -/
def Event.isOrdinary : Event → Bool
  | run op => op.isOrdinary
  | _ => true

namespace Console
variable {c : Console} {e : Event} {events : List Event}

/-- What a run of ordinary events keeps. -/
structure Conducted (c : Console) : Prop where
  numbered : c.Numbered
  disciplined : c.Disciplined conduct (fun s _ => s = .free) fun _ => True

theorem conducted_start {config : Config} {table : Route.Table} {storage : Storage} :
    (start config table storage).Conducted := ⟨numbered_start, fun _ hj => by simp [start] at hj⟩

theorem conducted_step (he : e.isOrdinary) (h : c.Conducted) : (c.step e).Conducted where
  numbered := numbered_step h.numbered
  disciplined := by
    have hcalm : ∀ op : Operation, op.isOrdinary →
        conduct.Follows .free (op.workflow c.config) fun s _ => s = .free :=
      fun _ ho => Workflow.calm_workflow ho
    refine disciplined_step (fun _ op hop => hcalm op ?_) (fun _ _ hook => hcalm _ rfl)
      h.disciplined
    subst hop
    exact he

theorem conducted_runAll (he : ∀ e ∈ events, e.isOrdinary) (h : c.Conducted) :
    (c.runAll events).Conducted :=
  runAll_keeps (fun e hm _ => conducted_step (he e hm)) h

end Console

end StorageConsole
