import StorageConsole.Proofs.Compositional
import StorageConsole.Proofs.Exchanges
import StorageConsole.Proofs.Outgoing

/-!
The footprint of a workflow: the calls that it may make, whatever its effects and its calls return.
-/
namespace StorageConsole

open Backend (Api LoadResult)

/-- Any effect, and none but these calls. -/
def calling (P : (api : Api) → api.Payload → Prop) : Discipline Unit where
  mayDo _ _ := True
  afterDo _ _ _ := ()
  mayCall _ api payload := P api payload
  afterCall _ _ _ := ()

namespace Workflow
variable {α : Type} {P : (api : Api) → api.Payload → Prop}

/-- The workflow makes none but these calls. -/
def Calls (P : (api : Api) → api.Payload → Prop) (w : Workflow α) : Prop :=
  (calling P).Follows () w fun _ _ => True

theorem compositional_calls (P : (api : Api) → api.Payload → Prop) :
    Compositional fun w => Calls P w :=
  (calling P).compositional_unit trivial fun _ _ => trivial

theorem calls_perform (e : Effect) : Calls P (perform e) := ⟨trivial, fun _ => trivial⟩

theorem calls_call {api : Api} {payload : api.Payload} (h : P api payload) :
    Calls P (call api payload) := ⟨h, fun _ => trivial⟩

theorem calls_listRepos (h : P .repoList ()) : Calls P listRepos :=
  (compositional_calls P).listRepos (calls_call h) fun _ _ => calls_perform _

theorem calls_createRepo {volume : VolumeName} (hlist : P .repoList ())
    (hcreate : P .repoCreate volume) : Calls P (createRepo volume) :=
  (compositional_calls P).createRepo (fun _ => calls_perform _) (calls_listRepos hlist)
    (calls_call hcreate)

theorem calls_login (hlogin : ∀ credentials, P .login credentials) (hconfig : P .config ())
    (config : Config) (credentials : Credentials) (silent : Bool) :
    Calls P (login config credentials silent) := by
  have hload : Calls P loadPublicConfig :=
    (compositional_calls P).loadPublicConfig (calls_call hconfig) fun _ => calls_perform _
  exact (compositional_calls P).login (calls_call (hlogin _)) fun _ =>
    (compositional_calls P).enterSession (calls_perform _) (fun _ => calls_perform _) hload _

theorem calls_restore (hlogin : ∀ credentials, P .login credentials) (hconfig : P .config ())
    (config : Config) : Calls P (restore config) :=
  (compositional_calls P).restore (calls_perform _) fun _ => calls_login hlogin hconfig config _ _

end Workflow

/-- Whether an operation may create a volume: the repo form is submitted, or its call is made by
itself. -/
def Operation.mayCreate : Operation → Bool
  | hook .repoFormSubmit | load .repoCreate _ => true
  | _ => false

namespace Workflow
variable {P : (api : Api) → api.Payload → Prop}

section
variable (h : ∀ api payload, api ≠ .repoCreate → P api payload)
include h

theorem hasParts_calls (config : Config) : HasParts (fun w => Calls P w) config := by
  have hcalls : Compositional fun w => Calls P w := compositional_calls P
  have hlist : Calls P listRepos := calls_listRepos (h _ _ nofun)
  have hlogin : ∀ credentials silent, Calls P (login config credentials silent) :=
    calls_login (fun _ => h _ _ nofun) (h _ _ nofun) config
  have hform : ∀ form, Calls P (validForm form) := hcalls.validForm_of_state (calls_perform _)
  exact {
    listRepos := hlist
    loadCommits := fun _ => hcalls.loadCommits (calls_call (h _ _ nofun))
    loadPublicConfig :=
      hcalls.loadPublicConfig (calls_call (h _ _ nofun)) fun _ => calls_perform _
    login := fun _ => hlogin _ _
    submitLogin := hcalls.submitLogin (hform _) fun _ => hlogin _ _
    submitRegistration := hcalls.submitRegistration (hform _) fun _ =>
      hcalls.register (calls_call (h _ _ nofun)) (hlogin _ _)
    restore := calls_restore (fun _ => h _ _ nofun) (h _ _ nofun) config
    logout := hcalls.logout (calls_perform _) (calls_perform _)
    invite := fun _ _ =>
      hcalls.invite (fun _ => calls_perform _) (calls_call (h _ _ nofun)) hlist
    pay := fun _ => hcalls.pay (fun _ => calls_perform _) (calls_call (h _ _ nofun)) }

/-- Whatever cannot create a volume makes any other calls at most. -/
theorem calls_workflow (config : Config) {op : Operation} (hop : op.mayCreate = false) :
    Calls P (op.workflow config) := by
  refine (compositional_calls P).workflow (hasParts_calls h config) ?_
    (fun _ _ => calls_perform _) (fun _ _ => calls_perform _) (fun _ _ => calls_perform _) ?_
  · rintro rfl
    cases hop
  · rintro api payload rfl
    refine calls_call (h _ _ ?_)
    rintro rfl
    cases hop

end

end Workflow

namespace Console
variable {α : Type} {P : (api : Api) → api.Payload → Prop} {gate : Gate} {w : Workflow α}
  {c : Console} {work : Work} {job : Job} {x : Sending}

/-- What is allowed of the calls of its footprint, is allowed of all that a workflow sends. No workflow
changes the table of routes. -/
theorem sends_of_calls {P' : Sending → Prop} (hw : w.Calls P)
    (hP : ∀ x : Sending, P x.api x.payload → P' x) :
    Sends P' w c fun _ d => d.table = c.table := by
  have hended := ends_of_follows (D := calling P) (I := fun _ d => d.table = c.table) ?_ ?_ hw rfl
  · refine hended.mono fun xs a d hd => ⟨fun x hx => ?_, ?_⟩
    · obtain ⟨_, hx⟩ := hd.1 x hx
      exact hP _ hx
    · obtain ⟨_, _, htable⟩ := hd.2
      exact htable
  · exact fun _ h => (perform_table _ _ _).trans h
  · intro _ api payload c' outcome _ h
    obtain ⟨calls, version, hstore⟩ := afterCall_toStore c' api payload outcome
    exact (congrArg Store.table hstore).trans h

/-- The call at which a workflow comes to rest is one of its footprint. -/
theorem allowed_of_sending? (hw : w.Calls P) (h : sending? gate w c = some x) :
    P x.api x.payload := by
  induction w generalizing c with
  | done value => cases h
  | act effect next ih => exact ih _ (hw.2 _) h
  | await api payload next ih =>
    rcases hc : c.call api payload with ⟨ticket, sent, d⟩
    cases sent with
    | error e =>
      rw [sending?_await_error hc] at h
      exact ih _ (hw.2 _) h
    | ok id =>
      rw [sending?_await_ok hc] at h
      cases h
      exact hw.1

/-- A job that waits after its work has nothing ahead of it but what the work allows. -/
theorem calls_of_mem_run (hw : work.workflow.Calls P) (h : job ∈ work.run.jobs) :
    job ∈ work.console.jobs ∨ job.id = work.id ∧ ∀ r, (job.pending.next r).Calls P := by
  obtain h | ⟨p, hp, rfl⟩ := mem_settle_jobs.mp h
  · rw [advance_jobs] at h
    exact .inl h
  · obtain ⟨_, _, _, hnext⟩ := awaits_advance hw hp
    exact .inr ⟨rfl, hnext⟩

end Console

end StorageConsole
