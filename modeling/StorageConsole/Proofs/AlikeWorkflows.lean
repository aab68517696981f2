import StorageConsole.Proofs.Compositional

/-!
Workflows that are alike: whatever they learn from states and stored texts that are alike, they do
the same, except that other passwords go where a password belongs.
-/
namespace StorageConsole

open Backend (Api LoadResult)

/-- Whether an effect returns the same in consoles that are alike. -/
def Effect.isPublic : Effect → Bool
  | look | retrieve => false
  | _ => true

/-- Step by step the same, with results that are related at the end. -/
inductive Workflow.Alike {α β : Type} (R : α → β → Prop) : Workflow α → Workflow β → Prop where
  | done {a b} (h : R a b) : Alike R (.done a) (.done b)
  | look {next next'} (h : ∀ s s', s.Alike s' → Alike R (next s) (next' s')) :
      Alike R (.act .look next) (.act .look next')
  | retrieve {next next'} (h : ∀ r r', LoadAlike r r' → Alike R (next r) (next' r')) :
      Alike R (.act .retrieve next) (.act .retrieve next')
  | keep {text text' next next'} (ht : Credentials.TextAlike text text')
      (h : ∀ r, Alike R (next r) (next' r)) :
      Alike R (.act (.keep text) next) (.act (.keep text') next')
  | force {a a' next next'} (ha : a.Alike a') (h : ∀ r, Alike R (next r) (next' r)) :
      Alike R (.act (.force a) next) (.act (.force a') next')
  | act {effect next next'} (he : effect.isPublic) (h : ∀ r, Alike R (next r) (next' r)) :
      Alike R (.act effect next) (.act effect next')
  | await {api payload payload' next next'} (hp : api.PayloadAlike payload payload')
      (h : ∀ r, Alike R (next r) (next' r)) :
      Alike R (.await api payload next) (.await api payload' next')

namespace Workflow
variable {α β γ δ : Type} {R : α → β → Prop} {S : γ → δ → Prop} {w : Workflow α} {w' : Workflow β}
  {f : α → Workflow γ} {f' : β → Workflow δ}

/-- Workflows that are alike, followed by workflows that are alike. -/
theorem alike_bind (hw : Alike R w w') (hf : ∀ a b, R a b → Alike S (f a) (f' b)) :
    Alike S (w >>= f) (w' >>= f') := by
  change Alike S (w.bind f) (w'.bind f')
  induction hw with
  | done h => exact hf _ _ h
  | look _ ih => exact .look ih
  | retrieve _ ih => exact .retrieve ih
  | keep ht _ ih => exact .keep ht ih
  | force ha _ ih => exact .force ha ih
  | act he _ ih => exact .act he ih
  | await hp _ ih => exact .await hp ih

theorem alike_state : Alike State.Alike state state := .look fun _ _ h => .done h

theorem alike_retrieve : Alike LoadAlike (perform .retrieve) (perform .retrieve) :=
  .retrieve fun _ _ h => .done h

theorem alike_call {api : Api} {payload payload' : api.Payload}
    (h : api.PayloadAlike payload payload') : Alike Eq (call api payload) (call api payload') :=
  .await h fun _ => .done rfl

/-- The workflow does the same whatever the passwords are. -/
def IsPublic (w : Workflow α) : Prop := Alike Eq w w

theorem compositional_public : Compositional @IsPublic where
  pure _ := .done rfl
  bind hw hf := alike_bind hw fun a b hab => by
    subst hab
    exact hf a
  look hsame hf := alike_bind alike_state fun s s' hs => by
    rw [← hsame s s' hs]
    exact hf s
  perform {e} he := by
    refine .act ?_ fun _ => .done rfl
    cases e with
    | look | retrieve => cases he
    | _ => rfl

theorem public_perform {e : Effect} (he : e.isPublic) : IsPublic (perform e) :=
  .act he fun _ => .done rfl

theorem alike_force {a a' : Action} (h : a.Alike a') : Alike Eq (setAlways a) (setAlways a') :=
  .force h fun _ => .done rfl

theorem public_force (a : Action) : IsPublic (setAlways a) := alike_force (.same a)

theorem public_call (api : Api) (payload : api.Payload) : IsPublic (call api payload) :=
  alike_call (.refl api payload)

/-- The values of a valid form are alike, as the form is. -/
theorem alike_validForm (form : FormName) :
    Alike (Option.Rel (FormValues.AlikeIn form)) (validForm form) (validForm form) := by
  refine alike_bind alike_state fun s s' hs => ?_
  have hform := hs.form form
  dsimp only
  generalize s.form form = t at hform
  generalize s'.form form = t' at hform
  cases hform with
  | mk values =>
    dsimp only
    split
    · exact .done (.some values)
    · exact .act rfl fun _ => .done .none

theorem public_listRepos : IsPublic listRepos :=
  compositional_public.listRepos (public_call _ _) fun _ _ => public_perform rfl

theorem public_loadPublicConfig : IsPublic loadPublicConfig :=
  compositional_public.loadPublicConfig (public_call _ _) fun _ => public_perform rfl

theorem alike_enterSession (config : Config) {session session' : Credentials}
    (h : session.Alike session') (silent : Bool) :
    Alike Eq (enterSession config session silent) (enterSession config session' silent) := by
  have hland : IsPublic (do
      if !silent then
        signal .loggedIn
        goTo config.landingPath
      loadPublicConfig
      set (.setReposLoaded false)
      return true) := compositional_public.welcome public_loadPublicConfig silent
  have htext := h.toText
  refine .force (.setUser (.some h)) fun _ => ?_
  cases h with
  | mk password =>
    change Alike Eq (if session.remember then _ else _) (if session.remember then _ else _)
    split
    · exact .keep htext fun _ => hland
    · exact hland

/-- A login does the same whatever the password is; what it says comes from the backend. -/
theorem alike_login (config : Config) {credentials credentials' : Credentials}
    (h : credentials.Alike credentials') (silent : Bool) :
    Alike Eq (login config credentials silent) (login config credentials' silent) := by
  refine alike_bind (alike_call h) fun r _ hr => ?_
  subst hr
  split
  · split
    · exact alike_enterSession config (h.merge _) silent
    · exact compositional_public.refuseLogin silent
  · exact compositional_public.refuseLogin silent

theorem typedCredentials_alike {v v' : FormValues} (h : v.AlikeIn .login v') :
    (typedCredentials v).Alike (typedCredentials v') := by
  have hname : v.typed "Name" = v'.typed "Name" := h.typed (by decide)
  have hremember : v.isTicked "Remember" = v'.isTicked "Remember" := h.isTicked (by decide)
  rw [typedCredentials, typedCredentials, hname, hremember]
  exact .mk _

theorem public_submitLogin (config : Config) : IsPublic (submitLogin config) := by
  refine alike_bind (alike_validForm .login) fun a b h => ?_
  cases h with
  | none => exact compositional_public.pure false
  | some values => exact alike_login config (typedCredentials_alike values) false

theorem alike_register (config : Config) (r : Registration) (password : String) :
    Alike Eq (register config r) (register config { r with password }) := by
  have hpublic : Compositional @IsPublic := compositional_public
  refine alike_bind (alike_call ⟨password, rfl⟩) fun result _ hr => ?_
  subst hr
  split
  · exact hpublic.refuseRegistration _
  · split
    · refine alike_bind (alike_login config (.mk password) false) fun entered _ h => ?_
      subst h
      split
      · exact hpublic.bind (public_perform rfl) fun _ => hpublic.pure true
      · exact hpublic.pure false
    · exact hpublic.refuseRegistration _

theorem public_submitRegistration (config : Config) : IsPublic (submitRegistration config) := by
  refine alike_bind (alike_validForm .register) fun a b h => ?_
  cases h with
  | none => exact compositional_public.pure false
  | @some v v' values =>
    have hemail : v.typed "Email" = v'.typed "Email" := values.typed (by decide)
    have hname : v.typed "Name" = v'.typed "Name" := values.typed (by decide)
    have htyped : typedRegistration v' =
        { typedRegistration v with password := v'.typed "Password" } := by
      rw [typedRegistration, typedRegistration, hemail, hname]
    change Alike Eq (register config (typedRegistration v)) (register config (typedRegistration v'))
    rw [htyped]
    exact alike_register config _ _

/-- What can be restored from stored texts that are alike. -/
theorem restorable?_alike {r r' : Except StorageError (Option String)} (h : LoadAlike r r') :
    Option.Rel Credentials.Alike (restorable? r) (restorable? r') := by
  cases h with
  | error e => exact .none
  | ok h =>
    cases h with
    | none => exact .none
    | some h =>
      rcases h with rfl | ⟨c, c', hc, hc', h⟩
      · exact optionRel_refl Credentials.Alike.refl _
      · cases h
        simp only [restorable?, hc, hc']
        split
        · exact .none
        · exact .some (.mk _)

theorem public_restore (config : Config) : IsPublic (restore config) := by
  refine alike_bind alike_retrieve fun r r' h => ?_
  have hr := restorable?_alike h
  generalize restorable? r = x at hr
  generalize restorable? r' = x' at hr
  cases hr with
  | none => exact compositional_public.pure false
  | some hc => exact alike_login config hc true

theorem hasParts_public (config : Config) : HasParts @IsPublic config where
  listRepos := public_listRepos
  loadCommits _ := compositional_public.loadCommits (public_call _ _)
  loadPublicConfig := public_loadPublicConfig
  login credentials := alike_login config (.refl credentials) false
  submitLogin := public_submitLogin config
  submitRegistration := public_submitRegistration config
  restore := public_restore config
  logout := compositional_public.logout (public_perform rfl) (public_force _)
  invite _ _ := compositional_public.invite (fun _ => public_perform rfl) (public_call _ _)
    public_listRepos
  pay _ := compositional_public.pay (fun _ => public_perform rfl) (public_call _ _)

/-- Every operation does the same whatever the passwords are. -/
theorem public_workflow (config : Config) (op : Operation) : IsPublic (op.workflow config) := by
  refine compositional_public.workflow (hasParts_public config)
    (fun _ _ => compositional_public.createRepo (fun _ => public_perform rfl) public_listRepos
      (public_call _ _))
    (fun e he => public_perform ?_) (fun a _ => public_force a) (fun _ _ => public_perform rfl)
    (fun _ _ _ => public_call _ _)
  cases e with
  | look | retrieve => cases he
  | _ => rfl

theorem alike_updateForm (config : Config) {form : FormName} {v v' : FormValues}
    (h : v.AlikeIn form v') :
    Alike Eq ((Operation.updateForm form v).workflow config)
      ((Operation.updateForm form v').workflow config) :=
  .force (.setForm h.snapshot) fun _ => .done rfl

end Workflow
end StorageConsole
