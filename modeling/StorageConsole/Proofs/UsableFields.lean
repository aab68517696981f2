import StorageConsole.Proofs.Checkout

/-!
What a submission makes of a valid form. The login form and the register form are read like the
validators look at them, and a required field never comes out blank; the repo form and the payment
form are read for texts alone, and any other value that has passed comes out as an empty text.
-/
namespace StorageConsole

open Backend (Api CallError LoadResult Reply Request)

/-- The required fields of a form, each with the text that a submission takes from it. -/
def FormName.taken (form : FormName) (values : FormValues) : List (String × String) :=
  match form with
  | login =>
    let credentials := Workflow.typedCredentials values
    [("Name", credentials.name), ("Password", credentials.password)]
  | register =>
    let registration := Workflow.typedRegistration values
    [("Email", registration.email), ("Name", registration.name),
      ("Password", registration.password)]
  | repo => [("Name", Text.trim (values.textOnly "Name"))]
  | payment => [("Plan", values.textOnly "Plan")]

/-- The hook that submits a form; the payment form comes with a card's token. -/
def FormName.submission (token : String) : FormName → Hook
  | login => .loginSubmit
  | register => .registerSubmit
  | repo => .repoFormSubmit
  | payment => .tokenReceived token

/-- What a call carries of the fields of forms. -/
def Sending.fields (x : Sending) : List (String × String) :=
  match x.api, x.payload with
  | .login, credentials => [("Name", credentials.name), ("Password", credentials.password)]
  | .register, registration =>
    [("Email", registration.email), ("Name", registration.name),
      ("Password", registration.password)]
  | .repoCreate, volume => [("Name", volume.name)]
  | .pay, payment => [("Plan", payment.planId)]
  | .repoList, _ | .commitList, _ | .invite, _ | .config, _ => []

namespace Console
variable {c d : Console} {xs : List Exchange} {config : Config}

/-- All that the exchanges carry of the fields of forms has been taken from this form. -/
def Carries (form : FormName) (values : FormValues) (xs : List Exchange) : Prop :=
  ∀ x ∈ xs, x.fields ⊆ form.taken values

variable {form : FormName} {values : FormValues} {x : Exchange}

theorem carries_nil : Carries form values [] := fun _ => nofun

theorem Carries.cons (hx : x.fields ⊆ form.taken values) (hxs : Carries form values xs) :
    Carries form values (x :: xs) := List.forall_mem_cons.mpr ⟨hx, hxs⟩

theorem Entrance.carries {ok : Bool}
    (h : c.Entrance config (Workflow.typedCredentials values) xs ok d) : Carries .login values xs := by
  have hchecked : Sending.fields ⟨c, .login, Workflow.typedCredentials values⟩ ⊆
      FormName.login.taken values := List.Subset.refl _
  cases h with
  | refused => exact carries_nil.cons hchecked
  | entered => exact (carries_nil.cons (List.nil_subset _)).cons hchecked

theorem Enrollment.carries
    (h : c.Enrollment config (Workflow.typedRegistration values) xs d) :
    Carries .register values xs := by
  have hposted : Sending.fields ⟨c, .register, Workflow.typedRegistration values⟩ ⊆
      FormName.register.taken values := List.Subset.refl _
  have hchecked : ∀ e, Sending.fields ⟨e, .login, .typed (Workflow.typedRegistration values).name
      (Workflow.typedRegistration values).password⟩ ⊆ FormName.register.taken values :=
    fun _ => List.subset_cons_self _ _
  cases h with
  | refused => exact carries_nil.cons hposted
  | excluded => exact (carries_nil.cons (hchecked _)).cons hposted
  | entered => exact ((carries_nil.cons (List.nil_subset _)).cons (hchecked _)).cons hposted

theorem Submission.carries {requested : Option VolumeName} (h : c.Submission requested xs d)
    (hname : ∀ volume ∈ requested, volume.name = Text.trim (values.textOnly "Name")) :
    Carries .repo values xs := by
  have hlist : ∀ e listed, Carries .repo values [⟨⟨e, .repoList, ()⟩, listed⟩] :=
    fun _ _ => carries_nil.cons (List.nil_subset _)
  cases h with
  | idle => exact carries_nil
  | created creation =>
    rename_i volume
    have hcreated : ∀ f, Sending.fields ⟨f, .repoCreate, volume⟩ ⊆ FormName.repo.taken values := by
      intro f
      have hvolume := hname volume rfl
      simp [Sending.fields, FormName.taken, hvolume]
    cases creation with
    | known => exact hlist _ _
    | failed => exact (carries_nil.cons (hcreated _)).cons (List.nil_subset _)
    | answered => exact (carries_nil.cons (hcreated _)).cons (List.nil_subset _)

theorem Checkout.carries {token : String} (h : c.Checkout config token xs d) :
    Carries .payment (c.state.form .payment).values xs := by
  intro x hx
  rw [h.mem.2 x hx, FormName.taken, State.textOnly_plan]
  exact List.Subset.refl _

end Console

namespace Workflow
open Console

theorem carries_submitLogin (config : Config) (c : Console) :
    Ends (submitLogin config) c fun xs _ _ => Carries .login (c.state.form .login).values xs := by
  unfold submitLogin
  rw [ends_bind, ends_validForm]
  cases (c.state.form .login).valid with
  | false =>
    simp only [Bool.false_eq_true, if_false]
    exact ends_pure.mpr carries_nil
  | true =>
    simp only [if_true]
    exact (ends_login_aloud config _ c).mono fun _ _ _ hd => hd.carries

theorem carries_submitRegistration (config : Config) (c : Console) :
    Ends (submitRegistration config) c fun xs _ _ =>
      Carries .register (c.state.form .register).values xs := by
  refine (ends_submitRegistration config c).mono fun xs _ d hd => ?_
  split at hd
  · exact hd.carries
  · rw [hd.1]
    exact carries_nil

theorem carries_submitRepoForm (c : Console) :
    Ends submitRepoForm c fun xs _ _ => Carries .repo (c.state.form .repo).values xs := by
  refine (ends_submitRepoForm c).mono fun xs _ d hd => hd.carries fun volume hvolume => ?_
  unfold State.requestedVolume? at hvolume
  split at hvolume
  · obtain ⟨user, _, rfl⟩ := Option.map_eq_some_iff.mp hvolume
    rfl
  · cases hvolume

theorem carries_receiveToken (config : Config) (token : String) (c : Console) :
    Ends (receiveToken config token) c fun xs _ _ =>
      Carries .payment (c.state.form .payment).values xs :=
  (ends_checkout config token c).mono fun _ _ _ hd => hd.carries

end Workflow

namespace Console
variable {σ : Type}

/-- All that a submission sends of the fields of forms it has taken from its own form. -/
theorem carries_submission (config : Config) (backend : Request → StateM σ Reply) (form : FormName)
    (token : String) (c : Console) (s : σ) :
    Carries form (c.state.form form).values
      (attempt config backend (form.submission token) c s).1 := by
  cases form with
  | login =>
    exact attempt_keeps config .loginSubmit
      ((Workflow.carries_submitLogin config c).returning ()) backend s
  | register =>
    exact attempt_keeps config .registerSubmit
      ((Workflow.carries_submitRegistration config c).returning ()) backend s
  | repo =>
    exact attempt_keeps config .repoFormSubmit
      ((Workflow.carries_submitRepoForm c).returning ()) backend s
  | payment =>
    exact attempt_keeps config (.tokenReceived token)
      ((Workflow.carries_receiveToken config token c).returning ()) backend s

end Console

namespace FormName
open Console
variable {form : FormName} {values : FormValues}

theorem taken_names (form : FormName) (values : FormValues) :
    (form.taken values).map (·.1) =
      (form.fields.filter (·.validators.contains .required)).map (·.name) := by
  cases form <;> rfl

theorem present_of_taken (valid : (form.snapshot values).valid = true) {name text : String}
    (h : (name, text) ∈ form.taken values) :
    Validator.isPresent ((values.get? name).getD .null) = true := by
  have hname : name ∈ (form.taken values).map (·.1) := List.mem_map_of_mem h
  rw [taken_names] at hname
  obtain ⟨field, hfield, rfl⟩ := List.mem_map.mp hname
  obtain ⟨hfield, hrequired⟩ := List.mem_filter.mp hfield
  exact Validator.isPresent_of_check
    (check_of_valid valid hfield (List.contains_iff_mem.mp hrequired))

/-- What a form reads in a field. -/
def read (form : FormName) (values : FormValues) (name : String) : String :=
  match form with
  | login | register => values.typed name
  | repo => Text.trim (values.textOnly name)
  | payment => values.textOnly name

theorem eq_read_of_taken {name text : String} (h : (name, text) ∈ form.taken values) :
    text = form.read values name := by
  have hread : ∀ field ∈ form.taken values, field.2 = form.read values field.1 := by
    cases form <;>
      simp [taken, read, Workflow.typedCredentials, Workflow.typedRegistration, Credentials.typed]
  exact hread _ h

/-- Whether a form is read for every value of its fields, and not for texts alone. -/
def readsAll : FormName → Bool
  | login | register => true
  | repo | payment => false

theorem not_blank_iff (valid : (form.snapshot values).valid = true) {name text : String}
    (h : (name, text) ∈ form.taken values) :
    Text.isBlankText text = false ↔
      form.readsAll = true ∨ ∃ t, values.get? name = some (.str t) := by
  have hpresent := present_of_taken valid h
  obtain rfl := eq_read_of_taken h
  cases form with
  | login | register => exact iff_of_true (FormValues.typed_not_blank hpresent) (.inl rfl)
  | repo =>
    rw [read, Text.isBlankText_trim, FormValues.textOnly_not_blank_iff hpresent]
    simp [readsAll]
  | payment =>
    rw [read, FormValues.textOnly_not_blank_iff hpresent]
    simp [readsAll]

/-- What a submission takes from a valid form, and all that it sends of its fields. A required field of
the login or the register form is never blank; one of the repo or the payment form is blank unless
its value is a text. The address of a registration is one if its value is a text, and never if it is
a number or a truth value. -/
theorem usable_fields_of_valid {σ : Type} (valid : (form.snapshot values).valid = true) :
    (∀ name text, (name, text) ∈ form.taken values → (Text.isBlankText text = false ↔
      form.readsAll = true ∨ ∃ t, values.get? name = some (.str t))) ∧
    (form = .register → (Validator.IsAddress (Workflow.typedRegistration values).email ↔
      ((values.get? "Email").getD .null).ReadsAsAddress)) ∧
    ∀ (config : Config) (backend : Request → StateM σ Reply) (token : String) (c : Console) (s : σ),
      c.state.form form = form.snapshot values →
        Carries form values (attempt config backend (form.submission token) c s).1 := by
  refine ⟨fun name text h => not_blank_iff valid h, ?_, fun config backend token c s hform => ?_⟩
  · rintro rfl
    have hfield : ⟨"Email", [.required, .email]⟩ ∈ register.fields := .head _
    have hrequired := check_of_valid valid hfield (.head _)
    have hemail := check_of_valid valid hfield (.tail _ (.head _))
    exact FormValues.isAddress_typed_iff (Validator.isPresent_of_check hrequired) hemail
  · have hcarries := carries_submission config backend form token c s
    rw [hform] at hcarries
    exact hcarries

/-- A valid register form whose address is a number. -/
def numbered : FormValues :=
  Named.ofList [("Email", .int 5), ("Name", .str "ann"), ("Password", .bool true)]

theorem usable_fields_of_valid_numbered :
    (register.snapshot numbered).valid = true ∧
      (∀ field ∈ register.taken numbered, Text.isBlankText field.2 = false) ∧
      ¬ Validator.IsAddress (Workflow.typedRegistration numbered).email := by
  have hvalid : (register.snapshot numbered).valid = true := by decide
  obtain ⟨hblank, haddress, _⟩ := usable_fields_of_valid (σ := Unit) hvalid
  refine ⟨hvalid, fun field hfield => (hblank _ _ hfield).mpr (.inl rfl), ?_⟩
  rw [haddress rfl]
  exact id

/-- Neither is a required field always usable, nor does an address always look like one. -/
theorem valid_fields_unusable :
    (¬ ∀ (form : FormName) (values : FormValues), (form.snapshot values).valid = true →
      ∀ field ∈ form.taken values, Text.isBlankText field.2 = false) ∧
    ¬ ∀ values : FormValues, (register.snapshot values).valid = true →
      Validator.IsAddress (Workflow.typedRegistration values).email := by
  constructor
  · intro h
    have hplan := h payment (Named.ofList [("Plan", .int 5)]) (by decide) ("Plan", "") (.head _)
    cases hplan
  · intro h
    have haddress := h numbered (by decide)
    rw [← Validator.isEmail_iff] at haddress
    revert haddress
    decide

end FormName
end StorageConsole
