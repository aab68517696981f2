import Mathlib.Data.List.Forall2
import StorageConsole.Console
import StorageConsole.Proofs.Saving
import StorageConsole.Proofs.SessionText

/-!
What two runs may differ in when different passwords are typed: credentials, forms, states, stored
texts and requests that are alike but for a password, and what is made of them.
-/
namespace StorageConsole

open Backend (Api CallError Client Message Request)

namespace Credentials

/-- The same but for the password. -/
inductive Alike (c : Credentials) : Credentials → Prop where
  | mk (password : String) : Alike c { c with password }

theorem Alike.refl (c : Credentials) : c.Alike c := .mk c.password

/-- The same text, or texts that hold credentials which are alike. -/
def TextAlike (text text' : String) : Prop :=
  text = text' ∨ ∃ c c', ofText text = .ok c ∧ ofText text' = .ok c' ∧ c.Alike c'

theorem TextAlike.refl (text : String) : TextAlike text text := .inl rfl

variable {c c' : Credentials}

theorem Alike.merge (h : c.Alike c') (p : Profile) : (c.merge p).Alike (c'.merge p) := by
  cases h
  exact .mk _

theorem Alike.toText (h : c.Alike c') : TextAlike c.toText c'.toText :=
  .inr ⟨c, c', ofText_toText c, ofText_toText c', h⟩

end Credentials

theorem optionRel_refl {α : Type} {R : α → α → Prop} (h : ∀ a, R a a) (x : Option α) :
    Option.Rel R x x := by
  cases x with
  | none => exact .none
  | some a => exact .some (h a)

/-- The forms into which a password is typed. -/
def FormName.hasPassword : FormName → Bool
  | login | register => true
  | repo | payment => false

namespace FormValues
variable {form : FormName} {v v' : FormValues}

/-- The same values but for a password, which is not blank. -/
structure Alike (v v' : FormValues) : Prop where
  rest : ∀ name ≠ "Password", v.get? name = v'.get? name
  password : ∃ p p', v.get? "Password" = some (.str p) ∧ v'.get? "Password" = some (.str p') ∧
    Text.isBlankText p = false ∧ Text.isBlankText p' = false

/-- Whatever else has been filled in, two passwords may be typed. -/
theorem alike_insert (v : FormValues) {p p' : String} (hp : Text.isBlankText p = false)
    (hp' : Text.isBlankText p' = false) :
    Alike (v.insert "Password" (.str p)) (v.insert "Password" (.str p')) where
  rest name hn := by
    rw [Named.get?_insert, Named.get?_insert, if_neg hn.symm, if_neg hn.symm]
  password := by
    refine ⟨p, p', ?_, ?_, hp, hp'⟩ <;> rw [Named.get?_insert, if_pos rfl]

/-- Values of a form that are the same but for a password, if it has one. -/
def AlikeIn (form : FormName) (v v' : FormValues) : Prop :=
  v = v' ∨ form.hasPassword ∧ v.Alike v'

theorem AlikeIn.eq (h : v.AlikeIn form v') (hf : form.hasPassword = false) : v = v' := by
  rcases h with h | ⟨hp, _⟩
  · exact h
  · cases hf.symm.trans hp

theorem AlikeIn.rest (h : v.AlikeIn form v') {name : String} (hn : name ≠ "Password") :
    v.get? name = v'.get? name := by
  rcases h with rfl | ⟨_, h⟩
  · rfl
  · exact h.rest name hn

theorem AlikeIn.typed (h : v.AlikeIn form v') {name : String} (hn : name ≠ "Password") :
    v.typed name = v'.typed name := by
  rw [FormValues.typed, FormValues.typed, h.rest hn]

theorem AlikeIn.isTicked (h : v.AlikeIn form v') {name : String} (hn : name ≠ "Password") :
    v.isTicked name = v'.isTicked name := by
  rw [FormValues.isTicked, FormValues.isTicked, h.rest hn]

/-- Of a password no form checks more than that it is there. -/
theorem validators_password {field : Field} (hf : field ∈ form.fields)
    (hn : field.name = "Password") : field.validators = [.required] := by
  have hall : ∀ form ∈ FormName.all, ∀ field ∈ form.fields, field.name = "Password" →
      field.validators = [.required] := by decide
  exact hall form form.mem_all field hf hn

theorem AlikeIn.error? (h : v.AlikeIn form v') {field : Field} (hf : field ∈ form.fields) :
    field.error? v = field.error? v' := by
  rcases h with rfl | ⟨_, h⟩
  · rfl
  · by_cases hn : field.name = "Password"
    · obtain ⟨p, p', hp, hp', hfull, hfull'⟩ := h.password
      simp [Field.error?, validators_password hf hn, hn, hp, hp', Validator.check,
        Validator.isPresent, hfull, hfull']
    · rw [Field.error?, Field.error?, h.rest _ hn]

theorem AlikeIn.errors (h : v.AlikeIn form v') : form.errors v = form.errors v' := by
  refine List.filterMap_congr fun field hf => ?_
  rw [h.error? hf]

end FormValues

namespace FormSnapshot

inductive Alike (form : FormName) : FormSnapshot → FormSnapshot → Prop where
  | mk {valid touched : Bool} {v v' : FormValues} (values : v.AlikeIn form v') :
      Alike form ⟨valid, touched, v⟩ ⟨valid, touched, v'⟩

theorem Alike.refl (form : FormName) (t : FormSnapshot) : Alike form t t := .mk (.inl rfl)

end FormSnapshot

theorem FormValues.AlikeIn.snapshot {form : FormName} {v v' : FormValues} (h : v.AlikeIn form v') :
    FormSnapshot.Alike form (form.snapshot v) (form.snapshot v') := by
  rw [FormName.snapshot, FormName.snapshot, h.errors]
  exact .mk h

namespace State

/-- The same but for the password of the user and the passwords typed into forms. -/
inductive Alike (s : State) : State → Prop where
  | mk {user : Option Credentials} {forms : FormName → Option FormSnapshot}
      (user_alike : Option.Rel Credentials.Alike s.user user)
      (forms_alike : ∀ form, Option.Rel (FormSnapshot.Alike form) (s.forms form) (forms form)) :
      Alike s { s with user, forms }

variable {s s' : State}

theorem Alike.refl (s : State) : s.Alike s :=
  .mk (optionRel_refl Credentials.Alike.refl _) fun form =>
    optionRel_refl (FormSnapshot.Alike.refl form) _

theorem Alike.user (h : s.Alike s') : Option.Rel Credentials.Alike s.user s'.user := by
  cases h with
  | mk user_alike _ => exact user_alike

theorem Alike.userName? (h : s.Alike s') : s.userName? = s'.userName? := by
  have hu := h.user
  unfold State.userName?
  generalize s.user = u at hu
  generalize s'.user = u' at hu
  cases hu with
  | none => rfl
  | some h =>
    cases h
    rfl

theorem Alike.isSome_user (h : s.Alike s') : s.user.isSome = s'.user.isSome := by
  have hn := congrArg Option.isSome h.userName?
  rwa [State.userName?, State.userName?, Option.isSome_map, Option.isSome_map] at hn

theorem Alike.form (h : s.Alike s') (name : FormName) :
    FormSnapshot.Alike name (s.form name) (s'.form name) := by
  cases h with
  | @mk _ forms _ forms_alike =>
    have hf := forms_alike name
    unfold State.form
    dsimp only
    generalize s.forms name = t at hf
    generalize forms name = t' at hf
    cases hf with
    | none => exact .refl _ _
    | some h => exact h

/-- Of a form without a password nothing differs. -/
theorem Alike.form_eq (h : s.Alike s') {name : FormName} (hn : name.hasPassword = false) :
    s.form name = s'.form name := by
  have hf := h.form name
  generalize s.form name = t at hf
  generalize s'.form name = t' at hf
  cases hf with
  | mk values => rw [values.eq hn]

theorem Alike.setForm (h : s.Alike s') {name : FormName} {t t' : FormSnapshot}
    (ht : FormSnapshot.Alike name t t') : (s.setForm name t).Alike (s'.setForm name t') := by
  cases h with
  | mk user_alike forms_alike =>
    refine .mk user_alike fun other => ?_
    dsimp only [State.setForm]
    split
    · next ho =>
      subst ho
      exact .some ht
    · exact forms_alike other

end State

/-- The same action, or one that leaves a password in the state. -/
inductive Action.Alike : Action → Action → Prop where
  | same (a : Action) : Alike a a
  | setUser {user user' : Option Credentials} (h : Option.Rel Credentials.Alike user user') :
      Alike (.setUser user) (.setUser user')
  | setForm {form : FormName} {t t' : FormSnapshot} (h : FormSnapshot.Alike form t t') :
      Alike (.setForm form t) (.setForm form t')

theorem State.Alike.touch {s s' : State} (h : s.Alike s') (name : FormName) :
    FormSnapshot.Alike name { s.form name with touched := true }
      { s'.form name with touched := true } := by
  have hf := h.form name
  generalize s.form name = t at hf
  generalize s'.form name = t' at hf
  cases hf with
  | mk values => exact .mk values

theorem State.Alike.apply {s s' : State} {a a' : Action} (h : s.Alike s') (ha : a.Alike a') :
    (a.apply s).Alike (a'.apply s') := by
  cases ha with
  | setUser hu =>
    cases h with
    | mk _ forms_alike => exact @State.Alike.mk { s with user := _ } _ _ hu forms_alike
  | setForm ht => exact h.setForm ht
  | same a =>
    cases a with
    | setForm form t => exact h.setForm (.refl form t)
    | touchForm form => exact h.setForm (h.touch form)
    | resetForm form => exact h.setForm (.refl form _)
    | setUser user =>
      cases h with
      | mk _ forms_alike =>
        exact @State.Alike.mk { s with user } _ _ (optionRel_refl Credentials.Alike.refl _)
          forms_alike
    | _ =>
      cases h with
      | mk user_alike forms_alike => exact State.Alike.mk user_alike forms_alike

/-- The same names, and under each of them entries that are alike. -/
def Named.Alike {α : Type} (R : α → α → Prop) (x x' : Named α) : Prop :=
  ∀ name, Option.Rel R (x.get? name) (x'.get? name)

namespace Named
variable {α : Type} {R : α → α → Prop} {x x' : Named α} {a a' : α}

theorem Alike.insert (h : x.Alike R x') (name : String) (ha : R a a') :
    (x.insert name a).Alike R (x'.insert name a') := by
  intro other
  rw [get?_insert, get?_insert]
  split
  · exact .some ha
  · exact h other

theorem Alike.erase (h : x.Alike R x') (name : String) :
    (x.erase name).Alike R (x'.erase name) := by
  intro other
  by_cases ho : other = name
  · rw [ho, get?_erase, get?_erase]
    exact .none
  · rw [get?_erase_of_ne x ho, get?_erase_of_ne x' ho]
    exact h other

end Named

/-- What two loads return from storages that are alike. -/
inductive LoadAlike : Except StorageError (Option String) → Except StorageError (Option String) →
    Prop where
  | error (e : StorageError) : LoadAlike (.error e) (.error e)
  | ok {text text' : Option String} (h : Option.Rel Credentials.TextAlike text text') :
      LoadAlike (.ok text) (.ok text')

namespace Folder

inductive EntryAlike : FolderEntry → FolderEntry → Prop where
  | file {text text' : String} (h : Credentials.TextAlike text text') (ownerOnly : Bool) :
      EntryAlike (.file text ownerOnly) (.file text' ownerOnly)
  | folder : EntryAlike .folder .folder

inductive Alike : Folder → Folder → Prop where
  | absent : Alike .absent .absent
  | made {entries entries' : Named FolderEntry} (h : entries.Alike EntryAlike entries') :
      Alike (.made entries) (.made entries')

variable {f f' : Folder} {entry entry' : FolderEntry} {text text' : String}

theorem Alike.entries (h : f.Alike f') : f.entries.Alike EntryAlike f'.entries := by
  cases h with
  | absent => exact fun _ => .none
  | made h => exact h

theorem Alike.put (h : f.Alike f') (name : String) (he : EntryAlike entry entry') :
    (f.put name entry).Alike (f'.put name entry') := .made (h.entries.insert name he)

theorem Alike.drop (h : f.Alike f') (name : String) : (f.drop name).Alike (f'.drop name) := by
  cases h with
  | absent => exact .absent
  | made h => exact .made (h.erase name)

/-- What looking a name up comes to in both. -/
inductive LookAlike : Option (Option FolderEntry) → Option (Option FolderEntry) → Prop where
  | refused : LookAlike none none
  | nothing : LookAlike (some none) (some none)
  | folder : LookAlike (some (some .folder)) (some (some .folder))
  | file {text text' : String} (h : Credentials.TextAlike text text') (ownerOnly : Bool) :
      LookAlike (some (some (.file text ownerOnly))) (some (some (.file text' ownerOnly)))

theorem Alike.look? (h : f.Alike f') (name : String) :
    LookAlike (f.look? name) (f'.look? name) := by
  unfold Folder.look?
  split
  · cases h with
    | absent => exact .nothing
    | @made entries entries' h =>
      dsimp only
      split
      · have hname := h name
        generalize entries.get? name = x at hname
        generalize entries'.get? name = x' at hname
        cases hname with
        | none => exact .nothing
        | some he =>
          cases he with
          | folder => exact .folder
          | file ht ownerOnly => exact .file ht ownerOnly
      · exact .refused
  · exact .refused

theorem Alike.removeFile? (h : f.Alike f') (name : String) :
    Option.Rel Alike (f.removeFile? name) (f'.removeFile? name) := by
  have hl := h.look? name
  unfold Folder.removeFile?
  generalize f.look? name = x at hl
  generalize f'.look? name = x' at hl
  cases hl with
  | refused | folder => exact .none
  | nothing => exact .some h
  | file _ _ => exact .some (h.drop name)

theorem Alike.makeFile? (h : f.Alike f') (name : String) (ht : Credentials.TextAlike text text') :
    Option.Rel Alike (f.makeFile? name text) (f'.makeFile? name text') := by
  have hl := h.look? name
  unfold Folder.makeFile?
  generalize f.look? name = x at hl
  generalize f'.look? name = x' at hl
  cases hl with
  | nothing => exact .some (h.put name (.file ht true))
  | refused | folder | file _ _ => exact .none

theorem Alike.moveFile? (h : f.Alike f') (name target : String) :
    Option.Rel Alike (f.moveFile? name target) (f'.moveFile? name target) := by
  have hl := h.look? name
  have hl' := h.look? target
  unfold Folder.moveFile?
  generalize f.look? name = x at hl
  generalize f'.look? name = x' at hl
  generalize f.look? target = y at hl'
  generalize f'.look? target = y' at hl'
  cases hl with
  | refused | nothing | folder => exact .none
  | file ht ownerOnly =>
    have hmoved := (h.drop name).put target (.file ht ownerOnly)
    cases hl' with
    | refused | folder => exact .none
    | nothing | file _ _ => exact .some hmoved

theorem Alike.load (h : f.Alike f') (key : String) : LoadAlike (f.load key) (f'.load key) := by
  have hl := h.look? (fileOf key)
  unfold Folder.load readFile?
  generalize f.look? (fileOf key) = x at hl
  generalize f'.look? (fileOf key) = x' at hl
  split
  · exact .error _
  · cases hl with
    | refused | folder => exact .error _
    | nothing => exact .ok .none
    | file ht _ => exact .ok (.some ht)

/-- Whether a save succeeds does not depend on the text. -/
theorem Alike.save (h : f.Alike f') (key : String) (ht : Credentials.TextAlike text text') :
    (f.save key text).1 = (f'.save key text').1 ∧
      (f.save key text).2.Alike (f'.save key text').2 := by
  have hmade : (Folder.made f.entries).Alike (.made f'.entries) := .made h.entries
  generalize hg : Folder.made f.entries = g at hmade
  generalize hg' : Folder.made f'.entries = g' at hmade
  have hcleared : ((g.removeFile? (temporaryFileOf key)).getD g).Alike
      ((g'.removeFile? (temporaryFileOf key)).getD g') := by
    have hr := hmade.removeFile? (temporaryFileOf key)
    generalize g.removeFile? (temporaryFileOf key) = x at hr
    generalize g'.removeFile? (temporaryFileOf key) = x' at hr
    cases hr with
    | none => exact hmade
    | some hr => exact hr
  unfold Folder.save
  rw [hg, hg']
  split
  · exact ⟨rfl, h⟩
  · dsimp only
    generalize (g.removeFile? (temporaryFileOf key)).getD g = g at hcleared
    generalize (g'.removeFile? (temporaryFileOf key)).getD g' = g' at hcleared
    have hw := hcleared.makeFile? (temporaryFileOf key) ht
    generalize g.makeFile? (temporaryFileOf key) text = y at hw
    generalize g'.makeFile? (temporaryFileOf key) text' = y' at hw
    cases hw with
    | none => exact ⟨rfl, hcleared⟩
    | @some written written' hw =>
      have hm := hw.moveFile? (temporaryFileOf key) (fileOf key)
      dsimp only
      generalize written.moveFile? (temporaryFileOf key) (fileOf key) = z at hm
      generalize written'.moveFile? (temporaryFileOf key) (fileOf key) = z' at hm
      cases hm with
      | none => exact ⟨rfl, hw⟩
      | some hm => exact ⟨rfl, hm⟩

theorem Alike.remove (h : f.Alike f') (key : String) :
    (f.remove key).1 = (f'.remove key).1 ∧ (f.remove key).2.Alike (f'.remove key).2 := by
  have hr := h.removeFile? (fileOf key)
  unfold Folder.remove
  generalize f.removeFile? (fileOf key) = x at hr
  generalize f'.removeFile? (fileOf key) = x' at hr
  split
  · exact ⟨rfl, h⟩
  · cases hr with
    | none => exact ⟨rfl, h⟩
    | some hr => exact ⟨rfl, hr⟩

theorem Alike.refl (f : Folder) : f.Alike f := by
  have hentry : ∀ entry, EntryAlike entry entry := by
    intro entry
    cases entry with
    | file text ownerOnly => exact .file (.refl text) ownerOnly
    | folder => exact .folder
  cases f with
  | absent => exact .absent
  | made entries => exact .made fun _ => optionRel_refl hentry _

end Folder

namespace Storage

inductive Alike : Storage → Storage → Prop where
  | memory {texts texts' : Named String} (h : texts.Alike Credentials.TextAlike texts') :
      Alike (.memory texts) (.memory texts')
  | folder {f f' : Folder} (h : f.Alike f') : Alike (.folder f) (.folder f')

variable {s s' : Storage} {text text' : String}

theorem Alike.refl (s : Storage) : s.Alike s := by
  cases s with
  | memory texts => exact .memory fun _ => optionRel_refl .refl _
  | folder f => exact .folder (.refl f)

theorem Alike.load (h : s.Alike s') (key : String) : LoadAlike (s.load key) (s'.load key) := by
  cases h with
  | memory h => exact .ok (h key)
  | folder h => exact h.load key

theorem Alike.save (h : s.Alike s') (key : String) (ht : Credentials.TextAlike text text') :
    (s.save key text).1 = (s'.save key text').1 ∧
      (s.save key text).2.Alike (s'.save key text').2 := by
  cases h with
  | memory h => exact ⟨rfl, .memory (h.insert key ht)⟩
  | folder h => exact ⟨(h.save key ht).1, .folder (h.save key ht).2⟩

theorem Alike.remove (h : s.Alike s') (key : String) :
    (s.remove key).1 = (s'.remove key).1 ∧ (s.remove key).2.Alike (s'.remove key).2 := by
  cases h with
  | memory h => exact ⟨rfl, .memory (h.erase key)⟩
  | folder h => exact ⟨(h.remove key).1, .folder (h.remove key).2⟩

end Storage

namespace Backend
variable {sender sender' : Option Credentials}

/-- The same message, or registrations that are the same but for the password. -/
inductive Message.Alike : Message → Message → Prop where
  | same (m : Message) : Alike m m
  | registration (r : Registration) (password : String) :
      Alike (.registration r.encode) (.registration { r with password }.encode)

/-- Sent to the same place, both or neither with an authorization, and with the same body but for
the password of a registration. -/
structure Request.Alike (r r' : Request) : Prop where
  url : r.url = r'.url
  authorized : r.authorization.isSome = r'.authorization.isSome
  body : r.body = r'.body ∨ ∃ (registration : Registration) (password : String),
    r.body = registration.encode ∧ r'.body = { registration with password }.encode

theorem isSome_authorization? (h : Option.Rel Credentials.Alike sender sender') :
    (authorization? sender).isSome = (authorization? sender').isSome := by
  cases h with
  | none => rfl
  | @some c _ h =>
    cases h
    simp only [authorization?]
    split <;> rfl

theorem Client.request_alike (client : Client) {m m' : Message} (hm : m.Alike m')
    (hs : Option.Rel Credentials.Alike sender sender') :
    (client.request m sender false).1 = (client.request m' sender' false).1 ∧
    (client.request m sender false).2.1.Alike (client.request m' sender' false).2.1 ∧
    (client.request m sender false).2.2 = (client.request m' sender' false).2.2 := by
  have hauthorized := isSome_authorization? hs
  cases hm with
  | registration r password => exact ⟨rfl, ⟨rfl, hauthorized, .inr ⟨r, password, rfl, rfl⟩⟩, rfl⟩
  | same m =>
    cases m with
    | call method params => exact ⟨rfl, ⟨rfl, hauthorized, .inl rfl⟩, rfl⟩
    | registration body => exact ⟨rfl, ⟨rfl, hauthorized, .inl rfl⟩, rfl⟩

/-- Payloads that are the same but for a password. -/
def Api.PayloadAlike : (api : Api) → api.Payload → api.Payload → Prop
  | login, c, c' => c.Alike c'
  | register, r, r' => ∃ password, r' = { r with password }
  | repoList, p, p' | repoCreate, p, p' | commitList, p, p' | invite, p, p' | pay, p, p'
  | config, p, p' => p = p'

namespace Api

theorem PayloadAlike.refl (api : Api) (payload : api.Payload) :
    api.PayloadAlike payload payload := by
  cases api with
  | login => exact Credentials.Alike.refl payload
  | register => exact ⟨payload.password, rfl⟩
  | _ => rfl

variable {api : Api} {payload payload' : api.Payload}

theorem PayloadAlike.message (h : api.PayloadAlike payload payload') :
    (api.message payload).Alike (api.message payload') := by
  cases api with
  | login => exact .same _
  | register =>
    obtain ⟨password, rfl⟩ := h
    exact .registration payload password
  | repoList | repoCreate | commitList | invite | pay | config =>
    cases h
    exact .same _

theorem PayloadAlike.credentials (h : api.PayloadAlike payload payload') :
    Option.Rel Credentials.Alike (api.payloadCredentials payload)
      (api.payloadCredentials payload') := by
  cases api with
  | login => exact .some h
  | register | repoList | repoCreate | commitList | invite | pay | config => exact .none

end Api
end Backend
end StorageConsole
