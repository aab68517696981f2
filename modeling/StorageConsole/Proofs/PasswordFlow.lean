import StorageConsole.Proofs.AlikeWorkflows
import StorageConsole.Proofs.Conduct

/-!
Where a password flows. Two runs in which different passwords are typed stay alike step by step:
they send the same requests but for the authorization and the password of a registration, emit the
same signals, and reach states and stored sessions that are the same but for passwords.
-/
namespace StorageConsole

open Backend (Api CallError LoadResult Reply Request)

namespace Store

/-- The same but for the passwords in the state. -/
inductive Alike (s : Store) : Store → Prop where
  | mk {state : State} (h : s.state.Alike state) : Alike s { s with state }

variable {s s' : Store}

theorem Alike.dispatch (h : s.Alike s') {a a' : Action} (ha : a.Alike a') :
    (s.dispatch a).Alike (s'.dispatch a') := by
  cases h with
  | mk h => exact .mk (h.apply ha)

theorem Alike.emit (h : s.Alike s') (signal : Signal) : (s.emit signal).Alike (s'.emit signal) := by
  cases h with
  | mk h => exact .mk h

/-- A navigation asks only whether there is a user. -/
theorem Alike.navigate (h : s.Alike s') (path : String) :
    (s.navigate path).1 = (s'.navigate path).1 ∧
      (s.navigate path).2.Alike (s'.navigate path).2 := by
  cases h with
  | @mk state h =>
    unfold Store.navigate
    dsimp only
    rw [← h.isSome_user]
    split
    · exact ⟨rfl, .mk (h.apply (.same (.publishRoute _)))⟩
    · exact ⟨rfl, .mk h⟩

theorem Alike.redirect (h : s.Alike s') (path : String) :
    (s.redirect path).Alike (s'.redirect path) := ((h.emit _).navigate path).2

theorem Alike.through (h : s.Alike s') (isOpen : Bool) {change change' : Store → Store}
    (hc : (change s).Alike (change' s')) :
    (Store.through isOpen change s).Alike (Store.through isOpen change' s') := by
  cases isOpen with
  | true => exact hc
  | false => exact h

end Store

variable {α β : Type} {R : α → β → Prop}

/-- Calls that wait for the same reply, and go on alike. -/
inductive Pending.Alike (R : α → β → Prop) : Pending α → Pending β → Prop where
  | mk {api ticket id} {next : LoadResult api.Answer → Workflow α}
      {next' : LoadResult api.Answer → Workflow β} (h : ∀ r, Workflow.Alike R (next r) (next' r)) :
      Alike R ⟨api, ticket, id, next⟩ ⟨api, ticket, id, next'⟩

inductive Progress.Alike (R : α → β → Prop) : Progress α → Progress β → Prop where
  | finished {a b} (h : R a b) : Alike R (.finished a) (.finished b)
  | waiting {p p'} (h : p.Alike R p') : Alike R (.waiting p) (.waiting p')

inductive Job.Alike : Job → Job → Prop where
  | mk {id gate p p'} (h : Pending.Alike Eq p p') : Alike ⟨id, gate, p⟩ ⟨id, gate, p'⟩

/-- The same event, or the values of a form that are the same but for its password. -/
inductive Event.Alike : Event → Event → Prop where
  | same (e : Event) : Alike e e
  | typed {form v v'} (h : FormValues.AlikeIn form v v') :
      Alike (.run (.updateForm form v)) (.run (.updateForm form v'))

namespace Console

/-- The same but for passwords. -/
inductive Alike (c : Console) : Console → Prop where
  | mk {store storage requests jobs} (store_alike : c.toStore.Alike store)
      (storage_alike : c.storage.Alike storage)
      (requests_alike : List.Forall₂ Request.Alike c.requests requests)
      (jobs_alike : List.Forall₂ Job.Alike c.jobs jobs) :
      Alike c { c with toStore := store, storage, requests, jobs }

variable {c c' : Console} {gate : Gate}

theorem Alike.store (h : c.Alike c') : c.toStore.Alike c'.toStore := by
  cases h with
  | mk h _ _ _ => exact h

theorem Alike.storage (h : c.Alike c') : c.storage.Alike c'.storage := by
  cases h with
  | mk _ h _ _ => exact h

theorem Alike.requests (h : c.Alike c') : List.Forall₂ Request.Alike c.requests c'.requests := by
  cases h with
  | mk _ _ h _ => exact h

theorem Alike.jobs (h : c.Alike c') : List.Forall₂ Job.Alike c.jobs c'.jobs := by
  cases h with
  | mk _ _ _ h => exact h

theorem Alike.withStore (h : c.Alike c') {s s' : Store} (hs : s.Alike s') :
    { c with toStore := s }.Alike { c' with toStore := s' } := by
  obtain ⟨_, storage_alike, requests_alike, jobs_alike⟩ := h
  exact @Alike.mk { c with toStore := s } _ _ _ _ hs storage_alike requests_alike jobs_alike

theorem Alike.withStorage (h : c.Alike c') {s s' : Storage} (hs : s.Alike s') :
    { c with storage := s }.Alike { c' with storage := s' } := by
  obtain ⟨store_alike, _, requests_alike, jobs_alike⟩ := h
  exact @Alike.mk { c with storage := s } _ _ _ _ store_alike hs requests_alike jobs_alike

theorem Alike.withRequests (h : c.Alike c') {rs rs' : List Request}
    (hr : List.Forall₂ Request.Alike rs rs') :
    { c with requests := rs }.Alike { c' with requests := rs' } := by
  obtain ⟨store_alike, storage_alike, _, jobs_alike⟩ := h
  exact @Alike.mk { c with requests := rs } _ _ _ _ store_alike storage_alike hr jobs_alike

theorem Alike.withJobs (h : c.Alike c') {jobs jobs' : List Job}
    (hj : List.Forall₂ Job.Alike jobs jobs') : { c with jobs }.Alike { c' with jobs := jobs' } := by
  obtain ⟨store_alike, storage_alike, requests_alike, _⟩ := h
  exact @Alike.mk { c with jobs } _ _ _ _ store_alike storage_alike requests_alike hj

/-- A change that neither reads nor writes what may differ makes alike consoles of alike ones. -/
theorem Alike.change (h : c.Alike c') {g : Console → Console}
    (hg : ∀ (c : Console) store storage requests jobs,
      g { c with toStore := store, storage, requests, jobs } =
        { g c with toStore := store, storage, requests, jobs }) : (g c).Alike (g c') := by
  have hown : g c = { g c with
      toStore := c.toStore, storage := c.storage, requests := c.requests, jobs := c.jobs } :=
    hg c _ _ _ _
  have hstore : (g c).toStore = c.toStore := (congrArg Console.toStore hown :)
  have hstorage : (g c).storage = c.storage := (congrArg Console.storage hown :)
  have hrequests : (g c).requests = c.requests := (congrArg Console.requests hown :)
  have hjobs : (g c).jobs = c.jobs := (congrArg Console.jobs hown :)
  cases h with
  | @mk store storage requests jobs store_alike storage_alike requests_alike jobs_alike =>
    rw [← hstore] at store_alike
    rw [← hstorage] at storage_alike
    rw [← hrequests] at requests_alike
    rw [← hjobs] at jobs_alike
    rw [hg c store storage requests jobs]
    exact .mk store_alike storage_alike requests_alike jobs_alike

theorem Alike.withLoop (h : c.Alike c') {loop loop' : ControlLoop} (hl : loop = loop') :
    { c with loop }.Alike { c' with loop := loop' } := by
  subst hl
  exact h.change (g := fun c => { c with loop }) fun _ _ _ _ _ => rfl

theorem Alike.loop (h : c.Alike c') : c.loop = c'.loop := by
  cases h
  rfl

theorem Alike.isOpen (h : c.Alike c') (gate : Gate) : c.isOpen gate = c'.isOpen gate := by
  cases h
  rfl

theorem Alike.through (h : c.Alike c') (gate : Gate) {change change' : Store → Store}
    (hc : (change c.toStore).Alike (change' c'.toStore)) :
    (c.through gate change).Alike (c'.through gate change') := by
  have ho := h.isOpen gate
  unfold Console.through
  rw [← ho]
  exact h.withStore (h.store.through _ hc)

theorem Alike.record (h : c.Alike c') (a : Action) : (c.record a).Alike (c'.record a) :=
  (h.withStore (h.store.dispatch (.same a))).change
    (g := fun c => { c with records := c.records ++ [a] }) fun _ _ _ _ _ => rfl

theorem Alike.perform_keep (h : c.Alike c') (gate : Gate) {text text' : String}
    (ht : Credentials.TextAlike text text') :
    (c.perform gate (.keep text)).1 = (c'.perform gate (.keep text')).1 ∧
      (c.perform gate (.keep text)).2.Alike (c'.perform gate (.keep text')).2 := by
  obtain ⟨hresult, hstorage⟩ := h.storage.save c.config.sessionKey ht
  have hkept := h.withStorage hstorage
  cases h
  exact ⟨hresult, hkept⟩

theorem Alike.perform_forget (h : c.Alike c') (gate : Gate) :
    (c.perform gate .forget).1 = (c'.perform gate .forget).1 ∧
      (c.perform gate .forget).2.Alike (c'.perform gate .forget).2 := by
  obtain ⟨hresult, hstorage⟩ := h.storage.remove c.config.sessionKey
  have hkept := h.withStorage hstorage
  cases h
  exact ⟨hresult, hkept⟩

theorem Alike.retrieve (h : c.Alike c') (gate : Gate) :
    LoadAlike (c.perform gate .retrieve).1 (c'.perform gate .retrieve).1 := by
  have hl := h.storage.load c.config.sessionKey
  cases h
  exact hl

theorem Alike.state (h : c.Alike c') : c.state.Alike c'.state := by
  have hs := h.store
  generalize c.toStore = s at hs
  generalize c'.toStore = s' at hs
  cases hs with
  | mk h => exact h

/-- An effect that is not about the state or the stored session returns the same. -/
theorem Alike.perform (h : c.Alike c') (gate : Gate) {e : Effect} (he : e.isPublic) :
    (c.perform gate e).1 = (c'.perform gate e).1 ∧
      (c.perform gate e).2.Alike (c'.perform gate e).2 := by
  cases e with
  | look | retrieve => cases he
  | write a => exact ⟨rfl, h.through gate (h.store.dispatch (.same a))⟩
  | emit signal => exact ⟨rfl, h.through gate (h.store.emit signal)⟩
  | redirect path => exact ⟨rfl, h.through gate (h.store.redirect path)⟩
  | force a => exact ⟨rfl, h.withStore (h.store.dispatch (.same a))⟩
  | visit path =>
    obtain ⟨hresult, hstore⟩ := h.store.navigate path
    exact ⟨hresult, h.withStore hstore⟩
  | keep text => exact h.perform_keep gate (.refl text)
  | forget => exact h.perform_forget gate
  | listen =>
    refine ⟨?_, h⟩
    obtain ⟨⟨_⟩, _, _, _⟩ := h
    rfl
  | startLoop => exact ⟨rfl, h.withLoop (congrArg ControlLoop.start h.loop)⟩
  | stopLoop => exact ⟨rfl, h.withLoop (congrArg ControlLoop.stop h.loop)⟩

/-- In whose names two calls are made. -/
inductive SenderAlike : Except CallError (Option Credentials) →
    Except CallError (Option Credentials) → Prop where
  | error (e : CallError) : SenderAlike (.error e) (.error e)
  | ok {sender sender'} (h : Option.Rel Credentials.Alike sender sender') :
      SenderAlike (.ok sender) (.ok sender')

variable {api : Api} {payload payload' : api.Payload}

theorem Alike.identify (h : c.Alike c') (hp : api.PayloadAlike payload payload') :
    SenderAlike (c.identify api payload) (c'.identify api payload') := by
  have hu := h.state.user
  unfold Console.identify
  split
  · exact .ok .none
  · exact .ok hp.credentials
  · generalize c.state.user = u at hu
    generalize c'.state.user = u' at hu
    cases hu with
    | none => exact .error _
    | some hu => exact .ok (.some hu)

theorem Alike.beginCall (h : c.Alike c') (api : Api) :
    (c.beginCall api).1 = (c'.beginCall api).1 ∧
      (c.beginCall api).2.Alike (c'.beginCall api).2 := by
  have hnext := h.change (g := fun c => { c with tickets := c.tickets + 1 }) fun _ _ _ _ _ => rfl
  have hrecorded := hnext.record (.callRequested api (c.tickets + 1))
  cases h
  exact ⟨rfl, hrecorded⟩

theorem Alike.send (h : c.Alike c') {m m' : Backend.Message} (hm : m.Alike m')
    {sender sender' : Option Credentials} (hs : Option.Rel Credentials.Alike sender sender') :
    (c.send m sender).1 = (c'.send m' sender').1 ∧
      (c.send m sender).2.Alike (c'.send m' sender').2 := by
  obtain ⟨hid, hrequest, hclient⟩ := c.client.request_alike hm hs
  have hsent := (h.withRequests (List.rel_append h.requests (.cons hrequest .nil))).change
    (g := fun d => { d with client := (c.client.request m sender false).2.2 }) fun _ _ _ _ _ => rfl
  cases h
  refine ⟨hid, ?_⟩
  unfold Console.send
  dsimp only
  rw [← hclient]
  exact hsent

/-- Calls that are alike begin alike. -/
theorem Alike.call (h : c.Alike c') (hp : api.PayloadAlike payload payload') :
    ∃ ticket sent d d', c.call api payload = (ticket, sent, d) ∧
      c'.call api payload' = (ticket, sent, d') ∧ d.Alike d' := by
  obtain ⟨hticket, hbegun⟩ := h.beginCall api
  unfold Console.call
  generalize c.beginCall api = begun at hticket hbegun
  generalize c'.beginCall api = begun' at hticket hbegun
  obtain ⟨ticket, d⟩ := begun
  obtain ⟨ticket', d'⟩ := begun'
  obtain rfl : ticket = ticket' := hticket
  have hid := hbegun.identify hp
  dsimp only at hid ⊢
  generalize d.identify api payload = x at hid
  generalize d'.identify api payload' = x' at hid
  cases hid with
  | error e => exact ⟨ticket, .error e, d, d', rfl, rfl, hbegun⟩
  | ok hs =>
    obtain ⟨hsent, halike⟩ := hbegun.send hp.message hs
    refine ⟨ticket, .ok _, _, _, rfl, ?_, halike⟩
    rw [hsent]

theorem Alike.endCall (h : c.Alike c') (ticket : Nat)
    (outcome : Except CallError (api.Answer × Json)) :
    (c.endCall api ticket outcome).2.Alike (c'.endCall api ticket outcome).2 := h.record _

theorem advance_act (gate : Gate) (e : Effect) (next : e.Result → Workflow α) (c : Console) :
    advance gate (.act e next) c =
      advance gate (next (c.perform gate e).1) (c.perform gate e).2 := rfl

/-- Workflows that are alike come to rest alike. -/
theorem Alike.advance {w : Workflow α} {w' : Workflow β} (h : c.Alike c') (gate : Gate)
    (hw : Workflow.Alike R w w') :
    (advance gate w c).1.Alike R (advance gate w' c').1 ∧
      (advance gate w c).2.Alike (advance gate w' c').2 := by
  induction hw generalizing c c' with
  | done hr => exact ⟨.finished hr, h⟩
  | look _ ih => exact ih _ _ h.state h
  | retrieve _ ih => exact ih _ _ (h.retrieve gate) h
  | keep ht _ ih =>
    obtain ⟨hresult, hafter⟩ := h.perform_keep gate ht
    rw [advance_act, advance_act, ← hresult]
    exact ih _ hafter
  | force ha _ ih => exact ih _ (h.withStore (h.store.dispatch ha))
  | act he _ ih =>
    obtain ⟨hresult, hafter⟩ := h.perform gate he
    rw [advance_act, advance_act, ← hresult]
    exact ih _ hafter
  | await hp hnext ih =>
    obtain ⟨ticket, sent, d, d', hc, hc', hd⟩ := h.call hp
    cases sent with
    | error e =>
      rw [advance_await_error hc, advance_await_error hc']
      exact ih _ (hd.endCall ticket _)
    | ok id =>
      rw [advance_await_ok hc, advance_await_ok hc']
      exact ⟨.waiting (.mk hnext), hd⟩

theorem Alike.resume {p : Pending α} {p' : Pending β} (h : c.Alike c') (hp : p.Alike R p')
    (reply : Reply) :
    (resume gate p reply c).1.Alike R (resume gate p' reply c').1 ∧
      (resume gate p reply c).2.Alike (resume gate p' reply c').2 := by
  cases hp with
  | mk hnext => exact (h.endCall _ _).advance gate (hnext _)

theorem Alike.loopView (h : c.Alike c') : c.loopView = c'.loopView := by
  obtain ⟨⟨⟨_, _⟩⟩, _, _, _⟩ := h
  rfl

theorem Alike.passEnded (h : c.Alike c') (id : LoopId) :
    c.loop.passEnded c.loopView id = c'.loop.passEnded c'.loopView id := by
  rw [h.loopView, h.loop]

theorem Alike.end (h : c.Alike c') (ended : JobId × Outcome) :
    { c with finished := c.finished ++ [ended] }.Alike
      { c' with finished := c'.finished ++ [ended] } :=
  h.change (g := fun c => { c with finished := c.finished ++ [ended] }) fun _ _ _ _ _ => rfl

theorem Alike.settle {r r' : Progress Outcome × Console} (hp : r.1.Alike Eq r'.1)
    (h : r.2.Alike r'.2) (id : JobId) (gate : Gate) :
    (settle id gate r).Alike (settle id gate r') := by
  obtain ⟨p, c⟩ := r
  obtain ⟨p', c'⟩ := r'
  cases hp with
  | waiting hp => exact h.withJobs (List.rel_append h.jobs (.cons (.mk hp) .nil))
  | @finished outcome _ hr =>
    subst hr
    have hended := h.end (id, outcome)
    cases gate with
    | none => exact hended
    | some loop => exact hended.withLoop (hended.passEnded loop)

theorem Alike.begin (h : c.Alike c') (gate : Gate) {work work' : Workflow Outcome}
    (hw : Workflow.Alike Eq work work') : (c.begin gate work).Alike (c'.begin gate work') := by
  have hnext := h.change (g := fun c => { c with jobsStarted := c.jobsStarted + 1 })
    fun _ _ _ _ _ => rfl
  obtain ⟨hprogress, hafter⟩ := hnext.advance gate hw
  cases h
  exact hafter.settle hprogress _ gate

theorem find?_alike {jobs jobs' : List Job} (h : List.Forall₂ Job.Alike jobs jobs') (id : JobId) :
    Option.Rel Job.Alike (jobs.find? (·.id == id)) (jobs'.find? (·.id == id)) := by
  induction h with
  | nil => exact .none
  | @cons job job' _ _ hj _ ih =>
    have hid : job.id = job'.id := by cases hj; rfl
    by_cases hfound : job.id = id
    · rw [List.find?_cons_of_pos (by simpa using hfound),
        List.find?_cons_of_pos (by simpa [← hid] using hfound)]
      exact .some hj
    · rw [List.find?_cons_of_neg (by simpa using hfound),
        List.find?_cons_of_neg (by simpa [← hid] using hfound)]
      exact ih

theorem filter_alike {jobs jobs' : List Job} (h : List.Forall₂ Job.Alike jobs jobs') (id : JobId) :
    List.Forall₂ Job.Alike (jobs.filter (·.id != id)) (jobs'.filter (·.id != id)) := by
  refine List.rel_filter ?_ h
  rintro _ _ ⟨_⟩
  exact Iff.rfl

theorem Alike.answer (h : c.Alike c') (id : JobId) (reply : Reply) :
    (c.answer id reply).Alike (c'.answer id reply) := by
  have hf := find?_alike h.jobs id
  unfold Console.answer
  generalize c.jobs.find? (·.id == id) = found at hf
  generalize c'.jobs.find? (·.id == id) = found' at hf
  cases hf with
  | none => exact h
  | some hj =>
    cases hj with
    | mk hp =>
      obtain ⟨hprogress, hafter⟩ := (h.withJobs (filter_alike h.jobs id)).resume hp reply
      exact hafter.settle hprogress id _

theorem Alike.config (h : c.Alike c') : c.config = c'.config := by
  cases h
  rfl

theorem Alike.workflow (h : c.Alike c') (op : Operation) :
    Workflow.Alike Eq (op.workflow c.config) (op.workflow c'.config) := by
  rw [← h.config]
  exact Workflow.public_workflow c.config op

theorem Alike.giveTurn (h : c.Alike c') (id : LoopId) : (c.giveTurn id).Alike (c'.giveTurn id) := by
  unfold Console.giveTurn
  rw [← h.loop, ← h.loopView]
  generalize c.loop.turn c.loopView id = turn
  obtain ⟨hook, loop⟩ := turn
  have hturned := h.withLoop (rfl : loop = loop)
  cases hook with
  | none => exact hturned
  | some hook => exact hturned.begin _ (h.workflow (.refresh hook))

/-- One step keeps two runs alike. -/
theorem Alike.step (h : c.Alike c') {e e' : Event} (he : e.Alike e') :
    (c.step e).Alike (c'.step e') := by
  cases he with
  | @typed form v v' hv =>
    have hw : Workflow.Alike Eq ((Operation.updateForm form v).workflow c.config)
        ((Operation.updateForm form v').workflow c'.config) := by
      rw [← h.config]
      exact Workflow.alike_updateForm c.config hv
    exact h.begin none hw
  | same e =>
    cases e with
    | run op => exact h.begin none (h.workflow op)
    | answer id reply => exact h.answer id reply
    | turn id => exact h.giveTurn id
    | elapse milliseconds =>
      exact h.change (g := fun c => { c with now := c.now + milliseconds }) fun _ _ _ _ _ => rfl

theorem Alike.runAll {events events' : List Event} (he : List.Forall₂ Event.Alike events events')
    (h : c.Alike c') : (c.runAll events).Alike (c'.runAll events') := by
  induction he generalizing c c' with
  | nil => exact h
  | cons he _ ih => exact ih (h.step he)

theorem alike_start (config : Config) (table : Route.Table) (storage : Storage) :
    (start config table storage).Alike (start config table storage) :=
  @Alike.mk (start config table storage) _ _ _ _ (.mk (.refl _)) (.refl storage) .nil .nil

theorem Alike.finished (h : c.Alike c') : c.finished = c'.finished := by
  cases h
  rfl

theorem Alike.signals (h : c.Alike c') : c.signals = c'.signals := by
  obtain ⟨⟨_⟩, _, _, _⟩ := h
  rfl

/-- Two runs that differ in the passwords typed into forms, and in nothing else that happens, send
the same requests but for the authorization and the password of a registration, emit the same
signals and return the same, and their states and stored sessions are the same but for passwords. -/
theorem password_stays_apart (config : Config) (table : Route.Table) (storage : Storage)
    {events events' : List Event} (typed : List.Forall₂ Event.Alike events events') :
    let c := (start config table storage).runAll events
    let c' := (start config table storage).runAll events'
    List.Forall₂ Request.Alike c.requests c'.requests ∧ c.signals = c'.signals ∧
      c.finished = c'.finished ∧ c.state.Alike c'.state ∧ c.storage.Alike c'.storage ∧
      ∀ key, LoadAlike (c.storage.load key) (c'.storage.load key) := by
  intro c c'
  have h : c.Alike c' := (alike_start config table storage).runAll typed
  exact ⟨h.requests, h.signals, h.finished, h.state, h.storage, h.storage.load⟩

/-- Somebody types a password into the login form, is remembered and registers a friend, and the
session is restored. -/
def typing (password : String) : List Event :=
  [.run (.updateForm .login ((Named.ofList [("Name", .str "ann"), ("Remember", .bool true)]).insert
      "Password" (.str password))),
    .run (.hook .loginSubmit), .answer 1 .confirmation,
    .run (.updateForm .register ((Named.ofList [("Email", .str "bob@host.org"),
      ("Name", .str "bob")]).insert "Password" (.str password))),
    .run (.hook .registerSubmit), .run .restore]

theorem typing_alike {p p' : String} (hp : Text.isBlankText p = false)
    (hp' : Text.isBlankText p' = false) : List.Forall₂ Event.Alike (typing p) (typing p') :=
  .cons (.typed (.inr ⟨rfl, FormValues.alike_insert _ hp hp'⟩)) <| .cons (.same _) <|
    .cons (.same _) <| .cons (.typed (.inr ⟨rfl, FormValues.alike_insert _ hp hp'⟩)) <|
    .cons (.same _) <| .cons (.same _) .nil

theorem password_stays_apart_typing :
    List.Forall₂ Event.Alike (typing "secret") (typing "geheim") ∧
    let c := (start .default .empty (.memory .empty)).runAll (typing "secret")
    let c' := (start .default .empty (.memory .empty)).runAll (typing "geheim")
    c.requests.length = 4 ∧ c.requests ≠ c'.requests ∧
      List.Forall₂ Request.Alike c.requests c'.requests ∧
      c.state.user ≠ c'.state.user ∧ c.state.Alike c'.state ∧
      LoadAlike (c.storage.load "user") (c'.storage.load "user") := by
  have htyped : List.Forall₂ Event.Alike (typing "secret") (typing "geheim") :=
    typing_alike (by decide +kernel) (by decide +kernel)
  obtain ⟨hrequests, _, _, hstate, _, hload⟩ :=
    password_stays_apart .default .empty (.memory .empty) htyped
  exact ⟨htyped, by decide +kernel, by decide +kernel, hrequests, by decide +kernel, hstate,
    hload "user"⟩

end Console
end StorageConsole
