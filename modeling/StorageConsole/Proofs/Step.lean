import Mathlib.Data.List.Nodup
import StorageConsole.Proofs.Discipline
import StorageConsole.Proofs.Gates

/-!
What one step of a console can come to: which fields the work of a job leaves alone, how jobs come
and go, and how a fact about every step becomes one about every run.
-/
namespace StorageConsole

open Backend (Api CallError LoadResult Reply)

namespace Discipline
variable {σ α : Type} {D : Discipline σ} {gate : Gate}

theorem keeps_true : D.Keeps gate fun _ _ => True := ⟨fun _ _ => trivial, fun _ _ _ => trivial⟩

end Discipline

/-- Whether an action bears on which routes are published: it publishes one, or it changes the user
whom the guards let pass. -/
def Action.steers : Action → Bool
  | publishRoute _ | setUser _ => true
  | _ => false

theorem Action.apply_of_not_steers {a : Action} (ha : a.steers = false) (s : State) :
    (a.apply s).user = s.user ∧ (a.apply s).route = s.route ∧
      (a.apply s).routeGeneration = s.routeGeneration := by
  cases a with
  | publishRoute _ | setUser _ => cases ha
  | _ => exact ⟨rfl, rfl, rfl⟩

namespace Store

theorem navigate_state (s : Store) (path : String) :
    ∃ route routeGeneration,
      (s.navigate path).2.state = { s.state with route, routeGeneration } := by
  unfold navigate
  split
  split
  · exact ⟨_, _, rfl⟩
  · exact ⟨_, _, rfl⟩

theorem redirect_state (s : Store) (path : String) :
    ∃ route routeGeneration, (s.redirect path).state = { s.state with route, routeGeneration } :=
  navigate_state _ path

theorem navigate_table (s : Store) (path : String) : (s.navigate path).2.table = s.table := by
  unfold navigate
  split
  split <;> rfl

end Store

namespace Console
variable {σ α : Type} {D : Discipline σ} {s : σ} {Q : σ → Outcome → Prop} {c c' : Console}
  {gate : Gate} {api : Api} {payload : api.Payload} {ticket : Nat} {w : Workflow α}
  {job : Job} {id : JobId} {e : Event} {events : List Event}

@[simp] theorem record_state (c : Console) (a : Action) :
    (c.record a).state = a.apply c.state := rfl

@[simp] theorem record_records (c : Console) (a : Action) :
    (c.record a).records = c.records ++ [a] := rfl

/-- A call takes the next ticket, and it fails before sending only where it finds no identity. -/
theorem call_cases (c : Console) (api : Api) (payload : api.Payload) :
    (∃ e, c.identify api payload = .error e ∧
      c.call api payload = (c.tickets + 1, .error e, (c.beginCall api).2)) ∨
    ∃ sender, c.identify api payload = .ok sender ∧
      c.call api payload =
        (c.tickets + 1, .ok (c.client.request (api.message payload) sender false).1,
          ((c.beginCall api).2.send (api.message payload) sender).2) := by
  have hid : (c.beginCall api).2.identify api payload = c.identify api payload := rfl
  cases h : c.identify api payload with
  | error e => exact .inl ⟨e, rfl, by simp only [call, hid, h]; rfl⟩
  | ok sender => exact .inr ⟨sender, rfl, by simp only [call, hid, h]; rfl⟩

theorem call_eq_error {e : CallError} (h : c.call api payload = (ticket, .error e, c')) :
    c.identify api payload = .error e ∧ ticket = c.tickets + 1 ∧ c' = (c.beginCall api).2 := by
  obtain ⟨e', hid, hc⟩ | ⟨sender, hid, hc⟩ := call_cases c api payload
  · rw [hc] at h
    cases h
    exact ⟨hid, rfl, rfl⟩
  · rw [hc] at h
    cases h

theorem call_eq_ok {id : Option Nat} (h : c.call api payload = (ticket, .ok id, c')) :
    ∃ sender, c.identify api payload = .ok sender ∧ ticket = c.tickets + 1 ∧
      id = (c.client.request (api.message payload) sender false).1 ∧
      c' = ((c.beginCall api).2.send (api.message payload) sender).2 := by
  obtain ⟨e', hid, hc⟩ | ⟨sender, hid, hc⟩ := call_cases c api payload
  · rw [hc] at h
    cases h
  · rw [hc] at h
    cases h
    exact ⟨sender, hid, rfl, rfl, rfl⟩

/-- Only a call in the session's name fails for want of an identity, and only without a session. -/
theorem identify_eq_error {e : CallError} (h : c.identify api payload = .error e) :
    api.identity = .session ∧ c.state.user = none ∧ e = .unauthenticated := by
  unfold identify at h
  split at h
  · cases h
  · cases h
  · next hs =>
    split at h
    · cases h
    · next hu =>
      cases h
      exact ⟨hs, hu, rfl⟩

theorem perform_write (c : Console) (gate : Gate) (a : Action) :
    (c.perform gate (.write a)).2 = if c.isOpen gate then c.onStore (·.dispatch a) else c := by
  cases h : c.isOpen gate <;> simp [perform, through, Store.through, onStore, h]

theorem perform_emit (c : Console) (gate : Gate) (signal : Signal) :
    (c.perform gate (.emit signal)).2 =
      if c.isOpen gate then c.onStore (·.emit signal) else c := by
  cases h : c.isOpen gate <;> simp [perform, through, Store.through, onStore, h]

theorem perform_redirect (c : Console) (gate : Gate) (path : String) :
    (c.perform gate (.redirect path)).2 =
      if c.isOpen gate then c.onStore (·.redirect path) else c := by
  cases h : c.isOpen gate <;> simp [perform, through, Store.through, onStore, h]

/-- The fields that the work of a job leaves alone. -/
def frame (c : Console) : Config × Nat × List Job × Nat × List (JobId × Outcome) :=
  (c.config, c.now, c.jobs, c.jobsStarted, c.finished)

theorem perform_frame (e : Effect) : (c.perform gate e).2.frame = c.frame := by
  cases e <;> rfl

@[simp] theorem perform_tickets (e : Effect) : (c.perform gate e).2.tickets = c.tickets := by
  cases e <;> rfl

@[simp] theorem perform_records (e : Effect) : (c.perform gate e).2.records = c.records := by
  cases e <;> rfl

@[simp] theorem perform_requests (e : Effect) : (c.perform gate e).2.requests = c.requests := by
  cases e <;> rfl

@[simp] theorem perform_client (e : Effect) : (c.perform gate e).2.client = c.client := by
  cases e <;> rfl

/-- An effect leaves the state alone, writes it, or publishes a route. -/
theorem perform_state (c : Console) (gate : Gate) (e : Effect) :
    (c.perform gate e).2.state = c.state ∨
    (∃ a, (e = .write a ∨ e = .force a) ∧ (c.perform gate e).2.state = a.apply c.state) ∨
    ∃ route routeGeneration,
      (c.perform gate e).2.state = { c.state with route, routeGeneration } := by
  cases e with
  | write a =>
    rw [perform_write]
    split
    · exact .inr (.inl ⟨a, .inl rfl, rfl⟩)
    · exact .inl rfl
  | force a => exact .inr (.inl ⟨a, .inr rfl, rfl⟩)
  | visit path => exact .inr (.inr (Store.navigate_state c.toStore path))
  | redirect path =>
    rw [perform_redirect]
    split
    · exact .inr (.inr (Store.redirect_state c.toStore path))
    · exact .inl rfl
  | emit signal =>
    rw [perform_emit]
    split <;> exact .inl rfl
  | look | listen | keep _ | retrieve | forget | startLoop | stopLoop => exact .inl rfl

theorem perform_table (c : Console) (gate : Gate) (e : Effect) :
    (c.perform gate e).2.table = c.table := by
  cases e with
  | write a =>
    rw [perform_write]
    split <;> rfl
  | emit signal =>
    rw [perform_emit]
    split <;> rfl
  | redirect path =>
    rw [perform_redirect]
    split
    · exact Store.navigate_table (c.toStore.emit (.redirected path)) path
    · rfl
  | visit path => exact Store.navigate_table c.toStore path
  | look | listen | force _ | keep _ | retrieve | forget | startLoop | stopLoop => rfl

theorem call_frame (c : Console) (api : Api) (payload : api.Payload) :
    (c.call api payload).2.2.frame = c.frame := by
  obtain ⟨e, _, hc⟩ | ⟨sender, _, hc⟩ := call_cases c api payload <;> rw [hc] <;> rfl

theorem call_records (c : Console) (api : Api) (payload : api.Payload) :
    (c.call api payload).2.2.records = c.records ++ [.callRequested api (c.tickets + 1)] := by
  obtain ⟨e, _, hc⟩ | ⟨sender, _, hc⟩ := call_cases c api payload <;> rw [hc] <;> rfl

theorem perform_loop (c : Console) (gate : Gate) (e : Effect) :
    c.loop.Later (c.perform gate e).2.loop := by
  cases e with
  | startLoop => exact c.loop.later_start
  | stopLoop => exact c.loop.later_stop
  | _ => exact .refl _

theorem call_loop (c : Console) (api : Api) (payload : api.Payload) :
    (c.call api payload).2.2.loop = c.loop := by
  obtain ⟨e, _, hc⟩ | ⟨sender, _, hc⟩ := call_cases c api payload <;> rw [hc] <;> rfl

/-- What each effect, each call and each record comes to, the work up to a rest comes to. -/
theorem advance_rel {R : Console → Console → Prop} (hrefl : ∀ c, R c c)
    (htrans : ∀ {a b c}, R a b → R b c → R a c) (heffect : ∀ c e, R c (c.perform gate e).2)
    (hcall : ∀ c api payload, R c (c.call api payload).2.2) (hrecord : ∀ c a, R c (c.record a))
    (w : Workflow α) (c : Console) : R c (advance gate w c).2 := by
  induction w generalizing c with
  | done value => exact hrefl c
  | act effect next ih => exact htrans (heffect c effect) (ih _ _)
  | await api payload next ih =>
    have hx := hcall c api payload
    rcases hc : c.call api payload with ⟨ticket, sent, c'⟩
    rw [hc] at hx
    cases sent with
    | error e =>
      rw [advance_await_error hc]
      exact htrans hx (htrans (hrecord c' _) (ih _ _))
    | ok id =>
      rw [advance_await_ok hc]
      exact hx

theorem advance_frame (gate : Gate) (w : Workflow α) (c : Console) :
    (advance gate w c).2.frame = c.frame :=
  advance_rel (R := fun c c' => c'.frame = c.frame) (fun _ => rfl) (fun h h' => h'.trans h)
    (fun _ => perform_frame) call_frame (fun _ _ => rfl) w c

/-- Records are only ever added. -/
theorem advance_records (gate : Gate) (w : Workflow α) (c : Console) :
    c.records <+: (advance gate w c).2.records := by
  refine advance_rel (R := fun c c' => c.records <+: c'.records) (fun _ => List.prefix_refl _)
    List.IsPrefix.trans (fun c e => ?_) (fun c api payload => ?_) (fun c a => ?_) w c
  · exact ⟨[], (List.append_nil _).trans (perform_records e).symm⟩
  · rw [call_records]
    exact List.prefix_append _ _
  · exact List.prefix_append _ _

theorem advance_loop (gate : Gate) (w : Workflow α) (c : Console) :
    c.loop.Later (advance gate w c).2.loop := by
  refine advance_rel (R := fun c c' => c.loop.Later c'.loop) (fun _ => .refl _)
    ControlLoop.Later.trans (fun c => perform_loop c gate) (fun c api payload => ?_)
    (fun _ _ => .refl _) w c
  rw [call_loop]
  exact .refl _

@[simp] theorem advance_config : (advance gate w c).2.config = c.config :=
  congrArg (·.1) (advance_frame gate w c)

@[simp] theorem advance_jobs : (advance gate w c).2.jobs = c.jobs :=
  congrArg (·.2.2.1) (advance_frame gate w c)

@[simp] theorem advance_jobsStarted : (advance gate w c).2.jobsStarted = c.jobsStarted :=
  congrArg (·.2.2.2.1) (advance_frame gate w c)

@[simp] theorem advance_finished : (advance gate w c).2.finished = c.finished :=
  congrArg (·.2.2.2.2) (advance_frame gate w c)

/-- Putting a job aside touches nothing but the jobs and the loops. -/
theorem settle_cases (id : JobId) (gate : Gate) (r : Progress Outcome × Console) :
    ∃ jobs finished loop, settle id gate r = { r.2 with jobs, finished, loop } := by
  obtain ⟨p, c⟩ := r
  cases p with
  | waiting p => exact ⟨_, _, _, rfl⟩
  | finished outcome => cases gate <;> exact ⟨_, _, _, rfl⟩

section
variable {r : Progress Outcome × Console}

@[simp] theorem settle_toStore : (settle id gate r).toStore = r.2.toStore := by
  obtain ⟨_, _, _, h⟩ := settle_cases id gate r
  rw [h]

@[simp] theorem settle_config : (settle id gate r).config = r.2.config := by
  obtain ⟨_, _, _, h⟩ := settle_cases id gate r
  rw [h]

@[simp] theorem settle_storage : (settle id gate r).storage = r.2.storage := by
  obtain ⟨_, _, _, h⟩ := settle_cases id gate r
  rw [h]

@[simp] theorem settle_records : (settle id gate r).records = r.2.records := by
  obtain ⟨_, _, _, h⟩ := settle_cases id gate r
  rw [h]

@[simp] theorem settle_requests : (settle id gate r).requests = r.2.requests := by
  obtain ⟨_, _, _, h⟩ := settle_cases id gate r
  rw [h]

@[simp] theorem settle_jobsStarted : (settle id gate r).jobsStarted = r.2.jobsStarted := by
  obtain ⟨_, _, _, h⟩ := settle_cases id gate r
  rw [h]

theorem mem_settle_jobs :
    job ∈ (settle id gate r).jobs ↔
      job ∈ r.2.jobs ∨ ∃ p, r.1 = .waiting p ∧ job = ⟨id, gate, p⟩ := by
  obtain ⟨p, c⟩ := r
  cases p with
  | waiting p => simp [settle]
  | finished outcome => cases gate <;> simp [settle]

theorem mem_settle_finished {ended : JobId × Outcome} :
    ended ∈ (settle id gate r).finished ↔
      ended ∈ r.2.finished ∨ ∃ outcome, r.1 = .finished outcome ∧ ended = (id, outcome) := by
  obtain ⟨p, c⟩ := r
  cases p with
  | waiting p => simp [settle]
  | finished outcome => cases gate <;> simp [settle]

end

/-- A console without the jobs of an id. -/
def without (c : Console) (id : JobId) : Console := { c with jobs := c.jobs.filter (·.id != id) }

/-- What a waiting job makes of a reply. -/
def goOn (c : Console) (job : Job) (reply : Reply) : Console :=
  settle job.id job.gate (resume job.gate job.pending reply (c.without job.id))

/-- The kinds of steps: an operation begins, a pass begins, a job goes on, or nothing but the clock
and the loops moves. -/
inductive Stepped (c : Console) : Event → Console → Prop where
  | ran (op : Operation) : Stepped c (.run op) (c.begin none (op.workflow c.config))
  | passed {id hook loop} (turn : c.loop.turn c.loopView id = (some hook, loop)) :
      Stepped c (.turn id)
        ({ c with loop }.begin (some id) ((Operation.refresh hook).workflow c.config))
  | answered {job : Job} (mem : job ∈ c.jobs) (reply : Reply) :
      Stepped c (.answer job.id reply) (c.goOn job reply)
  | idle (e : Event) (loop : ControlLoop) (now : Nat) (later : c.loop.Later loop) :
      Stepped c e { c with loop, now }

theorem stepped (c : Console) (e : Event) : Stepped c e (c.step e) := by
  cases e with
  | run op => exact .ran op
  | elapse milliseconds => exact .idle _ c.loop (c.now + milliseconds) (.refl _)
  | answer id reply =>
    simp only [step, answer]
    cases h : c.jobs.find? (·.id == id) with
    | none => exact .idle _ c.loop c.now (.refl _)
    | some job =>
      have hid : job.id = id := by simpa using List.find?_some h
      subst hid
      exact .answered (List.mem_of_find?_eq_some h) reply
  | turn id =>
    have hl := c.loop.later_turn c.loopView id
    simp only [step, giveTurn]
    rcases h : c.loop.turn c.loopView id with ⟨hook, loop⟩
    rw [h] at hl
    cases hook with
    | none => exact .idle _ loop c.now hl
    | some hook => exact .passed h

theorem runAll_append (c : Console) (xs ys : List Event) :
    c.runAll (xs ++ ys) = (c.runAll xs).runAll ys := List.foldl_append ..

/-- What each step of a run keeps, the run keeps. -/
theorem runAll_keeps {P : Console → Prop} (hstep : ∀ e ∈ events, ∀ c, P c → P (c.step e))
    (h : P c) : P (c.runAll events) := by
  induction events generalizing c with
  | nil => exact h
  | cons e events ih =>
    exact ih (fun e he => hstep e (.tail _ he)) (hstep e (.head _) c h)

theorem settle_loop (id : JobId) (gate : Gate) (r : Progress Outcome × Console) :
    r.2.loop.Later (settle id gate r).loop := by
  obtain ⟨p, c⟩ := r
  cases p with
  | waiting p => exact .refl _
  | finished outcome =>
    cases gate with
    | none => exact .refl _
    | some loop => exact c.loop.later_passEnded _ loop

theorem begin_loop (c : Console) (gate : Gate) (work : Workflow Outcome) :
    c.loop.Later (c.begin gate work).loop :=
  (advance_loop gate work { c with jobsStarted := c.jobsStarted + 1 }).trans (settle_loop _ _ _)

theorem goOn_loop (c : Console) (job : Job) (reply : Reply) :
    c.loop.Later (c.goOn job reply).loop :=
  (advance_loop job.gate _ ((c.without job.id).endCall job.pending.api job.pending.ticket
    (job.pending.api.answerOf job.pending.id reply)).2).trans (settle_loop _ _ _)

theorem step_loop (c : Console) (e : Event) : c.loop.Later (c.step e).loop := by
  have hs := stepped c e
  generalize c.step e = d at hs
  cases hs with
  | ran op => exact begin_loop c none _
  | @passed id hook loop turn =>
    have hl := c.loop.later_turn c.loopView id
    rw [turn] at hl
    exact hl.trans (begin_loop { c with loop } (some id) _)
  | answered _ reply => exact goOn_loop c _ reply
  | idle _ _ _ later => exact later

@[simp] theorem begin_config {work : Workflow Outcome} :
    (c.begin gate work).config = c.config := by simp [begin]

@[simp] theorem begin_jobsStarted {work : Workflow Outcome} :
    (c.begin gate work).jobsStarted = c.jobsStarted + 1 := by simp [begin]

@[simp] theorem resume_config {p : Pending α} {reply : Reply} :
    (resume gate p reply c).2.config = c.config := advance_config

@[simp] theorem resume_jobs {p : Pending α} {reply : Reply} :
    (resume gate p reply c).2.jobs = c.jobs := advance_jobs

@[simp] theorem resume_jobsStarted {p : Pending α} {reply : Reply} :
    (resume gate p reply c).2.jobsStarted = c.jobsStarted := advance_jobsStarted

@[simp] theorem resume_finished {p : Pending α} {reply : Reply} :
    (resume gate p reply c).2.finished = c.finished := advance_finished

@[simp] theorem goOn_config {reply : Reply} : (c.goOn job reply).config = c.config := by
  simp [goOn, without]

@[simp] theorem goOn_jobsStarted {reply : Reply} :
    (c.goOn job reply).jobsStarted = c.jobsStarted := by simp [goOn, without]

theorem step_config (c : Console) (e : Event) : (c.step e).config = c.config := by
  have hs := stepped c e
  generalize c.step e = d at hs
  cases hs <;> simp

theorem mem_begin_jobs {work : Workflow Outcome} (h : job ∈ (c.begin gate work).jobs) :
    job ∈ c.jobs ∨ ∃ p,
      (advance gate work { c with jobsStarted := c.jobsStarted + 1 }).1 = .waiting p ∧
        job = ⟨c.jobsStarted, gate, p⟩ := by
  simpa [begin, mem_settle_jobs] using h

theorem mem_goOn_jobs {job₀ : Job} {reply : Reply} (h : job ∈ (c.goOn job₀ reply).jobs) :
    job ∈ c.jobs ∧ job.id ≠ job₀.id ∨ ∃ p,
      (resume job₀.gate job₀.pending reply (c.without job₀.id)).1 = .waiting p ∧
        job = ⟨job₀.id, job₀.gate, p⟩ := by
  simpa [goOn, mem_settle_jobs, without] using h

theorem mem_begin_jobs_of_mem {work : Workflow Outcome} (h : job ∈ c.jobs) :
    job ∈ (c.begin gate work).jobs :=
  mem_settle_jobs.mpr (.inl (by rwa [advance_jobs]))

/-- A job waits until it is answered. -/
theorem mem_step_jobs (h : job ∈ c.jobs) (he : ∀ reply, e ≠ .answer job.id reply) :
    job ∈ (c.step e).jobs := by
  have hs := stepped c e
  generalize c.step e = d at hs
  cases hs with
  | ran op => exact mem_begin_jobs_of_mem h
  | passed _ => exact mem_begin_jobs_of_mem h
  | @answered other _ reply =>
    have hid : job.id ≠ other.id := fun hid => he reply (by rw [hid])
    refine mem_settle_jobs.mpr (.inl ?_)
    rw [resume_jobs]
    exact List.mem_filter.mpr ⟨h, bne_iff_ne.mpr hid⟩
  | idle => exact h

/-- Work that begins is the only work that can end there. -/
theorem mem_begin_finished {work : Workflow Outcome} {ended : JobId × Outcome}
    (h : ended.1 < c.jobsStarted) :
    ended ∈ (c.begin gate work).finished ↔ ended ∈ c.finished := by
  rw [begin, mem_settle_finished, advance_finished]
  refine or_iff_left ?_
  rintro ⟨_, _, rfl⟩
  exact Nat.lt_irrefl _ h

/-- Only a reply to a job that waits makes a job of that id return. -/
theorem mem_step_finished {ended : JobId × Outcome} (h : ended.1 < c.jobsStarted)
    (he : ∀ reply, e = .answer ended.1 reply → ∀ job ∈ c.jobs, job.id ≠ ended.1) :
    ended ∈ (c.step e).finished ↔ ended ∈ c.finished := by
  have hs := stepped c e
  generalize c.step e = d at hs
  cases hs with
  | ran op => exact mem_begin_finished h
  | @passed id hook loop turn => exact mem_begin_finished (c := { c with loop }) h
  | @answered job hj reply =>
    rw [goOn, mem_settle_finished, resume_finished]
    refine or_iff_left ?_
    rintro ⟨_, _, rfl⟩
    exact he reply rfl job hj rfl
  | idle => exact Iff.rfl

theorem begin_records (c : Console) (gate : Gate) (work : Workflow Outcome) :
    c.records <+: (c.begin gate work).records := by
  rw [begin, settle_records]
  exact advance_records gate work { c with jobsStarted := c.jobsStarted + 1 }

theorem goOn_records (c : Console) (job : Job) (reply : Reply) :
    c.records ++ [completion job.pending.api job.pending.ticket
      (job.pending.api.answerOf job.pending.id reply)] <+: (c.goOn job reply).records := by
  rw [goOn, settle_records]
  exact advance_records job.gate _ ((c.without job.id).endCall job.pending.api job.pending.ticket
    (job.pending.api.answerOf job.pending.id reply)).2

theorem step_records (c : Console) (e : Event) : c.records <+: (c.step e).records := by
  have hs := stepped c e
  generalize c.step e = d at hs
  cases hs with
  | ran op => exact begin_records c none _
  | @passed id hook loop turn => exact begin_records { c with loop } (some id) _
  | answered _ reply => exact (List.prefix_append _ _).trans (goOn_records c _ reply)
  | idle => exact List.prefix_refl _

/-- The ids of all jobs that wait or are done. -/
def ids (c : Console) : List JobId := c.jobs.map (·.id) ++ c.finished.map (·.1)

/-- Ids are given out once. -/
structure Numbered (c : Console) : Prop where
  apart : c.ids.Nodup
  begun : ∀ id ∈ c.ids, id < c.jobsStarted

theorem ids_settle (id : JobId) (gate : Gate) (r : Progress Outcome × Console) :
    (settle id gate r).ids.Perm (id :: r.2.ids) := by
  obtain ⟨p, c⟩ := r
  cases p with
  | waiting p => simp [settle, ids]
  | finished outcome =>
    have h : (c.jobs.map (·.id) ++ (c.finished.map (·.1) ++ [id])).Perm (id :: c.ids) := by
      rw [← List.append_assoc]
      exact List.perm_append_singleton id c.ids
    cases gate <;> simpa [settle, ids] using h

theorem numbered_start {config : Config} {table : Route.Table} {storage : Storage} :
    (start config table storage).Numbered := ⟨.nil, by simp [ids, start]⟩

theorem numbered_begin {work : Workflow Outcome} (h : c.Numbered) :
    (c.begin gate work).Numbered := by
  have hids : (advance gate work { c with jobsStarted := c.jobsStarted + 1 }).2.ids = c.ids := by
    simp [ids]
  have hp := ids_settle c.jobsStarted gate
    (advance gate work { c with jobsStarted := c.jobsStarted + 1 })
  rw [hids] at hp
  have hfresh : c.jobsStarted ∉ c.ids := fun hm => Nat.lt_irrefl _ (h.begun _ hm)
  refine ⟨hp.nodup_iff.mpr (List.nodup_cons.mpr ⟨hfresh, h.apart⟩), fun id hid => ?_⟩
  rw [begin_jobsStarted]
  rcases List.mem_cons.mp (hp.mem_iff.mp hid) with rfl | hid
  · exact Nat.lt_succ_self _
  · exact Nat.lt_succ_of_lt (h.begun id hid)

theorem numbered_goOn {reply : Reply} (hj : job ∈ c.jobs) (h : c.Numbered) :
    (c.goOn job reply).Numbered := by
  have hids : (resume job.gate job.pending reply (c.without job.id)).2.ids =
      (c.without job.id).ids := by simp [ids]
  have hp := ids_settle job.id job.gate
    (resume job.gate job.pending reply (c.without job.id))
  rw [hids] at hp
  have hsub : (c.without job.id).ids.Sublist c.ids :=
    (List.filter_sublist.map _).append_right _
  have hmem : job.id ∈ c.jobs.map (·.id) := List.mem_map_of_mem hj
  have hfresh : job.id ∉ (c.without job.id).ids := by
    have hfin := (List.nodup_append.mp h.apart).2.2 _ hmem
    simp only [ids, without, List.mem_append, List.mem_map, List.mem_filter, not_or]
    refine ⟨by simp, ?_⟩
    rintro ⟨e, he, hid⟩
    exact hfin _ (List.mem_map_of_mem he) hid.symm
  refine ⟨hp.nodup_iff.mpr (List.nodup_cons.mpr ⟨hfresh, h.apart.sublist hsub⟩), fun id hid => ?_⟩
  rw [goOn_jobsStarted]
  rcases List.mem_cons.mp (hp.mem_iff.mp hid) with rfl | hid
  · exact h.begun _ (List.mem_append_left _ hmem)
  · exact h.begun id (hsub.subset hid)

theorem numbered_step (h : c.Numbered) : (c.step e).Numbered := by
  have hs := stepped c e
  generalize c.step e = d at hs
  cases hs with
  | ran op => exact numbered_begin h
  | passed _ => exact numbered_begin ⟨h.apart, h.begun⟩
  | answered hj reply => exact numbered_goOn hj h
  | idle => exact ⟨h.apart, h.begun⟩

theorem Numbered.eq_of_id {job' : Job} (h : c.Numbered) (hj : job ∈ c.jobs) (hj' : job' ∈ c.jobs)
    (hid : job.id = job'.id) : job = job' :=
  List.inj_on_of_nodup_map (List.nodup_append.mp h.apart).1 hj hj' hid

theorem Numbered.perm_without (h : c.Numbered) (hj : job ∈ c.jobs) :
    c.jobs.Perm (job :: (c.without job.id).jobs) := by
  -- Lists without duplicates are permuted as soon as they have the same members.
  have hn : c.jobs.Nodup := (List.nodup_append.mp h.apart).1.of_map _
  refine (List.perm_ext_iff_of_nodup hn ?_).mpr fun other => ?_
  · exact List.nodup_cons.mpr ⟨by simp [without], hn.filter _⟩
  · rw [List.mem_cons, without, List.mem_filter, bne_iff_ne]
    constructor
    · intro ho
      by_cases hid : other.id = job.id
      · exact .inl (h.eq_of_id ho hj hid)
      · exact .inr ⟨ho, hid⟩
    · rintro (rfl | ⟨ho, _⟩)
      · exact hj
      · exact ho

theorem Numbered.find?_eq (h : c.Numbered) (hj : job ∈ c.jobs) :
    c.jobs.find? (·.id == job.id) = some job := by
  cases hf : c.jobs.find? (·.id == job.id) with
  | none => simpa using List.find?_eq_none.mp hf job hj
  | some job' =>
    have hid : job'.id = job.id := by simpa using List.find?_some hf
    rw [h.eq_of_id (List.mem_of_find?_eq_some hf) hj hid]

/-- A reply to a job that waits reaches that job. -/
theorem Numbered.answer_eq {reply : Reply} (h : c.Numbered) (hj : job ∈ c.jobs) :
    c.step (.answer job.id reply) = c.goOn job reply := by
  simp only [step, answer, h.find?_eq hj]
  rfl

/-- The waiting jobs of some gates are at calls of workflows that keep to a discipline. -/
def Disciplined (D : Discipline σ) (Q : σ → Outcome → Prop) (kind : Gate → Prop)
    (c : Console) : Prop :=
  ∀ job ∈ c.jobs, kind job.gate → D.Awaits Q job.pending

section
variable {kind : Gate → Prop}

theorem awaits_advance {Q : σ → α → Prop} {p : Pending α} (hw : D.Follows s w Q)
    (h : (advance gate w c).1 = .waiting p) : D.Awaits Q p := by
  have hr : D.Rests (fun _ _ => True) Q (advance gate w c) :=
    rests_advance Discipline.keeps_true hw trivial
  generalize advance gate w c = r at hr h
  obtain ⟨_, c'⟩ := r
  subst h
  exact hr.awaits

theorem awaits_resume {Q : σ → α → Prop} {p p' : Pending α} {reply : Reply} (hp : D.Awaits Q p)
    (h : (resume gate p reply c).1 = .waiting p') : D.Awaits Q p' := by
  obtain ⟨s, payload, _, hw⟩ := hp
  exact awaits_advance (hw _) h

theorem disciplined_begin {work : Workflow Outcome} (hw : kind gate → D.Follows s work Q)
    (h : c.Disciplined D Q kind) : (c.begin gate work).Disciplined D Q kind := by
  intro job hj hk
  obtain hj | ⟨p, hp, rfl⟩ := mem_begin_jobs hj
  · exact h job hj hk
  · exact awaits_advance (hw hk) hp

theorem disciplined_goOn {reply : Reply} (hj : job ∈ c.jobs) (h : c.Disciplined D Q kind) :
    (c.goOn job reply).Disciplined D Q kind := by
  intro job' hj' hk
  obtain ⟨hj', _⟩ | ⟨p, hp, rfl⟩ := mem_goOn_jobs hj'
  · exact h job' hj' hk
  · exact awaits_resume (h job hj hk) hp

theorem disciplined_step (hrun : kind none → ∀ op, e = .run op →
      D.Follows s (op.workflow c.config) Q)
    (hpass : ∀ id, kind (some id) → ∀ hook,
      D.Follows s ((Operation.refresh hook).workflow c.config) Q)
    (h : c.Disciplined D Q kind) : (c.step e).Disciplined D Q kind := by
  have hs := stepped c e
  generalize c.step e = d at hs
  cases hs with
  | ran op => exact disciplined_begin (fun hk => hrun hk op rfl) h
  | passed _ => exact disciplined_begin (fun hk => hpass _ hk _) h
  | answered hj reply => exact disciplined_goOn hj h
  | idle => exact h

end

end Console

end StorageConsole
