import StorageConsole.Proofs.Conduct

/-!
The ledger of calls: what the records say has been called and has ended, which calls are still open,
and how that decides what the state shows of each api.
-/
namespace StorageConsole

open Backend (Api CallError LoadResult Reply)

namespace Action

/-- The ticket of the call that a record says was begun. -/
def requested? (api : Api) : Action → Option Nat
  | callRequested other ticket => if other = api then some ticket else none
  | _ => none

/-- The ticket of the call that a record says has ended. -/
def completed? (api : Api) : Action → Option Nat
  | callAnswered other ticket _ | callFailed other ticket _ =>
    if other = api then some ticket else none
  | _ => none

theorem apply_calls {a : Action} (ha : a.isRecord = false) (s : State) :
    (a.apply s).calls = s.calls := by
  cases a <;> first | rfl | cases ha

end Action

theorem State.updateCall_eq_self (s : State) (api : Api) (change : CallState → CallState)
    (h : change (s.calls api) = s.calls api) : s.updateCall api change = s := by
  have hcalls : (s.updateCall api change).calls = s.calls := by
    funext other
    by_cases ho : other = api
    · subst ho
      exact (if_pos rfl).trans h
    · exact if_neg ho
  exact congrArg (fun calls => { s with calls }) hcalls

/-- Whether the effect leaves the state of calls to the calls. -/
def Effect.isUnrecorded : Effect → Bool
  | write a | force a => !a.isRecord
  | _ => true

def unrecorded : Discipline Unit where
  mayDo _ e := e.isUnrecorded
  afterDo _ _ _ := ()
  mayCall _ _ _ := True
  afterCall _ _ _ := ()

theorem isUnrecorded_of_conduct {s : Phase} {e : Effect} (he : conduct.mayDo s e) :
    e.isUnrecorded := by
  have hwritten : ∀ a, e = .write a ∨ e = .force a → a.isRecord = false := by
    intro a ha
    obtain ha | ha | ⟨user, rfl⟩ := written_of_conduct he ha
    · cases a <;> first | rfl | cases ha
    · cases a <;> first | rfl | cases ha
    · rfl
  cases e with
  | write a => simpa [Effect.isUnrecorded] using hwritten a (.inl rfl)
  | force a => simpa [Effect.isUnrecorded] using hwritten a (.inr rfl)
  | _ => rfl

theorem unrecorded_of_conduct {α : Type} {s : Phase} {w : Workflow α} {Q : Phase → α → Prop}
    (hw : conduct.Follows s w Q) : unrecorded.Follows () w fun _ _ => True :=
  hw.relax (fun _ _ => isUnrecorded_of_conduct) fun _ _ _ _ => trivial

theorem awaits_unrecorded {α : Type} {p : Pending α} {Q : Phase → α → Prop}
    (hp : conduct.Awaits Q p) : unrecorded.Awaits (fun _ _ => True) p := by
  obtain ⟨_, payload, _, hw⟩ := hp
  exact ⟨(), payload, trivial, fun r => unrecorded_of_conduct (hw r)⟩

namespace Console
variable {c : Console} {api api' : Api} {payload : api.Payload} {ticket : Nat} {gate : Gate}
  {calls : List (Api × Nat)} {outcome : Except CallError (api.Answer × Json)}

/-- The tickets of the calls begun, oldest first. -/
def requested (c : Console) (api : Api) : List Nat := c.records.filterMap (·.requested? api)

/-- The tickets of the calls ended. -/
def completed (c : Console) (api : Api) : List Nat := c.records.filterMap (·.completed? api)

/-- The ticket of the newest call begun. -/
def newest? (c : Console) (api : Api) : Option Nat := (c.requested api).getLast?

def IsOpen (c : Console) (api : Api) (ticket : Nat) : Prop :=
  ticket ∈ c.requested api ∧ ticket ∉ c.completed api

/-- What the state shows of an api is how its newest call stands. -/
structure Shows (c : Console) (api : Api) : Prop where
  ticket : (c.state.calls api).ticket = (c.newest? api).getD 0
  loading : (c.state.calls api).loading ↔ ∃ t, c.newest? api = some t ∧ t ∉ c.completed api
  error : (c.state.calls api).loading → (c.state.calls api).error = none
  answered : ∀ t raw, c.newest? api = some t → .callAnswered api t raw ∈ c.records →
    (c.state.calls api).lastAnswer = some raw ∧ (c.state.calls api).error = none
  failed : ∀ t e, c.newest? api = some t → .callFailed api t e ∈ c.records →
    (c.state.calls api).error = some e

/-- The books when just the given calls are open. -/
structure Ledger (calls : List (Api × Nat)) (c : Console) : Prop where
  bounded : ∀ api, ∀ t ∈ c.requested api, t ≤ c.tickets
  ordered : ∀ api, (c.requested api).Pairwise (· < ·)
  known : ∀ api, ∀ t ∈ c.completed api, t ∈ c.requested api
  apart : calls.Nodup
  isOpen : ∀ api t, (api, t) ∈ calls ↔ c.IsOpen api t
  shows : ∀ api, c.Shows api

theorem mem_completed_of_record {a : Action} (ha : a ∈ c.records)
    (hc : a.completed? api = some ticket) : ticket ∈ c.completed api :=
  List.mem_filterMap.mpr ⟨a, ha, hc⟩

theorem record_requested (c : Console) (a : Action) (api : Api) :
    (c.record a).requested api = c.requested api ++ (a.requested? api).toList := by
  rw [requested, record_records, List.filterMap_append]
  cases h : a.requested? api <;> simp [h, requested]

theorem record_completed (c : Console) (a : Action) (api : Api) :
    (c.record a).completed api = c.completed api ++ (a.completed? api).toList := by
  rw [completed, record_records, List.filterMap_append]
  cases h : a.completed? api <;> simp [h, completed]

theorem beginCall_requested_self :
    (c.beginCall api).2.requested api = c.requested api ++ [c.tickets + 1] := by
  simp only [beginCall, record_requested, Action.requested?, if_pos]
  rfl

theorem beginCall_requested_other (h : api ≠ api') :
    (c.beginCall api).2.requested api' = c.requested api' := by
  simp only [beginCall, record_requested, Action.requested?, if_neg h]
  exact List.append_nil _

theorem beginCall_completed : (c.beginCall api).2.completed api' = c.completed api' := by
  simp only [beginCall, record_completed, Action.completed?]
  exact List.append_nil _

theorem beginCall_calls_self :
    (c.beginCall api).2.state.calls api = (c.state.calls api).requested (c.tickets + 1) :=
  if_pos rfl

theorem beginCall_calls_other (h : api ≠ api') :
    (c.beginCall api).2.state.calls api' = c.state.calls api' :=
  if_neg h.symm

/-- What is shown of an api depends on nothing but its own entry and its own records. -/
theorem Shows.congr {c' : Console} (h : c.Shows api)
    (hcalls : c'.state.calls api = c.state.calls api)
    (hreq : c'.requested api = c.requested api) (hcomp : c'.completed api = c.completed api)
    (hrec : ∀ a ∈ c'.records, a.completed? api ≠ none → a ∈ c.records) : c'.Shows api := by
  have hnew : c'.newest? api = c.newest? api := by rw [newest?, hreq, newest?]
  constructor
  · rw [hcalls, hnew]
    exact h.ticket
  · rw [hcalls, hnew, hcomp]
    exact h.loading
  · rw [hcalls]
    exact h.error
  · rw [hcalls, hnew]
    exact fun t raw ht hr => h.answered t raw ht (hrec _ hr (by simp [Action.completed?]))
  · rw [hcalls, hnew]
    exact fun t e ht hr => h.failed t e ht (hrec _ hr (by simp [Action.completed?]))

theorem Ledger.ticket_le (h : Ledger calls c) (api : Api) :
    (c.state.calls api).ticket ≤ c.tickets := by
  rw [(h.shows api).ticket]
  cases hn : c.newest? api with
  | none => exact Nat.zero_le _
  | some t => exact h.bounded api t (List.mem_of_getLast? hn)

theorem Ledger.fresh (h : Ledger calls c) (api : Api) : c.tickets + 1 ∉ c.completed api := by
  intro hc
  have hb := h.bounded api _ (h.known api _ hc)
  omega

theorem Ledger.start {config : Config} {table : Route.Table} {storage : Storage} :
    Ledger [] (Console.start config table storage) := by
  refine ⟨?_, ?_, ?_, .nil, ?_, fun api => ⟨rfl, ?_, ?_, ?_, ?_⟩⟩ <;>
    simp [requested, completed, newest?, IsOpen, Console.start, Store.start, State.start,
      CallState.idle]

theorem Ledger.isOpen_beginCall (h : Ledger calls c) {t : Nat} :
    (c.beginCall api).2.IsOpen api' t ↔ (api', t) = (api, c.tickets + 1) ∨ c.IsOpen api' t := by
  rw [IsOpen, IsOpen, beginCall_completed, Prod.mk.injEq]
  by_cases ha : api = api'
  · subst ha
    rw [beginCall_requested_self, List.mem_append, List.mem_singleton]
    constructor
    · rintro ⟨hr | rfl, hc⟩
      · exact .inr ⟨hr, hc⟩
      · exact .inl ⟨rfl, rfl⟩
    · rintro (⟨_, rfl⟩ | ⟨hr, hc⟩)
      · exact ⟨.inr rfl, h.fresh api⟩
      · exact ⟨.inl hr, hc⟩
  · rw [beginCall_requested_other ha]
    exact ⟨.inr, fun ho => ho.resolve_left fun he => ha he.1.symm⟩

/-- A call that has just begun is the newest, and nothing has come of it yet. -/
theorem Ledger.shows_beginCall (h : Ledger calls c) : (c.beginCall api).2.Shows api := by
  have hnew : (c.beginCall api).2.newest? api = some (c.tickets + 1) := by
    rw [newest?, beginCall_requested_self, List.getLast?_concat]
  have hnone : ∀ a ∈ (c.beginCall api).2.records, a.completed? api ≠ some (c.tickets + 1) := by
    intro a hm hc
    have hf := mem_completed_of_record hm hc
    rw [beginCall_completed] at hf
    exact h.fresh api hf
  constructor <;> rw [beginCall_calls_self]
  · rw [hnew]
    exact Nat.max_eq_right (Nat.le_succ_of_le (h.ticket_le api))
  · rw [hnew, beginCall_completed]
    exact ⟨fun _ => ⟨_, rfl, h.fresh api⟩, fun _ => rfl⟩
  · exact fun _ => rfl
  · intro t raw ht hr
    rw [hnew] at ht
    cases ht
    exact absurd (if_pos rfl) (hnone _ hr)
  · intro t e ht hr
    rw [hnew] at ht
    cases ht
    exact absurd (if_pos rfl) (hnone _ hr)

/-- A new call has the highest ticket of all. -/
theorem Ledger.beginCall (h : Ledger calls c) (api : Api) :
    Ledger ((api, c.tickets + 1) :: calls) (c.beginCall api).2 where
  bounded api' t ht := by
    by_cases ha : api = api'
    · subst ha
      rw [beginCall_requested_self] at ht
      rcases List.mem_append.mp ht with ht | ht
      · exact Nat.le_succ_of_le (h.bounded api t ht)
      · exact Nat.le_of_eq (List.mem_singleton.mp ht)
    · rw [beginCall_requested_other ha] at ht
      exact Nat.le_succ_of_le (h.bounded api' t ht)
  ordered api' := by
    by_cases ha : api = api'
    · subst ha
      rw [beginCall_requested_self]
      refine List.pairwise_append.mpr ⟨h.ordered api, List.pairwise_singleton _ _, ?_⟩
      intro t ht t' ht'
      rw [List.mem_singleton.mp ht']
      exact Nat.lt_succ_of_le (h.bounded api t ht)
    · rw [beginCall_requested_other ha]
      exact h.ordered api'
  known api' t ht := by
    rw [beginCall_completed] at ht
    have hk := h.known api' t ht
    by_cases ha : api = api'
    · subst ha
      rw [beginCall_requested_self]
      exact List.mem_append_left _ hk
    · rw [beginCall_requested_other ha]
      exact hk
  apart := by
    refine List.nodup_cons.mpr ⟨fun hm => ?_, h.apart⟩
    have hr := h.bounded api _ ((h.isOpen api _).mp hm).1
    omega
  isOpen api' t := by rw [List.mem_cons, h.isOpen, h.isOpen_beginCall]
  shows api' := by
    by_cases ha : api = api'
    · subst ha
      exact h.shows_beginCall
    · refine (h.shows api').congr (beginCall_calls_other ha) (beginCall_requested_other ha)
        beginCall_completed fun a hm hc => ?_
      rcases List.mem_append.mp hm with hm | hm
      · exact hm
      · rw [List.mem_singleton.mp hm] at hc
        exact absurd rfl hc

theorem Ledger.le_newest {n : Nat} (h : Ledger calls c) (hn : c.newest? api = some n)
    (ht : ticket ∈ c.requested api) : ticket ≤ n := by
  obtain ⟨older, hl⟩ := List.getLast?_eq_some_iff.mp hn
  have ho := h.ordered api
  rw [hl] at ho ht
  rcases List.mem_append.mp ht with ht | ht
  · exact Nat.le_of_lt ((List.pairwise_append.mp ho).2.2 _ ht n (List.mem_singleton_self n))
  · exact Nat.le_of_eq (List.mem_singleton.mp ht)

theorem Ledger.ticket_eq {n : Nat} (h : Ledger calls c) (hn : c.newest? api = some n) :
    (c.state.calls api).ticket = n := by
  rw [(h.shows api).ticket, hn, Option.getD_some]

theorem completion_requested : (completion api ticket outcome).requested? api' = none := by
  cases outcome <;> rfl

theorem completion_completed :
    (completion api ticket outcome).completed? api' = if api = api' then some ticket else none := by
  cases outcome <;> rfl

theorem endCall_requested :
    (c.endCall api ticket outcome).2.requested api' = c.requested api' := by
  rw [endCall, record_requested, completion_requested]
  exact List.append_nil _

theorem endCall_completed_self :
    (c.endCall api ticket outcome).2.completed api = c.completed api ++ [ticket] := by
  rw [endCall, record_completed, completion_completed, if_pos rfl]
  rfl

theorem endCall_completed_other (h : api ≠ api') :
    (c.endCall api ticket outcome).2.completed api' = c.completed api' := by
  rw [endCall, record_completed, completion_completed, if_neg h]
  exact List.append_nil _

theorem endCall_calls_other (h : api ≠ api') :
    (c.endCall api ticket outcome).2.state.calls api' = c.state.calls api' := by
  cases outcome <;> exact if_neg h.symm

/-- A call that is not the newest ends without a trace in the state. -/
theorem endCall_state_of_stale (h : ticket < (c.state.calls api).ticket) :
    (c.endCall api ticket outcome).2.state = c.state := by
  have hstale : ¬ (c.state.calls api).ticket ≤ ticket := Nat.not_le.mpr h
  cases outcome with
  | ok answer =>
    exact c.state.updateCall_eq_self api (·.answered ticket answer.2) (if_neg hstale)
  | error e =>
    exact c.state.updateCall_eq_self api (·.failed ticket (api.display e)) (if_neg hstale)

/-- What the newest call's end leaves in the state. -/
theorem endCall_calls_of_newest (outcome : Except CallError (api.Answer × Json))
    (h : (c.state.calls api).ticket ≤ ticket) :
    (c.endCall api ticket outcome).2.state.calls api =
      match outcome with
      | .ok (_, raw) => ⟨false, none, some raw, (c.state.calls api).ticket⟩
      | .error e => ⟨false, some (api.display e), (c.state.calls api).lastAnswer,
          (c.state.calls api).ticket⟩ := by
  cases outcome with
  | ok answer => exact (if_pos rfl).trans (if_pos h)
  | error e => exact (if_pos rfl).trans (if_pos h)

theorem Ledger.shows_endCall_stale {n : Nat} (h : Ledger calls c) (hn : c.newest? api = some n)
    (hlt : ticket < n) : (c.endCall api ticket outcome).2.Shows api := by
  have hs : (c.endCall api ticket outcome).2.state = c.state :=
    endCall_state_of_stale (by rwa [h.ticket_eq hn])
  have hnew : (c.endCall api ticket outcome).2.newest? api = c.newest? api := by
    rw [newest?, endCall_requested, newest?]
  have hrec : ∀ a ∈ (c.endCall api ticket outcome).2.records,
      a.completed? api = some n → a ∈ c.records := by
    intro a hm hc
    rcases List.mem_append.mp hm with hm | hm
    · exact hm
    · rw [List.mem_singleton.mp hm, completion_completed, if_pos rfl] at hc
      cases hc
      exact absurd hlt (Nat.lt_irrefl _)
  constructor <;> rw [hs]
  · rw [hnew]
    exact (h.shows api).ticket
  · rw [hnew, (h.shows api).loading, hn, endCall_completed_self]
    simp [Nat.ne_of_gt hlt]
  · exact (h.shows api).error
  · intro t raw ht hm
    rw [hnew] at ht
    cases hn.symm.trans ht
    exact (h.shows api).answered n raw hn (hrec _ hm (if_pos rfl))
  · intro t e ht hm
    rw [hnew] at ht
    cases hn.symm.trans ht
    exact (h.shows api).failed n e hn (hrec _ hm (if_pos rfl))

theorem Ledger.shows_endCall_newest (h : Ledger calls c) (hn : c.newest? api = some ticket)
    (hcomp : ticket ∉ c.completed api) : (c.endCall api ticket outcome).2.Shows api := by
  have hs := endCall_calls_of_newest outcome (Nat.le_of_eq (h.ticket_eq hn))
  have hnew : (c.endCall api ticket outcome).2.newest? api = some ticket := by
    rw [newest?, endCall_requested, ← newest?, hn]
  have hrec : ∀ a ∈ (c.endCall api ticket outcome).2.records,
      a.completed? api = some ticket → a = completion api ticket outcome := by
    intro a hm hc
    rcases List.mem_append.mp hm with hm | hm
    · exact absurd (mem_completed_of_record hm hc) hcomp
    · exact List.mem_singleton.mp hm
  constructor
  · rw [hs, hnew, Option.getD_some]
    cases outcome <;> exact h.ticket_eq hn
  · rw [hs, hnew, endCall_completed_self]
    cases outcome <;> simp
  · rw [hs]
    cases outcome <;> simp
  · intro t raw ht hm
    cases hnew.symm.trans ht
    have he := hrec _ hm (if_pos rfl)
    rw [hs]
    cases outcome with
    | ok answer =>
      cases he
      exact ⟨rfl, rfl⟩
    | error e => cases he
  · intro t e ht hm
    cases hnew.symm.trans ht
    have he := hrec _ hm (if_pos rfl)
    rw [hs]
    cases outcome with
    | ok answer => cases he
    | error e =>
      cases he
      rfl

/-- Just the call that has ended is no longer open. -/
theorem isOpen_endCall {t : Nat} :
    (c.endCall api ticket outcome).2.IsOpen api' t ↔
      c.IsOpen api' t ∧ (api', t) ≠ (api, ticket) := by
  rw [IsOpen, IsOpen, endCall_requested, and_assoc, ne_eq, Prod.mk.injEq]
  refine and_congr_right fun _ => ?_
  by_cases ha : api = api'
  · subst ha
    rw [endCall_completed_self, List.mem_append, List.mem_singleton, not_or]
    simp
  · rw [endCall_completed_other ha]
    exact (and_iff_left fun he => ha he.1.symm).symm

theorem Ledger.endCall (h : Ledger ((api, ticket) :: calls) c)
    (outcome : Except CallError (api.Answer × Json)) :
    Ledger calls (c.endCall api ticket outcome).2 := by
  obtain ⟨hreq, hcomp⟩ := (h.isOpen api ticket).mp (List.mem_cons_self ..)
  obtain ⟨hnot, hapart⟩ := List.nodup_cons.mp h.apart
  refine ⟨?_, ?_, ?_, hapart, ?_, ?_⟩
  · intro api' t ht
    rw [endCall_requested] at ht
    exact h.bounded api' t ht
  · intro api'
    rw [endCall_requested]
    exact h.ordered api'
  · intro api' t ht
    rw [endCall_requested]
    by_cases ha : api = api'
    · subst ha
      rw [endCall_completed_self] at ht
      rcases List.mem_append.mp ht with ht | ht
      · exact h.known api t ht
      · rwa [List.mem_singleton.mp ht]
    · rw [endCall_completed_other ha] at ht
      exact h.known api' t ht
  · intro api' t
    rw [isOpen_endCall, ← h.isOpen, List.mem_cons]
    constructor
    · intro hm
      refine ⟨.inr hm, fun he => hnot ?_⟩
      rwa [← he]
    · rintro ⟨hm, hne⟩
      exact hm.resolve_left hne
  · intro api'
    by_cases ha : api = api'
    · subst ha
      have hn : c.newest? api = some _ := List.getLast?_eq_some_getLast (List.ne_nil_of_mem hreq)
      rcases Nat.lt_or_eq_of_le (h.le_newest hn hreq) with hlt | heq
      · exact h.shows_endCall_stale hn hlt
      · rw [← heq] at hn
        exact h.shows_endCall_newest hn hcomp
    · refine (h.shows api').congr (endCall_calls_other ha) endCall_requested
        (endCall_completed_other ha) fun a hm hc => ?_
      rcases List.mem_append.mp hm with hm | hm
      · exact hm
      · rw [List.mem_singleton.mp hm, completion_completed, if_neg ha] at hc
        exact absurd rfl hc

theorem perform_calls {e : Effect} (he : e.isUnrecorded) :
    (c.perform gate e).2.state.calls = c.state.calls := by
  obtain h | ⟨a, rfl | rfl, h⟩ | ⟨route, generation, h⟩ := perform_state c gate e
  · rw [h]
  · rw [h, Action.apply_calls (by simpa [Effect.isUnrecorded] using he)]
  · rw [h, Action.apply_calls (by simpa [Effect.isUnrecorded] using he)]
  · rw [h]

/-- The books are about the records, the tickets and what the state shows of calls. -/
theorem Ledger.congr {c' : Console} (h : Ledger calls c) (hr : c'.records = c.records)
    (ht : c'.tickets = c.tickets) (hc : c'.state.calls = c.state.calls) : Ledger calls c' := by
  have hreq : ∀ api, c'.requested api = c.requested api := fun api => by
    rw [requested, hr, requested]
  have hcomp : ∀ api, c'.completed api = c.completed api := fun api => by
    rw [completed, hr, completed]
  refine ⟨?_, ?_, ?_, h.apart, ?_, ?_⟩
  · intro api
    rw [hreq, ht]
    exact h.bounded api
  · intro api
    rw [hreq]
    exact h.ordered api
  · intro api
    rw [hreq, hcomp]
    exact h.known api
  · intro api t
    rw [IsOpen, hreq, hcomp]
    exact h.isOpen api t
  · intro api
    refine (h.shows api).congr (congrFun hc api) (hreq api) (hcomp api) fun a ha _ => ?_
    rwa [hr] at ha

theorem Ledger.perm {calls' : List (Api × Nat)} (h : Ledger calls c) (hp : calls.Perm calls') :
    Ledger calls' c :=
  ⟨h.bounded, h.ordered, h.known, hp.nodup h.apart,
    fun api t => (hp.mem_iff).symm.trans (h.isOpen api t), h.shows⟩

theorem keeps_ledger : unrecorded.Keeps gate fun _ c => Ledger calls c where
  act he h := h.congr (perform_records _) (perform_tickets _) (perform_calls he)
  fail _ h hc := by
    obtain ⟨_, rfl, rfl⟩ := call_eq_error hc
    exact (h.beginCall _).endCall _

/-- The calls that the waiting jobs wait for. -/
def waitingFor (c : Console) : List (Api × Nat) :=
  c.jobs.map fun job => (job.pending.api, job.pending.ticket)

theorem Ledger.call_ok {c' : Console} {id : Option Nat} (h : Ledger calls c)
    (hc : c.call api payload = (ticket, .ok id, c')) : Ledger ((api, ticket) :: calls) c' := by
  obtain ⟨sender, _, rfl, _, rfl⟩ := call_eq_ok hc
  exact (h.beginCall api).congr rfl rfl rfl

/-- Where work comes to rest, just the calls of the waiting jobs are open. -/
theorem ledger_settle {w : Workflow Outcome} {Q : Unit → Outcome → Prop} (id : JobId)
    (hw : unrecorded.Follows () w Q) (h : Ledger c.waitingFor c) :
    Ledger (settle id gate (advance gate w c)).waitingFor (settle id gate (advance gate w c)) := by
  have hr : unrecorded.Rests (fun _ d => Ledger c.waitingFor d) Q (advance gate w c) :=
    rests_advance keeps_ledger hw h
  have hj : (advance gate w c).2.jobs = c.jobs := advance_jobs
  generalize advance gate w c = r at hr hj
  cases hr with
  | @finished s value d kept _ =>
    have hd : d.waitingFor = c.waitingFor := congrArg (List.map _) hj
    rw [← hd] at kept
    cases gate <;> exact kept.congr rfl rfl rfl
  | @waiting s d d' api payload ticket rid next kept _ called _ =>
    have hd : d'.waitingFor = c.waitingFor := congrArg (List.map _) hj
    have hl := kept.call_ok called
    rw [← hd] at hl
    have hs : (settle id gate (.waiting ⟨api, ticket, rid, next⟩, d')).waitingFor =
        d'.waitingFor ++ [(api, ticket)] := List.map_append
    rw [hs]
    exact (hl.perm (List.perm_append_singleton _ _).symm).congr rfl rfl rfl

theorem ledger_begin {work : Workflow Outcome} {Q : Unit → Outcome → Prop}
    (hw : unrecorded.Follows () work Q) (h : Ledger c.waitingFor c) :
    Ledger (c.begin gate work).waitingFor (c.begin gate work) :=
  ledger_settle c.jobsStarted hw (h.congr rfl rfl rfl)

theorem ledger_goOn {job : Job} {reply : Reply} {Q : Unit → Outcome → Prop} (hn : c.Numbered)
    (hj : job ∈ c.jobs) (hp : unrecorded.Awaits Q job.pending) (h : Ledger c.waitingFor c) :
    Ledger (c.goOn job reply).waitingFor (c.goOn job reply) := by
  obtain ⟨_, payload, _, hw⟩ := hp
  have hperm := (hn.perm_without hj).map fun job => (job.pending.api, job.pending.ticket)
  have hl : Ledger ((job.pending.api, job.pending.ticket) :: (c.without job.id).waitingFor)
      (c.without job.id) := (h.perm hperm).congr rfl rfl rfl
  exact ledger_settle job.id (hw _) (hl.endCall _)

end Console

end StorageConsole
