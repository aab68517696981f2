import Mathlib.Tactic.ByContra
import StorageConsole.Proofs.Ledger

/-!
The lists that the state shows. They are what the last call to end has left, which need not be the
newest call: an older one that is answered later takes its place.
-/
namespace StorageConsole

open Backend (Api CallError LoadResult Reply)

/-- The write that would show what the state shows of a list call. -/
def State.listing? (s : State) : Api → Option Action
  | .repoList => some (.setRepos s.repos s.servers)
  | .config => some (.setPublicConfig s.publicConfig)
  | _ => none

/-- The write that shows an answer as it was received. -/
def Backend.Api.listingOf? (api : Api) (raw : Json) : Option Action :=
  match api.decodeAnswer raw with
  | .ok answer => api.shown? (.answered answer)
  | .error _ => none

/-- The write that shows that a call has failed. -/
def Backend.Api.emptyListing? (api : Api) : Option Action := api.shown? (.failed "" .noResult)

/-- The write that shows how a recorded call has ended. -/
def Action.listing? (api : Api) : Action → Option Action
  | callAnswered other _ raw => if other = api then api.listingOf? raw else none
  | callFailed other _ _ => if other = api then api.emptyListing? else none
  | _ => none

/-- The write that shows what is known of the newest call. -/
def CallState.listing? (api : Api) (s : CallState) : Option Action :=
  match s.error with
  | some _ => api.emptyListing?
  | none => s.lastAnswer.bind api.listingOf?

/-- The states show the same lists. -/
def State.SameLists (s s' : State) : Prop :=
  s.repos = s'.repos ∧ s.servers = s'.servers ∧ s.publicConfig = s'.publicConfig

namespace State
variable {s s' : State} {api api' : Api} {r : LoadResult api.Answer} {a : Action}

theorem SameLists.listing (h : s.SameLists s') (api : Api) : s.listing? api = s'.listing? api := by
  obtain ⟨hr, hs, hp⟩ := h
  cases api <;> simp [listing?, hr, hs, hp]

theorem SameLists.apply (h : s.SameLists s') (a : Action) : (a.apply s).SameLists (a.apply s') := by
  obtain ⟨hr, hs, hp⟩ := h
  cases a <;> simp [SameLists, Action.apply, setForm, updateCall, hr, hs, hp]

theorem sameLists_of_not_listing (ha : a.isListing = false) (s : State) :
    s.SameLists (a.apply s) := by
  cases a <;> first | exact ⟨rfl, rfl, rfl⟩ | cases ha

/-- What was to be shown is shown. -/
theorem listing_shown (h : api.shown? r = some a) (s : State) :
    (a.apply s).listing? api = some a := by
  cases api with
  | repoList =>
    simp only [Api.shown?] at h
    split at h <;> cases h <;> rfl
  | config =>
    simp only [Api.shown?] at h
    split at h <;> cases h <;> rfl
  | _ => cases h

theorem listing_shown_other (h : api.shown? r = some a) (hne : api ≠ api') (s : State) :
    (a.apply s).listing? api' = s.listing? api' := by
  cases api with
  | repoList =>
    simp only [Api.shown?] at h
    split at h <;> cases h <;> cases api' <;> first | rfl | exact absurd rfl hne
  | config =>
    simp only [Api.shown?] at h
    split at h <;> cases h <;> cases api' <;> first | rfl | exact absurd rfl hne
  | _ => cases h

theorem listing_of_shown_none (h : api.shown? r = none) (s : State) : s.listing? api = none := by
  cases api with
  | repoList =>
    simp only [Api.shown?] at h
    split at h <;> cases h
  | config =>
    simp only [Api.shown?] at h
    split at h <;> cases h
  | _ => rfl

end State

namespace Backend.Api
variable {api : Api} {r : LoadResult api.Answer} {a : Action}

theorem admits_of_shown (h : api.shown? r = some a) : api.admits r = false := by
  cases api <;> first | rfl | cases h

theorem shown_failed (display : String) (e : CallError) :
    api.shown? (.failed display e) = api.emptyListing? := by
  cases api <;> rfl

/-- The outcome's answer is the one that its raw value decodes to. -/
def Decodes (api : Api) (outcome : Except CallError (api.Answer × Json)) : Prop :=
  ∀ answer raw, outcome = .ok (answer, raw) → api.decodeAnswer raw = .ok answer

theorem decodes_answerOf (api : Api) (id : Option Nat) (reply : Reply) :
    api.Decodes (api.answerOf id reply) := by
  intro answer raw h
  unfold answerOf at h
  cases hr : reply.result id with
  | error e =>
    rw [hr] at h
    cases h
  | ok j =>
    rw [hr] at h
    change (match api.decodeAnswer j with
      | .ok answer => Except.ok (answer, j)
      | .error e => .error (CallError.undecodable e.message)) = _ at h
    split at h
    · next hd =>
      cases h
      exact hd
    · cases h

theorem decodes_error (api : Api) (e : CallError) : api.Decodes (.error e) := by
  intro answer raw h
  cases h

end Backend.Api

/-- The state as it will be when what is owed has been shown. -/
def Phase.after : Phase → State → State
  | .owing a, s => a.apply s
  | _, s => s

theorem Phase.after_sameLists {s s' : State} (h : s.SameLists s') (p : Phase) :
    (p.after s).SameLists (p.after s') := by
  cases p with
  | owing a => exact h.apply a
  | _ => exact h

namespace Console
variable {c c' : Console} {api api' : Api} {payload : api.Payload} {ticket : Nat} {s : Phase}
  {outcome : Except CallError (api.Answer × Json)} {a : Action}

/-- The record of the call of an api that was the last to end. -/
def lastEnd? (c : Console) (api : Api) : Option Action :=
  (c.records.filter fun a => (a.completed? api).isSome).getLast?

theorem record_lastEnd (c : Console) (a : Action) (api : Api) :
    (c.record a).lastEnd? api =
      if (a.completed? api).isSome then some a else c.lastEnd? api := by
  rw [lastEnd?, record_records, List.filter_append]
  by_cases h : (a.completed? api).isSome
  · simp [h]
  · simp [h, lastEnd?]

theorem endCall_lastEnd_self :
    (c.endCall api ticket outcome).2.lastEnd? api = some (completion api ticket outcome) := by
  rw [endCall, record_lastEnd, completion_completed, if_pos rfl]
  rfl

theorem endCall_lastEnd_other (h : api ≠ api') :
    (c.endCall api ticket outcome).2.lastEnd? api' = c.lastEnd? api' := by
  rw [endCall, record_lastEnd, completion_completed, if_neg h]
  rfl

theorem completion_listing (h : api.Decodes outcome) :
    (completion api ticket outcome).listing? api = api.shown? (api.report outcome) := by
  cases outcome with
  | ok answer =>
    obtain ⟨answer, raw⟩ := answer
    have hd := h answer raw rfl
    simp [completion, Action.listing?, Api.listingOf?, hd, Api.report]
  | error e =>
    simp only [completion, Action.listing?, if_pos, Api.report]
    exact (Api.shown_failed _ e).symm

theorem sameLists_record (ha : a.isRecord) (c : Console) :
    c.state.SameLists (c.record a).state :=
  State.sameLists_of_not_listing (by cases a <;> first | rfl | cases ha) c.state

/-- The lists shown, or about to be shown, are what the last call to end has left. -/
def ListsAgree (s : Phase) (c : Console) : Prop :=
  ∀ api last, c.lastEnd? api = some last → (s.after c.state).listing? api = last.listing? api

theorem ListsAgree.congr (h : ListsAgree s c) (hr : c'.records = c.records)
    (hs : c.state.SameLists c'.state) : ListsAgree s c' := by
  intro api last hl
  rw [lastEnd?, hr] at hl
  rw [← (Phase.after_sameLists hs s).listing api]
  exact h api last hl

/-- A call's end is shown at once or owed. -/
theorem ListsAgree.endCall (h : ListsAgree .free c) (hd : api.Decodes outcome) :
    ListsAgree (conduct.afterCall s api (api.report outcome)) (c.endCall api ticket outcome).2 := by
  have hsame : c.state.SameLists (c.endCall api ticket outcome).2.state :=
    sameLists_record completion_isRecord c
  rw [conduct_afterCall]
  cases hsh : api.shown? (api.report outcome) with
  | some w =>
    rw [Api.admits_of_shown hsh, if_neg Bool.false_ne_true]
    intro api' last hl
    change (w.apply _).listing? api' = _
    by_cases ha : api = api'
    · subst ha
      rw [endCall_lastEnd_self] at hl
      cases hl
      rw [completion_listing hd, hsh]
      exact State.listing_shown hsh _
    · rw [endCall_lastEnd_other ha] at hl
      rw [State.listing_shown_other hsh ha, ← hsame.listing api']
      exact h api' last hl
  | none =>
    have hafter : ∀ x : State, (if api.admits (api.report outcome) then Phase.admitted
        else (none : Option Action).elim .free .owing).after x = x := by
      intro x
      split <;> rfl
    intro api' last hl
    rw [hafter]
    by_cases ha : api = api'
    · subst ha
      rw [endCall_lastEnd_self] at hl
      cases hl
      rw [completion_listing hd, hsh]
      exact State.listing_of_shown_none hsh _
    · rw [endCall_lastEnd_other ha] at hl
      rw [← hsame.listing api']
      exact h api' last hl

theorem beginCall_lastEnd : (c.beginCall api).2.lastEnd? api' = c.lastEnd? api' := by
  simp only [beginCall, record_lastEnd]
  rfl

theorem ListsAgree.beginCall (h : ListsAgree s c) (api : Api) :
    ListsAgree s (c.beginCall api).2 := by
  intro api' last hl
  rw [beginCall_lastEnd] at hl
  have hsame : c.state.SameLists (c.beginCall api).2.state :=
    sameLists_record (a := .callRequested api (c.tickets + 1)) rfl _
  rw [← (Phase.after_sameLists hsame s).listing api']
  exact h api' last hl

theorem sameLists_perform {gate : Gate} {e : Effect}
    (he : ∀ a, e = .write a ∨ e = .force a → a.isListing = false) :
    c.state.SameLists (c.perform gate e).2.state := by
  obtain hs | ⟨a, ha, hs⟩ | ⟨route, generation, hs⟩ := perform_state c gate e
  · rw [hs]
    exact ⟨rfl, rfl, rfl⟩
  · rw [hs]
    exact State.sameLists_of_not_listing (he a ha) c.state
  · rw [hs]
    exact ⟨rfl, rfl, rfl⟩

theorem not_listing_of_mild {e : Effect} (he : e.isMild) (ha : e = .write a ∨ e = .force a) :
    a.isListing = false := by
  rcases ha with rfl | rfl <;> cases a <;> first | rfl | cases he

theorem keeps_listsAgree : conduct.Keeps none ListsAgree where
  act {s e c} he h := by
    have hmild : e.isMild → c.state.SameLists (c.perform none e).2.state :=
      fun he => sameLists_perform fun a => not_listing_of_mild he
    cases s with
    | free =>
      have hfree : ListsAgree .free (c.perform none e).2 := by
        obtain he | rfl := he
        · exact h.congr (perform_records e) (hmild he)
        · exact h.congr rfl ⟨rfl, rfl, rfl⟩
      change ListsAgree (if e = .force (.setUser none) then .leaving else .free) _
      split <;> exact hfree
    | leaving =>
      obtain ⟨path, rfl⟩ := he
      exact h.congr (perform_records _) (hmild rfl)
    | admitted =>
      obtain ⟨user, rfl⟩ := he
      exact h.congr rfl ⟨rfl, rfl, rfl⟩
    | entered =>
      obtain ⟨text, rfl⟩ | he := he
      · exact h.congr rfl ⟨rfl, rfl, rfl⟩
      · exact h.congr (perform_records e) (hmild he)
    | owing a =>
      change ListsAgree (if e = .write a then .free else .owing a) _
      -- Only the write that is owed touches a list; until it is made, what is owed stays owed.
      by_cases hw : e = .write a
      · subst hw
        rw [if_pos rfl]
        exact h
      · rw [if_neg hw]
        exact h.congr (perform_records e) (hmild (he.resolve_right fun he => hw he.1))
  fail {s api payload c ticket e c'} hm h hc := by
    obtain ⟨_, rfl, rfl⟩ := call_eq_error hc
    have hfree : ListsAgree .free c := by rcases hm with rfl | rfl <;> exact h
    exact (hfree.beginCall api).endCall (api.decodes_error e)

theorem listsAgree_settle {w : Workflow Outcome} {id : JobId}
    (hw : conduct.Follows s w fun s _ => s = .free) (h : ListsAgree s c) :
    ListsAgree .free (settle id none (advance none w c)) := by
  have hr : conduct.Rests ListsAgree (fun s _ => s = .free) (advance none w c) :=
    rests_advance keeps_listsAgree hw h
  generalize advance none w c = r at hr
  have hrest : ListsAgree .free r.2 := by
    cases hr with
    | finished kept ends =>
      subst ends
      exact kept
    | @waiting s d _ api _ _ _ _ kept allowed called _ =>
      obtain ⟨sender, _, _, _, rfl⟩ := call_eq_ok called
      have hfree : ListsAgree .free d := by rcases allowed with rfl | rfl <;> exact kept
      exact (hfree.beginCall api).congr rfl ⟨rfl, rfl, rfl⟩
  refine hrest.congr settle_records ?_
  rw [settle_toStore]
  exact ⟨rfl, rfl, rfl⟩

/-- What happens outside the control loop. -/
structure Plain (c : Console) : Prop where
  conducted : c.Conducted
  ledger : Ledger c.waitingFor c
  gates : ∀ job ∈ c.jobs, job.gate = none
  agree : ListsAgree .free c

end Console

/-- An event in which the control loop has no part. -/
def Event.isPlain : Event → Bool
  | turn _ => false
  | e => e.isOrdinary

namespace Console
variable {c : Console} {e : Event} {events : List Event}

theorem plain_start {config : Config} {table : Route.Table} {storage : Storage} :
    (start config table storage).Plain := by
  refine ⟨conducted_start, Ledger.start, by simp [start], fun api last hl => ?_⟩
  cases hl

theorem plain_begin {op : Operation} (ho : op.isOrdinary) (h : c.Plain) :
    (c.begin none (op.workflow c.config)).Plain where
  conducted := conducted_step (e := .run op) ho h.conducted
  ledger := ledger_begin (unrecorded_of_conduct (Workflow.calm_workflow ho)) h.ledger
  gates job hj := by
    obtain hj | ⟨p, _, rfl⟩ := mem_begin_jobs hj
    · exact h.gates job hj
    · rfl
  agree := listsAgree_settle (Workflow.calm_workflow ho) (h.agree.congr rfl ⟨rfl, rfl, rfl⟩)

theorem plain_goOn {job : Job} {reply : Reply} (hj : job ∈ c.jobs) (h : c.Plain) :
    (c.goOn job reply).Plain where
  conducted := by
    rw [← h.conducted.numbered.answer_eq hj]
    exact conducted_step rfl h.conducted
  ledger := ledger_goOn h.conducted.numbered hj
    (awaits_unrecorded (h.conducted.disciplined job hj trivial)) h.ledger
  gates job' hj' := by
    obtain ⟨hj', _⟩ | ⟨p, _, rfl⟩ := mem_goOn_jobs hj'
    · exact h.gates job' hj'
    · exact h.gates job hj
  agree := by
    obtain ⟨s, payload, _, hw⟩ := h.conducted.disciplined job hj trivial
    have hl : ListsAgree .free (c.without job.id) := h.agree.congr rfl ⟨rfl, rfl, rfl⟩
    rw [goOn, h.gates job hj]
    exact listsAgree_settle (hw _) (hl.endCall (Api.decodes_answerOf _ _ reply))

theorem plain_step (he : e.isPlain) (h : c.Plain) : (c.step e).Plain := by
  have hs := stepped c e
  generalize c.step e = d at hs
  cases hs with
  | ran op => exact plain_begin he h
  | passed _ => cases he
  | answered hj reply => exact plain_goOn hj h
  | idle =>
    exact ⟨⟨⟨h.conducted.numbered.apart, h.conducted.numbered.begun⟩, h.conducted.disciplined⟩,
      h.ledger.congr rfl rfl rfl, h.gates, h.agree.congr rfl ⟨rfl, rfl, rfl⟩⟩

theorem plain_runAll (he : ∀ e ∈ events, e.isPlain) (h : c.Plain) : (c.runAll events).Plain :=
  runAll_keeps (fun e hm _ => plain_step (he e hm)) h

/-- The lists shown are how the newest call of an api has ended. -/
def ShowsNewest (c : Console) (api : Api) : Prop :=
  ∀ newest a, c.newest? api = some newest → a ∈ c.records → a.completed? api = some newest →
    c.state.listing? api = a.listing? api

/-- Where the newest call has ended, its end is what the state knows of it. -/
theorem listing_of_newest {api : Api} {newest : Nat} {a : Action} (h : c.Shows api)
    (hn : c.newest? api = some newest) (ha : a ∈ c.records) (hc : a.completed? api = some newest) :
    (c.state.calls api).listing? api = a.listing? api := by
  cases a with
  | callAnswered other t raw =>
    simp only [Action.completed?] at hc
    split at hc
    · next ho =>
      cases hc
      subst ho
      obtain ⟨hl, he⟩ := h.answered _ raw hn ha
      simp [CallState.listing?, Action.listing?, hl, he]
    · cases hc
  | callFailed other t e =>
    simp only [Action.completed?] at hc
    split at hc
    · next ho =>
      cases hc
      subst ho
      have he := h.failed _ e hn ha
      simp [CallState.listing?, Action.listing?, he]
    · cases hc
  | _ => cases hc

/-- How the lists shown relate to the newest call, when the last call to end is the given one. -/
structure ListsFollow (c : Console) (api : Api) (newest : Nat) (last : Action) : Prop where
  closed : ∀ t ∈ c.requested api, t ∈ c.completed api
  ended : c.lastEnd? api = some last
  shown : c.state.listing? api = last.listing? api
  known : ∀ a ∈ c.records, a.completed? api = some newest →
    (c.state.calls api).listing? api = a.listing? api
  agrees : c.ShowsNewest api ↔ last.listing? api = (c.state.calls api).listing? api
  inOrder : last.completed? api = some newest → c.ShowsNewest api

theorem lastEnd_of_completed {api : Api} {ticket : Nat} (h : ticket ∈ c.completed api) :
    ∃ last, c.lastEnd? api = some last := by
  obtain ⟨a, ha, hc⟩ := List.mem_filterMap.mp h
  have hm : a ∈ c.records.filter fun a => (a.completed? api).isSome :=
    List.mem_filter.mpr ⟨ha, by simp [hc]⟩
  exact ⟨_, List.getLast?_eq_some_getLast (List.ne_nil_of_mem hm)⟩

theorem mem_of_lastEnd {api : Api} {last : Action} (h : c.lastEnd? api = some last) :
    last ∈ c.records :=
  (List.mem_filter.mp (List.mem_of_getLast? h)).1

theorem Plain.listsFollow {api : Api} {newest : Nat} (h : c.Plain) (idle : c.jobs = [])
    (hn : c.newest? api = some newest) : ∃ last, c.ListsFollow api newest last := by
  have hshows := h.ledger.shows api
  have hclosed : ∀ t ∈ c.requested api, t ∈ c.completed api := by
    intro t ht
    by_contra hopen
    have hwait := (h.ledger.isOpen api t).mpr ⟨ht, hopen⟩
    simp [waitingFor, idle] at hwait
  have hended : newest ∈ c.completed api := hclosed newest (List.mem_of_getLast? hn)
  obtain ⟨last, hlast⟩ := lastEnd_of_completed hended
  have hshown : c.state.listing? api = last.listing? api := h.agree api last hlast
  have hknown : ∀ a ∈ c.records, a.completed? api = some newest →
      (c.state.calls api).listing? api = a.listing? api :=
    fun a ha hc => listing_of_newest hshows hn ha hc
  have hagrees : c.ShowsNewest api ↔ last.listing? api = (c.state.calls api).listing? api := by
    constructor
    · intro hnewest
      obtain ⟨a, ha, hc⟩ := List.mem_filterMap.mp hended
      rw [← hshown, hnewest newest a hn ha hc, hknown a ha hc]
    · intro he newest' a hn' ha hc
      cases hn.symm.trans hn'
      rw [hshown, he, hknown a ha hc]
  exact ⟨last, hclosed, hlast, hshown, hknown, hagrees,
    fun hc => hagrees.mpr (hknown last (mem_of_lastEnd hlast) hc).symm⟩

/-- Once no work is under way, the lists shown are how the call that was the last to end has ended.
They are what the newest call came to just if that shows the same, as it does when it ended last. -/
theorem lists_show_last_end (config : Config) (table : Route.Table) (storage : Storage)
    {events : List Event} (plain : ∀ e ∈ events, e.isPlain)
    (idle : ((start config table storage).runAll events).jobs = []) :
    ∀ api newest, ((start config table storage).runAll events).newest? api = some newest →
      ∃ last, ((start config table storage).runAll events).ListsFollow api newest last :=
  fun _ _ hn => (plain_runAll plain plain_start).listsFollow idle hn

/-- Two reloads of the repos overlap, and the older one is answered last. -/
def overtakenReload : List Event :=
  [.run (.login .empty), .answer 0 .confirmation, .answer 0 .unreachable,
    .run (.hook .repoList), .run (.hook .repoList), .answer 2 .unreachable,
    .answer 1 (.received 200
      "\x7b\"id\":2,\"result\":\x7b\"Servers\":[\x7b\"Id\":\"s\"\x7d]\x7d\x7d".toUTF8)]

theorem lists_show_last_end_overtakenReload :
    ∃ last, ((start .default .empty (.memory .empty)).runAll overtakenReload).ListsFollow
      .repoList 4 last :=
  lists_show_last_end .default .empty (.memory .empty) (by decide)
    (List.eq_nil_of_length_eq_zero (by decide +kernel)) .repoList 4 (by decide +kernel)

theorem servers_of_failed {ticket : Nat} {e : String}
    (h : c.state.listing? .repoList =
      (Action.callFailed .repoList ticket e).listing? .repoList) : c.state.servers = [] := by
  have he : some (Action.setRepos c.state.repos c.state.servers) = some (.setRepos [] []) := h
  exact (Action.setRepos.inj (Option.some.inj he)).2

/-- The lists shown need not be what the newest call came to. -/
theorem lists_not_newest :
    ¬ ∀ (config : Config) (table : Route.Table) (storage : Storage) (events : List Event),
      (∀ e ∈ events, e.isPlain) → ((start config table storage).runAll events).jobs = [] →
        ∀ api, ((start config table storage).runAll events).ShowsNewest api := by
  intro h
  have hshows := h .default .empty (.memory .empty) overtakenReload (by decide)
    (List.eq_nil_of_length_eq_zero (by decide +kernel)) .repoList 4
    (.callFailed .repoList 4 "transport error: the backend cannot be reached") (by decide +kernel)
    (by decide +kernel) rfl
  have hservers : ((start .default .empty (.memory .empty)).runAll
      overtakenReload).state.servers.length = 1 := by decide +kernel
  rw [servers_of_failed hshows] at hservers
  cases hservers

end Console

end StorageConsole
