import StorageConsole.Proofs.ClosedGate
import StorageConsole.Proofs.Routing

/-!
Who sees which page. On the console's own routes the guard sends a visitor elsewhere at most once,
so each navigation lands; and since a logout sends the front end elsewhere at once, a page for users
is never shown without a session.
-/
namespace StorageConsole

open Backend (Api CallError LoadResult Reply)

namespace Route

/-- Only pages that guests may see are without need of a user. -/
theorem Policy.access_of_guard {p : Policy} (h : p.guard false = none) : p.access ≠ .usersOnly := by
  intro ha
  simp [guard, ha, Access.allows] at h

end Route

/-- No page for users is shown while nobody is logged in. -/
def State.IsSheltered (s : State) : Prop := s.user = none → s.route.policy.access ≠ .usersOnly

theorem State.IsSheltered.congr {s s' : State} (h : s.IsSheltered) (hu : s'.user = s.user)
    (hr : s'.route = s.route) : s'.IsSheltered := by
  unfold IsSheltered
  rw [hu, hr]
  exact h

theorem State.IsSheltered.apply {s : State} {a : Action} (h : s.IsSheltered)
    (ha : a.steers = false) : (a.apply s).IsSheltered := by
  obtain ⟨hu, hr, _⟩ := Action.apply_of_not_steers ha s
  exact h.congr hu hr

theorem Action.not_steers_of_plain {a : Action} (ha : a.isPlain) : a.steers = false := by
  cases a <;> first | rfl | cases ha

theorem Action.not_steers_of_listing {a : Action} (ha : a.isListing) : a.steers = false := by
  cases a <;> first | rfl | cases ha

theorem Action.not_steers_of_record {a : Action} (ha : a.isRecord) : a.steers = false := by
  cases a <;> first | rfl | cases ha

namespace Store
variable {s : Store}

theorem isSheltered_navigate (h : s.table.IsDirect) (path : String) :
    (s.navigate path).2.state.IsSheltered := by
  obtain ⟨route, _, _, _, _, hs, hg⟩ := navigate_of_direct h path
  rw [hs]
  intro hu
  have hu' : s.state.user = none := hu
  rw [hu'] at hg
  exact Route.Policy.access_of_guard hg

theorem isSheltered_redirect (h : s.table.IsDirect) (path : String) :
    (s.redirect path).state.IsSheltered := isSheltered_navigate (s := s.emit (.redirected path)) h path

end Store

namespace Console
variable {c c' : Console} {gate : Gate} {api : Api} {payload : api.Payload} {e : Event}
  {events : List Event} {table : Route.Table}

/-- The table is direct, and no page for users is shown while nobody is logged in. -/
structure Sheltered (c : Console) : Prop where
  direct : c.table.IsDirect
  state : c.state.IsSheltered

theorem Sheltered.perform {e : Effect} (h : c.Sheltered) (he : e.isMild) (gate : Gate) :
    (c.perform gate e).2.Sheltered where
  direct := by
    rw [perform_table]
    exact h.direct
  state := by
    cases e with
    | write a =>
      rw [perform_write]
      split
      · exact h.state.apply (Action.not_steers_of_plain he)
      · exact h.state
    | force a => exact h.state.apply (Action.not_steers_of_plain he)
    | emit signal =>
      rw [perform_emit]
      split <;> exact h.state
    | redirect path =>
      rw [perform_redirect]
      split
      · exact Store.isSheltered_redirect h.direct path
      · exact h.state
    | visit path => exact Store.isSheltered_navigate h.direct path
    | look | listen | keep _ | retrieve | forget | startLoop | stopLoop => exact h.state

theorem Sheltered.show {a : Action} (h : c.Sheltered) (ha : a.isListing) (gate : Gate) :
    (c.perform gate (.write a)).2.Sheltered where
  direct := by
    rw [perform_table]
    exact h.direct
  state := by
    rw [perform_write]
    split
    · exact h.state.apply (Action.not_steers_of_listing ha)
    · exact h.state

theorem Sheltered.record {a : Action} (h : c.Sheltered) (ha : a.isRecord) :
    (c.record a).Sheltered :=
  ⟨h.direct, h.state.apply (Action.not_steers_of_record ha)⟩

theorem Sheltered.beginCall (h : c.Sheltered) (api : Api) : (c.beginCall api).2.Sheltered :=
  (show Sheltered { c with tickets := c.tickets + 1 } from ⟨h.direct, h.state⟩).record rfl

theorem Sheltered.endCall (h : c.Sheltered) (api : Api) (ticket : Nat)
    (outcome : Except CallError (api.Answer × Json)) : (c.endCall api ticket outcome).2.Sheltered :=
  h.record completion_isRecord

/-- Outside the loops a page for users is only left standing between the end of a session and the
redirect that follows it at once. -/
def Sheltering : Phase → Console → Prop
  | .leaving, c => c.table.IsDirect
  | _, c => c.Sheltered

theorem sheltering_afterCall {s : Phase} {r : LoadResult api.Answer} (h : c.Sheltered) :
    Sheltering (conduct.afterCall s api r) c := by
  rw [conduct_afterCall]
  split
  · exact h
  · cases api.shown? r <;> exact h

theorem keeps_sheltering : conduct.Keeps none Sheltering where
  act {s e c} he h := by
    cases s with
    | free =>
      change Sheltering (if e = .force (.setUser none) then .leaving else .free) _
      obtain he | rfl := he
      · split
        · exact (h.perform he none).direct
        · exact h.perform he none
      · exact h.direct
    | admitted =>
      obtain ⟨user, rfl⟩ := he
      exact ⟨h.direct, fun hu => by cases hu⟩
    | entered =>
      obtain ⟨text, rfl⟩ | he := he
      · exact ⟨h.direct, h.state⟩
      · exact h.perform he none
    | owing a =>
      have hs : (c.perform none e).2.Sheltered := by
        obtain he | ⟨rfl, ha⟩ := he
        · exact h.perform he none
        · exact h.show ha none
      change Sheltering (if e = .write a then .free else .owing a) _
      split <;> exact hs
    | leaving =>
      obtain ⟨path, rfl⟩ := he
      refine ⟨?_, ?_⟩
      · rw [perform_table]
        exact h
      · rw [perform_redirect]
        exact Store.isSheltered_redirect h path
  fail {s api payload c ticket e c'} hm h hc := by
    obtain ⟨_, rfl, rfl⟩ := call_eq_error hc
    have hs : c.Sheltered := by rcases hm with rfl | rfl <;> exact h
    exact sheltering_afterCall ((hs.beginCall api).endCall api _ _)

/-- Within the loops no session ends. -/
theorem keeps_sheltered_gated : (conduct.prod gated).Keeps gate fun s c =>
    s.1 ≠ .leaving ∧ c.Sheltered where
  act {s e c} he h := by
    obtain ⟨s, _⟩ := s
    obtain ⟨hdo, hgated⟩ := he
    obtain ⟨hs, h⟩ := h
    cases s with
    | free =>
      have hne : e ≠ .force (.setUser none) := by
        rintro rfl
        cases hgated
      refine ⟨?_, h.perform (hdo.resolve_right hne) gate⟩
      change (if e = .force (.setUser none) then Phase.leaving else .free) ≠ .leaving
      rw [if_neg hne]
      exact Phase.noConfusion
    | admitted =>
      obtain ⟨user, rfl⟩ := hdo
      cases hgated
    | entered =>
      obtain ⟨text, rfl⟩ | he := hdo
      · cases hgated
      · exact ⟨Phase.noConfusion, h.perform he gate⟩
    | owing a =>
      refine ⟨?_, ?_⟩
      · change (if e = .write a then Phase.free else .owing a) ≠ .leaving
        split <;> exact Phase.noConfusion
      · obtain he | ⟨rfl, ha⟩ := hdo
        · exact h.perform he gate
        · exact h.show ha gate
    | leaving => exact absurd rfl hs
  fail {s api payload c ticket e c'} hm h hc := by
    obtain ⟨_, rfl, rfl⟩ := call_eq_error hc
    refine ⟨?_, (h.2.beginCall api).endCall api _ _⟩
    change conduct.afterCall s.1 api _ ≠ .leaving
    rw [conduct_afterCall]
    split
    · exact Phase.noConfusion
    · cases api.shown? (api.report (.error e)) <;> exact Phase.noConfusion

theorem Sheltered.call {ticket : Nat} {id : Option Nat} (h : c.Sheltered)
    (hc : c.call api payload = (ticket, .ok id, c')) : c'.Sheltered := by
  obtain ⟨sender, _, _, _, rfl⟩ := call_eq_ok hc
  have hb := h.beginCall api
  exact ⟨hb.direct, hb.state⟩

/-- Work that is conducted well, and done through its gate if it has one, opens no page for users to
guests. -/
theorem sheltered_advance {α : Type} {w : Workflow α} {s : Phase}
    (hw : conduct.Follows s w fun s _ => s = .free) (hg : gate ≠ none → w.IsGated)
    (hs : s ≠ .leaving) (h : c.Sheltered) : (advance gate w c).2.Sheltered := by
  cases gate with
  | none =>
    have hstart : Sheltering s c := by cases s <;> first | exact h | exact absurd rfl hs
    have hr := rests_advance keeps_sheltering hw hstart
    generalize advance none w c = r at hr
    cases hr with
    | finished kept ends =>
      subst ends
      exact kept
    | waiting kept allowed called _ =>
      rcases allowed with rfl | rfl
      · exact Sheltered.call kept called
      · exact Sheltered.call kept called
  | some id =>
    have hkeeps : (conduct.prod gated).Keeps (some id) fun s c => s.1 ≠ .leaving ∧ c.Sheltered :=
      keeps_sheltered_gated
    have hr := rests_advance hkeeps (hw.prod (hg (by simp))) ⟨hs, h⟩
    generalize advance (some id) w c = r at hr
    cases hr with
    | finished kept _ => exact kept.2
    | waiting kept _ called _ => exact kept.2.call called

theorem Sheltered.settle {id : JobId} {r : Progress Outcome × Console} (h : r.2.Sheltered) :
    (settle id gate r).Sheltered := by
  refine ⟨?_, ?_⟩
  · rw [settle_toStore]
    exact h.direct
  · rw [settle_toStore]
    exact h.state

/-- What ordinary events keep on a direct table. -/
structure Guarded (c : Console) : Prop where
  conducted : c.Conducted
  gated : c.Gated
  sheltered : c.Sheltered

theorem sheltered_goOn {job : Job} (h : c.Guarded) (hj : job ∈ c.jobs) (reply : Reply) :
    (c.goOn job reply).Sheltered := by
  let outcome := job.pending.api.answerOf job.pending.id reply
  let result := job.pending.api.report outcome
  obtain ⟨s, payload, _, hw⟩ := h.conducted.disciplined job hj trivial
  have hgated : job.gate ≠ none → (job.pending.next result).IsGated := by
    intro hne
    obtain ⟨_, _, _, hg⟩ := h.gated.disciplined job hj hne
    exact hg result
  have hphase : conduct.afterCall s job.pending.api result ≠ .leaving := by
    rw [conduct_afterCall]
    split
    · exact Phase.noConfusion
    · cases job.pending.api.shown? result <;> exact Phase.noConfusion
  have hwaiting : (c.without job.id).Sheltered := ⟨h.sheltered.direct, h.sheltered.state⟩
  have hended := hwaiting.endCall job.pending.api job.pending.ticket outcome
  exact (sheltered_advance (hw result) hgated hphase hended).settle

theorem guarded_step (he : e.isOrdinary) (h : c.Guarded) : (c.step e).Guarded where
  conducted := conducted_step he h.conducted
  gated := gated_step h.gated
  sheltered := by
    have hs := stepped c e
    generalize c.step e = d at hs
    cases hs with
    | ran op =>
      have hbegun : Sheltered { c with jobsStarted := c.jobsStarted + 1 } :=
        ⟨h.sheltered.direct, h.sheltered.state⟩
      exact (sheltered_advance (Workflow.calm_workflow he) (absurd rfl) Phase.noConfusion
        hbegun).settle
    | @passed id hook loop turn =>
      have hbegun : Sheltered { c with loop, jobsStarted := c.jobsStarted + 1 } :=
        ⟨h.sheltered.direct, h.sheltered.state⟩
      have hgated : ((Operation.refresh hook).workflow c.config).IsGated :=
        Workflow.gated_pass c.config hook
      exact (sheltered_advance (Workflow.calm_workflow rfl) (fun _ => hgated) Phase.noConfusion
        hbegun).settle
    | answered hj reply => exact sheltered_goOn h hj reply
    | idle => exact ⟨h.sheltered.direct, h.sheltered.state⟩

theorem guarded_start {config : Config} {storage : Storage} (h : table.IsDirect) :
    (start config table storage).Guarded where
  conducted := conducted_start
  gated := by
    have hrun : ((start config table storage).runAll []).Gated := gated_runAll
    exact hrun
  sheltered := ⟨h, fun _ => nofun⟩

theorem step_table (c : Console) (e : Event) : (c.step e).table = c.table := by
  have hadvance : ∀ (gate : Gate) (w : Workflow Outcome) (c : Console),
      (advance gate w c).2.table = c.table := by
    intro gate w c
    refine advance_rel (R := fun c c' => c'.table = c.table) (fun _ => rfl)
      (fun h h' => h'.trans h) (fun c e => perform_table c gate e) (fun c api payload => ?_)
      (fun _ _ => rfl) w c
    obtain ⟨e, _, hc⟩ | ⟨sender, _, hc⟩ := call_cases c api payload <;> rw [hc] <;> rfl
  have hs := stepped c e
  generalize c.step e = d at hs
  cases hs with
  | ran op =>
    rw [begin, settle_toStore]
    exact hadvance none _ _
  | passed turn =>
    rw [begin, settle_toStore]
    exact hadvance _ _ _
  | answered _ reply =>
    rw [goOn, settle_toStore]
    exact hadvance _ _ _
  | idle => rfl

theorem runAll_table (c : Console) (events : List Event) : (c.runAll events).table = c.table :=
  runAll_keeps (P := fun d => d.table = c.table) (fun e _ d h => (step_table d e).trans h) rfl

/-- On the console's own routes, whatever ordinary events happen in whatever order, no page for users
is shown while nobody is logged in, and every navigation lands after at most one redirect. -/
theorem private_pages_need_session (config : Config) {table : Route.Table} (storage : Storage)
    (console : Route.Table.build Route.consoleDeclarations = .ok table) {events : List Event}
    (ordinary : ∀ e ∈ events, e.isOrdinary) :
    let c := (start config table storage).runAll events
    (c.state.user = none → c.state.route.policy.access ≠ .usersOnly) ∧ c.table = table ∧
    ∀ s : Store, s.table = table → ∀ path, ∃ (route : Route.Match) (targets : List String),
      (s.navigate path).1 = .ok route ∧ targets.length ≤ 1 ∧
      (s.navigate path).2.signals = s.signals ++ targets.map .redirected := by
  intro c
  have hdirect := Route.Table.isDirect_console console
  have hc : c.Guarded :=
    runAll_keeps (fun e he _ => guarded_step (ordinary e he)) (guarded_start hdirect)
  refine ⟨hc.sheltered.state, runAll_table _ events, fun s hs path => ?_⟩
  rw [← hs] at hdirect
  obtain ⟨route, targets, hok, hlen, hsignals, _⟩ := Store.navigate_of_direct hdirect path
  exact ⟨route, targets, hok, hlen, hsignals⟩

/-- Settings with which a logout leads to a page for users. -/
def leavingToRepos : Config := { Config.default with logoutPath := "/repos" }

/-- Somebody logs in, goes to a page for users and logs out. -/
def visitAndLeave : List Event :=
  [.run (.login .empty), .answer 0 .confirmation, .run (.navigate "/servers"), .run .logout]

theorem private_pages_need_session_leaving :
    ∃ table, Route.Table.build Route.consoleDeclarations = .ok table ∧
      let c := (start leavingToRepos table (.memory .empty)).runAll visitAndLeave
      c.state.route.path = "/login" ∧ c.state.user = none ∧
        c.state.route.policy.access ≠ .usersOnly := by
  let table : Route.Table := (Route.Table.build Route.consoleDeclarations).toOption.getD .empty
  have hbuild : Route.Table.build Route.consoleDeclarations = .ok table := by decide +kernel
  have hordinary : ∀ e ∈ visitAndLeave, e.isOrdinary := by decide
  have hpath : ((start leavingToRepos table (.memory .empty)).runAll visitAndLeave).state.route.path =
      "/login" := by decide +kernel
  have huser : ((start leavingToRepos table (.memory .empty)).runAll visitAndLeave).state.user =
      none := by decide +kernel
  have h := private_pages_need_session leavingToRepos (.memory .empty) hbuild hordinary
  exact ⟨table, hbuild, hpath, huser, h.1 huser⟩

end Console

end StorageConsole
