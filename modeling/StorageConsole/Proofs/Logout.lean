import StorageConsole.Proofs.Conduct

/-!
What a logout is good for. Until credentials are confirmed again nobody is logged in, nothing is
sent in the session's name and no session is stored. But a login that the logout has overtaken is
confirmed as any other: the logout is final just if no such login comes first.
-/
namespace StorageConsole

open Backend (Api CallError LoadResult Reply Request)

namespace Folder
variable {f g : Folder} {key name : String}

theorem readFile?_of_removeFile? (h : f.removeFile? name = some g) :
    g.readFile? name = some none := by
  unfold removeFile? at h
  split at h
  · next text _ hl =>
    cases h
    cases f with
    | absent => simp [look?] at hl
    | made entries =>
      have hp : isPath name ∧ name.utf8ByteSize ≤ nameLimit := by
        simp only [look?] at hl
        split at hl
        · split at hl
          · exact ⟨‹_›, ‹_›⟩
          · cases hl
        · cases hl
      simp [readFile?, look?, drop, hp, entries.get?_erase]
  · next hl =>
    cases h
    simp [readFile?, hl]
  · cases h
  · cases h

theorem load_of_remove (h : (f.remove key).1 = .ok ()) : (f.remove key).2.load key = .ok none := by
  unfold remove at h ⊢
  split at h
  · cases h
  · next hk =>
    cases hr : f.removeFile? (fileOf key) with
    | none => simp [hr] at h
    | some g => simp [hk, load, readFile?_of_removeFile? hr]

theorem remove_of_error {e : StorageError} (h : (f.remove key).1 = .error e) :
    (f.remove key).2 = f := by
  unfold remove at h ⊢
  split
  · rfl
  · next hk =>
    cases hr : f.removeFile? (fileOf key) with
    | none => rfl
    | some g => simp [hk, hr] at h

end Folder

namespace Storage
variable {s : Storage} {key : String}

/-- What has been removed is no longer there. -/
theorem load_of_remove (h : (s.remove key).1 = .ok ()) : (s.remove key).2.load key = .ok none := by
  cases s with
  | memory texts => exact congrArg Except.ok (texts.get?_erase key)
  | folder f => exact Folder.load_of_remove h

theorem remove_of_error {e : StorageError} (h : (s.remove key).1 = .error e) :
    (s.remove key).2 = s := by
  cases s with
  | memory texts => cases h
  | folder f => exact congrArg folder (Folder.remove_of_error h)

end Storage

theorem Storage.restorable_remove {s : Storage} {key : String}
    (h : Workflow.restorable? (s.load key) = none) :
    Workflow.restorable? ((s.remove key).2.load key) = none := by
  cases hr : (s.remove key).1 with
  | ok _ => rw [load_of_remove hr, Workflow.restorable?]
  | error e => rwa [remove_of_error hr]

/-- The request is made in nobody's name or in that of the credentials its own call carries. -/
def Backend.Request.IsOwn (r : Request) : Prop :=
  ∃ (client : Backend.Client) (api : Api) (payload : api.Payload), api.identity ≠ .session ∧
    r = (client.request (api.message payload) (api.payloadCredentials payload) false).2.1

theorem Action.apply_user {a : Action} (ha : ∀ user, a ≠ .setUser user) (s : State) :
    (a.apply s).user = s.user := by
  cases a with
  | setUser user => exact absurd rfl (ha user)
  | _ => rfl

theorem Action.ne_setUser_of_plain {a : Action} (ha : a.isPlain) (user : Option Credentials) :
    a ≠ .setUser user := by
  rintro rfl
  cases ha

theorem Action.ne_setUser_of_listing {a : Action} (ha : a.isListing) (user : Option Credentials) :
    a ≠ .setUser user := by
  rintro rfl
  cases ha

theorem Action.ne_setUser_of_record {a : Action} (ha : a.isRecord) (user : Option Credentials) :
    a ≠ .setUser user := by
  rintro rfl
  cases ha

theorem Backend.Api.admits_failed (api : Api) (e : CallError) :
    api.admits (api.report (.error e)) = false := by
  cases api <;> rfl

namespace Console
variable {before since c c' : Console} {gate : Gate} {api : Api} {payload : api.Payload}
  {ticket : Nat}

/-- Nobody is logged in, nothing has been sent in a session's name since, and if the stored session
could be removed none is stored. -/
structure LoggedOut (before since c : Console) : Prop where
  user : c.state.user = none
  requests : ∃ sent, c.requests = since.requests ++ sent ∧ ∀ r ∈ sent, r.IsOwn
  stored : (before.storage.remove before.config.sessionKey).1 = .ok () →
    Workflow.restorable? (c.storage.load before.config.sessionKey) = none

theorem perform_user {e : Effect} (he : e.isMild) :
    (c.perform gate e).2.state.user = c.state.user := by
  obtain hs | ⟨a, rfl | rfl, hs⟩ | ⟨route, generation, hs⟩ := perform_state c gate e
  · rw [hs]
  · rw [hs, Action.apply_user (Action.ne_setUser_of_plain he)]
  · rw [hs, Action.apply_user (Action.ne_setUser_of_plain he)]
  · rw [hs]

theorem perform_storage (gate : Gate) {e : Effect} (he : e.isMild) :
    (c.perform gate e).2.storage = c.storage ∨
      (c.perform gate e).2.storage = (c.storage.remove c.config.sessionKey).2 := by
  cases e with
  | keep text => cases he
  | forget => exact .inr rfl
  | _ => exact .inl rfl

theorem LoggedOut.perform {e : Effect} (he : e.isMild) (hc : c.config = before.config)
    (h : LoggedOut before since c) : LoggedOut before since (c.perform gate e).2 where
  user := by
    rw [perform_user he]
    exact h.user
  requests := by
    rw [perform_requests]
    exact h.requests
  stored hr := by
    obtain hs | hs := perform_storage gate he
    · rw [hs]
      exact h.stored hr
    · rw [hs, hc]
      exact Storage.restorable_remove (h.stored hr)

theorem LoggedOut.again (h : LoggedOut before since c) :
    LoggedOut before since (c.perform gate (.force (.setUser none))).2 :=
  ⟨rfl, h.requests, h.stored⟩

/-- A record, of a call that begins or ends, has no part in it. -/
theorem LoggedOut.record {a : Action} (ha : a.isRecord) (h : LoggedOut before since c) :
    LoggedOut before since (c.record a) :=
  ⟨(Action.apply_user (Action.ne_setUser_of_record ha) c.state).trans h.user, h.requests, h.stored⟩

theorem LoggedOut.show {a : Action} (ha : a.isListing) (h : LoggedOut before since c) :
    LoggedOut before since (c.perform gate (.write a)).2 := by
  rw [perform_write]
  split
  · exact ⟨(Action.apply_user (Action.ne_setUser_of_listing ha) c.state).trans h.user, h.requests,
      h.stored⟩
  · exact h

/-- Without a session a call that is sent is sent in its own name. -/
theorem LoggedOut.call_ok {id : Option Nat} (h : LoggedOut before since c)
    (hc : c.call api payload = (ticket, .ok id, c')) : LoggedOut before since c' := by
  obtain ⟨sender, hs, _, _, rfl⟩ := call_eq_ok hc
  have hown : api.identity ≠ .session ∧ sender = api.payloadCredentials payload := by
    have hu := h.user
    cases api <;> simp_all [identify, Api.identity, Api.payloadCredentials]
  obtain ⟨sent, hr, hown'⟩ := h.requests
  have hnew : ((c.beginCall api).2.send (api.message payload) sender).2.requests =
      c.requests ++ [(c.client.request (api.message payload) sender false).2.1] := rfl
  refine ⟨h.user, ⟨_, by rw [hnew, hr, List.append_assoc], fun r hm => ?_⟩, h.stored⟩
  rcases List.mem_append.mp hm with hm | hm
  · exact hown' r hm
  · rw [List.mem_singleton.mp hm, hown.2]
    exact ⟨c.client, api, payload, hown.1, rfl⟩

theorem LoggedOut.beginCall (h : LoggedOut before since c) (api : Api) :
    LoggedOut before since (c.beginCall api).2 := by
  have ht : LoggedOut before since { c with tickets := c.tickets + 1 } :=
    ⟨h.user, h.requests, h.stored⟩
  exact ht.record rfl

theorem LoggedOut.endCall (h : LoggedOut before since c) (api : Api) (ticket : Nat)
    (outcome : Except CallError (api.Answer × Json)) :
    LoggedOut before since (c.endCall api ticket outcome).2 := h.record completion_isRecord

/-- What work keeps after a logout, as long as it confirms no credentials. -/
def Quiet (before since : Console) : Phase → Console → Prop
  | .free, c | .owing _, c | .leaving, c => c.config = before.config ∧ LoggedOut before since c
  | .admitted, _ | .entered, _ => False

theorem quiet_afterCall {s : Phase} {r : LoadResult api.Answer} (ha : api.admits r = false)
    (h : LoggedOut before since c) (hc : c.config = before.config) :
    Quiet before since (conduct.afterCall s api r) c := by
  rw [conduct_afterCall, ha]
  cases api.shown? r <;> exact ⟨hc, h⟩

theorem keeps_quiet : conduct.Keeps gate (Quiet before since) where
  act {s e c} he h := by
    have hframe : (c.perform gate e).2.config = c.config := congrArg (·.1) (perform_frame e)
    cases s with
    | free =>
      have hl : LoggedOut before since (c.perform gate e).2 := by
        obtain he | rfl := he
        · exact h.2.perform he h.1
        · exact h.2.again
      change Quiet before since (if e = .force (.setUser none) then .leaving else .free) _
      split <;> exact ⟨hframe.trans h.1, hl⟩
    | admitted => cases h
    | entered => cases h
    | leaving =>
      obtain ⟨path, rfl⟩ := he
      exact ⟨hframe.trans h.1, h.2.perform rfl h.1⟩
    | owing a =>
      have hl : LoggedOut before since (c.perform gate e).2 := by
        obtain he | ⟨rfl, ha⟩ := he
        · exact h.2.perform he h.1
        · exact h.2.show ha
      change Quiet before since (if e = .write a then .free else .owing a) _
      split <;> exact ⟨hframe.trans h.1, hl⟩
  fail {s api payload c ticket e c'} hm h hc := by
    obtain ⟨_, rfl, rfl⟩ := call_eq_error hc
    have hl : c.config = before.config ∧ LoggedOut before since c := by
      rcases hm with rfl | rfl
      · exact h
      · cases h
    exact quiet_afterCall (api.admits_failed e) ((hl.2.beginCall api).endCall api _ _) hl.1

theorem LoggedOut.settle {id : JobId} {r : Progress Outcome × Console}
    (h : LoggedOut before since r.2) : LoggedOut before since (settle id gate r) := by
  refine ⟨?_, ?_, ?_⟩
  · rw [settle_toStore]
    exact h.user
  · rw [settle_requests]
    exact h.requests
  · rw [settle_storage]
    exact h.stored

theorem loggedOut_advance {α : Type} {w : Workflow α} {s : Phase}
    (hw : conduct.Follows s w fun s _ => s = .free) (h : Quiet before since s c) :
    LoggedOut before since (advance gate w c).2 := by
  have hr : conduct.Rests (Quiet before since) (fun s _ => s = .free) (advance gate w c) :=
    rests_advance keeps_quiet hw h
  generalize advance gate w c = r at hr
  cases hr with
  | finished kept ends =>
    subst ends
    exact kept.2
  | waiting kept allowed called _ =>
    rcases allowed with rfl | rfl
    · exact kept.2.call_ok called
    · cases kept

end Console

/-- Whether the reply confirms the credentials that the call was made with. -/
def Pending.admits {α : Type} (p : Pending α) (reply : Reply) : Bool :=
  p.api.admits (p.api.report (p.api.answerOf p.id reply))

namespace Console
variable {before since c : Console} {e : Event} {events : List Event}

/-- The job whose login succeeds in a step: its credentials are confirmed and become the session. -/
def admittedBy? (c : Console) : Event → Option JobId
  | .answer id reply =>
    match c.jobs.find? (·.id == id) with
    | some job => if job.pending.admits reply then some id else none
    | none => none
  | _ => none

/-- The jobs whose logins succeed in a run, in this order. -/
def admissions (c : Console) : List Event → List JobId
  | [] => []
  | e :: events => (c.admittedBy? e).toList ++ (c.step e).admissions events

theorem admittedBy?_eq_some {id : JobId} (h : c.admittedBy? e = some id) :
    ∃ job ∈ c.jobs, ∃ reply, job.id = id ∧ e = .answer id reply ∧ job.pending.admits reply := by
  cases e with
  | answer other reply =>
    simp only [admittedBy?] at h
    split at h
    · next job hf =>
      split at h
      · next ha =>
        cases h
        exact ⟨job, List.mem_of_find?_eq_some hf, reply, by simpa using List.find?_some hf, rfl, ha⟩
      · cases h
    · cases h
  | run _ | turn _ | elapse _ => cases h

theorem admittedBy?_answer {job : Job} {reply : Reply} (h : c.Numbered) (hj : job ∈ c.jobs) :
    c.admittedBy? (.answer job.id reply) =
      if job.pending.admits reply then some job.id else none := by
  simp only [admittedBy?, h.find?_eq hj]

theorem loggedOut_begin {gate : Gate} {op : Operation} (ho : op.isOrdinary)
    (hf : c.config = before.config) (h : LoggedOut before since c) :
    LoggedOut before since (c.begin gate (op.workflow c.config)) := by
  have hq : Quiet before since .free { c with jobsStarted := c.jobsStarted + 1 } :=
    ⟨hf, h.user, h.requests, h.stored⟩
  exact (loggedOut_advance (Workflow.calm_workflow ho) hq).settle

theorem loggedOut_goOn {job : Job} {reply : Reply} (hj : job ∈ c.jobs) (hc : c.Conducted)
    (ha : job.pending.admits reply = false) (hf : c.config = before.config)
    (h : LoggedOut before since c) : LoggedOut before since (c.goOn job reply) := by
  obtain ⟨s, payload, _, hw⟩ := hc.disciplined job hj trivial
  have hl : LoggedOut before since (c.without job.id) := ⟨h.user, h.requests, h.stored⟩
  exact (loggedOut_advance (hw _) (quiet_afterCall ha (hl.endCall _ _ _) hf)).settle

/-- A step in which no login succeeds leaves everybody logged out. -/
theorem loggedOut_step (hc : c.Conducted) (he : e.isOrdinary) (ha : c.admittedBy? e = none)
    (hf : c.config = before.config) (h : LoggedOut before since c) :
    LoggedOut before since (c.step e) := by
  have hs := stepped c e
  generalize c.step e = d at hs
  cases hs with
  | ran op => exact loggedOut_begin he hf h
  | @passed id hook loop turn =>
    have hl : LoggedOut before since { c with loop } := ⟨h.user, h.requests, h.stored⟩
    exact loggedOut_begin rfl hf hl
  | @answered job hj reply =>
    rw [admittedBy?_answer hc.numbered hj] at ha
    exact loggedOut_goOn hj hc (by simpa using ha) hf h
  | idle => exact ⟨h.user, h.requests, h.stored⟩

theorem loggedOut_runAll (hc : c.Conducted) (he : ∀ e ∈ events, e.isOrdinary)
    (ha : c.admissions events = []) (hf : c.config = before.config)
    (h : LoggedOut before since c) : LoggedOut before since (c.runAll events) := by
  induction events generalizing c with
  | nil => exact h
  | cons e events ih =>
    obtain ⟨hfirst, hrest⟩ := List.append_eq_nil_iff.mp ha
    have hone := he e (.head _)
    refine ih (conducted_step hone hc) (fun e' he' => he e' (.tail _ he')) hrest
      ((step_config c e).trans hf) (loggedOut_step hc hone ?_ hf h)
    simpa using hfirst

/-- What work keeps once credentials have been confirmed, until its next call. -/
def Entering : Phase → Console → Prop
  | .admitted, _ => True
  | .entered, c => c.state.user.isSome
  | .free, _ | .owing _, _ | .leaving, _ => False

theorem keeps_entering {gate : Gate} : conduct.Keeps gate Entering where
  act {s e c} he h := by
    cases s with
    | free => cases h
    | owing a => cases h
    | leaving => cases h
    | admitted =>
      obtain ⟨user, rfl⟩ := he
      rfl
    | entered =>
      obtain ⟨text, rfl⟩ | he := he
      · exact h
      · change (c.perform gate e).2.state.user.isSome
        rw [perform_user he]
        exact h
  fail {s api payload c ticket e c'} hm h hc := by
    -- A session that has just begun gives each call its identity.
    rcases hm with rfl | rfl
    · cases h
    · have hu := (identify_eq_error (call_eq_error hc).1).2.1
      simp [Entering, hu] at h

theorem isSome_of_entering {α : Type} {gate : Gate} {w : Workflow α} {s : Phase}
    (hw : conduct.Follows s w fun s _ => s = .free) (h : Entering s c) :
    (advance gate w c).2.state.user.isSome := by
  have hr : conduct.Rests Entering (fun s _ => s = .free) (advance gate w c) :=
    rests_advance keeps_entering hw h
  generalize advance gate w c = r at hr
  cases hr with
  | finished kept ends =>
    subst ends
    cases kept
  | waiting kept allowed called _ =>
    rcases allowed with rfl | rfl
    · cases kept
    · obtain ⟨sender, _, _, _, rfl⟩ := call_eq_ok called
      exact kept

/-- A login that succeeds makes somebody the session's user. -/
theorem user_of_admitted {id : JobId} (hc : c.Conducted) (ha : c.admittedBy? e = some id) :
    (c.step e).state.user.isSome := by
  obtain ⟨job, hj, reply, hid, rfl, hr⟩ := admittedBy?_eq_some ha
  subst hid
  obtain ⟨s, payload, _, hw⟩ := hc.disciplined job hj trivial
  rw [hc.numbered.answer_eq hj, goOn, settle_toStore]
  refine isSome_of_entering (hw _) ?_
  have hadm : job.pending.api.admits
      (job.pending.api.report (job.pending.api.answerOf job.pending.id reply)) := hr
  rw [conduct_afterCall, if_pos hadm]
  trivial

/-- What was asked of a logout: until a login that began after it succeeds, nobody is logged in. -/
def LogoutHolds (before since : Console) (after : List Event) : Prop :=
  ∀ events, events <+: after → (∀ id ∈ since.admissions events, id < since.jobsStarted) →
    LoggedOut before since (since.runAll events)

theorem admissions_append (c : Console) (xs ys : List Event) :
    c.admissions (xs ++ ys) = c.admissions xs ++ (c.runAll xs).admissions ys := by
  induction xs generalizing c with
  | nil => rfl
  | cons e xs ih =>
    simp only [List.cons_append, admissions, ih, List.append_assoc, runAll, List.foldl]

/-- Where the first login of a run succeeds. -/
theorem admissions_head {id : JobId} (h : (c.admissions events).head? = some id) :
    ∃ quiet e rest, events = quiet ++ e :: rest ∧ c.admissions quiet = [] ∧
      (c.runAll quiet).admittedBy? e = some id := by
  induction events generalizing c with
  | nil => cases h
  | cons e events ih =>
    cases ha : c.admittedBy? e with
    | some first =>
      simp only [admissions, ha, Option.toList_some, List.singleton_append, List.head?_cons] at h
      exact ⟨[], e, events, rfl, rfl, ha.trans h⟩
    | none =>
      simp only [admissions, ha, Option.toList_none, List.nil_append] at h
      obtain ⟨quiet, e', rest, rfl, hq, ha'⟩ := ih h
      exact ⟨e :: quiet, e', rest, rfl, by simp [admissions, ha, hq], ha'⟩

theorem run_logout {op : Operation} (hop : op = .logout ∨ op = .hook .logout) :
    LoggedOut c (c.run op) (c.run op) := by
  have huser : (c.run op).state.user = none := by
    have hroute := Store.redirect_state (c.toStore.dispatch (.setUser none)) c.config.logoutPath
    obtain ⟨route, generation, hs⟩ := hroute
    have hrun : (c.run op).state =
        ((c.toStore.dispatch (.setUser none)).redirect c.config.logoutPath).state := by
      rcases hop with rfl | rfl <;> rfl
    rw [hrun, hs]
    rfl
  have hstored : (c.run op).storage = (c.storage.remove c.config.sessionKey).2 := by
    rcases hop with rfl | rfl <;> rfl
  refine ⟨huser, ⟨[], by simp, by simp⟩, fun hr => ?_⟩
  rw [hstored, Storage.load_of_remove hr, Workflow.restorable?]

section
variable {after : List Event}

/-- Where the promise is kept, the first login to succeed began after the logout. -/
theorem LogoutHolds.first_login {id : JobId} (h : LogoutHolds before since after)
    (hc : since.Conducted) (ordinary : ∀ e ∈ after, e.isOrdinary)
    (hid : (since.admissions after).head? = some id) : since.jobsStarted ≤ id := by
  obtain ⟨quiet, e, rest, rfl, hquiet, ha⟩ := admissions_head hid
  have hall : since.admissions (quiet ++ [e]) = [id] := by
    simp [admissions_append, hquiet, admissions, ha]
  have hconducted : (since.runAll quiet).Conducted :=
    conducted_runAll (fun e he => ordinary e (List.mem_append_left _ he)) hc
  refine Nat.le_of_not_lt fun hold => ?_
  have hout : LoggedOut before since (since.runAll (quiet ++ [e])) := by
    refine h (quiet ++ [e]) ⟨rest, by simp⟩ fun id' hid' => ?_
    rw [hall, List.mem_singleton] at hid'
    rwa [hid']
  have huser := user_of_admitted hconducted ha
  rw [runAll_append] at hout
  have hnone : ((since.runAll quiet).step e).state.user = none := hout.user
  rw [hnone] at huser
  cases huser

/-- Where the first login to succeed began after the logout, no older one is confirmed before it. -/
theorem LoggedOut.logoutHolds (h : LoggedOut before since since) (hc : since.Conducted)
    (hf : since.config = before.config) (ordinary : ∀ e ∈ after, e.isOrdinary)
    (hfirst : ∀ id, (since.admissions after).head? = some id → since.jobsStarted ≤ id) :
    LogoutHolds before since after := by
  intro events hpre hold
  obtain ⟨rest, rfl⟩ := hpre
  have hnone : since.admissions events = [] := by
    cases hadm : since.admissions events with
    | nil => rfl
    | cons id ids =>
      have hlt := hold id (by simp [hadm])
      have hle := hfirst id (by simp [admissions_append, hadm])
      exact absurd hlt (Nat.not_lt.mpr hle)
  exact loggedOut_runAll hc (fun e he => ordinary e (List.mem_append_left _ he)) hnone hf h

end

/-- A logout is final just if the first login to succeed after it, if any does, began after it. -/
theorem logout_final_iff (config : Config) (table : Route.Table) (storage : Storage)
    {before after : List Event} {op : Operation}
    (ordinary : ∀ e ∈ before ++ after, e.isOrdinary) (logout : op = .logout ∨ op = .hook .logout) :
    let c := (start config table storage).runAll before
    LogoutHolds c (c.run op) after ↔
      ∀ id, ((c.run op).admissions after).head? = some id → (c.run op).jobsStarted ≤ id := by
  intro c
  have hc : c.Conducted := conducted_runAll
    (fun e he => ordinary e (List.mem_append_left _ he)) conducted_start
  have hafter : ∀ e ∈ after, e.isOrdinary := fun e he => ordinary e (List.mem_append_right _ he)
  have hop : op.isOrdinary := by rcases logout with rfl | rfl <;> rfl
  have hd : (c.run op).Conducted := conducted_step (e := .run op) hop hc
  constructor
  · intro hholds id hid
    exact hholds.first_login hd hafter hid
  · intro hfirst
    exact (run_logout logout).logoutHolds hd begin_config hafter hfirst

/-- A login that begins after a logout and succeeds. -/
def loginAfter : List Event := [.run (.login .empty), .answer 1 .confirmation]

theorem logout_final_iff_loginAfter :
    LogoutHolds (start .default .empty (.memory .empty))
      ((start .default .empty (.memory .empty)).run .logout) loginAfter := by
  have hiff := @logout_final_iff .default .empty (.memory .empty) [] loginAfter .logout (by decide)
    (.inl rfl)
  have hadm : ((start .default .empty (.memory .empty)).run .logout).admissions loginAfter =
      [1] := by decide +kernel
  refine hiff.mpr fun id hid => ?_
  cases (congrArg List.head? hadm).symm.trans hid
  exact Nat.le_refl 1

/-- A login that was under way when the logout ran succeeds all the same. -/
theorem logout_not_final :
    ¬ ∀ (config : Config) (table : Route.Table) (storage : Storage) (before after : List Event),
      (∀ e ∈ before ++ after, e.isOrdinary) →
        LogoutHolds ((start config table storage).runAll before)
          (((start config table storage).runAll before).run .logout) after := by
  intro h
  have hout := h .default .empty (.memory .empty) [.run (.login .empty)] [.answer 0 .confirmation]
    (by decide) _ (List.prefix_refl _) (by decide +kernel)
  have huser : ((((start .default .empty (.memory .empty)).runAll [.run (.login .empty)]).run
      .logout).runAll [.answer 0 .confirmation]).state.user.isSome := by decide +kernel
  rw [hout.user] at huser
  cases huser

end Console

end StorageConsole
