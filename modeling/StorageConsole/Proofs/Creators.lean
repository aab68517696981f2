import Mathlib.Data.List.Induction
import StorageConsole.Proofs.Footprint
import StorageConsole.Proofs.NamedRepo
import StorageConsole.Proofs.RequestSession
import StorageConsole.Proofs.Submission

/-!
In whose namespace volumes are created. The namespace is that of the user of the moment in which the
repo form is submitted, and the request is sent in the name of the user of a later moment, when the
list has come. In between the session may change.
-/
namespace StorageConsole

open Backend (Api CallError LoadResult Reply authorization?)

/-- Creates this volume at most. -/
def creating (volume? : Option VolumeName) : (api : Api) → api.Payload → Prop
  | .repoCreate, volume => volume? = some volume
  | _, _ => True

/-- Any other call is allowed. -/
theorem creating_of_ne (volume? : Option VolumeName) {api : Api} (payload : api.Payload)
    (h : api ≠ .repoCreate) : creating volume? api payload := by
  cases api with
  | repoCreate => exact absurd rfl h
  | _ => trivial

/-- The repo form is submitted. -/
def submission : Move := .event (.run (.hook .repoFormSubmit))

/-- The volume that a move creates which makes that call by itself. -/
def Move.creates? : Move → Option VolumeName
  | load _ .repoCreate volume | event (.run (.load .repoCreate volume)) => some volume
  | _ => none

namespace Sending
variable {x : Sending} {volume : VolumeName}

/-- The volume that a call creates. -/
def created? : Sending → Option VolumeName
  | ⟨_, .repoCreate, volume⟩ => some volume
  | _ => none

theorem exists_of_created? (h : x.created? = some volume) : ∃ d, x = ⟨d, .repoCreate, volume⟩ := by
  obtain ⟨d, api, payload⟩ := x
  cases api with
  | repoCreate =>
    cases h
    exact ⟨d, rfl⟩
  | _ => cases h

/-- A volume is created in the namespace of the user in whose name the request is sent. -/
def InOwnSpace (x : Sending) : Prop :=
  ∀ volume ∈ x.created?, ∃ user ∈ x.console.state.user,
    volume.space = user.name ∧ x.request.authorization = authorization? (some user)

instance (x : Sending) : Decidable x.InOwnSpace :=
  inferInstanceAs (Decidable (∀ volume ∈ x.created?, ∃ user ∈ x.console.state.user,
    volume.space = user.name ∧ x.request.authorization = authorization? (some user)))

end Sending

namespace Workflow
variable {α : Type} {s : State} {w w' : Workflow α}

/-- The workflow begins with looks at the state, and then goes on like this. -/
inductive Looks (s : State) : Workflow α → Workflow α → Prop
  | now (w : Workflow α) : Looks s w w
  | first {next : State → Workflow α} {w : Workflow α} (rest : Looks s (next s) w) :
      Looks s (.act .look next) w

/-- What is left of a submission of the repo form when it has looked at the state. -/
def requestAt (s : State) : Workflow Bool :=
  match s.requestedVolume? with
  | some volume => createRepo volume
  | none =>
    if (s.form .repo).valid then do
      tell "log in to create a repo"
      return false
    else do
      set (.touchForm .repo)
      return false

def submissionAt (s : State) : Workflow Outcome :=
  (requestAt s >>= fun _ => pure ()) >>= fun _ => pure .nothing

theorem looks_submission (config : Config) (s : State) :
    Looks s ((Operation.hook .repoFormSubmit).workflow config) (submissionAt s) := by
  refine .first ?_
  unfold submissionAt requestAt State.requestedVolume?
  cases hvalid : (s.form .repo).valid with
  | false =>
    simp only [Workflow.bind, hvalid, Bool.false_eq_true, if_false]
    exact .now _
  | true =>
    simp only [Workflow.bind, hvalid, if_true]
    refine .first ?_
    cases huser : s.userName? with
    | none =>
      simp only [Workflow.bind, huser]
      exact .now _
    | some user =>
      simp only [Workflow.bind, huser, Option.map_some]
      exact .now _

theorem calls_submissionAt (s : State) :
    Calls (creating s.requestedVolume?) (submissionAt s) := by
  have hcalls := compositional_calls (creating s.requestedVolume?)
  refine hcalls.bind (hcalls.bind ?_ fun _ => hcalls.pure ()) fun _ => hcalls.pure _
  unfold requestAt
  split
  · next volume hvolume =>
    rw [hvolume]
    exact calls_createRepo trivial rfl
  · split
    · exact hcalls.tell_return
    · exact hcalls.bind (calls_perform _) fun _ => hcalls.pure false

end Workflow

namespace Console
variable {α : Type} {c c₀ : Console} {gate : Gate} {w w' : Workflow α} {m : Move}
  {moves : List Move} {work : Work} {job : Job} {id : JobId} {volume : VolumeName}
  {P : (api : Api) → api.Payload → Prop}

theorem advance_of_looks (h : Workflow.Looks c.state w w') :
    advance gate w c = advance gate w' c := by
  induction h with
  | now w => rfl
  | first _ ih => exact ih

theorem sending?_of_looks (h : Workflow.Looks c.state w w') :
    sending? gate w c = sending? gate w' c := by
  induction h with
  | now w => rfl
  | first _ ih => exact ih

/-- A submission that asks for a volume is that of a user, in his namespace. -/
theorem exists_user_of_requested {s : State} (h : s.requestedVolume? = some volume) :
    ∃ user, s.user = some user ∧ volume.space = user.name := by
  unfold State.requestedVolume? State.userName? at h
  split at h
  · obtain ⟨name, hname, rfl⟩ := Option.map_eq_some_iff.mp h
    obtain ⟨user, huser, rfl⟩ := Option.map_eq_some_iff.mp hname
    exact ⟨user, huser, rfl⟩
  · cases h

/-- What a submission sends at once is no request to create a volume: it asks for the list first. -/
theorem sending?_submission (config : Config) {d : Console} :
    sending? none ((Operation.hook .repoFormSubmit).workflow config) c ≠
      some ⟨d, .repoCreate, volume⟩ := by
  rw [sending?_of_looks (Workflow.looks_submission config c.state)]
  intro h
  cases hvolume : c.state.requestedVolume? with
  | none =>
    have hcalls := Workflow.calls_submissionAt c.state
    rw [hvolume] at hcalls
    cases allowed_of_sending? hcalls h
  | some asked =>
    -- Who asks for a volume is a user, so the call of the list goes out and is what is waited for.
    unfold Workflow.submissionAt Workflow.requestAt at h
    simp only [hvolume] at h
    obtain ⟨user, huser, _⟩ := exists_user_of_requested hvolume
    have hsession : (c.onStore (·.dispatch (.setRepoFormLoading true))).identify .repoList () =
        .ok (some user) := identify_of_user huser rfl
    obtain ⟨e, he, _⟩ | ⟨sender, _, hc⟩ :=
      call_cases (c.onStore (·.dispatch (.setRepoFormLoading true))) .repoList ()
    · cases hsession.symm.trans he
    · cases (sending?_await_ok hc).symm.trans h

/-- How a move sets a job to work, as far as the creation of volumes goes. -/
inductive Sets (c : Console) : Move → Work → Prop
  | elsewhere {m : Move} {gate : Gate} {w : Workflow Outcome} (loop : ControlLoop)
      (calls : w.Calls (creating none)) : Sets c m ({ c with loop }.begun gate w)
  | loads {m : Move} {gate : Gate} {volume : VolumeName} (creates : m.creates? = some volume) :
      Sets c m (c.begun gate ((Operation.load .repoCreate volume).workflow c.config))
  | submits : Sets c submission
      (c.begun none ((Operation.hook .repoFormSubmit).workflow c.config))
  | goesOn {job : Job} (mem : job ∈ c.jobs) (reply : Reply) :
      Sets c (.event (.answer job.id reply)) (c.continued job reply)

theorem sets_of_work? (h : c.work? m = some work) : c.Sets m work := by
  have hcalls : ∀ op : Operation, op.mayCreate = false →
      (op.workflow c.config).Calls (creating none) := fun _ =>
    Workflow.calls_workflow (fun _ => creating_of_ne none) c.config
  cases m with
  | load gate api payload =>
    cases h
    cases api with
    | repoCreate => exact .loads rfl
    | _ => exact .elsewhere c.loop (hcalls _ rfl)
  | event e =>
    cases e with
    | elapse milliseconds => cases h
    | turn id =>
      obtain ⟨hook, _, rfl⟩ := Option.map_eq_some_iff.mp h
      exact .elsewhere _ (hcalls _ rfl)
    | answer id reply =>
      obtain ⟨job, hjob, rfl⟩ := Option.map_eq_some_iff.mp h
      obtain rfl : job.id = id := by simpa using List.find?_some hjob
      exact .goesOn (List.mem_of_find?_eq_some hjob) reply
    | run op =>
      cases h
      cases hop : op.mayCreate with
      | false => exact .elsewhere c.loop (hcalls _ hop)
      | true =>
        unfold Operation.mayCreate at hop
        split at hop
        · exact .submits
        · exact .loads rfl
        · cases hop

/-- The job has begun with a submission of the repo form that asked for the volume. -/
def BegunFor (c₀ : Console) (moves : List Move) (id : JobId) (volume : VolumeName) : Prop :=
  ∃ before after, moves = before ++ submission :: after ∧ (c₀.makeAll before).jobsStarted = id ∧
    (c₀.makeAll before).state.requestedVolume? = some volume

theorem BegunFor.concat (h : c₀.BegunFor moves id volume) (m : Move) :
    c₀.BegunFor (moves ++ [m]) id volume := by
  obtain ⟨before, after, rfl, hid, hvolume⟩ := h
  refine ⟨before, after ++ [m], ?_, hid, hvolume⟩
  rw [List.append_assoc, List.cons_append]

/-- What a job that waits may still create is what it has begun for. -/
def Accounted (c₀ : Console) (moves : List Move) : Prop :=
  ∀ job ∈ (c₀.makeAll moves).jobs, ∃ volume?,
    (∀ volume ∈ volume?, c₀.BegunFor moves job.id volume) ∧
      ∀ r, (job.pending.next r).Calls (creating volume?)

/-- A submission does from the start what it does in the state that it finds. -/
theorem run_submission (c : Console) :
    (c.begun none ((Operation.hook .repoFormSubmit).workflow c.config)).run =
      (c.begun none (Workflow.submissionAt c.state)).run :=
  congrArg (settle c.jobsStarted none)
    (advance_of_looks (Workflow.looks_submission c.config c.state))

theorem calls_of_mem_load (h : job ∈ (c.begun gate
      ((Operation.load .repoCreate volume).workflow c.config)).run.jobs) :
    job ∈ c.jobs ∨ ∀ r, (job.pending.next r).Calls P := by
  obtain h | ⟨p, hp, rfl⟩ := mem_settle_jobs.mp h
  · rw [advance_jobs] at h
    exact .inl h
  · refine .inr ?_
    rcases hc : Console.call { c with jobsStarted := c.jobsStarted + 1 } .repoCreate volume with
      ⟨ticket, sent, d⟩
    cases sent with
    | error e =>
      have hdone := (congrArg Prod.fst (advance_await_error hc)).symm.trans hp
      cases hdone
    | ok id =>
      have hrests := (congrArg Prod.fst (advance_await_ok hc)).symm.trans hp
      cases hrests
      exact fun r => trivial

theorem accounted_concat (h : c₀.Accounted moves) (m : Move) : c₀.Accounted (moves ++ [m]) := by
  have hwaiting : ∀ job ∈ (c₀.makeAll moves).jobs, ∃ volume?,
      (∀ volume ∈ volume?, c₀.BegunFor (moves ++ [m]) job.id volume) ∧
        ∀ r, (job.pending.next r).Calls (creating volume?) := by
    intro job hj
    obtain ⟨volume?, hbegun, hcalls⟩ := h job hj
    exact ⟨volume?, fun volume hvolume => (hbegun volume hvolume).concat m, hcalls⟩
  intro job hj
  rw [makeAll_concat] at hj
  cases hw : (c₀.makeAll moves).work? m with
  | none =>
    rw [jobs_of_no_work hw] at hj
    exact hwaiting job hj
  | some work =>
    rw [make_of_work? hw] at hj
    cases sets_of_work? hw with
    | elsewhere loop calls =>
      obtain hj | ⟨_, hnext⟩ := calls_of_mem_run calls hj
      · exact hwaiting job hj
      · exact ⟨none, nofun, hnext⟩
    | loads creates =>
      -- Such a job creates the volume by its first call, and nothing after it.
      obtain hj | hnext := calls_of_mem_load hj
      · exact hwaiting job hj
      · exact ⟨none, nofun, hnext⟩
    | submits =>
      -- The submission is the move at hand, and what it asks for is what the state says.
      rw [run_submission] at hj
      obtain hj | ⟨hid, hnext⟩ := calls_of_mem_run (Workflow.calls_submissionAt _) hj
      · exact hwaiting job hj
      · exact ⟨_, fun volume hvolume => ⟨moves, [], rfl, hid.symm, hvolume⟩, hnext⟩
    | goesOn mem reply =>
      obtain ⟨volume?, hbegun, hcalls⟩ := hwaiting _ mem
      obtain hj | ⟨hid, hnext⟩ := calls_of_mem_run (hcalls _) hj
      · exact hwaiting job (List.mem_of_mem_filter hj)
      · rw [hid]
        exact ⟨volume?, hbegun, hnext⟩

theorem accounted (h : c₀.jobs = []) (moves : List Move) : c₀.Accounted moves := by
  induction moves using List.reverseRecOn with
  | nil =>
    intro job hj
    change job ∈ c₀.jobs at hj
    rw [h] at hj
    cases hj
  | append_singleton moves m ih => exact accounted_concat ih m

/-- What creates a volume: its call by itself, or the answer to the list of a submission of the repo
form that asked for the volume. -/
theorem creator_of_sent? {d : Console} (h : c₀.Accounted moves)
    (hsent : (c₀.makeAll moves).sent? m = some ⟨d, .repoCreate, volume⟩) :
    m.creates? = some volume ∨
      ∃ id reply, m = .event (.answer id reply) ∧ c₀.BegunFor moves id volume := by
  obtain ⟨work, hw, hsent⟩ := Option.bind_eq_some_iff.mp hsent
  cases sets_of_work? hw with
  | elsewhere loop calls => cases allowed_of_sending? calls hsent
  | @loads _ _ asked creates =>
    have hcalls := Workflow.compositional_calls (creating (some asked))
    have hload : ((Operation.load .repoCreate asked).workflow (c₀.makeAll moves).config).Calls
        (creating (some asked)) :=
      hcalls.bind (Workflow.calls_call rfl) fun _ => hcalls.pure _
    have hasked : creating (some asked) .repoCreate volume := allowed_of_sending? hload hsent
    cases hasked
    exact .inl creates
  | submits => exact absurd hsent (sending?_submission _)
  | @goesOn job mem reply =>
    obtain ⟨volume?, hbegun, hcalls⟩ := h job mem
    exact .inr ⟨job.id, reply, rfl, hbegun volume (allowed_of_sending? (hcalls _) hsent)⟩

/-- A volume that was asked for in one console, by a submission of the repo form, is created when
the list of that submission is answered. -/
structure Fulfils (c : Console) (m : Move) (x : Sending) (volume : VolumeName)
    (submitter sender : Credentials) : Prop where
  requested : c.state.requestedVolume? = some volume
  submittedBy : c.state.user = some submitter
  answered : ∃ reply, m = .event (.answer c.jobsStarted reply)
  sentBy : x.console.state.user = some sender
  authorization : x.request.authorization = authorization? (some sender)
  space : volume.space = submitter.name
  own : x.InOwnSpace ↔ submitter.name = sender.name

/-- However submissions of the repo form, logins, logouts and anything else interleave: a volume is
created for a submission whose list has just been answered, unless a move makes the call by itself.
The namespace is the name of the user who was there when the form was submitted, the credentials are
those of the user who is there when the request goes out, and so it is the sender's own namespace
just if these have the same name. -/
theorem creations_carry_submitter (config : Config) (table : Route.Table) (storage : Storage)
    {earlier : List Move} {m : Move} {x : Sending} {volume : VolumeName}
    (sent : ((start config table storage).makeAll earlier).sent? m = some x)
    (created : x.created? = some volume) :
    m.creates? = some volume ∨ ∃ before after submitter sender,
      earlier = before ++ submission :: after ∧
        ((start config table storage).makeAll before).Fulfils m x volume submitter sender := by
  obtain ⟨d, rfl⟩ := Sending.exists_of_created? created
  obtain hcreates | ⟨_, reply, rfl, before, after, rfl, rfl, hvolume⟩ :=
    creator_of_sent? (accounted rfl earlier) sent
  · exact .inl hcreates
  · obtain ⟨submitter, hsubmitter, hspace⟩ := exists_user_of_requested hvolume
    obtain ⟨p, e, hstarts⟩ := starts_of_sent? sent
    obtain ⟨sender, hsender, hauthorization⟩ := isIdentified_of_starts hstarts
    refine .inr ⟨before, after, submitter, sender, rfl, hvolume, hsubmitter, ⟨reply, rfl⟩, hsender,
      hauthorization, hspace, ?_⟩
    rw [← hspace]
    constructor
    · intro hown
      obtain ⟨user, huser, hspace, _⟩ := hown volume rfl
      cases hsender.symm.trans huser
      exact hspace
    · rintro hspace _ ⟨⟩
      exact ⟨sender, hsender, hspace, hauthorization⟩

/-- A user logs in, fills in the repo form and submits it. -/
def submitted : List Move :=
  [.event (.run (.login (.typed "ann" "secret"))), .event (.answer 0 .confirmation),
    .event (.run (.updateForm .repo (Named.ofList [("Name", .str "apples")]))), submission]

/-- The list has come for which the submission waits. -/
def listArrives : Move :=
  .event (.answer 2 (CommandLine.replyTo 2 "\x7b\"Volumes\":[],\"Servers\":[]\x7d"))

theorem creations_carry_submitter_listArrives :
    ∃ x, ((start .default .empty (.memory .empty)).makeAll submitted).sent? listArrives = some x ∧
      x.created? = some ⟨"ann", "apples"⟩ ∧ ∃ before after submitter sender,
        submitted = before ++ submission :: after ∧
          ((start .default .empty (.memory .empty)).makeAll before).Fulfils listArrives x
            ⟨"ann", "apples"⟩ submitter sender := by
  have hsent : (((start .default .empty (.memory .empty)).makeAll submitted).sent?
      listArrives).bind Sending.created? = some ⟨"ann", "apples"⟩ := by decide +kernel
  obtain ⟨x, hx, hcreated⟩ := Option.bind_eq_some_iff.mp hsent
  have hcarried := creations_carry_submitter .default .empty (.memory .empty) hx hcreated
  exact ⟨x, hx, hcreated, hcarried.resolve_left (by decide)⟩

/-- Meanwhile another user takes over the session. -/
def handover : List Move :=
  [.event (.run .logout), .event (.run (.login (.typed "bob" "geheim"))),
    .event (.answer 4 (CommandLine.replyTo 3 "\x7b\"Id\":\"v\"\x7d"))]

/-- A volume that one user has asked for is created in his namespace by another one. -/
theorem creation_in_foreign_space :
    ¬ ∀ (config : Config) (table : Route.Table) (storage : Storage) (moves : List Move),
      (∀ m ∈ moves, m.creates? = none) →
        ∀ x ∈ (start config table storage).sentAll moves, x.InOwnSpace := by
  intro h
  have hown := h .default .empty (.memory .empty) (submitted ++ handover ++ [listArrives])
    (by decide)
  revert hown
  decide +kernel

end Console

end StorageConsole
