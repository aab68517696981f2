import StorageConsole.Proofs.Checkout
import StorageConsole.Proofs.NamedRepo

/-!
What the user is told of the calls that are answered with yes or no. Of a payment success is told
just if the answer is yes. A volume that is created and a collaborator who is let in count as a
success with either answer.
-/
namespace StorageConsole

open Backend (Api CallError LoadResult Reply Request)

namespace Console
variable {c d e : Console} {api : Api} {payload : api.Payload} {text text' path : String}
  {xs : List Exchange} {outcome : Except CallError (api.Answer × Json)}

theorem Tells.not_announces (h : c.Tells d text') : ¬ c.Announces d text path := by
  rintro ⟨targets, hsignals⟩
  rw [h] at hsignals
  have hrest := List.append_cancel_left hsignals
  simp at hrest

theorem not_announces_of_quiet (h : d.signals = c.signals) : ¬ c.Announces d text path := by
  rintro ⟨targets, hsignals⟩
  rw [h] at hsignals
  simp at hsignals

/-- Somebody is said to be let into a repo, and his name is cleared. -/
def Welcomes (c d : Console) : Prop :=
  (∃ collaborator title, c.Tells d (collaborator ++ " added as a collaborator to " ++ title)) ∧
    c.state.collaboratorName ≠ "" ∧ d.state.collaboratorName = ""

/-- What comes of letting a collaborator in: nothing, and his name stays, or the call is answered,
success is told and the repos are listed anew. -/
inductive Admission (c : Console) : List Exchange → Console → Prop
  | refused {xs : List Exchange} {d : Console} (unanswered : verdicts xs = [])
      (kept : d.state.collaboratorName = c.state.collaboratorName) : Admission c xs d
  | answered {e d : Console} {invitation yes raw} {ys : List Exchange} (rest : verdicts ys = [])
      (welcomed : c.Welcomes d) :
      Admission c (⟨⟨e, .invite, invitation⟩, .ok (yes, raw)⟩ :: ys) d

/-- What comes of a token: it is not charged, or it is and the user is sent to the landing page. -/
inductive Charge (config : Config) (c : Console) : List Exchange → Console → Prop
  | unpaid {xs : List Exchange} {d : Console} (unpaid : (.pay, true) ∉ verdicts xs)
      (told : d.signals = c.signals ∨ ∃ text, c.Tells d text) : Charge config c xs d
  | paid {e d : Console} {payment raw}
      (announced : c.Announces d ("subscribed to plan " ++ payment.planId) config.landingPath) :
      Charge config c [⟨⟨e, .pay, payment⟩, .ok (true, raw)⟩] d

/-- Nothing is heard of a call that fails. -/
theorem Called.verdicts_error {error : CallError} (h : c.Called api payload xs (.error error)) :
    verdicts xs = [] := by
  cases h <;> cases api <;> rfl

theorem Called.verdicts_repoList {listed : Except CallError (Api.repoList.Answer × Json)}
    (h : c.Called .repoList () xs listed) : verdicts xs = [] := by
  cases h <;> rfl

theorem Collection.charge {config : Config} {payment : Payment}
    (h : c.Collection config payment xs d) : Charge config c xs d := by
  cases h with
  | unsent _ posts => exact .unpaid List.not_mem_nil (.inr ⟨_, posts.told⟩)
  | refused _ unpaid posts =>
    exact .unpaid (by simpa [mem_verdicts_pay] using unpaid) (.inr ⟨_, posts.told⟩)
  | accepted _ posts _ left => exact .paid (posts.told.announces left)

/-- A token is charged, or else the user is told something or nothing. -/
theorem Checkout.charge {config : Config} {token : String} (h : c.Checkout config token xs d) :
    Charge config c xs d := by
  cases h with
  | blank _ posts => exact .unpaid List.not_mem_nil (.inr ⟨_, posts.told⟩)
  | invalid => exact .unpaid List.not_mem_nil (.inl rfl)
  | unknown _ _ _ posts => exact .unpaid List.not_mem_nil (.inr ⟨_, posts.told⟩)
  | asked _ collection => exact collection.charge

end Console

namespace Workflow
open Console
variable {c : Console}

theorem ends_invite (repo : Repo) (collaborator : String) (h : c.state.collaboratorName ≠ "") :
    Ends (invite repo collaborator) c fun xs _ d => c.Admission xs d := by
  unfold invite
  rw [ends_bind, ends_set, ends_bind]
  refine ends_call fun xs outcome hcalled => ?_
  obtain ⟨calls, version, hstore⟩ := afterCall_toStore
    (c.onStore (·.dispatch (.setCollaboratorFormLoading true))) .invite ⟨repo.id, collaborator⟩
    outcome
  have hsignals := congrArg Store.signals hstore
  have hname := congrArg (State.collaboratorName ∘ Store.state) hstore
  rw [ends_bind, ends_set]
  rcases outcome with error | ⟨yes, raw⟩
  · simp only [Api.report, LoadResult.failed, LoadResult.toExcept, ends_tell_return,
      List.append_nil]
    exact .refused hcalled.verdicts_error hname
  · simp only [Api.report, LoadResult.answered, LoadResult.toExcept, ends_bind, ends_set, ends_tell,
      ends_pure, List.nil_append, List.append_nil]
    refine (ends_listRepos _).mono fun ys _ d hd => ?_
    obtain ⟨listed, hlisting, hd⟩ := hd
    have htold : c.Tells d (collaborator ++ " added as a collaborator to " ++ repo.title) := by
      refine hd.signals.trans (tells_of_tell ?_)
      exact hsignals
    have hwelcomed : c.Welcomes d := ⟨⟨_, _, htold⟩, h, hd.collaboratorName⟩
    cases hcalled
    exact .answered hlisting.verdicts_repoList hwelcomed

theorem ends_addCollaborator (c : Console) :
    Ends addCollaborator c fun xs _ d => c.Admission xs d := by
  unfold addCollaborator
  rw [ends_bind, ends_state]
  cases hempty : (Text.trim c.state.collaboratorName).isEmpty with
  | true =>
    simp only [hempty, if_true, ends_tell_return]
    exact .refused rfl rfl
  | false =>
    have hname : c.state.collaboratorName ≠ "" := by
      intro h
      rw [h] at hempty
      cases hempty
    simp only [hempty, Bool.false_eq_true, if_false]
    cases RepoLocation.ofState? c.state with
    | none =>
      simp only [ends_tell_return]
      exact .refused rfl rfl
    | some location =>
      cases hrepo : c.state.findRepo? location.space location.name with
      | none =>
        simp only [hrepo, ends_tell_return]
        exact .refused rfl rfl
      | some repo =>
        simp only [hrepo]
        exact ends_invite repo _ hname

theorem ends_receiveToken (config : Config) (token : String) (c : Console) :
    Ends (receiveToken config token) c fun xs _ d => c.Charge config xs d :=
  (ends_checkout config token c).mono fun _ _ _ hd => hd.charge

end Workflow

namespace Console
variable {σ : Type} {c d : Console} {xs : List Exchange} {volume? : Option VolumeName}

theorem not_answered {api : Api} (h : verdicts xs = []) : ¬ ∃ yes, verdicts xs = [(api, yes)] := by
  simp [h]

theorem Submission.announces_iff (h : c.Submission volume? xs d) :
    (∃ volume : VolumeName, c.Announces d ("repo " ++ volume.title ++ " created") "/repos") ↔
      ∃ yes, verdicts xs = [(.repoCreate, yes)] := by
  cases h with
  | idle shown =>
    refine iff_of_false ?_ (not_answered rfl)
    rintro ⟨volume, hannounced⟩
    rcases shown with hquiet | htold
    · exact not_announces_of_quiet hquiet hannounced
    · exact htold.not_announces hannounced
  | created creation =>
    cases creation with
    | known _ told | failed _ told =>
      refine iff_of_false ?_ (not_answered rfl)
      rintro ⟨volume, hannounced⟩
      exact told.not_announces hannounced
    | answered missing announced => exact iff_of_true ⟨_, announced⟩ ⟨_, rfl⟩

theorem Admission.welcomes_iff (h : c.Admission xs d) :
    c.Welcomes d ↔ ∃ yes, verdicts xs = [(.invite, yes)] := by
  cases h with
  | refused unanswered kept =>
    refine iff_of_false ?_ (not_answered unanswered)
    rintro ⟨_, hnamed, hcleared⟩
    exact hnamed (kept.symm.trans hcleared)
  | @answered _ _ _ yes _ _ rest welcomed =>
    refine iff_of_true welcomed ⟨yes, ?_⟩
    exact congrArg ((.invite, yes) :: ·) rest

theorem Charge.announces_iff {config : Config} (h : c.Charge config xs d) :
    (∃ planId, c.Announces d ("subscribed to plan " ++ planId) config.landingPath) ↔
      verdicts xs = [(.pay, true)] := by
  cases h with
  | unpaid hunpaid told =>
    refine iff_of_false ?_ fun h => hunpaid (by simp [h])
    rintro ⟨planId, hannounced⟩
    rcases told with hquiet | ⟨text, htold⟩
    · exact not_announces_of_quiet hquiet hannounced
    · exact htold.not_announces hannounced
  | paid announced => exact iff_of_true ⟨_, announced⟩ rfl

/-- Whatever the state and whatever the backend answers, success is told of a payment just if the
backend has said yes; of the creation of a volume, and of a collaborator who is let in, it is told
just if the backend has said yes or no. -/
theorem success_told_iff_answered (config : Config) (c : Console)
    (backend : Request → StateM σ Reply) (s : σ) :
    let created := attempt config backend .repoFormSubmit c s
    let joined := attempt config backend .collaboratorAdd c s
    ((∃ volume : VolumeName,
        c.Announces created.2 ("repo " ++ volume.title ++ " created") "/repos") ↔
      ∃ yes, verdicts created.1 = [(.repoCreate, yes)]) ∧
    (c.Welcomes joined.2 ↔ ∃ yes, verdicts joined.1 = [(.invite, yes)]) ∧
    ∀ token,
      let paid := attempt config backend (.tokenReceived token) c s
      (∃ planId, c.Announces paid.2 ("subscribed to plan " ++ planId) config.landingPath) ↔
        verdicts paid.1 = [(.pay, true)] := by
  intro created joined
  have hcreated : c.Submission c.state.requestedVolume? created.1 created.2 :=
    submission_attempt config backend c s
  have hjoined : c.Admission joined.1 joined.2 :=
    attempt_keeps config .collaboratorAdd ((Workflow.ends_addCollaborator c).returning ()) backend s
  refine ⟨hcreated.announces_iff, hjoined.welcomes_iff, ?_⟩
  intro token paid
  have hpaid : c.Charge config paid.1 paid.2 :=
    attempt_keeps config (.tokenReceived token)
      ((Workflow.ends_receiveToken config token c).returning ()) backend s
  exact hpaid.announces_iff

/-- The list is empty, and the volume is not created. -/
def notCreated : List Reply :=
  [CommandLine.replyTo 0 "\x7b\"Volumes\":[],\"Servers\":[]\x7d", CommandLine.replyTo 1 "false"]

/-- When the backend has said no to the creation of a volume, the user is told of a success. -/
theorem success_told_of_no :
    ¬ ∀ (config : Config) (c : Console) (backend : Request → StateM (List Reply) Reply)
        (replies : List Reply),
      let created := attempt config backend .repoFormSubmit c replies
      let joined := attempt config backend .collaboratorAdd c replies
      ((∃ volume : VolumeName,
          c.Announces created.2 ("repo " ++ volume.title ++ " created") "/repos") →
        (.repoCreate, true) ∈ verdicts created.1) ∧
      (c.Welcomes joined.2 → (.invite, true) ∈ verdicts joined.1) ∧
      ∀ token,
        let paid := attempt config backend (.tokenReceived token) c replies
        (∃ planId, c.Announces paid.2 ("subscribed to plan " ++ planId) config.landingPath) →
          (.pay, true) ∈ verdicts paid.1 := by
  intro h
  have hverdicts : verdicts (attempt .default CommandLine.scripted .repoFormSubmit filledIn
      notCreated).1 = [(.repoCreate, false)] := by decide +kernel
  have hsubmission := submission_attempt .default CommandLine.scripted filledIn notCreated
  have hyes := (h .default filledIn CommandLine.scripted notCreated).1
    (hsubmission.announces_iff.mpr ⟨false, hverdicts⟩)
  rw [hverdicts] at hyes
  simp at hyes

end Console

end StorageConsole
