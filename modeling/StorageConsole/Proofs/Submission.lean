import StorageConsole.Proofs.Exchanges

/-!
The repo form. A submission reloads the list of the volumes and creates the volume that the form
names unless the list has it. A list that could not be loaded has none, so that the volume is then
created unchecked.
-/
namespace StorageConsole

open Backend (Api CallError LoadResult Reply Request)

/-- The volume that a submission of the repo form is to create: a valid form names it, in the
namespace of the user. -/
def State.requestedVolume? (s : State) : Option VolumeName :=
  if (s.form .repo).valid then
    s.userName?.map fun user => ⟨user, Text.trim ((s.form .repo).values.textOnly "Name")⟩
  else none

/-- The repos that are shown when a load of the list has ended. -/
def reposOf : Except CallError (Api.repoList.Answer × Json) → List Repo
  | .ok (inventory, _) => Listing.sortByLabel Repo.name inventory.repos
  | .error _ => []

/-- Whether the list that was loaded has a volume. -/
def lists (volume : VolumeName) : Except CallError (Api.repoList.Answer × Json) → Bool
  | .ok (inventory, _) => inventory.repos.any (·.isNamed volume.space volume.name)
  | .error _ => false

/-- The repos that are shown have a volume just if the list has it. -/
theorem find?_reposOf (volume : VolumeName)
    (listed : Except CallError (Api.repoList.Answer × Json)) :
    ((reposOf listed).find? (·.isNamed volume.space volume.name)).isSome = lists volume listed := by
  rcases listed with error | ⟨inventory, raw⟩
  · rfl
  · rw [Bool.eq_iff_iff, List.find?_isSome, lists, List.any_eq_true]
    simp only [reposOf, Listing.sortByLabel, List.mem_mergeSort]

namespace Console
variable {σ : Type} {backend : Request → StateM σ Reply} {c c' d : Console} {s : σ}
  {text path : String} {volume : VolumeName} {requested : Option VolumeName} {xs : List Exchange}

/-- The user is told a text, and nothing else is signalled. -/
def Tells (c d : Console) (text : String) : Prop :=
  d.signals = c.signals ++ [.message text]

/-- The user is told a text and is then sent to a path. -/
def Announces (c d : Console) (text path : String) : Prop :=
  ∃ targets : List String,
    d.signals = c.signals ++ .message text :: (path :: targets).map .redirected

theorem tells_of_tell (h : c'.signals = c.signals) : c.Tells
    (c'.onStore fun s => (s.dispatch (.setMessage (some text))).emit (.message text)) text := by
  unfold Tells
  rw [← h]
  rfl

theorem announces_of_goTo (h : c.Tells c' text) :
    c.Announces (c'.onStore (·.redirect path)) text path := by
  obtain ⟨targets, hsignals⟩ := Store.redirect_signals c'.toStore path
  refine ⟨targets, hsignals.trans ?_⟩
  rw [h, List.append_assoc, List.singleton_append]

/-- The list has been loaded anew: this is all that the user sees of it. -/
structure Relisted (c : Console) (listed : Except CallError (Api.repoList.Answer × Json))
    (d : Console) : Prop where
  repos : d.state.repos = reposOf listed
  user : d.state.user = c.state.user
  collaboratorName : d.state.collaboratorName = c.state.collaboratorName
  signals : d.signals = c.signals

/-- What comes of the creation of a volume: it is listed already, its creation fails, or it is
answered and success is announced. -/
inductive Creation (c : Console) (volume : VolumeName) : List Exchange → Console → Prop
  | known {e d listed} (found : lists volume listed = true)
      (told : c.Tells d ("repo with name: " ++ volume.title ++ " already exists")) :
      Creation c volume [⟨⟨e, .repoList, ()⟩, listed⟩] d
  | failed {e f d listed error} (missing : lists volume listed = false)
      (told : c.Tells d (Api.repoCreate.display error)) :
      Creation c volume
        [⟨⟨e, .repoList, ()⟩, listed⟩, ⟨⟨f, .repoCreate, volume⟩, .error error⟩] d
  | answered {e f d listed answer} (missing : lists volume listed = false)
      (announced : c.Announces d ("repo " ++ volume.title ++ " created") "/repos") :
      Creation c volume
        [⟨⟨e, .repoList, ()⟩, listed⟩, ⟨⟨f, .repoCreate, volume⟩, .ok answer⟩] d

/-- What comes of a submission of the repo form, which may find nothing to create. -/
inductive Submission (c : Console) : Option VolumeName → List Exchange → Console → Prop
  | idle {d : Console} (shown : d.signals = c.signals ∨ c.Tells d "log in to create a repo") :
      Submission c none [] d
  | created {volume : VolumeName} {xs : List Exchange} {d : Console}
      (creation : Creation c volume xs d) : Submission c (some volume) xs d

end Console

namespace Workflow
open Console
variable {c : Console}

theorem ends_listRepos (c : Console) :
    Ends listRepos c fun xs _ d =>
      ∃ listed, c.Called .repoList () xs listed ∧ c.Relisted listed d := by
  unfold listRepos
  rw [ends_bind]
  refine ends_call fun xs listed hcalled => ?_
  obtain ⟨calls, version, hstore⟩ := afterCall_toStore c .repoList () listed
  have huser : (c.afterCall .repoList () listed).state.user = c.state.user := by rw [hstore]
  have hname : (c.afterCall .repoList () listed).state.collaboratorName =
      c.state.collaboratorName := by rw [hstore]
  have hsignals : (c.afterCall .repoList () listed).signals = c.signals := by rw [hstore]
  rcases listed with error | ⟨inventory, raw⟩
  · rw [← List.append_nil xs] at hcalled
    exact ends_set.mpr ⟨_, hcalled, rfl, huser, hname, hsignals⟩
  · rw [← List.append_nil xs] at hcalled
    exact ends_bind.mpr (ends_set.mpr (ends_set.mpr ⟨_, hcalled, rfl, huser, hname, hsignals⟩))

theorem ends_createRepo {user : Credentials} (h : c.state.user = some user)
    (volume : VolumeName) : Ends (createRepo volume) c fun xs _ d => c.Creation volume xs d := by
  unfold createRepo
  rw [ends_bind, ends_set, ends_bind]
  -- With a user neither call fails at once, so that both are exchanged.
  refine (ends_listRepos _).mono fun xs _ d hd => ?_
  obtain ⟨listed, hcalled, hd⟩ := hd
  obtain rfl := hcalled.eq_of_user h rfl
  have hsignals : d.signals = c.signals := hd.signals
  have hfound : (d.state.findRepo? volume.space volume.name).isSome = lists volume listed := by
    rw [State.findRepo?, hd.repos]
    exact find?_reposOf volume listed
  rw [ends_bind, ends_state, hfound]
  cases hlists : lists volume listed with
  | true =>
    simp only [if_true, ends_bind, ends_set, ends_tell, ends_pure]
    exact .known hlists (tells_of_tell hsignals)
  | false =>
    have huser : d.state.user = some user := hd.user.trans h
    simp only [Bool.false_eq_true, if_false]
    rw [ends_bind, ends_call_of_ok (identify_of_user huser rfl)]
    intro created
    obtain ⟨calls, version, hstore⟩ := afterCall_toStore d .repoCreate volume created
    have hsignals : (d.afterCall .repoCreate volume created).signals = c.signals :=
      (congrArg Store.signals hstore).trans hsignals
    rw [ends_bind, ends_set]
    rcases created with error | answer
    · simp only [Api.report, LoadResult.failed, LoadResult.toExcept, ends_tell_return]
      exact .failed hlists (tells_of_tell hsignals)
    · simp only [Api.report, LoadResult.answered, LoadResult.toExcept, ends_bind, ends_tell,
        ends_goTo, ends_pure]
      exact .answered hlists (announces_of_goTo (tells_of_tell hsignals))

theorem ends_submitRepoForm (c : Console) :
    Ends submitRepoForm c fun xs _ d => c.Submission c.state.requestedVolume? xs d := by
  unfold submitRepoForm State.requestedVolume?
  rw [ends_bind, ends_validForm]
  cases (c.state.form .repo).valid with
  | false => exact ends_pure.mpr (.idle (.inl rfl))
  | true =>
    simp only [if_true, ends_bind, ends_state]
    unfold State.userName?
    cases huser : c.state.user with
    | none =>
      simp only [Option.map_none, ends_bind, ends_tell, ends_pure]
      exact .idle (.inr (tells_of_tell rfl))
    | some user =>
      simp only [Option.map_some]
      exact (ends_createRepo huser _).mono fun xs _ d hd => .created hd

end Workflow

/-- The exchange has brought a list without the volume. -/
def Exchange.Clears (volume : VolumeName) : Exchange → Prop
  | ⟨⟨_, .repoList, _⟩, .ok (inventory, _)⟩ =>
    ∀ repo ∈ inventory.repos, repo.space = volume.space → repo.name ≠ volume.name
  | _ => False

/-- Nothing is created but what was requested, right after a list that has not got it. -/
def CreatesChecked (requested : Option VolumeName) (xs : List Exchange) : Prop :=
  ∀ before x after, xs = before ++ x :: after → x.api = .repoCreate →
    ∃ volume ∈ requested, ∃ y ∈ before.getLast?, y.Clears volume

namespace Console
variable {σ : Type} {c d e : Console} {volume : VolumeName} {requested : Option VolumeName}
  {xs : List Exchange} {listed : Except CallError (Api.repoList.Answer × Json)}

theorem submission_attempt (config : Config) (backend : Request → StateM σ Reply) (c : Console)
    (s : σ) :
    let submitted := attempt config backend .repoFormSubmit c s
    c.Submission c.state.requestedVolume? submitted.1 submitted.2 :=
  attempt_keeps config .repoFormSubmit ((Workflow.ends_submitRepoForm c).returning ()) backend s

/-- A list in which the volume was not found is without it if it was loaded at all. -/
theorem clears_iff (h : lists volume listed = false) :
    Exchange.Clears volume ⟨⟨e, .repoList, ()⟩, listed⟩ ↔ listed.isOk := by
  rcases listed with error | ⟨inventory, raw⟩
  · exact ⟨False.elim, nofun⟩
  · refine iff_of_true (fun repo hrepo hspace hname => ?_) rfl
    have hnamed : lists volume (.ok (inventory, raw)) = true :=
      List.any_eq_true.mpr ⟨repo, hrepo, by simp [Repo.isNamed, hspace, hname]⟩
    cases h.symm.trans hnamed

theorem isOk_of_lists (h : lists volume listed = true) : listed.isOk := by
  rcases listed with error | ⟨inventory, raw⟩
  · cases h
  · rfl

/-- After the list comes nothing but the creation, so the list is all that has to be looked at. -/
theorem createsChecked_pair {created : Except CallError (Api.repoCreate.Answer × Json)}
    (h : lists volume listed = false) :
    CreatesChecked (some volume)
        [⟨⟨d, .repoList, ()⟩, listed⟩, ⟨⟨e, .repoCreate, volume⟩, created⟩] ↔ listed.isOk := by
  rw [← clears_iff h]
  constructor
  · intro hchecked
    obtain ⟨_, hvolume, _, hlast, hclears⟩ := hchecked [⟨⟨d, .repoList, ()⟩, listed⟩] _ [] rfl rfl
    cases hvolume
    cases hlast
    exact hclears
  · intro hclears before x after hxs hx
    -- Of the two only the second one creates anything, and before it stands nothing but the list.
    match before, hxs with
    | [], hxs => cases hxs; cases hx
    | [_], hxs => cases hxs; exact ⟨volume, rfl, _, rfl, hclears⟩
    | _ :: _ :: _, hxs => simp at hxs

/-- A submission is checked just if its reload of the list succeeds. -/
theorem Creation.createsChecked_iff (h : c.Creation volume xs d) :
    CreatesChecked (some volume) xs ↔ ∀ x ∈ xs, x.api = .repoList → x.outcome.isOk := by
  cases h with
  | @known e _ listed found told =>
    refine iff_of_true (fun before x after hxs hx => ?_) fun x hx _ => ?_
    · match before, hxs with
      | [], hxs => cases hxs; cases hx
      | _ :: _, hxs => simp at hxs
    · cases List.mem_singleton.mp hx
      exact isOk_of_lists found
  | failed missing told => simp [createsChecked_pair missing]
  | answered missing announced => simp [createsChecked_pair missing]

theorem Submission.createsChecked_iff (h : c.Submission requested xs d) :
    CreatesChecked requested xs ↔ ∀ x ∈ xs, x.api = .repoList → x.outcome.isOk := by
  cases h with
  | idle shown =>
    refine iff_of_true (fun before x after hxs => ?_) fun x hx => absurd hx List.not_mem_nil
    simp at hxs
  | created creation => exact creation.createsChecked_iff

/-- Whatever the state and the form, and whatever the backend answers, a submission of the repo form
comes to one of the outcomes of `Submission`: a volume is created only right after the list was
asked for, and never one that the list has. It has been looked for in a list just if the reload of
the list has succeeded. -/
theorem creation_checked_iff_listed (config : Config) (c : Console)
    (backend : Request → StateM σ Reply) (s : σ) :
    let submitted := attempt config backend .repoFormSubmit c s
    c.Submission c.state.requestedVolume? submitted.1 submitted.2 ∧
      (CreatesChecked c.state.requestedVolume? submitted.1 ↔
        ∀ x ∈ submitted.1, x.api = .repoList → x.outcome.isOk) := by
  intro submitted
  have hsubmission := submission_attempt config backend c s
  exact ⟨hsubmission, hsubmission.createsChecked_iff⟩

/-- Somebody is logged in and has filled in the repo form. -/
def filledIn : Console :=
  ((start .default .empty (.memory .empty)).run
      (.dispatch (.setUser (some { Credentials.empty with name := "ann" })))).run
    (.updateForm .repo (Named.ofList [("Name", .str " apples ")]))

/-- When the list cannot be loaded, the volume is created all the same. -/
theorem creation_unchecked :
    ¬ ∀ (config : Config) (c : Console) (backend : Request → StateM Unit Reply),
      CreatesChecked c.state.requestedVolume? (attempt config backend .repoFormSubmit c ()).1 := by
  intro h
  have hsubmission := submission_attempt .default (fun _ => pure .unreachable) filledIn ()
  have hlisted := hsubmission.createsChecked_iff.mp (h .default filledIn fun _ => pure .unreachable)
  revert hlisted
  decide +kernel

end Console

end StorageConsole
