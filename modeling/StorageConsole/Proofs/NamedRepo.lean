import StorageConsole.CommandLine.Run
import StorageConsole.Proofs.Footprint
import StorageConsole.Proofs.Location
import StorageConsole.Proofs.Routing

/-!
Which repo a command acts on. A command goes to the path that it writes its arguments into, so it acts
on the repo that the path names, which is the repo of the arguments just if they are plain.
-/
namespace StorageConsole

open Backend (Api CallError LoadResult Reply Request)

/-- Whoever is let into a repo is let into the one that the location names, and no commits are read
but those of its branch, as the loaded list knows them. Without a location neither is done. -/
def Sending.ActsOn (place : Option RepoLocation) : Sending → Prop
  | ⟨c, .invite, invitation⟩ =>
    ∃ l ∈ place, ∃ repo ∈ c.state.repos,
      repo.space = l.space ∧ repo.name = l.name ∧ invitation.volume = repo.id
  | ⟨c, .commitList, branchId⟩ =>
    ∃ l ∈ place, ∃ repo ∈ c.state.repos,
      repo.space = l.space ∧ repo.name = l.name ∧ ⟨branchId, l.branch⟩ ∈ repo.branchList
  | _ => True

instance (place : Option RepoLocation) (x : Sending) : Decidable (x.ActsOn place) :=
  match x with
  | ⟨c, .invite, invitation⟩ =>
    inferInstanceAs (Decidable (∃ l ∈ place, ∃ repo ∈ c.state.repos,
      repo.space = l.space ∧ repo.name = l.name ∧ invitation.volume = repo.id))
  | ⟨c, .commitList, branchId⟩ =>
    inferInstanceAs (Decidable (∃ l ∈ place, ∃ repo ∈ c.state.repos,
      repo.space = l.space ∧ repo.name = l.name ∧ (⟨branchId, l.branch⟩ : Branch) ∈ repo.branchList))
  | ⟨_, .login, _⟩ | ⟨_, .register, _⟩ | ⟨_, .repoList, _⟩ | ⟨_, .repoCreate, _⟩ | ⟨_, .pay, _⟩
  | ⟨_, .config, _⟩ => .isTrue trivial

/-- The first branch of a name in the list is the one that is looked up, also where the list has the
name again or a clone is called like the master branch. -/
theorem Repo.find?_branchList (repo : Repo) (name : String) :
    repo.branchList.find? (·.name == name) = (repo.branch? name).map fun v => ⟨v.id, name⟩ := by
  unfold branchList branch?
  rw [List.find?_cons]
  by_cases hname : name = masterBranch
  · have htop : (masterBranch == name) = true := by simpa using hname.symm
    rw [htop, if_pos hname, Option.map_some, hname]
    rfl
  · have htop : (masterBranch == name) = false := by simpa using Ne.symm hname
    rw [htop, if_neg hname, List.find?_map]
    refine Option.map_congr fun clone hclone => ?_
    have hcalled : clone.clone = name := by simpa using List.find?_some hclone
    rw [hcalled]

theorem Repo.mem_branchList {repo : Repo} {name : String} {volume : Volume}
    (h : repo.branch? name = some volume) : ⟨volume.id, name⟩ ∈ repo.branchList := by
  have hfirst := repo.find?_branchList name
  rw [h] at hfirst
  exact List.mem_of_find?_eq_some hfirst

theorem State.mem_of_findRepo? {s : State} {space name : String} {repo : Repo}
    (h : s.findRepo? space name = some repo) :
    repo ∈ s.repos ∧ repo.space = space ∧ repo.name = name := by
  unfold findRepo? at h
  have hnamed := List.find?_some h
  simp only [Repo.isNamed, Bool.and_eq_true, beq_iff_eq] at hnamed
  exact ⟨List.mem_of_find?_eq_some h, hnamed⟩

namespace Workflow
open Console
variable {place : Option RepoLocation} {c : Console}

/-- The calls that act on no repo. -/
def bystanding (api : Api) (_ : api.Payload) : Prop := api ≠ .invite ∧ api ≠ .commitList

theorem actsOn_of_bystanding {x : Sending} (h : bystanding x.api x.payload) : x.ActsOn place := by
  obtain ⟨c, api, payload⟩ := x
  cases api with
  | invite => exact absurd rfl h.1
  | commitList => exact absurd rfl h.2
  | _ => trivial

theorem sends_of_bystanding {α : Type} {w : Workflow α} (h : w.Calls bystanding) (c : Console) :
    Sends (Sending.ActsOn place) w c fun _ d => d.table = c.table :=
  sends_of_calls h fun _ => actsOn_of_bystanding

theorem sends_listRepos (c : Console) :
    Sends (Sending.ActsOn place) listRepos c fun _ d => d.state.route = c.state.route := by
  unfold listRepos
  rw [sends_bind]
  refine sends_call trivial fun result d calls version hstore => ?_
  have hroute : d.state.route = c.state.route := by rw [hstore]
  cases result.toExcept with
  | ok inventory =>
    simp only [sends_bind, sends_set]
    exact hroute
  | error _ =>
    simp only [sends_set]
    exact hroute

theorem sends_loadCommits {branchId : String} (h : Sending.ActsOn place ⟨c, .commitList, branchId⟩) :
    Sends (Sending.ActsOn place) (loadCommits branchId) c fun _ _ => True := by
  unfold loadCommits
  rw [sends_bind]
  refine sends_call h fun result d calls version _ => ?_
  cases result.toExcept <;> simp

theorem sends_invite {l : RepoLocation} {repo : Repo} (hl : place = some l)
    (hrepo : repo ∈ c.state.repos ∧ repo.space = l.space ∧ repo.name = l.name)
    (collaborator : String) :
    Sends (Sending.ActsOn place) (invite repo collaborator) c fun _ _ => True := by
  have hcalls := compositional_calls bystanding
  have hlist : Calls bystanding listRepos := calls_listRepos ⟨nofun, nofun⟩
  unfold invite
  rw [sends_bind, sends_set, sends_bind]
  refine sends_call ⟨l, hl, repo, hrepo.1, hrepo.2.1, hrepo.2.2, rfl⟩ fun result d _ _ _ => ?_
  refine (sends_of_bystanding ?_ d).mono fun _ _ _ => trivial
  refine hcalls.bind (calls_perform _) fun _ => ?_
  split
  · exact hcalls.tell_return
  · exact hcalls.bind (hcalls.set rfl) fun _ => hcalls.bind (hcalls.tell _) fun _ =>
      hcalls.bind hlist fun _ => hcalls.pure true

/-- Whoever is let in is let into the repo of the route. -/
theorem sends_addCollaborator (h : RepoLocation.ofState? c.state = place) :
    Sends (Sending.ActsOn place) addCollaborator c fun _ _ => True := by
  have htold : ∀ place text, Sends (Sending.ActsOn place) (do
      tell text
      return false) c fun _ _ => True := fun _ _ =>
    (sends_of_bystanding (compositional_calls bystanding).tell_return c).mono fun _ _ _ => trivial
  unfold addCollaborator
  rw [sends_bind, sends_state, h]
  cases hempty : (Text.trim c.state.collaboratorName).isEmpty with
  | true =>
    simp only [hempty, if_true]
    exact htold _ _
  | false =>
    simp only [hempty, Bool.false_eq_true, if_false]
    cases hplace : place with
    | none => exact htold _ _
    | some l =>
      cases hrepo : c.state.findRepo? l.space l.name with
      | none =>
        simp only [hrepo]
        exact htold _ _
      | some repo =>
        simp only [hrepo]
        exact sends_invite rfl (State.mem_of_findRepo? hrepo) _

theorem actsOn_of_branchId? {l : RepoLocation} {branchId : String} (hl : place = some l)
    (h : c.state.branchId? l = some branchId) :
    Sending.ActsOn place ⟨c, .commitList, branchId⟩ := by
  unfold State.branchId? at h
  obtain ⟨repo, hrepo, h⟩ := Option.bind_eq_some_iff.mp h
  obtain ⟨volume, hvolume, h⟩ := Option.bind_eq_some_iff.mp h
  cases h
  obtain ⟨hmem, hspace, hname⟩ := State.mem_of_findRepo? hrepo
  exact ⟨l, hl, repo, hmem, hspace, hname, Repo.mem_branchList hvolume⟩

/-- The commits that are read are those of the route's branch. -/
theorem sends_listCommits (h : RepoLocation.ofState? c.state = place) :
    Sends (Sending.ActsOn place) listCommits c fun _ _ => True := by
  unfold listCommits
  rw [sends_bind, sends_state, h]
  cases hplace : place with
  | none => simp
  | some l =>
    have hload : ∀ (c : Console) {branchId : String}, c.state.branchId? l = some branchId →
        Sends (Sending.ActsOn (some l)) (loadCommits branchId) c fun _ _ => True :=
      fun _ _ hid => sends_loadCommits (actsOn_of_branchId? rfl hid)
    by_cases hnone : (c.state.findRepo? l.space l.name).isNone
    · -- the branch is looked up in the repos as they have just been listed
      simp only [hnone, if_true, sends_bind, sends_state]
      refine (sends_listRepos c).mono fun _ c' _ => ?_
      cases hid : c'.state.branchId? l with
      | none => simp
      | some branchId => exact hload c' hid
    · simp only [hnone, Bool.false_eq_true, if_false, sends_bind, sends_state]
      cases hid : c.state.branchId? l with
      | none => simp
      | some branchId => exact hload c hid

end Workflow

namespace CommandLine
open Console
variable {α β : Type} {P : Sending → Prop} {c : Console} {place : Option RepoLocation}
  {table : Route.Table} {path : String}

theorem sends_run_bind {x : Attempt α} {f : α → Attempt β} {Q : Except String β → Console → Prop} :
    Sends P (x >>= f).run c Q ↔
      Sends P x.run c fun r c' =>
        match r with
        | .ok a => Sends P (f a).run c' Q
        | .error e => Q (.error e) c' := by
  change Sends P (x.run >>= _) c Q ↔ _
  rw [sends_bind]
  refine iff_of_eq (congrArg _ (funext fun r => funext fun c' => ?_))
  cases r with
  | ok a => rfl
  | error e => exact propext sends_pure

theorem sends_run_lift {w : Workflow α} {Q : Except String α → Console → Prop} :
    Sends P (liftM w : Attempt α).run c Q ↔ Sends P w c fun a c' => Q (.ok a) c' := by
  change Sends P (w >>= fun a => pure (.ok a)) c Q ↔ _
  simp only [sends_bind, sends_pure]

theorem sends_run_pure {a : α} {Q : Except String α → Console → Prop} :
    Sends P (pure a : Attempt α).run c Q ↔ Q (.ok a) c := sends_pure

/-- What follows an attempt may build on its success. -/
theorem sends_andThen {x : Attempt α} {f : α → Attempt β} {R : α → Console → Prop}
    (hx : Sends P x.run c fun r c' => ∀ a, r = .ok a → R a c')
    (hf : ∀ a c', R a c' → Sends P (f a).run c' fun _ _ => True) :
    Sends P (x >>= f).run c fun _ _ => True := by
  refine sends_run_bind.mpr (hx.mono fun r c' h => ?_)
  cases r with
  | ok a => exact hf a c' (h a rfl)
  | error e => trivial

theorem sends_lifted {w : Workflow α} {R : α → Console → Prop} (h : Sends P w c R) :
    Sends P (liftM w : Attempt α).run c fun r c' => ∀ a, r = .ok a → R a c' := by
  refine sends_run_lift.mpr (h.mono fun a c' hR b hb => ?_)
  cases hb
  exact hR

theorem sends_requireSession (config : Config) (c : Console) :
    Sends (Sending.ActsOn place) (requireSession config).run c
      fun r d => ∀ a, r = .ok a → d.table = c.table := by
  have hcalls := Workflow.compositional_calls Workflow.bystanding
  have hrequired : (requireSession config).run.Calls Workflow.bystanding := by
    have hrestore := Workflow.calls_restore (P := Workflow.bystanding)
      (fun _ => ⟨nofun, nofun⟩) ⟨nofun, nofun⟩ config
    refine hcalls.bind (hcalls.bind hrestore fun _ => hcalls.pure _) fun r => ?_
    rcases r with _ | ok
    · exact hcalls.pure _
    · cases ok <;> exact hcalls.pure _
  exact (Workflow.sends_of_bystanding hrequired c).mono fun _ _ htable _ _ => htable

/-- Whoever has gone to a path is on the route that it leads to. -/
theorem sends_visitOnly (path : String) (c : Console) :
    Sends P (visitOnly path).run c
      fun r c' => ∀ a, r = .ok a → c'.state.route = c.table.resolve path := by
  unfold visitOnly
  rw [sends_run_bind, sends_run_lift, sends_perform]
  cases hnav : (c.perform none (.visit path)).1 with
  | error e => simp
  | ok route =>
    have hroute : (c.perform none (.visit path)).2.state.route = c.table.resolve route.path :=
      Store.route_of_navigate hnav
    by_cases hpath : route.path = path
    · rw [hpath] at hroute
      simp [hpath, hroute]
    · simp [hpath]

theorem sends_runAddCollaborator (config : Config) (space name collaborator : String)
    (console : Route.Table.build Route.consoleDeclarations = .ok c.table) :
    Sends (Sending.ActsOn (RepoLocation.ofPath? ("/repo/" ++ space ++ "/" ++ name)))
      (runAddCollaborator config space name collaborator).run c fun _ _ => True := by
  unfold runAddCollaborator
  simp only [Workflow.runHook, Workflow.nameCollaborator]
  generalize "/repo/" ++ space ++ "/" ++ name = path
  refine sends_andThen (sends_requireSession config c) fun _ c₁ htable => ?_
  refine sends_andThen (sends_visitOnly path c₁) fun _ c₂ hroute => ?_
  refine sends_andThen (sends_lifted (Workflow.sends_listRepos c₂)) fun _ c₃ hsame => ?_
  have hnamed : Sends (Sending.ActsOn (RepoLocation.ofPath? path))
      (Workflow.set (.setCollaboratorName collaborator)) c₃
      fun _ c' => c'.state.route = c₃.state.route := sends_set.mpr rfl
  refine sends_andThen (sends_lifted hnamed) fun _ c₄ hsame' => ?_
  have hplace : RepoLocation.ofState? c₄.state = RepoLocation.ofPath? path := by
    rw [hsame, hroute, htable] at hsame'
    exact RepoLocation.ofState?_resolve console hsame'
  have hadded : Sends (Sending.ActsOn (RepoLocation.ofPath? path))
      (Workflow.addCollaborator >>= fun _ => pure ()) c₄ fun _ _ => True := by
    simpa using Workflow.sends_addCollaborator hplace
  refine sends_andThen (sends_lifted hadded) fun _ c₅ _ => ?_
  rw [sends_run_lift]
  simp [shownMessage]

theorem sends_runCommits (config : Config) (location : RepoLocation) (search : Option String)
    (page : Nat) (console : Route.Table.build Route.consoleDeclarations = .ok c.table) :
    Sends (Sending.ActsOn (RepoLocation.ofPath? (location.pageUrl page)))
      (runCommits config location search page).run c fun _ _ => True := by
  unfold runCommits
  simp only [Workflow.runHook]
  generalize location.pageUrl page = path
  refine sends_andThen (sends_requireSession config c) fun _ c₁ htable => ?_
  refine sends_andThen (sends_visitOnly path c₁) fun _ c₂ hroute => ?_
  have hplace : RepoLocation.ofState? c₂.state = RepoLocation.ofPath? path := by
    rw [htable] at hroute
    exact RepoLocation.ofState?_resolve console hroute
  refine sends_andThen (sends_lifted (Workflow.sends_listCommits hplace)) fun _ c₃ _ => ?_
  cases search <;>
    simp only [sends_run_bind, sends_run_lift, sends_setAlways, sends_state, sends_run_pure]

/-- What `add-collaborator` and `commits` send, whatever they are given and whatever the backend
answers, acts on the repo and on the branch that the path of their arguments names, and on nothing if
it names none. That is the repo and the branch of the arguments just if these are plain. The calls
told of here are all the requests of the run, by `requests_complete`. -/
theorem acts_on_named_repo {σ : Type} (config : Config) (storage : Storage) {table : Route.Table}
    (console : Route.Table.build Route.consoleDeclarations = .ok table)
    (backend : Request → StateM σ Reply) (s : σ) (space name branch collaborator : String)
    (search : Option String) (page : Nat) :
    let start := Console.start config table storage
    let adding := (Command.addCollaborator space name collaborator).workflow config
    let reading := (Command.commits space name branch search page).workflow config
    let toRepo := RepoLocation.ofPath? ("/repo/" ++ space ++ "/" ++ name)
    let toBranch := RepoLocation.ofPath? ((⟨space, name, branch⟩ : RepoLocation).pageUrl page)
    (∀ x ∈ sendings backend adding start s, x.ActsOn toRepo) ∧
    (∀ x ∈ sendings backend reading start s, x.ActsOn toBranch) ∧
    ((∃ l, toRepo = some l ∧ l.space = space ∧ l.name = name) ↔
      Route.IsPlainPart space ∧ Route.IsPlainPart name) ∧
    (toBranch = some ⟨space, name, branch⟩ ↔
      Route.IsPlainPart space ∧ Route.IsPlainPart name ∧ Route.IsPlainPart branch) := by
  intro start adding reading toRepo toBranch
  have hadding : Sends (Sending.ActsOn toRepo) adding start fun _ _ => True :=
    sends_runAddCollaborator config space name collaborator console
  have hreading : Sends (Sending.ActsOn toBranch) reading start fun _ _ => True :=
    sends_runCommits config ⟨space, name, branch⟩ search page console
  refine ⟨hadding.forall_sendings backend s, hreading.forall_sendings backend s,
    RepoLocation.ofPath?_repo space name, (RepoLocation.ofPath?_pageUrl _ page).trans ?_⟩
  exact ⟨fun h => ⟨h.space, h.name, h.branch⟩, fun ⟨hspace, hname, hbranch⟩ =>
    ⟨hspace, hname, hbranch⟩⟩

/-- The reply to the call with an id; its result is written in JSON. -/
def replyTo (id : Nat) (result : String) : Reply :=
  .received 200 ("\x7b\"id\":" ++ Text.showNat id ++ ",\"result\":" ++ result ++ "\x7d").toUTF8

/-- A backend that gives its replies one by one; after the last of them it cannot be reached. -/
def scripted (_ : Request) : StateM (List Reply) Reply :=
  modifyGet fun replies => (replies.headD .unreachable, replies.tail)

/-- A stored session. -/
def storedSession : Storage :=
  .memory (Named.ofList [("user", "\x7b\"Name\":\"ann\",\"Password\":\"secret\"\x7d")])

/-- The replies to a session that is confirmed while there is one repo, alice / apples. -/
def oneRepo : List Reply :=
  let name := "\x7b\"Namespace\":\"alice\",\"Name\":\"apples\"\x7d"
  let volume := "\x7b\"Id\":\"v\",\"Name\":" ++ name ++ "\x7d"
  [replyTo 0 "\x7b\"Id\":\"u\"\x7d", replyTo 1 "\x7b\x7d",
    replyTo 2 ("\x7b\"Volumes\":[\x7b\"TopLevelVolume\":" ++ volume ++ "\x7d]\x7d"), replyTo 3 "true"]

theorem acts_on_named_repo_apples :
    ∃ table, Route.Table.build Route.consoleDeclarations = .ok table ∧
      let sent := sendings scripted
        ((Command.addCollaborator "alice" "apples" "bob").workflow .default)
        (.start .default table storedSession) oneRepo
      sent.map (·.api) = [.login, .config, .repoList, .invite, .repoList] ∧
        ∀ x ∈ sent, x.ActsOn (some ⟨"alice", "apples", masterBranch⟩) := by
  let table : Route.Table := (Route.Table.build Route.consoleDeclarations).toOption.getD .empty
  have hbuild : Route.Table.build Route.consoleDeclarations = .ok table := by decide +kernel
  have hplace : RepoLocation.ofPath? ("/repo/" ++ "alice" ++ "/" ++ "apples") =
      some ⟨"alice", "apples", masterBranch⟩ := by decide +kernel
  have hacts := acts_on_named_repo .default storedSession hbuild scripted oneRepo "alice" "apples"
    "master" "bob" none 1
  refine ⟨table, hbuild, by decide +kernel, ?_⟩
  rw [← hplace]
  exact hacts.1

/-- A question mark in a name ends the path, so that somebody is let into alice / apples who should
be let into alice / apples?x, which is not there. -/
theorem named_repo_missed :
    ¬ ∀ (config : Config) (storage : Storage) (table : Route.Table)
        (backend : Request → StateM (List Reply) Reply) (replies : List Reply)
        (space name collaborator : String),
      Route.Table.build Route.consoleDeclarations = .ok table →
      ∀ x ∈ sendings backend ((Command.addCollaborator space name collaborator).workflow config)
        (.start config table storage) replies, x.ActsOn (some ⟨space, name, masterBranch⟩) := by
  intro h
  let table : Route.Table := (Route.Table.build Route.consoleDeclarations).toOption.getD .empty
  have hbuild : Route.Table.build Route.consoleDeclarations = .ok table := by decide +kernel
  have hacts := h .default storedSession table scripted oneRepo "alice" "apples?x" "bob" hbuild
  revert hacts
  decide +kernel

end CommandLine

end StorageConsole
