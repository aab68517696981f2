import StorageConsole.Proofs.NamedRepo
import StorageConsole.Proofs.Paging
import StorageConsole.Proofs.Submission

/-!
The commits that are shown are those of the branch that the route names. Its id is looked up in the
list of the repos, which is loaded anew if it has no repo of the route's name; of repos with one
name, and of clones with one name, the first counts. Where the branch is not found, or its commits
cannot be loaded, none are shown. The branches that a repo lists are those that can be looked up.
-/
namespace StorageConsole

open Backend (Api CallError LoadResult Reply Request)

/-- The first item of a list that has a property. -/
def IsFirst {α : Type} (p : α → Prop) (items : List α) (a : α) : Prop :=
  ∃ before after, items = before ++ a :: after ∧ p a ∧ ∀ b ∈ before, ¬ p b

/-- The repo is the one that a location names. -/
def Repo.IsAt (l : RepoLocation) (r : Repo) : Prop := r.space = l.space ∧ r.name = l.name

/-- The volume of a repo that a branch stands for: the top level volume is the master branch, and
any other branch is the first clone of its name. -/
inductive Repo.HasBranch (r : Repo) (branch : String) : Volume → Prop
  | master (top : branch = masterBranch) : HasBranch r branch r.topLevel
  | clone {v : Volume} (below : branch ≠ masterBranch)
      (first : IsFirst (fun clone => clone.clone = branch) r.clones v) : HasBranch r branch v

/-- The location leads to the volume with an id. -/
def LeadsTo (repos : List Repo) (l : RepoLocation) (id : String) : Prop :=
  ∃ repo volume, IsFirst (Repo.IsAt l) repos repo ∧ repo.HasBranch l.branch volume ∧ volume.id = id

/-- The commits that are shown when a load of them has ended; null is answered for no commits. -/
def commitsOf : Except CallError (Api.commitList.Answer × Json) → List Commit
  | .ok (commits, _) => commits.getD []
  | .error _ => []

theorem isFirst_iff {α : Type} {p : α → Prop} {q : α → Bool} (h : ∀ a, q a = true ↔ p a)
    {items : List α} {a : α} : IsFirst p items a ↔ items.find? q = some a := by
  rw [List.find?_eq_some_iff_append, h]
  simp only [IsFirst, ← h, Bool.not_eq_true, Bool.not_eq_eq_eq_not, Bool.not_true]
  constructor
  · rintro ⟨before, after, hitems, ha, hbefore⟩
    exact ⟨ha, before, after, hitems, hbefore⟩
  · rintro ⟨ha, before, after, hitems, hbefore⟩
    exact ⟨before, after, hitems, ha, hbefore⟩

theorem Repo.isNamed_iff {r : Repo} {l : RepoLocation} :
    r.isNamed l.space l.name = true ↔ r.IsAt l := by
  simp [isNamed, IsAt]

theorem Repo.branch?_eq_some_iff {r : Repo} {branch : String} {v : Volume} :
    r.branch? branch = some v ↔ r.HasBranch branch v := by
  unfold branch?
  split
  · next htop =>
    constructor
    · rintro h
      cases h
      exact .master htop
    · rintro (_ | ⟨below, _⟩)
      · rfl
      · exact absurd htop below
  · next hbelow =>
    have hfirst : r.clones.find? (·.clone == branch) = some v ↔
        IsFirst (fun clone => clone.clone = branch) r.clones v :=
      (isFirst_iff fun _ => beq_iff_eq).symm
    rw [hfirst]
    constructor
    · exact .clone hbelow
    · rintro (top | ⟨_, first⟩)
      · exact absurd top hbelow
      · exact first

theorem Repo.isFirst_branchList_iff {r : Repo} {name : String} {b : Branch} :
    IsFirst (fun b => b.name = name) r.branchList b ↔
      ∃ v, r.branch? name = some v ∧ b = ⟨v.id, name⟩ := by
  have hfound : IsFirst (fun b => b.name = name) r.branchList b ↔
      r.branchList.find? (·.name == name) = some b := isFirst_iff fun _ => beq_iff_eq
  rw [hfound, r.find?_branchList, Option.map_eq_some_iff]
  simp only [eq_comm]

/-- A repo has just the branches that it lists, each being the first one of its name, and as many as
it counts. -/
theorem Repo.branch_lookup_agrees (r : Repo) (name : String) :
    ((r.branch? name).isSome ↔ ∃ b ∈ r.branchList, b.name = name) ∧
    (∀ b, IsFirst (fun b => b.name = name) r.branchList b ↔
      ∃ v, r.branch? name = some v ∧ b = ⟨v.id, name⟩) ∧
    r.branchList.length = r.branchCount := by
  refine ⟨?_, fun b => isFirst_branchList_iff, ?_⟩
  · rw [← Option.isSome_map, ← r.find?_branchList, List.find?_isSome]
    simp
  · rw [branchList, List.length_cons, List.length_map, branchCount]

/-- Of branches that are called alike, the first one counts, and the master branch is the first. -/
example :
    let clone (id name : String) : Volume := { Volume.empty with id, clone := name }
    let r : Repo := { Repo.empty with
      topLevel := { Volume.empty with id := "1" }
      clones := [clone "2" "dev", clone "3" "master", clone "4" "dev"] }
    r.branchList = [⟨"1", "master"⟩, ⟨"2", "dev"⟩, ⟨"3", "master"⟩, ⟨"4", "dev"⟩] ∧
      (r.branch? "master").map Volume.id = some "1" ∧ (r.branch? "dev").map Volume.id = some "2" := by
  decide

theorem State.branchId?_eq_some_iff {s : State} {l : RepoLocation} {id : String} :
    s.branchId? l = some id ↔ LeadsTo s.repos l id := by
  unfold branchId? findRepo?
  simp only [Option.bind_eq_bind, Option.bind_eq_some_iff, Option.pure_def, Option.some.injEq,
    Repo.branch?_eq_some_iff, ← isFirst_iff fun _ => Repo.isNamed_iff (l := l)]
  constructor
  · rintro ⟨repo, hrepo, volume, hvolume, hid⟩
    exact ⟨repo, volume, hrepo, hvolume, hid⟩
  · rintro ⟨repo, volume, hrepo, hvolume, hid⟩
    exact ⟨repo, hrepo, volume, hvolume, hid⟩

/-- A location leads to the id under which its repo lists the branch first. -/
theorem leadsTo_iff_listed {repos : List Repo} {l : RepoLocation} {id : String} :
    LeadsTo repos l id ↔ ∃ repo, IsFirst (Repo.IsAt l) repos repo ∧
      IsFirst (fun b => b.name = l.branch) repo.branchList ⟨id, l.branch⟩ := by
  constructor
  · rintro ⟨repo, volume, hrepo, hvolume, rfl⟩
    have hlookup := Repo.branch?_eq_some_iff.mpr hvolume
    exact ⟨repo, hrepo, Repo.isFirst_branchList_iff.mpr ⟨volume, hlookup, rfl⟩⟩
  · rintro ⟨repo, hrepo, hfirst⟩
    obtain ⟨volume, hvolume, hid⟩ := Repo.isFirst_branchList_iff.mp hfirst
    exact ⟨repo, volume, hrepo, Repo.branch?_eq_some_iff.mp hvolume, (congrArg Branch.id hid).symm⟩

namespace Console
variable {σ : Type} {c d : Console} {l : RepoLocation}

/-- Where the branch is looked up: in the list as it is if that has the repo, and otherwise in the
one that is loaded anew. -/
inductive LooksUp (c : Console) (l : RepoLocation) : List Exchange → List Repo → Prop
  | known (found : ∃ repo ∈ c.state.repos, repo.IsAt l) : LooksUp c l [] c.state.repos
  | reloaded (missing : ∀ repo ∈ c.state.repos, ¬ repo.IsAt l)
      (listed : Except CallError (Api.repoList.Answer × Json)) :
      LooksUp c l [⟨⟨c, .repoList, ()⟩, listed⟩] (reposOf listed)

/-- What is asked for, once the list is known, and the commits that are shown then. -/
inductive LoadsCommits (repos : List Repo) (l : RepoLocation) : List Exchange → List Commit → Prop
  | unknown (nowhere : ∀ id, ¬ LeadsTo repos l id) : LoadsCommits repos l [] []
  | asked {id : String} (leads : LeadsTo repos l id) (d : Console)
      (loaded : Except CallError (Api.commitList.Answer × Json)) :
      LoadsCommits repos l [⟨⟨d, .commitList, id⟩, loaded⟩] (commitsOf loaded)

variable {repos : List Repo} {commits : List Commit} {xs : List Exchange}

theorem LooksUp.message (h : c.LooksUp l xs repos) :
    ∀ x ∈ xs, x.api.message x.payload = .call "AllVolumesAndClones" (.obj []) := by
  intro x hx
  cases h with
  | known => cases hx
  | reloaded =>
    cases List.mem_singleton.mp hx
    rfl

/-- Commits that are shown have been asked for. -/
theorem LoadsCommits.exists_mem (h : LoadsCommits repos l xs commits) (hne : commits ≠ []) :
    ∃ x, x ∈ xs := by
  cases h with
  | unknown => exact absurd rfl hne
  | asked => exact ⟨_, .head _⟩

theorem LoadsCommits.message (h : LoadsCommits repos l xs commits) :
    ∀ x ∈ xs, ∃ id, LeadsTo repos l id ∧
      x.api.message x.payload = .call "SnapshotsById" (.arr [.str id]) := by
  intro x hx
  cases h with
  | unknown => cases hx
  | @asked id leads =>
    cases List.mem_singleton.mp hx
    exact ⟨id, leads, rfl⟩

end Console

namespace Workflow
open Console
variable {c : Console} {user : Credentials}

theorem ends_loadCommits (h : c.state.user = some user) (id : String) :
    Ends (loadCommits id) c fun xs _ d => d.state.repos = c.state.repos ∧
      ∃ loaded, xs = [⟨⟨c, .commitList, id⟩, loaded⟩] ∧ d.state.commits = commitsOf loaded := by
  unfold loadCommits
  rw [ends_bind, ends_call_of_ok (identify_of_user h rfl)]
  intro loaded
  obtain ⟨calls, version, hstore⟩ := afterCall_toStore c .commitList id loaded
  have hrepos : (c.afterCall .commitList id loaded).state.repos = c.state.repos := by rw [hstore]
  rcases loaded with error | ⟨commits, raw⟩
  · exact ends_set.mpr ⟨hrepos, _, rfl, rfl⟩
  · exact ends_set.mpr ⟨hrepos, _, rfl, rfl⟩

/-- Once the list is known, the rest depends on nothing else. -/
theorem ends_lookUp (h : c.state.user = some user) (l : RepoLocation) :
    Ends (do
      match (← state).branchId? l with
      | some branchId => loadCommits branchId
      | none => set (.setCommits [])) c
      fun xs _ d => LoadsCommits d.state.repos l xs d.state.commits ∧
        d.state.repos = c.state.repos := by
  rw [ends_bind, ends_state]
  cases hid : c.state.branchId? l with
  | none =>
    have hnowhere : ∀ id, ¬ LeadsTo c.state.repos l id := by
      intro id hleads
      rw [State.branchId?_eq_some_iff.mpr hleads] at hid
      cases hid
    exact ends_set.mpr ⟨.unknown hnowhere, rfl⟩
  | some id =>
    refine (ends_loadCommits h id).mono fun xs _ d hd => ?_
    obtain ⟨hrepos, loaded, rfl, hcommits⟩ := hd
    rw [hrepos, hcommits]
    exact ⟨.asked (State.branchId?_eq_some_iff.mp hid) c loaded, rfl⟩

theorem ends_listCommits {l : RepoLocation} (hl : RepoLocation.ofState? c.state = some l)
    (h : c.state.user = some user) :
    Ends listCommits c fun xs _ d => ∃ ys zs, xs = ys ++ zs ∧ c.LooksUp l ys d.state.repos ∧
      LoadsCommits d.state.repos l zs d.state.commits := by
  unfold listCommits
  rw [ends_bind, ends_state]
  simp only [hl]
  cases hfound : c.state.findRepo? l.space l.name with
  | some repo =>
    simp only [Option.isNone_some, Bool.false_eq_true, if_false]
    obtain ⟨before, after, hrepos, hat, _⟩ := (isFirst_iff fun _ => Repo.isNamed_iff).mpr hfound
    have hknown : ∃ repo ∈ c.state.repos, repo.IsAt l := ⟨repo, by simp [hrepos], hat⟩
    refine (ends_lookUp h l).mono fun zs _ d hd => ?_
    obtain ⟨hloads, hsame⟩ := hd
    exact ⟨[], zs, rfl, hsame ▸ .known hknown, hloads⟩
  | none =>
    simp only [Option.isNone_none, if_true]
    have hmissing : ∀ repo ∈ c.state.repos, ¬ repo.IsAt l := by
      intro repo hrepo hat
      exact List.find?_eq_none.mp hfound repo hrepo (Repo.isNamed_iff.mpr hat)
    rw [ends_bind]
    refine (ends_listRepos c).mono fun ys _ d hd => ?_
    obtain ⟨listed, hcalled, hd⟩ := hd
    obtain rfl := hcalled.eq_of_user h rfl
    refine (ends_lookUp (hd.user.trans h) l).mono fun zs _ e he => ?_
    obtain ⟨hloads, hsame⟩ := he
    refine ⟨_, zs, rfl, ?_, hloads⟩
    rw [hsame, hd.repos]
    exact .reloaded hmissing listed

end Workflow

namespace Console
variable {σ : Type}

/-- A load of the commits looks the routed branch up, in a list that is loaded anew just if it has
no repo of that name, and asks for the commits of just that branch, which is the first that the repo
lists under its name; they are what is shown then. Without a branch in the route nothing happens. -/
theorem commits_follow_route (config : Config) (c : Console) (backend : Request → StateM σ Reply)
    (s : σ) :
    let run := attempt config backend .commitList c s
    (RepoLocation.ofState? c.state = none → run = ([], c)) ∧
      ∀ l ∈ RepoLocation.ofState? c.state, c.state.user.isSome = true →
        ∃ xs ys, run.1 = xs ++ ys ∧ run.2.requests = c.requests ++ (xs ++ ys).map (·.request) ∧
          c.LooksUp l xs run.2.state.repos ∧
          (∀ x ∈ xs, x.request.Asks c.client.endpoint "AllVolumesAndClones" (.obj [])) ∧
          LoadsCommits run.2.state.repos l ys run.2.state.commits ∧
          ∀ y ∈ ys, ∃ id, LeadsTo run.2.state.repos l id ∧
            (∃ repo, IsFirst (Repo.IsAt l) run.2.state.repos repo ∧
              IsFirst (fun b => b.name = l.branch) repo.branchList ⟨id, l.branch⟩) ∧
            y.request.Asks c.client.endpoint "SnapshotsById" (.arr [.str id]) := by
  intro run
  constructor
  · intro hnone
    have hidle : Ends Workflow.listCommits c fun xs _ d => xs = [] ∧ d = c := by
      unfold Workflow.listCommits
      rw [ends_bind, ends_state]
      simp only [hnone]
      exact ends_pure.mpr ⟨rfl, rfl⟩
    obtain ⟨hnothing, hsame⟩ := attempt_keeps config .commitList hidle backend s
    exact Prod.ext hnothing hsame
  · intro l hl huser
    obtain ⟨user, huser⟩ := Option.isSome_iff_exists.mp huser
    obtain ⟨xs, ys, hxs, hlooks, hloads⟩ :=
      attempt_keeps config .commitList (Workflow.ends_listCommits hl huser) backend s
    have hasks {method : String} {params : Json} (x : Exchange) (hx : x ∈ xs ++ ys)
        (hm : x.api.message x.payload = .call method params) :
        x.request.Asks c.client.endpoint method params :=
      asks_of_mem_exchanges (hxs ▸ hx) hm
    have hrequests := requests_attempt config backend .commitList c s
    refine ⟨xs, ys, hxs, hxs ▸ hrequests, hlooks, ?_, hloads, ?_⟩
    · intro x hx
      exact hasks x (List.mem_append_left _ hx) (hlooks.message x hx)
    · intro y hy
      obtain ⟨id, hleads, hmessage⟩ := hloads.message y hy
      exact ⟨id, hleads, leadsTo_iff_listed.mp hleads,
        hasks y (List.mem_append_right _ hy) hmessage⟩

/-- A repo with two branches dev comes in, and then a commit; each record is written as the list of
its first fields. -/
def twoBranches : List Reply :=
  let clone (id : String) := "[\"" ++ id ++ "\",[],\"dev\"]"
  let clones := "[" ++ clone "2" ++ "," ++ clone "3" ++ "]"
  [CommandLine.replyTo 0 ("[[[[\"1\",[\"ann\",\"apples\"]]," ++ clones ++ "]]]"),
    CommandLine.replyTo 1 "[[\"k\"]]"]

theorem commits_follow_route_twoBranches :
    ∃ table, Route.Table.build Route.consoleDeclarations = .ok table ∧
      let c := onBranch table
      let run := attempt .default CommandLine.scripted .commitList c twoBranches
      (RepoLocation.ofState? c.state = some ⟨"ann", "apples", "dev"⟩ ∧ c.state.user.isSome) ∧
      (run.2.state.commits = [⟨"k", .empty⟩] ∧
        ∃ y ∈ run.1, y.request.Asks c.client.endpoint "SnapshotsById" (.arr [.str "2"])) ∧
      attempt .default CommandLine.scripted .commitList (arrived table) twoBranches =
        ([], arrived table) := by
  let table : Route.Table := (Route.Table.build Route.consoleDeclarations).toOption.getD .empty
  have hbuild : Route.Table.build Route.consoleDeclarations = .ok table := by decide +kernel
  have hnamed : RepoLocation.ofState? (onBranch table).state = some ⟨"ann", "apples", "dev"⟩ := by
    decide +kernel
  have huser : (onBranch table).state.user.isSome = true := rfl
  have hidle := (commits_follow_route .default (arrived table) CommandLine.scripted twoBranches).1 rfl
  refine ⟨table, hbuild, ⟨hnamed, huser⟩, ?_, hidle⟩
  have hshown : let after := (attempt .default CommandLine.scripted .commitList (onBranch table)
      twoBranches).2.state
      after.commits = [⟨"k", .empty⟩] ∧ after.branchId? ⟨"ann", "apples", "dev"⟩ = some "2" := by
    decide +kernel
  have hrun := (commits_follow_route .default (onBranch table) CommandLine.scripted twoBranches).2 _
    hnamed huser
  -- What has been computed is all that matters of the run.
  generalize attempt .default CommandLine.scripted .commitList (onBranch table) twoBranches = run
    at hshown hrun ⊢
  obtain ⟨hcommits, hid⟩ := hshown
  obtain ⟨xs, ys, hxs, _, _, _, hloads, hasks⟩ := hrun
  have hne : run.2.state.commits ≠ [] := by
    rw [hcommits]
    exact List.cons_ne_nil _ _
  obtain ⟨y, hy⟩ := hloads.exists_mem hne
  obtain ⟨id, hleads, _, hasked⟩ := hasks y hy
  cases hid.symm.trans (State.branchId?_eq_some_iff.mpr hleads)
  have hmem : y ∈ run.1 := by
    rw [hxs]
    exact List.mem_append_right xs hy
  exact ⟨hcommits, y, hmem, hasked⟩

end Console
end StorageConsole
