import StorageConsole.Proofs.Location
import StorageConsole.Proofs.Navigation
import StorageConsole.Proofs.Numerals
import StorageConsole.Proofs.Step

/-!
Paging and searching keep their place. The path of a page is built from what the route names, so it
leads back to that, and its page number is read as it was written.
-/
namespace StorageConsole

namespace Route
variable {t : Table} {path : String}

/-- The segments of the repo list's pages. -/
def repoPages : List Segment := [.literal "repos", .literal "page", .param "page"]

/-- What the console's table is like can be found by building it. -/
@[elab_as_elim]
theorem Table.of_build_console {P : Table → Prop} (h : build consoleDeclarations = .ok t)
    (hP : ∀ t' ∈ (build consoleDeclarations).toOption, P t') : P t := by
  rw [h] at hP
  exact hP t rfl

/-- A route of the console that is closed to users is a page for guests, and only the repo list's
pages have their segments. -/
theorem entries_console (h : Table.build consoleDeclarations = .ok t) :
    ∀ e ∈ t.entries,
      (e.policy.guard true = none ∨ e.segments = [.literal "login"] ∨
        e.segments = [.literal "register"]) ∧
      (e.segments = repoPages → e.pattern = "/repos/page/:page") :=
  Table.of_build_console h (by decide +kernel)

/-- A single literal matches itself alone. -/
theorem Segment.parts_of_literal {text : String} {parts : List String} {params : Params}
    (h : matchParts [.literal text] parts = some params) : parts = [text] := by
  cases parts with
  | nil => cases h
  | cons part parts =>
    rw [matchParts, bindParts] at h
    split at h
    · next htext =>
      cases parts with
      | nil => rw [htext]
      | cons _ _ => cases h
    · cases h

/-- Users are let pass everywhere but at the pages for guests. -/
theorem guard_console_user (h : Table.build consoleDeclarations = .ok t)
    (hlogin : splitPath path ≠ ["login"]) (hregister : splitPath path ≠ ["register"]) :
    (t.resolve path).policy.guard true = none := by
  obtain hr | ⟨e, he, params, hm, hr⟩ := t.resolve_cases path
  · rw [hr]
    rfl
  · rw [hr]
    obtain hpass | hsegments | hsegments := (entries_console h e he).1
    · exact hpass
    · exact absurd (Segment.parts_of_literal (hsegments ▸ hm)) hlogin
    · exact absurd (Segment.parts_of_literal (hsegments ▸ hm)) hregister

theorem splitPath_repoPagePath (n : Nat) :
    splitPath (Workflow.repoPagePath n) = ["repos", "page", Text.showNat n] := by
  have hrepos : IsPlainPart "repos" := by decide
  have hpage : IsPlainPart "page" := by decide
  refine splitPath_of_parts ?_ ?_
  · simp [Workflow.repoPagePath]
  · simp [hrepos, hpage, RepoLocation.isPlainPart_showNat]

theorem eq_repoPages_of_matchParts {segments : List Segment} {page : String}
    {params : Segment.Params} (hmem : segments ∈ consolePatterns)
    (h : Segment.matchParts segments ["repos", "page", page] = some params) :
    segments = repoPages := by
  have hpatterns : ∀ segments ∈ consolePatterns,
      (Segment.matchParts segments ["repos", "page", page]).isSome → segments = repoPages := by
    simp only [consolePatterns, List.forall_mem_cons]
    simp [Segment.matchParts, Segment.bindParts, repoPages]
  refine hpatterns segments hmem ?_
  rw [h]
  rfl

/-- Where the path of a page of the repo list leads. -/
theorem resolve_repoPagePath (h : Table.build consoleDeclarations = .ok t) (n : Nat) :
    let route := t.resolve (Workflow.repoPagePath n)
    route.pattern = some "/repos/page/:page" ∧ route.params.get? "page" = some (Text.showNat n) ∧
      route.policy.guard true = none := by
  intro route
  have hparts := splitPath_repoPagePath n
  have hpage : route.params.get? "page" = some (Text.showNat n) := by
    rw [resolve_params, segments_console h, hparts]
    simp [consolePatterns, List.findSome?_cons, Segment.matchParts, Segment.bindParts,
      Named.get?_insert]
  refine ⟨?_, hpage, guard_console_user h (by simp [hparts]) (by simp [hparts])⟩
  obtain hr | ⟨e, he, params, hm, hr⟩ := t.resolve_cases (Workflow.repoPagePath n)
  · have hroute : route = .unmatched _ := hr
    rw [hroute] at hpage
    cases hpage
  · have hsegments : e.segments = repoPages := by
      have hmem : e.segments ∈ consolePatterns :=
        segments_console h ▸ List.mem_map_of_mem he
      rw [hparts] at hm
      exact eq_repoPages_of_matchParts hmem hm
    have hroute : route = _ := hr
    rw [hroute]
    exact congrArg some ((entries_console h e he).2 hsegments)

/-- Where the path of a page of a branch leads. -/
theorem resolve_pageUrl (h : Table.build consoleDeclarations = .ok t) {l : RepoLocation}
    (hl : l.IsPlain) (n : Nat) :
    let route := t.resolve (l.pageUrl n)
    route.params.get? "page" = some (Text.showNat n) ∧ route.policy.guard true = none := by
  intro route
  have hparts := RepoLocation.splitPath_pageUrl hl n
  refine ⟨?_, guard_console_user h (by simp [hparts]) (by simp [hparts])⟩
  rw [resolve_params, segments_console h, hparts]
  simp [consolePatterns, List.findSome?_cons, Segment.matchParts, Segment.bindParts,
    Named.get?_insert]

end Route

namespace State
variable {s : State}

theorem currentPage_of_not_lt (h : ¬ 1 < s.currentPage) : s.currentPage = 1 :=
  Nat.le_antisymm (Nat.le_of_not_lt h) (Listing.one_le_parsePage _)

end State

namespace Store
open Route
variable {s : Store} {path : String}

/-- Where the guard lets a visitor pass, he gets there. -/
theorem navigate_of_pass (h : (s.table.resolve path).policy.guard s.state.user.isSome = none) :
    (s.navigate path).2.state = { s.state with
      route := s.table.resolve path
      routeGeneration := s.state.routeGeneration + 1 } := by
  have hfollow : s.table.follow s.state.user.isSome Table.maxRedirects (s.table.resolve path) =
      (some (s.table.resolve path), []) := by
    rw [Table.maxRedirects, Table.follow, h]
  exact congrArg (·.2.state) (navigate_of_landed hfollow)

/-- A redirect takes him there, too. -/
theorem redirect_of_pass (h : (s.table.resolve path).policy.guard s.state.user.isSome = none) :
    (s.redirect path).state = { s.state with
      route := s.table.resolve path
      routeGeneration := s.state.routeGeneration + 1 } :=
  navigate_of_pass (s := s.emit (.redirected path)) h

variable (console : Table.build consoleDeclarations = .ok s.table) (user : s.state.user.isSome = true)
include console user

/-- A user who opens a page of the repo list gets there. -/
theorem redirect_repoPagePath {n : Nat} (h : n < UInt64.size) :
    let after := (s.redirect (Workflow.repoPagePath n)).state
    after.route.pattern = some "/repos/page/:page" ∧ after.currentPage = max n 1 := by
  obtain ⟨hpattern, hpage, hpass⟩ := resolve_repoPagePath console n
  rw [redirect_of_pass (user ▸ hpass)]
  refine ⟨hpattern, ?_⟩
  rw [State.currentPage, State.param?, hpage, Listing.parsePage_showNat h]

/-- A user who opens a page of a branch gets there. -/
theorem redirect_pageUrl {l : RepoLocation} (hl : l.IsPlain) {n : Nat} (h : n < UInt64.size) :
    let after := (s.redirect (l.pageUrl n)).state
    RepoLocation.ofState? after = some l ∧ after.currentPage = max n 1 := by
  obtain ⟨hpage, hpass⟩ := resolve_pageUrl console hl n
  rw [redirect_of_pass (user ▸ hpass)]
  refine ⟨?_, ?_⟩
  · rw [RepoLocation.ofState?_resolve console rfl]
    exact (RepoLocation.ofPath?_pageUrl l n).mpr hl
  · rw [State.currentPage, State.param?, hpage, Listing.parsePage_showNat h]

/-- A user who searches a branch is on its first page then. -/
theorem firstPage_of_branch {l : RepoLocation} (hl : l.IsPlain)
    (named : RepoLocation.ofState? s.state = some l) (search : String) :
    let after := ((if 1 < s.state.currentPage then s.redirect (l.pageUrl 1) else s).dispatch
      (.setCommitSearch search)).state
    RepoLocation.ofState? after = some l ∧ after.currentPage = 1 ∧ after.commitSearch = search := by
  dsimp only
  split
  · obtain ⟨hplace, hcurrent⟩ := redirect_pageUrl console user hl (by decide : 1 < UInt64.size)
    exact ⟨hplace, hcurrent, rfl⟩
  · next hfirst => exact ⟨named, State.currentPage_of_not_lt hfirst, rfl⟩

theorem firstPage_of_repos (search : String) :
    let after := ((if 1 < s.state.currentPage then s.redirect (Workflow.repoPagePath 1)
      else s).dispatch (.setRepoSearch search)).state
    after.currentPage = 1 ∧ after.repoSearch = search := by
  dsimp only
  split
  · exact ⟨(redirect_repoPagePath console user (by decide : 1 < UInt64.size)).2, rfl⟩
  · next hfirst => exact ⟨State.currentPage_of_not_lt hfirst, rfl⟩

end Store

namespace Console
open Route

/-- A workflow that begins with a look at the state goes on as it does for the state of that
moment. -/
theorem begin_state (c : Console) (gate : Gate) (next : State → Workflow Unit)
    (f : Unit → Workflow Outcome) :
    c.begin gate ((Workflow.state >>= next) >>= f) = c.begin gate (next c.state >>= f) := rfl

theorem run_repoPage (c : Console) (page : Nat) :
    (c.run (.hook (.repoPage page))).toStore =
      c.toStore.redirect (Workflow.repoPagePath (max page 1)) := rfl

theorem run_repoSearch (c : Console) (search : String) :
    (c.run (.hook (.repoSearch search))).toStore =
      (if 1 < c.state.currentPage then c.toStore.redirect (Workflow.repoPagePath 1)
        else c.toStore).dispatch (.setRepoSearch search) := by
  unfold run Operation.workflow Workflow.runHook Workflow.searchRepos
  dsimp only
  rw [begin_state]
  split
  · rfl
  · rfl

variable {c : Console} {l : RepoLocation} (named : RepoLocation.ofState? c.state = some l)
include named

theorem run_commitPage (page : Nat) :
    (c.run (.hook (.commitPage page))).toStore = c.toStore.redirect (l.pageUrl (max page 1)) := by
  unfold run Operation.workflow Workflow.runHook Workflow.openCommitPage
  dsimp only
  rw [begin_state]
  simp only [named]
  rfl

theorem run_commitSearch (search : String) :
    (c.run (.hook (.commitSearch search))).toStore =
      (if 1 < c.state.currentPage then c.toStore.redirect (l.pageUrl 1)
        else c.toStore).dispatch (.setCommitSearch search) := by
  unfold run Operation.workflow Workflow.runHook Workflow.searchCommits
  dsimp only
  rw [begin_state]
  simp only [named]
  split
  · rfl
  · rfl

end Console

namespace Console
open Route

/-- What a user of the console's own routes comes to who turns pages or searches: a page of the repo
list is that page, and a page of a branch is a page of the branch that was named before. A new search
starts from the first page. -/
theorem paging_keeps_place {c : Console} (console : Table.build consoleDeclarations = .ok c.table)
    (user : c.state.user.isSome = true)
    (published : ∃ (s : Store) (path : String),
      s.table = c.table ∧ (s.navigate path).1 = .ok c.state.route)
    (page : UInt64) (search : String) :
    let after (hook : Hook) : State := (c.run (.hook hook)).state
    ((after (.repoPage page.toNat)).route.pattern = some "/repos/page/:page" ∧
      (after (.repoPage page.toNat)).currentPage = max page.toNat 1) ∧
    (∀ l ∈ RepoLocation.ofState? c.state,
      (RepoLocation.ofState? (after (.commitPage page.toNat)) = some l ∧
        (after (.commitPage page.toNat)).currentPage = max page.toNat 1) ∧
      RepoLocation.ofState? (after (.commitSearch search)) = some l ∧
        (after (.commitSearch search)).currentPage = 1 ∧
        (after (.commitSearch search)).commitSearch = search) ∧
    (after (.repoSearch search)).currentPage = 1 ∧
      (after (.repoSearch search)).repoSearch = search := by
  intro after
  obtain ⟨s, path, htable, hlands⟩ := published
  have hroute : c.state.route = c.table.resolve c.state.route.path :=
    htable ▸ Store.resolve_of_navigate hlands
  have hplain : ∀ l, RepoLocation.ofState? c.state = some l → l.IsPlain := by
    intro l hl
    exact RepoLocation.isPlain_of_ofPath? ((RepoLocation.ofState?_resolve console hroute).symm.trans hl)
  have hpage : max page.toNat 1 < UInt64.size := Nat.max_lt.mpr ⟨page.toNat_lt, by decide⟩
  have hmax : max (max page.toNat 1) 1 = max page.toNat 1 := by omega
  refine ⟨?_, fun l hl => ⟨?_, ?_⟩, ?_⟩
  · have hafter : after (.repoPage page.toNat) = _ := congrArg Store.state (run_repoPage c _)
    obtain ⟨hpattern, hcurrent⟩ := Store.redirect_repoPagePath console user hpage
    rw [hafter]
    exact ⟨hpattern, hcurrent.trans hmax⟩
  · have hafter : after (.commitPage page.toNat) = _ := congrArg Store.state (run_commitPage hl _)
    obtain ⟨hplace, hcurrent⟩ := Store.redirect_pageUrl console user (hplain l hl) hpage
    rw [hafter]
    exact ⟨hplace, hcurrent.trans hmax⟩
  · have hafter : after (.commitSearch search) = _ := congrArg Store.state (run_commitSearch hl _)
    rw [hafter]
    exact Store.firstPage_of_branch console user (hplain l hl) hl search
  · have hafter : after (.repoSearch search) = _ := congrArg Store.state (run_repoSearch c _)
    rw [hafter]
    exact Store.firstPage_of_repos console user search

/-- A user who has just logged in. -/
def arrived (table : Table) : Console :=
  (start .default table (.memory .empty)).run
    (.dispatch (.setUser (some { Credentials.empty with name := "ann" })))

/-- He goes to a page of a branch, beyond the first one. -/
def onBranch (table : Table) : Console :=
  (arrived table).run (.navigate "/repo/ann/apples/dev/page/007x?page=3")

theorem paging_keeps_place_onBranch :
    ∃ table, Table.build consoleDeclarations = .ok table ∧
      let c := onBranch table
      c.state.user.isSome ∧ c.state.currentPage = 7 ∧
      (∃ (s : Store) (path : String),
        s.table = c.table ∧ (s.navigate path).1 = .ok c.state.route) ∧
      RepoLocation.ofState? (c.run (.hook (.commitPage 0))).state = some ⟨"ann", "apples", "dev"⟩ ∧
      (c.run (.hook (.commitPage 0))).state.currentPage = 1 ∧
      RepoLocation.ofState? (c.run (.hook (.commitSearch "fix"))).state =
        some ⟨"ann", "apples", "dev"⟩ ∧
      (c.run (.hook (.repoSearch "fix"))).state.currentPage = 1 := by
  let table : Table := (Table.build consoleDeclarations).toOption.getD .empty
  have hbuild : Table.build consoleDeclarations = .ok table := by decide +kernel
  have huser : (onBranch table).state.user.isSome = true := rfl
  have hseventh : (onBranch table).state.currentPage = 7 := by decide +kernel
  have hnamed : RepoLocation.ofState? (onBranch table).state = some ⟨"ann", "apples", "dev"⟩ := by
    decide +kernel
  have hlands : ((arrived table).navigate "/repo/ann/apples/dev/page/007x?page=3").1 =
      .ok (onBranch table).state.route := by
    decide +kernel
  have hpublished : ∃ (s : Store) (path : String),
      s.table = (onBranch table).table ∧ (s.navigate path).1 = .ok (onBranch table).state.route :=
    ⟨(arrived table).toStore, _, rfl, hlands⟩
  obtain ⟨_, hbranch, hrepos, _⟩ := paging_keeps_place hbuild huser hpublished 0 "fix"
  obtain ⟨⟨hplace, hcurrent⟩, hsearched, _, _⟩ := hbranch _ hnamed
  exact ⟨table, hbuild, huser, hseventh, hpublished, hplace, hcurrent, hsearched, hrepos⟩

end Console
end StorageConsole
