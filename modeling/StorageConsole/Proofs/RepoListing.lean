import StorageConsole.Proofs.Listings
import StorageConsole.Proofs.NamedRepo
import StorageConsole.Proofs.Paging
import StorageConsole.Proofs.SessionRestore
import StorageConsole.Proofs.Submission

/-!
The repo list shows what the backend has. After a load, the pages that a user can open hold together
just those of the answered repos that the search finds, in the order of their names; after a load
that fails there are none.
-/
namespace StorageConsole

open Backend (Api CallError LoadResult Reply Request)
open Listing (Holds StablySorted)
open Route (Table consoleDeclarations)

/-- The servers that are shown when a load of the list has ended. -/
def serversOf : Except CallError (Api.repoList.Answer × Json) → List Server
  | .ok (inventory, _) => inventory.servers
  | .error _ => []

namespace Store

/-- A page of the repo list, as it is shown to somebody who has entered a search and opens it. -/
def repoPageAt (s : Store) (search : String) (page size : Nat) : Listing.Page Repo :=
  ((s.dispatch (.setRepoSearch search)).navigate (Workflow.repoPagePath page)).2.state.repoPage size

variable {s : Store}

/-- A user is shown the page that he opens of what the search finds. -/
theorem repoPageAt_eq (console : Table.build consoleDeclarations = .ok s.table)
    (user : s.state.user.isSome = true) (search : String) {page : Nat} (hpage : page < UInt64.size)
    (size : Nat) :
    s.repoPageAt search page size =
      Listing.paginate (s.state.repos.filter fun repo => Holds search repo.name) (max page 1)
        size := by
  obtain ⟨_, hparam, hpass⟩ := Route.resolve_repoPagePath console page
  let route := s.table.resolve (Workflow.repoPagePath page)
  have hcurrent : Listing.parsePage (route.params.get? "page") = max page 1 := by
    rw [hparam, Listing.parsePage_showNat hpage]
  rw [repoPageAt, navigate_of_pass (s := s.dispatch (.setRepoSearch search)) (user ▸ hpass),
    ← Listing.search_eq_filter, ← hcurrent]
  rfl

/-- The pages that a user can open hold together what the search finds, in its order. -/
theorem repoPages_eq (console : Table.build consoleDeclarations = .ok s.table)
    (user : s.state.user.isSome = true) (hlength : s.state.repos.length < UInt64.size)
    (search : String) (size : Nat) :
    let shown (page : Nat) := s.repoPageAt search page size
    let count := (shown 1).count
    (∀ page ∈ List.range' 1 count, (shown page).current = page ∧ (shown page).count = count) ∧
      ((List.range' 1 count).flatMap fun page => (shown page).items) =
        s.state.repos.filter fun repo => Holds search repo.name := by
  intro shown count
  let found := s.state.repos.filter fun repo => Holds search repo.name
  have hfound : found.length < UInt64.size := Nat.lt_of_le_of_lt (List.length_filter_le _ _) hlength
  have hcount : count = Listing.pageCount found.length size :=
    congrArg Listing.Page.count (repoPageAt_eq console user search (by decide) size)
  have hshown : ∀ page ∈ List.range' 1 count, shown page = Listing.paginate found page size := by
    intro page hpage
    obtain ⟨hfirst, hlast⟩ := List.mem_range'_1.mp hpage
    have hbound : page < UInt64.size := by
      have hle := Listing.pageCount_le found.length size
      omega
    refine (repoPageAt_eq console user search hbound size).trans ?_
    rw [Nat.max_eq_left hfirst]
  constructor
  · intro page hpage
    rw [hshown page hpage]
    exact ⟨rfl, hcount.symm⟩
  · have hitems : ∀ page ∈ List.range' 1 count, (shown page).items =
        Listing.pageItems found page size :=
      fun page hpage => congrArg Listing.Page.items (hshown page hpage)
    rw [List.flatMap_congr hitems, hcount]
    exact Listing.flatMap_pageItems hfound size

end Store

namespace Console
variable {σ : Type} {c : Console}

/-- All that is left of a load is the list, which may now count as loaded, and the records of the
call. -/
theorem ends_listRepos_toStore (c : Console) :
    Ends Workflow.listRepos c fun xs _ d => ∃ listed, c.Called .repoList () xs listed ∧
      ∃ calls reposLoaded version, d.toStore =
        { c.toStore with
          version
          state := { c.state with
            calls, reposLoaded, repos := reposOf listed, servers := serversOf listed } } := by
  unfold Workflow.listRepos
  rw [ends_bind]
  refine ends_call fun xs listed hcalled => ?_
  obtain ⟨calls, version, hstore⟩ := afterCall_toStore c .repoList () listed
  rw [← List.append_nil xs] at hcalled
  rcases listed with error | ⟨inventory, raw⟩
  · refine ends_set.mpr ⟨_, hcalled, calls, c.state.reposLoaded, version + 1, ?_⟩
    change (c.afterCall .repoList () (.error error)).toStore.dispatch _ = _
    rw [hstore]
    rfl
  · refine ends_bind.mpr (ends_set.mpr (ends_set.mpr ⟨_, hcalled, calls, true, version + 1 + 1, ?_⟩))
    change ((c.afterCall .repoList () (.ok (inventory, raw))).toStore.dispatch _).dispatch _ = _
    rw [hstore]
    rfl

/-- The list that is shown is the one that is heard from the backend. -/
theorem attempt_repoList (config : Config) (backend : Request → StateM σ Reply) (c : Console)
    (s : σ) :
    let listed := heard backend s ⟨c, .repoList, ()⟩
    ∃ calls reposLoaded version, (attempt config backend .repoList c s).2.toStore =
      { c.toStore with
        version
        state := { c.state with
          calls, reposLoaded, repos := reposOf listed, servers := serversOf listed } } := by
  intro listed
  obtain ⟨answered, hcalled, hstore⟩ :=
    attempt_keeps config .repoList (ends_listRepos_toStore c) backend s
  obtain rfl : answered = listed := hcalled.outcome_eq (answeredBy_exchanges ..)
  exact hstore

/-- The list of repos shows just what the backend has answered: after a load the stable sort by
name, of which the pages together hold what the search finds, in the same order; and nothing after a
load that has failed. The length of a list is a 64-bit word. -/
theorem repo_pages_show_inventory (config : Config) {c : Console}
    (console : Table.build consoleDeclarations = .ok c.table) (user : c.state.user.isSome = true)
    (backend : Request → StateM σ Reply) (s : σ) :
    let after := (attempt config backend .repoList c s).2
    (∀ inventory, Answers backend s ⟨c, .repoList, ()⟩ inventory →
      StablySorted Repo.name inventory.repos after.state.repos ∧
        after.state.servers = inventory.servers ∧
        (inventory.repos.length < UInt64.size → ∀ (search : String) (size : Nat),
          let shown (page : Nat) := after.repoPageAt search page size
          let count := (shown 1).count
          (∀ page ∈ List.range' 1 count, (shown page).current = page ∧ (shown page).count = count) ∧
            StablySorted Repo.name (inventory.repos.filter fun repo => Holds search repo.name)
              ((List.range' 1 count).flatMap fun page => (shown page).items))) ∧
      ((∀ inventory, ¬ Answers backend s ⟨c, .repoList, ()⟩ inventory) →
        after.state.repos = [] ∧ after.state.servers = []) := by
  intro after
  obtain ⟨calls, reposLoaded, version, hstore⟩ := attempt_repoList config backend c s
  change after.toStore = _ at hstore
  constructor
  · intro inventory hanswers
    obtain ⟨raw, hheard⟩ := answers_iff.mp hanswers
    rw [hheard] at hstore
    have hsorted : StablySorted Repo.name inventory.repos after.state.repos := by
      rw [hstore]
      exact Listing.stablySorted_sortByLabel _ _
    refine ⟨hsorted, ?_, fun hlength search size => ?_⟩
    · rw [hstore]
      rfl
    · have htable : Table.build consoleDeclarations = .ok after.table := by
        rw [hstore]
        exact console
      have hlogged : after.state.user.isSome = true := by
        rw [hstore]
        exact user
      obtain ⟨hpages, hitems⟩ := Store.repoPages_eq htable hlogged
        (hsorted.perm.length_eq.symm ▸ hlength) search size
      refine ⟨hpages, ?_⟩
      rw [hitems]
      exact hsorted.filter _
  · intro hfails
    have hempty : reposOf (heard backend s ⟨c, .repoList, ()⟩) = [] ∧
        serversOf (heard backend s ⟨c, .repoList, ()⟩) = [] := by
      rcases hheard : heard backend s ⟨c, .repoList, ()⟩ with error | ⟨inventory, raw⟩
      · exact ⟨rfl, rfl⟩
      · exact absurd (answers_iff.mpr ⟨raw, hheard⟩) (hfails inventory)
    rw [hstore]
    exact hempty

/-- A volume that has nothing but an id and a name. -/
def named (id name : String) : Repo :=
  { Repo.empty with topLevel := { Volume.empty with id, name := ⟨"", name⟩ } }

/-- Volumes of which two have one name. -/
def fruits : Inventory := ⟨[named "1" "plum", named "2" "fig", named "3" "plum"], [⟨"s", []⟩]⟩

/-- A backend that answers with them, each record written as the list of its first fields. -/
def stocked (_ : Request) : StateM Unit Reply :=
  let volume (id name : String) := "[[\"" ++ id ++ "\",[\"\",\"" ++ name ++ "\"]]]"
  pure (CommandLine.replyTo 0 ("[[" ++ volume "1" "plum" ++ "," ++ volume "2" "fig" ++ "," ++
    volume "3" "plum" ++ "],[[\"s\"]]]"))

/-- A backend that cannot be reached. -/
def unreachable (_ : Request) : StateM Unit Reply := pure .unreachable

theorem answers_stocked (table : Table) :
    Answers stocked () ⟨arrived table, .repoList, ()⟩ fruits := by
  have hdecoded : ((Api.repoList.answerOf (some 0) ((stocked default).run ()).1).map
      Prod.fst).toOption = some fruits := by
    decide +kernel
  rcases hanswer : Api.repoList.answerOf (some 0) ((stocked default).run ()).1
    with error | ⟨answer, raw⟩
  · rw [hanswer] at hdecoded
    cases hdecoded
  · rw [hanswer] at hdecoded
    cases hdecoded
    exact ⟨some 0, raw, rfl, hanswer⟩

theorem repo_pages_show_inventory_fruits :
    ∃ table, Table.build consoleDeclarations = .ok table ∧
      let c := arrived table
      (c.state.user.isSome ∧ Answers stocked () ⟨c, .repoList, ()⟩ fruits) ∧
      let after := (attempt .default stocked .repoList c ()).2
      let count := (after.repoPageAt "P l!" 1 2).count
      StablySorted Repo.name fruits.repos after.state.repos ∧
      StablySorted Repo.name [named "1" "plum", named "3" "plum"]
        ((List.range' 1 count).flatMap fun page => (after.repoPageAt "P l!" page 2).items) ∧
      (attempt .default unreachable .repoList c ()).2.state.repos = [] := by
  let table : Table := (Table.build consoleDeclarations).toOption.getD .empty
  have hbuild : Table.build consoleDeclarations = .ok table := by decide +kernel
  have huser : (arrived table).state.user.isSome = true := rfl
  have hanswers := answers_stocked table
  obtain ⟨hsorted, _, hpages⟩ :=
    (repo_pages_show_inventory .default hbuild huser stocked ()).1 fruits hanswers
  have hfound : (fruits.repos.filter fun repo => Holds "P l!" repo.name) =
      [named "1" "plum", named "3" "plum"] := by
    decide
  have hfails : ∀ inventory, ¬ Answers unreachable () ⟨arrived table, .repoList, ()⟩ inventory := by
    rintro inventory ⟨id, raw, _, hanswer⟩
    cases hanswer
  have hempty := (repo_pages_show_inventory .default hbuild huser unreachable ()).2 hfails
  rw [← hfound]
  exact ⟨table, hbuild, ⟨huser, hanswers⟩, hsorted, (hpages (by decide) "P l!" 2).2, hempty.1⟩

end Console
end StorageConsole
