import StorageConsole.Listing.Page
import StorageConsole.Listing.Search
import StorageConsole.State.Basic

/-!
What a front end shows of the state: the lists narrowed by their search, one page at a time, and
the repo and branch that the route names.
-/
namespace StorageConsole

/-- A branch of a repo, as a route names it. -/
structure RepoLocation where
  space : String
  name : String
  branch : String
  deriving DecidableEq, Repr, Inhabited

namespace RepoLocation

/-- A route without a branch means the master branch. -/
def ofState? (s : State) : Option RepoLocation := do
  return ⟨← s.param? "namespace", ← s.param? "name", (s.param? "branch").getD masterBranch⟩

def url (l : RepoLocation) : String := "/repo/" ++ l.space ++ "/" ++ l.name ++ "/" ++ l.branch

/-- The path of one page of the branch's commits. -/
def pageUrl (l : RepoLocation) (page : Nat) : String := l.url ++ "/page/" ++ Text.showNat page

end RepoLocation

namespace State

/-- The first repo of that name. -/
def findRepo? (s : State) (space name : String) : Option Repo :=
  s.repos.find? (·.isNamed space name)

/-- The id of the volume behind a branch, as far as the repos are loaded. -/
def branchId? (s : State) (l : RepoLocation) : Option String := do
  return (← (← s.findRepo? l.space l.name).branch? l.branch).id

/-- The page that the route names. -/
def currentPage (s : State) : Nat := Listing.parsePage (s.param? "page")

def foundRepos (s : State) : List Repo := Listing.search s.repos s.repoSearch Repo.name

def repoPage (s : State) (size : Nat) : Listing.Page Repo :=
  Listing.paginate s.foundRepos s.currentPage size

def foundCommits (s : State) : List Commit := Listing.search s.commits s.commitSearch Commit.label

def commitPage (s : State) (size : Nat) : Listing.Page Commit :=
  Listing.paginate s.foundCommits s.currentPage size

end State

end StorageConsole
