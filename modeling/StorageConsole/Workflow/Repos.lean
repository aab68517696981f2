import StorageConsole.State.View
import StorageConsole.Text.Blank
import StorageConsole.Workflow.Basic

/-!
The repo list, and the form that creates a repo.
-/
namespace StorageConsole.Workflow

/-- Reloads the repos in the order of their names; when that fails the list is emptied. -/
def listRepos : Workflow Unit := do
  match (← call .repoList ()).toExcept with
  | .ok inventory =>
    set (.setReposLoaded true)
    set (.setRepos (Listing.sortByLabel Repo.name inventory.repos) inventory.servers)
  | .error _ => set (.setRepos [] [])

def repoPagePath (page : Nat) : String := "/repos/page/" ++ Text.showNat page

/-- A new search starts from the first page. -/
def searchRepos (search : String) : Workflow Unit := do
  if 1 < (← state).currentPage then
    goTo (repoPagePath 1)
  set (.setRepoSearch search)

def openRepoPage (page : Nat) : Workflow Unit := goTo (repoPagePath (max page 1))

def resetRepoForm : Workflow Unit := set (.resetForm .repo)

/-- Creates a volume unless the reloaded list has one of its name. -/
def createRepo (volume : VolumeName) : Workflow Bool := do
  set (.setRepoFormLoading true)
  listRepos
  if ((← state).findRepo? volume.space volume.name).isSome then
    set (.setRepoFormLoading false)
    tell ("repo with name: " ++ volume.title ++ " already exists")
    return false
  else
    let result ← call .repoCreate volume
    set (.setRepoFormLoading false)
    match result.toExcept with
    | .error message =>
      tell message
      return false
    | .ok _ =>
      tell ("repo " ++ volume.title ++ " created")
      goTo "/repos"
      return true

/-- Creates the repo named by the repo form, in the namespace of the user. -/
def submitRepoForm : Workflow Bool := do
  match ← validForm .repo with
  | none => return false
  | some values =>
    match (← state).userName? with
    | none =>
      tell "log in to create a repo"
      return false
    | some user => createRepo ⟨user, Text.trim (values.textOnly "Name")⟩

end StorageConsole.Workflow
