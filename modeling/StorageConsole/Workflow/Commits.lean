import StorageConsole.Workflow.Repos

/-!
The commits of the branch that the route names, and the collaborators of its repo.
-/
namespace StorageConsole.Workflow

/-- Loads the commits of a branch; when that fails there are none. -/
def loadCommits (branchId : String) : Workflow Unit := do
  match (← call .commitList branchId).toExcept with
  | .ok commits => set (.setCommits (commits.getD []))
  | .error _ => set (.setCommits [])

/-- Loads the commits of the route's branch. The repos are reloaded if the list does not know the
route's repo. -/
def listCommits : Workflow Unit := do
  let before ← state
  match RepoLocation.ofState? before with
  | none => return ()
  | some location =>
    if (before.findRepo? location.space location.name).isNone then
      listRepos
    match (← state).branchId? location with
    | some branchId => loadCommits branchId
    | none => set (.setCommits [])

/-- A new search starts from the first page. -/
def searchCommits (search : String) : Workflow Unit := do
  let s ← state
  if let some location := RepoLocation.ofState? s then
    if 1 < s.currentPage then
      goTo (location.pageUrl 1)
  set (.setCommitSearch search)

def openCommitPage (page : Nat) : Workflow Unit := do
  if let some location := RepoLocation.ofState? (← state) then
    goTo (location.pageUrl (max page 1))

def nameCollaborator (name : String) : Workflow Unit := set (.setCollaboratorName name)

/-- Lets somebody into a repo and reloads the repos. -/
def invite (repo : Repo) (collaborator : String) : Workflow Bool := do
  set (.setCollaboratorFormLoading true)
  let result ← call .invite ⟨repo.id, collaborator⟩
  set (.setCollaboratorFormLoading false)
  match result.toExcept with
  | .error message =>
    tell message
    return false
  | .ok _ =>
    set (.setCollaboratorName "")
    tell (collaborator ++ " added as a collaborator to " ++ repo.title)
    listRepos
    return true

/-- Lets the collaborator that was named into the repo of the route. -/
def addCollaborator : Workflow Bool := do
  let s ← state
  let collaborator := Text.trim s.collaboratorName
  if collaborator.isEmpty then
    tell "enter a collaborator name"
    return false
  else
    match RepoLocation.ofState? s with
    | none =>
      tell "open a repo to add collaborators"
      return false
    | some location =>
      match s.findRepo? location.space location.name with
      | none =>
        tell ("repo " ++ location.space ++ " / " ++ location.name ++ " not found")
        return false
      | some repo => invite repo collaborator

end StorageConsole.Workflow
