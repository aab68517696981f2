import StorageConsole.Console

/-!
Watching: what is shown while the control loop keeps a route's data fresh. Redirects and messages
are shown as they come, and the repos whenever their number has changed.
-/
namespace StorageConsole.CommandLine

/-- What has been shown so far. -/
structure Watch where
  signals : Nat
  repos : Option Nat
  deriving DecidableEq, Repr, Inhabited

namespace Watch

/-- What happened before is not shown. -/
def start (c : Console) : Watch := ⟨c.signals.length, none⟩

def signalLine? : Signal → Option String
  | .redirected text | .message text => some ("> " ++ text)
  | _ => none

def repoLine (repos : List Repo) : String :=
  let size := repos.foldl (fun size r => size + r.topLevel.sizeBytes.toInt) 0
  Text.showNat repos.length ++ " repos, " ++ Volume.sizeLabel size ++ " total"

/-- The lines for all that is new. -/
def report (w : Watch) (c : Console) : List String × Watch :=
  let news := (c.signals.drop w.signals).filterMap signalLine?
  let count := c.state.repos.length
  if c.state.reposLoaded && w.repos != some count then
    (news ++ [repoLine c.state.repos], ⟨c.signals.length, some count⟩)
  else (news, { w with signals := c.signals.length })

end Watch

end StorageConsole.CommandLine
