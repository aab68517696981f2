import StorageConsole.State.Basic

/-!
The state as JSON, for front ends that keep a copy of it: one entry for each part of the state, one
for each api and one for each form that has been set.
-/
namespace StorageConsole

namespace Json

def ofText? (text : Option String) : Json := (text.map str).getD null

def ofNat (n : Nat) : Json := int n

end Json

open Json (ofText? ofNat)
open Backend (Api)

def Route.Match.encode (m : Route.Match) : Json :=
  .obj [("path", .str m.path), ("pattern", ofText? m.pattern), ("params", encodeTexts m.params),
    ("user", (m.policy.user.map Json.bool).getD .null),
    ("auth_redirect", ofText? m.policy.redirect),
    ("hook", ofText? (m.policy.hook.map HookName.text))]

def FormSnapshot.encode (f : FormSnapshot) : Json :=
  .obj [("valid", .bool f.valid), ("touched", .bool f.touched), ("values", f.values.toJson)]

def Signal.encode : Signal → Json
  | loginFailed text => .arr [.str "AuthLoginError", .str text]
  | loggedIn => .arr [.str "AuthLoginSuccess"]
  | registrationFailed text => .arr [.str "AuthRegisterError", .str text]
  | registered => .arr [.str "AuthRegisterSuccess"]
  | redirected path => .arr [.str "Redirect", .str path]
  | message text => .arr [.str "Message", .str text]

def AuthPhase.text : AuthPhase → String
  | loggedOut => "LoggedOut"
  | loggingIn => "LoggingIn"
  | loggedIn => "LoggedIn"

def CallState.encode (c : CallState) : Json :=
  .obj [("loading", .bool c.loading), ("error", ofText? c.error),
    ("last_answer", c.lastAnswer.getD .null), ("ticket", ofNat c.ticket)]

namespace State

/-- The parts of the state under their names. -/
def entries (s : State) : List (String × Json) :=
  [("user", (s.user.map Credentials.encode).getD .null), ("auth_phase", .str s.authPhase.text),
    ("remote_config", s.publicConfig.encode), ("initialized", .bool s.initialized),
    ("repos", .arr (s.repos.map Repo.encode)), ("servers", .arr (s.servers.map Server.encode)),
    ("repos_loaded", .bool s.reposLoaded), ("repo_search", .str s.repoSearch),
    ("commits", .arr (s.commits.map Commit.encode)), ("commit_search", .str s.commitSearch),
    ("application_message", ofText? s.applicationMessage),
    ("repo_form_loading", .bool s.repoFormLoading),
    ("collaborator_name", .str s.collaboratorName),
    ("collaborator_form_loading", .bool s.collaboratorFormLoading),
    ("payment_loading", .bool s.paymentLoading), ("route", s.route.encode),
    ("route_generation", ofNat s.routeGeneration)]
    ++ Api.all.map (fun api => ("api." ++ api.text, (s.calls api).encode))
    ++ FormName.all.filterMap fun form =>
      (s.forms form).map fun f => ("form." ++ form.text, f.encode)

/-- The entries that another copy of the state does not have. -/
def newEntries (before after : List (String × Json)) : List (String × Json) :=
  after.filter fun (name, j) => !before.any fun (old, k) => old == name && k.isSame j

end State

end StorageConsole
