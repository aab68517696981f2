import StorageConsole.CommandLine.Arguments

/-!
The commands of the command line. General options stand in front of the command's name, the
command's own arguments behind it.
-/
namespace StorageConsole.CommandLine

inductive Command where
  | login (name password : String) (remember : Bool)
  | logout
  | whoami
  | register (email name password : String)
  | repos (search : Option String) (page : Nat)
  | createRepo (name : String)
  | commits (space name branch : String) (search : Option String) (page : Nat)
  | addCollaborator (space name collaborator : String)
  | plans
  | pay (plan token : String)
  /-- Follows a route and shows what is loaded on it. -/
  | watch (path : String)
  deriving DecidableEq, Repr

/-- A command's name with its rule and what its arguments mean. -/
structure CommandRule where
  name : String
  rule : ArgumentRule
  command : Taken → Command

def withoutArguments : ArgumentRule := ⟨[], [], 0, 0⟩

def commandRules : List CommandRule :=
  [ ⟨"login", ⟨[⟨"remember", .flag⟩], [], 2, 2⟩,
      fun t => .login (t.place 0) (t.place 1) (t.value? "remember" != some "false")⟩,
    ⟨"logout", withoutArguments, fun _ => .logout⟩,
    ⟨"whoami", withoutArguments, fun _ => .whoami⟩,
    ⟨"register",
      ⟨[⟨"email", .text⟩, ⟨"name", .text⟩, ⟨"password", .text⟩], ["email", "name", "password"], 0, 0⟩,
      fun t => .register ((t.value? "email").getD "") ((t.value? "name").getD "")
        ((t.value? "password").getD "")⟩,
    ⟨"repos", ⟨[⟨"search", .text⟩, ⟨"page", .count⟩], [], 0, 0⟩,
      fun t => .repos (t.value? "search") (t.count "page" 1)⟩,
    ⟨"create-repo", ⟨[], [], 1, 1⟩, fun t => .createRepo (t.place 0)⟩,
    ⟨"commits", ⟨[⟨"branch", .text⟩, ⟨"search", .text⟩, ⟨"page", .count⟩], [], 2, 2⟩,
      fun t => .commits (t.place 0) (t.place 1) ((t.value? "branch").getD "master")
        (t.value? "search") (t.count "page" 1)⟩,
    ⟨"add-collaborator", ⟨[], [], 3, 3⟩,
      fun t => .addCollaborator (t.place 0) (t.place 1) (t.place 2)⟩,
    ⟨"plans", withoutArguments, fun _ => .plans⟩,
    ⟨"pay", ⟨[⟨"plan", .text⟩, ⟨"token", .text⟩], ["plan", "token"], 0, 0⟩,
      fun t => .pay ((t.value? "plan").getD "") ((t.value? "token").getD "")⟩,
    ⟨"watch", ⟨[], [], 0, 1⟩, fun t => .watch (t.places.headD "/repos")⟩ ]

def rule? (name : String) : Option CommandRule := commandRules.find? (·.name == name)

/-- A command with the general options, which override the settings. -/
structure Invocation where
  serverUrl : Option String
  config : Option String
  sessionFolder : Option String
  command : Command
  deriving DecidableEq, Repr

def generalRule : ArgumentRule :=
  ⟨[⟨"server-url", .text⟩, ⟨"config", .path⟩, ⟨"session-dir", .path⟩], [], 0, 0⟩

/-- Help on a command, or on all of them. -/
def readHelp (args : List String) : Refusal :=
  match args with
  | [] => .help
  | [name] => if name == "help" || (rule? name).isSome then .help else .wrong
  | _ => .wrong

/-- Reads the command behind the general options. What its arguments ask for comes before a fault
of the last general option. -/
def readCommand (general : Except Refusal Taken) (name : String) (args : List String) :
    Except Refusal Invocation := do
  if name = "help" then throw (readHelp args)
  match rule? name with
  | none => throw .wrong
  | some rule =>
    match rule.rule.read args with
    | .error refusal => throw refusal
    | .ok taken =>
      let options ← general
      return {
        serverUrl := options.value? "server-url"
        config := options.value? "config"
        sessionFolder := options.value? "session-dir"
        command := rule.command taken }

/-- Takes general options up to the command's name. A value that stands apart is looked at only
when the next argument has been. -/
def readGeneral : List String → Except Refusal Taken → Except Refusal Invocation
  | [], _ => .error .wrong
  | text :: rest, general =>
    match Word.ofText text with
    | .plain name => readCommand general name rest
    | .divider => .error .wrong
    | .letters cs => general.bind fun _ => .error (refuseLetters cs)
    | .option "help" none => general.bind fun _ => .error .help
    | .option name value =>
      match general, generalRule.option? name, value with
      | .error _, _, _ | _, none, _ => .error .wrong
      | .ok taken, some option, some value =>
        (taken.giveValue option value).bind fun taken => readGeneral rest (.ok taken)
      | .ok taken, some option, none =>
        match rest with
        | [] => .error .wrong
        | next :: rest =>
          match Word.ofText next with
          | .plain value => readGeneral rest (taken.giveValue option value)
          | .divider | .letters _ | .option _ _ => .error .wrong

/-- What the arguments of a run ask for. -/
def read (args : List String) : Except Refusal Invocation := readGeneral args (.ok default)

end StorageConsole.CommandLine
