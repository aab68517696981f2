import StorageConsole.Route.Guard
import StorageConsole.Route.Pattern
import StorageConsole.Text.Quoted

/-!
Route tables. A table is built from declarations, each of which must have a sound pattern and may
name only a control loop hook that can run without a payload; the first route that matches a path
is taken.
-/
namespace StorageConsole.Route

/-- A route as it is written down. -/
structure Declaration where
  pattern : String
  user : Option Bool
  redirect : Option String
  hook : Option String
  deriving DecidableEq, Repr, Inhabited

structure Entry where
  pattern : String
  segments : List Segment
  policy : Policy
  deriving DecidableEq, Repr

/-- Why a declaration is refused; each carries the declared pattern. -/
inductive TableError where
  | badPattern (pattern : String) (error : PatternError)
  | unknownHook (pattern hook : String)
  | hookNeedsPayload (pattern : String) (hook : HookName)
  deriving DecidableEq, Repr

def TableError.message : TableError → String
  | badPattern pattern .wildcardInside =>
    "wildcard must be the last segment in " ++ Text.quoted pattern
  | badPattern pattern .unnamedParameter => "unnamed parameter in " ++ Text.quoted pattern
  | unknownHook pattern hook =>
    "route " ++ Text.quoted pattern ++ ": " ++ HookName.unknownMessage hook
  | hookNeedsPayload pattern hook =>
    "route " ++ Text.quoted pattern ++ " uses " ++ hook.text
      ++ " as a control loop hook but it needs a payload"

/-- A control loop hook by its name. -/
def checkHook (pattern : String) : Option String → Except TableError (Option HookName)
  | none => .ok none
  | some name =>
    match HookName.ofText? name with
    | none => .error (.unknownHook pattern name)
    | some hook =>
      if hook.isRefreshable then .ok (some hook) else .error (.hookNeedsPayload pattern hook)

def Declaration.check (d : Declaration) : Except TableError Entry := do
  let segments ← (Segment.parse d.pattern).mapError (.badPattern d.pattern)
  let hook ← checkHook d.pattern d.hook
  return ⟨d.pattern, segments, ⟨d.user, d.redirect, hook⟩⟩

/-- A path with the route that it leads to, if there is one. -/
structure Match where
  path : String
  pattern : Option String
  params : Segment.Params
  policy : Policy
  deriving DecidableEq, Repr

namespace Match

/-- A path that no route matches. -/
def unmatched (path : String) : Match := ⟨path, none, .empty, .unspecified⟩

instance : Inhabited Match := ⟨unmatched ""⟩

end Match

def Entry.matchPath? (e : Entry) (path : String) : Option Match :=
  (Segment.matchParts e.segments (splitPath path)).map fun params =>
    ⟨path, some e.pattern, params, e.policy⟩

structure Table where
  entries : List Entry
  deriving DecidableEq, Repr, Inhabited

namespace Table

def empty : Table := ⟨[]⟩

def checkAll : List Declaration → Except TableError (List Entry)
  | [] => .ok []
  | d :: ds => do return (← d.check) :: (← checkAll ds)

def build (declarations : List Declaration) : Except TableError Table := do
  return ⟨← checkAll declarations⟩

/-- The first route that matches. -/
def resolve (t : Table) (path : String) : Match :=
  (t.entries.findSome? (·.matchPath? path)).getD (.unmatched path)

/-- Guard redirects followed before a navigation is given up. -/
def maxRedirects : Nat := 8

/-- Follows the guard from a match for at most `fuel` redirects: the match that the guard lets
pass, if one is reached, and the targets on the way. -/
def follow (t : Table) (hasUser : Bool) : Nat → Match → Option Match × List String
  | fuel, m =>
    match m.policy.guard hasUser with
    | none => (some m, [])
    | some target =>
      match fuel with
      | 0 => (none, [target])
      | fuel + 1 =>
        let (landed, targets) := follow t hasUser fuel (t.resolve target)
        (landed, target :: targets)

end Table

/-- The routes of the storage console. -/
def consoleDeclarations : List Declaration :=
  let open_ (pattern : String) : Declaration := ⟨pattern, none, none, none⟩
  let private_ (pattern : String) (hook : Option HookName) : Declaration :=
    ⟨pattern, some true, some "/login", hook.map (·.text)⟩
  let guest (pattern : String) : Declaration := ⟨pattern, some false, some "/dashboard", none⟩
  [ open_ "/", open_ "", open_ "/help", open_ "/help/*",
    private_ "/dashboard" none,
    private_ "/servers" (some .repoList),
    private_ "/repos" (some .repoList),
    private_ "/repos/page/:page" (some .repoList),
    private_ "/repo/:namespace/:name" (some .repoList),
    private_ "/repo/:namespace/:name/:branch" (some .commitList),
    private_ "/repo/:namespace/:name/:branch/page/:page" (some .commitList),
    private_ "/payment" (some .configLoad),
    guest "/login", guest "/register" ]

end StorageConsole.Route
