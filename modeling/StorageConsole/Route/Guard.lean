import StorageConsole.Hook

/-!
Access to routes. A route may be open to everybody, to users only or to guests only; whoever may
not see it is sent elsewhere.
-/
namespace StorageConsole.Route

inductive Access where
  | everybody
  | usersOnly
  | guestsOnly
  deriving DecidableEq, Repr, Inhabited

namespace Access

def ofUser : Option Bool → Access
  | none => everybody
  | some true => usersOnly
  | some false => guestsOnly

/-- Whether somebody who has or has not logged in may see the route. -/
def allows (access : Access) (hasUser : Bool) : Bool :=
  match access with
  | everybody => true
  | usersOnly => hasUser
  | guestsOnly => !hasUser

end Access

/-- Who may see a route, where others are sent, and what a control loop loads on it. -/
structure Policy where
  user : Option Bool
  redirect : Option String
  hook : Option HookName
  deriving DecidableEq, Repr, Inhabited

namespace Policy

def unspecified : Policy := ⟨none, none, none⟩

def access (p : Policy) : Access := .ofUser p.user

/-- Where the guard sends a visitor, or nothing when the visitor may stay. -/
def guard (p : Policy) (hasUser : Bool) : Option String :=
  if p.access.allows hasUser then none else some (p.redirect.getD "/")

end Policy

end StorageConsole.Route
