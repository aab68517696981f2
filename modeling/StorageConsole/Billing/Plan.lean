import StorageConsole.Account.Credentials

/-!
Plans that can be paid for, and the public part of the backend's configuration that lists them.
-/
namespace StorageConsole

/-- A plan: its id and whatever else the backend tells about it. -/
structure Plan where
  id : String
  details : Object
  deriving DecidableEq, Repr, Inhabited

namespace Plan

def encode (p : Plan) : Json := .obj (("Id", .str p.id) :: p.details.entries)

/-- A plan is only ever given as an object. -/
def decode : Json → Decoded Plan
  | .obj members => do
    return {
      id := ← (Members.byName members).withDefault 0 "Id" "" Json.text
      details := Named.ofList (members.filter (·.1 != "Id")) }
  | _ => .error (.unexpected "an object")

def outline : Outline := .openRecord ["Id"]

end Plan

structure PublicConfig where
  plans : List Plan
  stripePublicKey : Option String
  deriving DecidableEq, Repr, Inhabited

namespace PublicConfig

def empty : PublicConfig := ⟨[], none⟩

/-- The first plan with an id. -/
def plan? (c : PublicConfig) (id : String) : Option Plan := c.plans.find? (·.id == id)

def encode (c : PublicConfig) : Json :=
  .obj (("Plans", .arr (c.plans.map Plan.encode))
    :: optionalMember "StripePublicKey" c.stripePublicKey)

def decode (j : Json) : Decoded PublicConfig := do
  let ms ← j.members 2
  return {
    plans := ← ms.withDefault 0 "Plans" [] (Json.nullable [] (Json.list Plan.decode))
    stripePublicKey := ← ms.withDefault 1 "StripePublicKey" none (Json.optional Json.text) }

def outline : Outline :=
  .record [("Plans", .list Plan.outline), ("StripePublicKey", .value)]

end PublicConfig

/-- A card token, charged for a plan. -/
structure Payment where
  token : String
  planId : String
  deriving DecidableEq, Repr, Inhabited

namespace Payment

def encode (p : Payment) : Json := .obj [("Token", .str p.token), ("PlanId", .str p.planId)]

def decode (j : Json) : Decoded Payment := do
  let ms ← j.members 2
  return {
    token := ← ms.required 0 "Token" Json.text
    planId := ← ms.required 1 "PlanId" Json.text }

def outline : Outline := .record [("Token", .value), ("PlanId", .value)]

end Payment

end StorageConsole
