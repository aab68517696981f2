import StorageConsole.Config.Basic
import StorageConsole.Text.Blank
import StorageConsole.Workflow.Basic

/-!
Payment for a plan with a card token.
-/
namespace StorageConsole.Workflow

/-- Charges a token for a plan. -/
def pay (config : Config) (payment : Payment) : Workflow Bool := do
  set (.setPaymentLoading true)
  let result ← call .pay payment
  set (.setPaymentLoading false)
  match result.toExcept with
  | .ok true =>
    tell ("subscribed to plan " ++ payment.planId)
    goTo config.landingPath
    return true
  | .ok false =>
    tell "payment was declined"
    return false
  | .error message =>
    tell message
    return false

/-- Charges the token for the plan chosen in the payment form, which must be one that is offered. -/
def receiveToken (config : Config) (token : String) : Workflow Bool := do
  if Text.isBlankText token then
    tell "payment token missing"
    return false
  else
    match ← validForm .payment with
    | none => return false
    | some values =>
      let planId := values.textOnly "Plan"
      if ((← state).publicConfig.plan? planId).isNone then
        tell ("unknown plan: " ++ planId)
        return false
      else
        pay config ⟨token, planId⟩

end StorageConsole.Workflow
