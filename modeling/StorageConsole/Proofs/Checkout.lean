import StorageConsole.Proofs.Enrollment
import StorageConsole.Proofs.Submission

/-!
Paying with a card token. A token is charged at most once, and only for a plan that is offered; the
user is told one thing in each case, and is sent on only when the backend has said yes.
-/
namespace StorageConsole

open Backend (Api CallError LoadResult Reply Request)

namespace State

/-- The id of the plan that is chosen in the payment form; a value that is no text counts as
empty. -/
def chosenPlan (s : State) : String :=
  match (s.form .payment).values.get? "Plan" with
  | some (.str text) => text
  | _ => ""

/-- The chosen plan is one of those that the backend offers. -/
def OffersPlan (s : State) : Prop := ∃ plan ∈ s.publicConfig.plans, plan.id = s.chosenPlan

/-- A token can be charged: it is not blank, the payment form is valid, and the plan is offered. -/
structure CanPay (s : State) (token : String) : Prop where
  present : Text.isBlankText token = false
  valid : (s.form .payment).valid = true
  offered : s.OffersPlan

instance (s : State) : Decidable s.OffersPlan :=
  inferInstanceAs (Decidable (∃ plan ∈ s.publicConfig.plans, plan.id = s.chosenPlan))

instance (s : State) (token : String) : Decidable (s.CanPay token) :=
  decidable_of_iff
    (Text.isBlankText token = false ∧ (s.form .payment).valid = true ∧ s.OffersPlan)
    ⟨fun ⟨present, valid, offered⟩ => ⟨present, valid, offered⟩,
      fun ⟨present, valid, offered⟩ => ⟨present, valid, offered⟩⟩

theorem textOnly_plan (s : State) : (s.form .payment).values.textOnly "Plan" = s.chosenPlan := by
  unfold chosenPlan FormValues.textOnly
  rcases (s.form .payment).values.get? "Plan" with _ | value
  · rfl
  · cases value <;> rfl

theorem isNone_plan?_iff (s : State) :
    (s.publicConfig.plan? s.chosenPlan).isNone = true ↔ ¬ s.OffersPlan := by
  simp [PublicConfig.plan?, OffersPlan]

end State

/-- What the user is told of a payment that has not been accepted. -/
def whyUnpaid : Except CallError (Api.pay.Answer × Json) → String
  | .ok _ => "payment was declined"
  | .error e => Api.pay.display e

namespace Console
variable {c : Console}

/-- The user is told a text, which is shown to him, and stays where he is. -/
structure Posts (c d : Console) (text : String) : Prop where
  told : c.Tells d text
  shown : d.state.applicationMessage = some text
  route : d.state.route = c.state.route
  generation : d.state.routeGeneration = c.state.routeGeneration

/-- The console while a payment is on its way. -/
def paying (c : Console) : Console := c.onStore (·.dispatch (.setPaymentLoading true))

/-- What comes of a payment: it is not sent without a session, or it is sent and not accepted, or it
is accepted and the user is sent on. It is no longer on its way then. -/
inductive Collection (config : Config) (c : Console) (payment : Payment) :
    List Exchange → Console → Prop
  | unsent {d : Console} (nobody : c.state.user.isSome = false) (posts : c.Posts d "not logged in")
      (lowered : d.state.paymentLoading = false) : Collection config c payment [] d
  | refused {outcome : Except CallError (Api.pay.Answer × Json)} {d : Console}
      (somebody : c.state.user.isSome = true) (unpaid : ∀ raw, outcome ≠ .ok (true, raw))
      (posts : c.Posts d (whyUnpaid outcome)) (lowered : d.state.paymentLoading = false) :
      Collection config c payment [⟨⟨c.paying, .pay, payment⟩, outcome⟩] d
  | accepted {raw} {d e : Console} (somebody : c.state.user.isSome = true)
      (posts : c.Posts e ("subscribed to plan " ++ payment.planId))
      (lowered : e.state.paymentLoading = false)
      (left : d.toStore = e.toStore.redirect config.landingPath) :
      Collection config c payment [⟨⟨c.paying, .pay, payment⟩, .ok (true, raw)⟩] d

/-- What comes of a token. -/
inductive Checkout (config : Config) (c : Console) (token : String) : List Exchange → Console → Prop
  | blank {d : Console} (blank : Text.isBlankText token = true)
      (posts : c.Posts d "payment token missing")
      (kept : d.state.paymentLoading = c.state.paymentLoading) : Checkout config c token [] d
  | invalid (present : Text.isBlankText token = false)
      (invalid : (c.state.form .payment).valid = false) :
      Checkout config c token [] (c.touched .payment)
  | unknown {d : Console} (present : Text.isBlankText token = false)
      (valid : (c.state.form .payment).valid = true) (missing : ¬ c.state.OffersPlan)
      (posts : c.Posts d ("unknown plan: " ++ c.state.chosenPlan))
      (kept : d.state.paymentLoading = c.state.paymentLoading) : Checkout config c token [] d
  | asked {xs : List Exchange} {d : Console} (able : c.state.CanPay token)
      (collection : c.Collection config ⟨token, c.state.chosenPlan⟩ xs d) :
      Checkout config c token xs d

end Console

namespace Workflow
open Console
variable {c : Console}

theorem ends_collect (config : Config) (payment : Payment) (c : Console) :
    Ends (pay config payment) c fun xs _ d => c.Collection config payment xs d := by
  unfold pay
  rw [ends_bind, ends_set, ends_bind]
  refine ends_call fun xs outcome hcalled => ?_
  obtain ⟨calls, version, hstore⟩ := afterCall_toStore c.paying .pay payment outcome
  have hsignals := congrArg Store.signals hstore
  have hroute := congrArg (State.route ∘ Store.state) hstore
  have hgeneration := congrArg (State.routeGeneration ∘ Store.state) hstore
  let lowered := (c.paying.afterCall .pay payment outcome).onStore
    (·.dispatch (.setPaymentLoading false))
  have hposts (text : String) : c.Posts (lowered.onStore fun s =>
      (s.dispatch (.setMessage (some text))).emit (.message text)) text :=
    ⟨tells_of_tell hsignals, rfl, hroute, hgeneration⟩
  have hsomebody {sender : Option Credentials} (h : c.paying.identify .pay payment = .ok sender) :
      c.state.user.isSome = true := isSome_of_identify (c := c.paying) h rfl
  rw [ends_bind, ends_set]
  rcases outcome with error | ⟨_ | _, raw⟩
  · simp only [Api.report, LoadResult.failed, LoadResult.toExcept, ends_tell_return,
      List.append_nil]
    cases hcalled with
    | unsent nobody =>
      obtain ⟨_, hnobody, rfl⟩ := identify_eq_error nobody
      have huser : c.state.user = none := hnobody
      exact .unsent (by rw [huser]; rfl) (hposts _) rfl
    | sent found => exact .refused (hsomebody found) (by simp) (hposts _) rfl
  · simp only [Api.report, LoadResult.answered, LoadResult.toExcept, ends_tell_return,
      List.append_nil]
    cases hcalled with
    | sent found => exact .refused (hsomebody found) (by simp) (hposts _) rfl
  · simp only [Api.report, LoadResult.answered, LoadResult.toExcept, ends_bind, ends_tell,
      ends_goTo, ends_pure, List.append_nil]
    cases hcalled with
    | sent found => exact .accepted (hsomebody found) (hposts _) rfl rfl

theorem ends_checkout (config : Config) (token : String) (c : Console) :
    Ends (receiveToken config token) c fun xs _ d => c.Checkout config token xs d := by
  unfold receiveToken
  cases hblank : Text.isBlankText token with
  | true =>
    simp only [if_true, ends_tell_return]
    exact .blank hblank ⟨tells_of_tell rfl, rfl, rfl, rfl⟩ rfl
  | false =>
    simp only [Bool.false_eq_true, if_false]
    rw [ends_bind, ends_validForm]
    cases hvalid : (c.state.form .payment).valid with
    | false => exact ends_pure.mpr (.invalid hblank hvalid)
    | true =>
      simp only [if_true, ends_bind, ends_state, State.textOnly_plan]
      cases hplan : (c.state.publicConfig.plan? c.state.chosenPlan).isNone with
      | true =>
        simp only [if_true, ends_tell_return]
        have hmissing := (State.isNone_plan?_iff c.state).mp hplan
        exact .unknown hblank hvalid hmissing ⟨tells_of_tell rfl, rfl, rfl, rfl⟩ rfl
      | false =>
        have hoffered : c.state.OffersPlan := by
          by_contra hmissing
          rw [(State.isNone_plan?_iff c.state).mpr hmissing] at hplan
          cases hplan
        simp only [Bool.false_eq_true, if_false]
        exact (ends_collect config _ c).mono fun xs _ d hd => .asked ⟨hblank, hvalid, hoffered⟩ hd

end Workflow

namespace Console
variable {σ : Type} {c d : Console} {config : Config} {token : String} {payment : Payment}
  {xs : List Exchange}

theorem Tells.announces {e : Console} {text path : String} (h : c.Tells e text)
    (left : d.toStore = e.toStore.redirect path) : c.Announces d text path := by
  have told : c.Announces (e.onStore (·.redirect path)) text path := announces_of_goTo h
  obtain ⟨targets, hsignals⟩ := told
  exact ⟨targets, (congrArg Store.signals left).trans hsignals⟩

theorem Collection.sends_iff (h : c.Collection config payment xs d) :
    xs ≠ [] ↔ c.state.user.isSome = true := by
  cases h with
  | unsent nobody => simp [nobody]
  | refused somebody => simp [somebody]
  | accepted somebody => simp [somebody]

theorem Collection.mem (h : c.Collection config payment xs d) :
    xs.length ≤ 1 ∧ ∀ x ∈ xs, x.toSending = ⟨c.paying, .pay, payment⟩ := by
  cases h with
  | unsent => exact ⟨Nat.zero_le 1, fun x hx => absurd hx List.not_mem_nil⟩
  | refused | accepted =>
    refine ⟨Nat.le_refl 1, fun x hx => ?_⟩
    rw [List.mem_singleton.mp hx]

theorem Collection.lowers (h : c.Collection config payment xs d) :
    d.state.paymentLoading = false := by
  cases h with
  | unsent _ _ lowered => exact lowered
  | refused _ _ _ lowered => exact lowered
  | accepted _ _ lowered left =>
    obtain ⟨route, generation, hstate⟩ := Store.redirect_state _ config.landingPath
    rw [left, hstate]
    exact lowered

/-- A token that cannot be charged comes to nothing but a message or a touched form. -/
theorem Checkout.cases_able (h : c.Checkout config token xs d) :
    (c.state.CanPay token ∧ c.Collection config ⟨token, c.state.chosenPlan⟩ xs d) ∨
      (¬ c.state.CanPay token ∧ xs = [] ∧ d.state.paymentLoading = c.state.paymentLoading) := by
  cases h with
  | blank blank _ kept =>
    refine .inr ⟨fun able => ?_, rfl, kept⟩
    cases blank.symm.trans able.present
  | invalid present invalid =>
    refine .inr ⟨fun able => ?_, rfl, rfl⟩
    cases invalid.symm.trans able.valid
  | unknown present valid missing _ kept => exact .inr ⟨fun able => missing able.offered, rfl, kept⟩
  | asked able collection => exact .inl ⟨able, collection⟩

theorem Checkout.sends_iff (h : c.Checkout config token xs d) :
    xs ≠ [] ↔ c.state.CanPay token ∧ c.state.user.isSome = true := by
  obtain ⟨able, collection⟩ | ⟨unable, rfl, _⟩ := h.cases_able
  · rw [collection.sends_iff]
    exact (and_iff_right able).symm
  · simp [unable]

theorem Checkout.mem (h : c.Checkout config token xs d) :
    xs.length ≤ 1 ∧ ∀ x ∈ xs, x.toSending = ⟨c.paying, .pay, ⟨token, c.state.chosenPlan⟩⟩ := by
  obtain ⟨_, collection⟩ | ⟨_, rfl, _⟩ := h.cases_able
  · exact collection.mem
  · exact ⟨Nat.zero_le 1, fun x hx => absurd hx List.not_mem_nil⟩

theorem Checkout.paymentLoading_eq (h : c.Checkout config token xs d) :
    d.state.paymentLoading = if c.state.CanPay token then false else c.state.paymentLoading := by
  obtain ⟨able, collection⟩ | ⟨unable, _, kept⟩ := h.cases_able
  · rw [if_pos able, collection.lowers]
  · rw [if_neg unable, kept]

/-- What the user sees in the end: just if the backend has said yes he is told so and is sent to the
landing page, and else he stays where he is, with one message or with the errors of the form. -/
def ShowsEnd (config : Config) (c : Console) (token : String) (xs : List Exchange) (d : Console) :
    Prop :=
  if (.pay, true) ∈ verdicts xs then
    ∃ e text, c.Posts e text ∧ d.toStore = e.toStore.redirect config.landingPath ∧
      c.Announces d text config.landingPath
  else if Text.isBlankText token = false ∧ (c.state.form .payment).valid = false then
    d = c.touched .payment
  else ∃ text, c.Posts d text

theorem mem_verdicts_pay (e : Console) (payment : Payment)
    (outcome : Except CallError (Api.pay.Answer × Json)) :
    (.pay, true) ∈ verdicts [⟨⟨e, .pay, payment⟩, outcome⟩] ↔ ∃ raw, outcome = .ok (true, raw) := by
  rcases outcome with error | ⟨_ | _, raw⟩
  · exact iff_of_false List.not_mem_nil nofun
  · exact iff_of_false (by simp [verdicts, Exchange.verdict?]) nofun
  · exact iff_of_true (.head _) ⟨raw, rfl⟩

theorem Collection.showsEnd (h : c.Collection config payment xs d) (able : c.state.CanPay token) :
    ShowsEnd config c token xs d := by
  have hvalid : ¬ (Text.isBlankText token = false ∧ (c.state.form .payment).valid = false) := by
    rintro ⟨_, invalid⟩
    cases invalid.symm.trans able.valid
  unfold ShowsEnd
  cases h with
  | unsent _ posts =>
    rw [if_neg (by simp [verdicts]), if_neg hvalid]
    exact ⟨_, posts⟩
  | refused _ unpaid posts =>
    rw [if_neg (by simpa [mem_verdicts_pay] using unpaid), if_neg hvalid]
    exact ⟨_, posts⟩
  | accepted _ posts _ left =>
    rw [if_pos ((mem_verdicts_pay _ _ _).mpr ⟨_, rfl⟩)]
    exact ⟨_, _, posts, left, posts.told.announces left⟩

theorem Checkout.showsEnd (h : c.Checkout config token xs d) : ShowsEnd config c token xs d := by
  cases h with
  | asked able collection => exact collection.showsEnd able
  | blank blank posts =>
    unfold ShowsEnd
    rw [if_neg (by simp [verdicts]), if_neg (by simp [blank])]
    exact ⟨_, posts⟩
  | invalid present invalid =>
    unfold ShowsEnd
    rw [if_neg (by simp [verdicts]), if_pos ⟨present, invalid⟩]
  | unknown present valid _ posts =>
    unfold ShowsEnd
    rw [if_neg (by simp [verdicts]), if_neg (by simp [valid])]
    exact ⟨_, posts⟩

/-- Whatever the state, the token, the payment form and the replies of the backend, a token is
charged at most once, and just if it can be and somebody is logged in; it is charged as it has come
in, for the plan that was chosen. What the user sees then is told in `ShowsEnd`, and no payment is
shown to be on its way that has ended. -/
theorem token_charged_for_offered_plan (config : Config) (c : Console)
    (backend : Request → StateM σ Reply) (s : σ) (token : String) :
    let run := attempt config backend (.tokenReceived token) c s
    (run.2.requests = c.requests ++ run.1.map (·.request) ∧ run.1.length ≤ 1) ∧
      (run.1 ≠ [] ↔ c.state.CanPay token ∧ c.state.user.isSome = true) ∧
      (∀ x ∈ run.1, x.request.Asks c.client.endpoint "SubmitPayment"
        (.obj [("Token", .str token), ("PlanId", .str c.state.chosenPlan)])) ∧
      ShowsEnd config c token run.1 run.2 ∧
      run.2.state.paymentLoading =
        if c.state.CanPay token then false else c.state.paymentLoading := by
  intro run
  have hcheckout : c.Checkout config token run.1 run.2 :=
    attempt_keeps config (.tokenReceived token)
      ((Workflow.ends_checkout config token c).returning ()) backend s
  obtain ⟨honce, hcharge⟩ := hcheckout.mem
  have hmessage : ∀ x ∈ run.1, x.api.message x.payload = .call "SubmitPayment"
      (.obj [("Token", .str token), ("PlanId", .str c.state.chosenPlan)]) := by
    intro x hx
    exact congrArg (fun y : Sending => y.api.message y.payload) (hcharge x hx)
  exact ⟨⟨requests_attempt config backend (.tokenReceived token) c s, honce⟩, hcheckout.sends_iff,
    fun x hx => asks_of_mem_exchanges hx (hmessage x hx), hcheckout.showsEnd,
    hcheckout.paymentLoading_eq⟩

end Console
end StorageConsole
