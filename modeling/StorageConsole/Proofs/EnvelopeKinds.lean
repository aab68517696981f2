import StorageConsole.Proofs.Envelope
import StorageConsole.Proofs.Fencing

/-!
What a reply to a call comes to. Its members decide in a fixed order, first the id, then the error,
then the result, and whatever comes of it, a load reports either an answer or a failure with its cause.
-/
namespace StorageConsole

open Backend (Api CallError LoadResult Reply)

namespace Backend.Envelope
variable {id : Nat} {j e : Json} {members : List (String × Json)} {code : Option Int} {text : String}
  {outcome : Except CallError Json}

/-- The code of an error: an integer of 63 bits and a sign under `code` in an object. -/
def HasCode (e : Json) (code : Option Int) : Prop :=
  ∀ n, code = some n ↔ ∃ members, e = .obj members ∧ member? members "code" = some (.int n) ∧
    -9223372036854775808 ≤ n ∧ n < 9223372036854775808

/-- The text of an error: the text that it is, the text under `message` in an object, or otherwise its
JSON. -/
inductive HasText : Json → String → Prop
  | itself (text : String) : HasText (.str text) text
  | message {members : List (String × Json)} {text : String}
      (present : member? members "message" = some (.str text)) : HasText (.obj members) text
  | json {e : Json} (noText : ∀ text, e ≠ .str text)
      (noMessage : ∀ members text, e = .obj members →
        member? members "message" ≠ some (.str text)) : HasText e e.compact

/-- What the body of a reply comes to for the request of an id. -/
inductive ComesTo (id : Nat) : Json → Except CallError Json → Prop
  | noObject {j : Json} (other : ∀ members, j ≠ .obj members) :
      ComesTo id j (.error (.undecodable "rpc response is not an object"))
  | strayed {members : List (String × Json)} (other : member? members "id" ≠ some (.int id)) :
      ComesTo id (.obj members)
        (.error (.idMismatch id ((member? members "id").getD .null).compact))
  | refused {members : List (String × Json)} {e : Json} {code : Option Int} {text : String}
      (echoed : member? members "id" = some (.int id))
      (error : member? members "error" = some e) (real : e ≠ .null)
      (hasCode : HasCode e code) (hasText : HasText e text) :
      ComesTo id (.obj members) (.error (.reported code text))
  | answered {members : List (String × Json)} {result : Json}
      (echoed : member? members "id" = some (.int id))
      (clear : ∀ e, member? members "error" = some e → e = .null)
      (present : member? members "result" = some result) : ComesTo id (.obj members) (.ok result)
  | empty {members : List (String × Json)} (echoed : member? members "id" = some (.int id))
      (clear : ∀ e, member? members "error" = some e → e = .null)
      (noResult : member? members "result" = none) :
      ComesTo id (.obj members) (.error .noResult)

theorem asSigned?_eq_some_iff {n : Int} :
    j.asSigned? = some n ↔
      j = .int n ∧ -9223372036854775808 ≤ n ∧ n < 9223372036854775808 := by
  have hmin : Int64.minValue.toInt = -9223372036854775808 := rfl
  have hmax : Int64.maxValue.toInt = 9223372036854775807 := rfl
  cases j with
  | int value =>
    simp only [Json.asSigned?, hmin, hmax, Option.ite_none_right_eq_some, Option.some.injEq,
      Json.int.injEq]
    omega
  | null | bool _ | double _ | str _ | arr _ | obj _ => simp [Json.asSigned?]

theorem asText?_eq_some_iff : j.asText? = some text ↔ j = .str text := by
  cases j <;> simp [Json.asText?]

theorem HasCode.unique {code' : Option Int} (h : HasCode e code) (h' : HasCode e code') :
    code = code' :=
  Option.ext fun n => (h n).trans (h' n).symm

theorem HasText.unique {text' : String} (h : HasText e text) (h' : HasText e text') :
    text = text' := by
  cases h with
  | itself =>
    cases h' with
    | itself => rfl
    | json noText _ => exact absurd rfl (noText text)
  | message present =>
    cases h' with
    | message present' => simpa using present.symm.trans present'
    | json _ noMessage => exact absurd present (noMessage _ _ rfl)
  | json noText noMessage =>
    cases h' with
    | itself => exact absurd rfl (noText text')
    | message present => exact absurd present (noMessage _ _ rfl)
    | json => rfl

/-- Every error is reported by its code and its text. -/
theorem exists_reported (e : Json) :
    ∃ code text, errorOf e = .reported code text ∧ HasCode e code ∧ HasText e text := by
  cases e with
  | str text => exact ⟨none, text, rfl, by simp [HasCode], .itself text⟩
  | obj members =>
    refine ⟨_, _, rfl, fun n => ?_, ?_⟩
    · simp [Option.bind_eq_some_iff, asSigned?_eq_some_iff]
    · cases htext : (member? members "message").bind Json.asText? with
      | some text =>
        obtain ⟨message, hmessage, hasText⟩ := Option.bind_eq_some_iff.mp htext
        rw [asText?_eq_some_iff.mp hasText] at hmessage
        exact .message hmessage
      | none =>
        refine .json nofun fun members' text hmembers hmessage => ?_
        cases hmembers
        rw [hmessage] at htext
        cases htext
  | null | bool _ | int _ | double _ | arr _ =>
    exact ⟨none, _, rfl, by simp [HasCode], .json nofun nofun⟩

theorem comesTo_unwrap (id : Nat) (j : Json) : ComesTo id j (unwrap id j) := by
  cases j with
  | obj members =>
    rw [unwrap]
    by_cases hid : member? members "id" = some (.int id)
    · rw [if_neg (not_not.mpr (asUnsigned?_getD_eq_some_iff.mpr hid))]
      split
      · next herror =>
        have hclear : ∀ e, member? members "error" = some e → e = .null := fun e he => by
          simpa [herror, eq_comm] using he
        split
        · next hresult => exact .answered hid hclear hresult
        · next hresult => exact .empty hid hclear hresult
      · next herror =>
        have hclear : ∀ e, member? members "error" = some e → e = .null := fun e he => by
          simp [herror] at he
        split
        · next hresult => exact .answered hid hclear hresult
        · next hresult => exact .empty hid hclear hresult
      · next e hreal herror =>
        obtain ⟨code, text, hreported, hasCode, hasText⟩ := exists_reported e
        rw [hreported]
        exact .refused hid herror (by simpa using hreal) hasCode hasText
    · rw [if_pos (mt asUnsigned?_getD_eq_some_iff.mp hid)]
      exact .strayed hid
  | null | bool _ | int _ | double _ | str _ | arr _ => exact .noObject (by simp)

theorem ComesTo.unique {outcome' : Except CallError Json} (h : ComesTo id j outcome)
    (h' : ComesTo id j outcome') : outcome = outcome' := by
  cases h with
  | noObject other =>
    cases h' with
    | noObject => rfl
    | _ => exact absurd rfl (other _)
  | strayed other =>
    cases h' with
    | noObject other' => exact absurd rfl (other' _)
    | strayed => rfl
    | refused echoed | answered echoed | empty echoed => exact absurd echoed other
  | refused echoed error real hasCode hasText =>
    cases h' with
    | noObject other => exact absurd rfl (other _)
    | strayed other => exact absurd echoed other
    | refused _ error' _ hasCode' hasText' =>
      obtain rfl := Option.some.inj (error.symm.trans error')
      rw [hasCode.unique hasCode', hasText.unique hasText']
    | answered _ clear | empty _ clear => exact absurd (clear _ error) real
  | answered echoed clear present =>
    cases h' with
    | noObject other => exact absurd rfl (other _)
    | strayed other => exact absurd echoed other
    | refused _ error real => exact absurd (clear _ error) real
    | answered _ _ present' => rw [Option.some.inj (present.symm.trans present')]
    | empty _ _ noResult => cases present.symm.trans noResult
  | empty echoed clear noResult =>
    cases h' with
    | noObject other => exact absurd rfl (other _)
    | strayed other => exact absurd echoed other
    | refused _ error real => exact absurd (clear _ error) real
    | answered _ _ present => cases noResult.symm.trans present
    | empty => rfl

theorem unwrap_eq_iff : unwrap id j = outcome ↔ ComesTo id j outcome := by
  constructor
  · rintro rfl
    exact comesTo_unwrap id j
  · exact (comesTo_unwrap id j).unique

end Backend.Envelope

/-- Whether a load's result is an answer alone or a failure that is told together with its cause, and
counts as the one or the other. -/
def Backend.Api.Concludes (api : Api) (result : LoadResult api.Answer) : Prop :=
  (∃ answer, result = ⟨some answer, none, none⟩ ∧ result.toExcept = .ok answer) ∨
  ∃ cause, result = ⟨none, some (api.display cause), some cause⟩ ∧
    result.toExcept = .error (api.display cause)

theorem Backend.Api.concludes_report (api : Api) (outcome : Except CallError (api.Answer × Json)) :
    api.Concludes (api.report outcome) := by
  cases outcome with
  | ok answered => exact .inl ⟨answered.1, rfl, rfl⟩
  | error cause => exact .inr ⟨cause, rfl, rfl⟩

namespace Console

/-- The body of a reply comes to what its id, its error and its result decide in this order, and every
load, whatever happens around it, returns an answer alone or a failure with its cause. -/
theorem replies_are_classified (config : Config) (table : Route.Table) (storage : Storage)
    (moves : List Move) :
    (∀ id j outcome, Backend.Envelope.unwrap id j = outcome ↔
      Backend.Envelope.ComesTo id j outcome) ∧
    (∀ (c : Console) (api : Api) (ticket : Nat) (outcome : Except CallError (api.Answer × Json)),
      api.Concludes (c.endCall api ticket outcome).1) ∧
    ∀ earlier gate api payload later, moves = earlier ++ .load gate api payload :: later →
      ∀ returned, (((start config table storage).makeAll earlier).jobsStarted, returned) ∈
          ((start config table storage).makeAll moves).finished →
        ∃ result, returned = .loaded api result ∧ api.Concludes result := by
  refine ⟨fun id j outcome => Backend.Envelope.unwrap_eq_iff, fun c api ticket outcome => ?_, ?_⟩
  · exact api.concludes_report outcome
  · rintro earlier gate api payload later rfl returned hreturned
    have hnumbered : ((start config table storage).makeAll earlier).Numbered :=
      numbered_makeAll numbered_start
    have hrun : (start config table storage).makeAll (earlier ++ .load gate api payload :: later) =
        (((start config table storage).makeAll earlier).make
          (.load gate api payload)).makeAll later := List.foldl_append ..
    rw [hrun] at hreturned
    obtain ⟨outcome, _, rfl⟩ := (load_returns_own hnumbered later returned).mp hreturned
    exact ⟨_, rfl, api.concludes_report outcome⟩

/-- A body that holds a text in the place of the id, an error and a result. -/
def quotedId : List (String × Json) :=
  [("error", .str "no"), ("id", .str "0"), ("result", .bool false)]

/-- The reply with that body. -/
def quotedIdReply : Reply := .received 200 (Json.obj quotedId).compact.toUTF8

theorem answerOf_quotedIdReply :
    Backend.Api.login.answerOf (some 0) quotedIdReply = .error (.idMismatch 0 "\"0\"") := by
  have hjson : quotedIdReply.json = .ok (.obj quotedId) := by decide +kernel
  have hresult : quotedIdReply.result (some 0) = .error (.idMismatch 0 "\"0\"") := by
    rw [Reply.result, hjson]
    decide +kernel
  rw [Backend.Api.answerOf, hresult]
  rfl

theorem replies_are_classified_quotedId :
    Backend.Envelope.ComesTo 0 (.obj quotedId) (.error (.idMismatch 0 "\"0\"")) ∧
    Backend.Envelope.ComesTo 0 (.obj (("id", .int 0) :: quotedId)) (.error (.reported none "no")) ∧
    Backend.Envelope.ComesTo 0 (.obj (("id", .int 0) :: ("error", .null) :: quotedId))
      (.ok (.bool false)) ∧
    ∃ result, (0, .loaded .login result) ∈ ((start .default .empty (.memory .empty)).makeAll
        [.load none .login .empty, .event (.answer 0 quotedIdReply)]).finished ∧
      Backend.Api.login.Concludes result ∧ result.error = some "incorrect details" := by
  let c := start .default .empty (.memory .empty)
  obtain ⟨hunwrap, _, hloads⟩ := replies_are_classified .default .empty (.memory .empty)
    [.load none .login .empty, .event (.answer 0 quotedIdReply)]
  have hrun : c.makeAll [.load none .login .empty, .event (.answer 0 quotedIdReply)] =
      (c.make (.load none .login .empty)).makeAll [.event (.answer 0 quotedIdReply)] :=
    List.foldl_cons ..
  have hreturned : (c.jobsStarted,
      .loaded .login (Backend.Api.login.report (.error (.idMismatch 0 "\"0\"")))) ∈
        (c.makeAll [.load none .login .empty, .event (.answer 0 quotedIdReply)]).finished := by
    rw [hrun]
    exact (load_returns_own numbered_start _ _).mpr
      ⟨_, congrArg some answerOf_quotedIdReply, rfl⟩
  obtain ⟨result, hresult, hconcludes⟩ := hloads [] none .login .empty _ rfl _ hreturned
  cases hresult
  exact ⟨(hunwrap _ _ _).mp (by decide +kernel), (hunwrap _ _ _).mp (by decide +kernel),
    (hunwrap _ _ _).mp (by decide +kernel), _, hreturned, hconcludes, rfl⟩

end Console

end StorageConsole
