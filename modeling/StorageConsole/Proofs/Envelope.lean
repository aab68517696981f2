import StorageConsole.Backend.Api

/-!
Which replies hold an answer to a request. The envelope echoes the request's id as an integer and
reports no error, and its result decodes.
-/
namespace StorageConsole

theorem Json.asUnsigned?_eq_some_iff {j : Json} {n : Nat} :
    j.asUnsigned? = some n ↔ j = .int n := by
  cases j with
  | int value =>
    simp only [asUnsigned?, int.injEq]
    split
    · rw [Option.some.injEq]
      omega
    · simp only [reduceCtorEq, false_iff]
      omega
  | null | bool _ | double _ | str _ | arr _ | obj _ => simp [asUnsigned?]

namespace Backend

/-- Whether a reply is an envelope that echoes an id, reports no error and holds this result. -/
def Reply.Echoes (reply : Reply) (id : Nat) (result : Json) : Prop :=
  ∃ members, reply.json = .ok (.obj members) ∧
    member? members "id" = some (.int id) ∧
    (∀ e, member? members "error" = some e → e = .null) ∧
    member? members "result" = some result

/-- The id that a request asks to be echoed. -/
def Request.id? (r : Request) : Option Json :=
  match r.body with
  | .obj members => member? members "id"
  | _ => none

/-- Whether a reply holds an answer to a request: it echoes the request's id, and its result decodes
as the answer. -/
structure Reply.Answers (reply : Reply) (request : Request) (api : Api) (answer : api.Answer)
    (raw : Json) : Prop where
  echoed : ∃ id : Nat, request.id? = some (.int id) ∧ reply.Echoes id raw
  decoded : api.decodeAnswer raw = .ok answer

theorem Envelope.asUnsigned?_getD_eq_some_iff {id : Nat} {echoed : Option Json} :
    (echoed.getD .null).asUnsigned? = some id ↔ echoed = some (.int id) := by
  rw [Json.asUnsigned?_eq_some_iff]
  cases echoed <;> simp

theorem Envelope.unwrap_eq_ok_iff {id : Nat} {members : List (String × Json)} {result : Json} :
    unwrap id (.obj members) = .ok result ↔
      member? members "id" = some (.int id) ∧
      (∀ e, member? members "error" = some e → e = .null) ∧
      member? members "result" = some result := by
  simp only [unwrap]
  by_cases h : member? members "id" = some (.int id)
  · rw [if_neg (fun hne => hne (asUnsigned?_getD_eq_some_iff.mpr h))]
    rcases member? members "error" with _ | _ | _ <;> cases member? members "result" <;> simp [h]
  · rw [if_pos (mt asUnsigned?_getD_eq_some_iff.mp h)]
    simp [h]

theorem Reply.result_eq_ok_iff {reply : Reply} {id : Nat} {result : Json} :
    reply.result (some id) = .ok result ↔ reply.Echoes id result := by
  unfold Reply.result Reply.Echoes
  cases hj : reply.json with
  | error e =>
    constructor
    · nofun
    · rintro ⟨_, ⟨⟩, _⟩
  | ok j =>
    change Envelope.unwrap id j = .ok result ↔ _
    cases j with
    | obj members => simp [Envelope.unwrap_eq_ok_iff]
    | null | bool _ | int _ | double _ | str _ | arr _ => simp [Envelope.unwrap]

theorem Api.answerOf_eq_ok_iff {api : Api} {id : Nat} {reply : Reply} {answer : api.Answer}
    {raw : Json} :
    api.answerOf (some id) reply = .ok (answer, raw) ↔
      reply.Echoes id raw ∧ api.decodeAnswer raw = .ok answer := by
  rw [← Reply.result_eq_ok_iff]
  unfold answerOf
  constructor
  · intro h
    obtain ⟨raw', hraw, h⟩ := exists_ok_of_bind h
    split at h
    · next hd =>
      cases h
      exact ⟨hraw, hd⟩
    · cases h
  · rintro ⟨hraw, hd⟩
    simp only [hraw, bind, Except.bind, hd]

theorem Api.report_answer {api : Api} {outcome : Except CallError (api.Answer × Json)}
    {answer : api.Answer} :
    (api.report outcome).answer = some answer ↔ ∃ raw, outcome = .ok (answer, raw) := by
  cases outcome with
  | error e => simp [report, LoadResult.failed]
  | ok result =>
    obtain ⟨a, raw⟩ := result
    simp [report, LoadResult.answered]

/-- The outcome of a call holds an answer just if the reply answers the request. -/
theorem Reply.answers_iff {reply : Reply} {request : Request} {api : Api} {id : Nat}
    {answer : api.Answer} {raw : Json} (h : request.id? = some (.int id)) :
    reply.Answers request api answer raw ↔ api.answerOf (some id) reply = .ok (answer, raw) := by
  rw [Api.answerOf_eq_ok_iff]
  constructor
  · rintro ⟨⟨id', hid, hechoes⟩, hdecoded⟩
    rw [h] at hid
    cases hid
    exact ⟨hechoes, hdecoded⟩
  · exact fun ⟨hechoes, hdecoded⟩ => ⟨⟨id, h, hechoes⟩, hdecoded⟩

/-- Every message is a call, but for that of a registration. -/
theorem Api.message_cases (api : Api) (payload : api.Payload) :
    (api = .register ∧ ∃ r : Registration, api.message payload = .registration r.encode) ∨
    (api ≠ .register ∧ ∃ method params, api.message payload = .call method params) := by
  cases api with
  | register => exact .inl ⟨rfl, payload, rfl⟩
  | login | repoList | repoCreate | commitList | invite | pay | config =>
    exact .inr ⟨nofun, _, _, rfl⟩

end Backend
end StorageConsole
