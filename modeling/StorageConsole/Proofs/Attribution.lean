import StorageConsole.Proofs.Envelope
import StorageConsole.Proofs.Outgoing

/-!
Which call an answer belongs to. The calls of a run are numbered as they go out, and no answer gets
to a load or into the state unless the reply to that very call echoes its number.
-/
namespace StorageConsole

open Backend (Api CallError Client Reply Request)

namespace Console
variable {c d : Console} {gate : Gate} {m : Move} {moves : List Move} {api : Api} {job : Job}
  {payload : api.Payload} {x : Sending} {p : Pending Outcome}

/-- A registration takes no id, and every other call the next one. -/
theorem ids_of_starts (h : x.Starts p d) :
    (x.api = .register ∧ p.id = none ∧ x.request.id? = none ∧
      d.client.nextId = x.console.client.nextId) ∨
    (x.api ≠ .register ∧ p.id = some x.console.client.nextId ∧
      x.request.id? = some (.int x.console.client.nextId) ∧
      d.client.nextId = x.console.client.nextId + 1) := by
  obtain ⟨sender, _, hrequest, _⟩ := exists_sender h.called
  obtain ⟨hapi, r, hm⟩ | ⟨hapi, method, params, hm⟩ := Api.message_cases x.api x.payload
  · rw [hm] at hrequest
    obtain ⟨hid, hr, hclient⟩ : none = p.id ∧ _ = x.request ∧ _ = d.client := by
      simpa [Client.request] using hrequest
    exact .inl ⟨hapi, hid.symm, hr ▸ rfl, hclient ▸ rfl⟩
  · rw [hm] at hrequest
    obtain ⟨hid, hr, hclient⟩ : some _ = p.id ∧ _ = x.request ∧ _ = d.client := by
      simpa [Client.request] using hrequest
    exact .inr ⟨hapi, hid.symm, hr ▸ rfl, hclient ▸ rfl⟩

/-- The ids of the requests sent so far are all the numbers below the next id, in their order. -/
def InOrder (c : Console) : Prop :=
  c.requests.filterMap Request.id? = (List.range c.client.nextId).map fun n => .int n

theorem inOrder_make (h : c.InOrder) : (c.make m).InOrder := by
  have hi := issues_make c m
  have hr := requests_make c m
  generalize c.sent? m = sent at hi hr
  generalize c.make m = d at hi hr
  unfold InOrder at h ⊢
  rw [hr, List.filterMap_append, h]
  cases hi with
  | nothing client _ _ =>
    rw [client]
    exact List.append_nil _
  | @call x p d id gate client _ starts _ =>
    obtain ⟨_, _, hid, hnext⟩ | ⟨_, _, hid, hnext⟩ := ids_of_starts starts
    · simp [hid, hnext, client]
    · simp [hid, hnext, client, List.range_succ]

theorem inOrder_makeAll (h : c.InOrder) : (c.makeAll moves).InOrder := by
  induction moves generalizing c with
  | nil => exact h
  | cons m moves ih => exact ih (inOrder_make h)

/-- The answer that the state shows of an api. -/
def lastAnswer (c : Console) (api : Api) : Option Json := (c.state.calls api).lastAnswer

theorem lastAnswer_beginCall (c : Console) (api : Api) :
    (c.beginCall api).2.lastAnswer = c.lastAnswer := by
  funext other
  by_cases ho : api = other
  · subst ho
    rw [lastAnswer, beginCall_calls_self]
    rfl
  · rw [lastAnswer, beginCall_calls_other ho, lastAnswer]

/-- The end of a call stores its answer or nothing. -/
theorem lastAnswer_endCall (c : Console) (api : Api) (ticket : Nat)
    (outcome : Except CallError (api.Answer × Json)) (other : Api) :
    (c.endCall api ticket outcome).2.lastAnswer other = c.lastAnswer other ∨
    ∃ answer raw, api = other ∧ outcome = .ok (answer, raw) ∧
      (c.endCall api ticket outcome).2.lastAnswer other = some raw := by
  by_cases ho : api = other
  · subst ho
    rcases Nat.lt_or_ge ticket (c.state.calls api).ticket with hstale | hnewest
    · exact .inl (by rw [lastAnswer, endCall_state_of_stale hstale, lastAnswer])
    · cases outcome with
      | error e => exact .inl (by rw [lastAnswer, endCall_calls_of_newest _ hnewest, lastAnswer])
      | ok result =>
        rw [lastAnswer, endCall_calls_of_newest _ hnewest]
        exact .inr ⟨result.1, result.2, rfl, rfl, rfl⟩
  · exact .inl (by rw [lastAnswer, endCall_calls_other ho, lastAnswer])

theorem lastAnswer_endCall_error (c : Console) (api : Api) (ticket : Nat) (e : CallError) :
    (c.endCall api ticket (.error e)).2.lastAnswer = c.lastAnswer := by
  funext other
  obtain hsame | ⟨_, _, _, herror, _⟩ := lastAnswer_endCall c api ticket (.error e) other
  · exact hsame
  · cases herror

/-- Work that leaves the records to its calls stores no answer on its way. -/
theorem lastAnswer_advance {α : Type} {w : Workflow α} {Q : Unit → α → Prop}
    (hw : unrecorded.Follows () w Q) :
    (advance gate w c).2.lastAnswer = c.lastAnswer := by
  have hk : unrecorded.Keeps gate fun _ x => x.lastAnswer = c.lastAnswer := by
    refine ⟨fun he h => ?_, fun {_ api payload x ticket e x'} _ h hc => ?_⟩
    · funext api
      rw [lastAnswer, perform_calls he]
      exact congrFun h api
    · obtain ⟨_, _, rfl⟩ := call_eq_error hc
      rw [lastAnswer_endCall_error, lastAnswer_beginCall, h]
  have hr := rests_advance hk hw rfl
  generalize advance gate w c = r at hr
  cases hr with
  | finished kept _ => exact kept
  | @waiting s x x' api payload ticket id next kept _ called _ =>
    obtain ⟨_, _, _, _, rfl⟩ := call_eq_ok called
    exact (lastAnswer_beginCall x api).trans kept

/-- An answer is stored only where a job hears of its own call. -/
theorem lastAnswer_make (h : c.Sound) (hm : m.isHonest) (api : Api) :
    (c.make m).lastAnswer api = c.lastAnswer api ∨
    ∃ job ∈ c.jobs, ∃ reply answer raw, m = .event (.answer job.id reply) ∧
      job.pending.api = api ∧ job.pending.api.answerOf job.pending.id reply = .ok (answer, raw) ∧
      (c.make m).lastAnswer api = some raw := by
  have hmade := made c m
  generalize c.work? m = work at hmade
  generalize c.make m = d at hmade ⊢
  cases hmade with
  | begun loop honest =>
    rw [Work.run, lastAnswer, settle_toStore]
    exact .inl (congrFun (lastAnswer_advance (honest hm)) api)
  | @continued job mem reply =>
    -- The job's call ends first; what the job does from there on stores no answer.
    obtain ⟨_, _, _, hw⟩ := h.disciplined job mem trivial
    have hrun : (c.continued job reply).run.lastAnswer api =
        ((c.without job.id).endCall job.pending.api job.pending.ticket
          (job.pending.api.answerOf job.pending.id reply)).2.lastAnswer api := by
      rw [Work.run, lastAnswer, settle_toStore]
      exact congrFun (lastAnswer_advance (hw _)) api
    obtain hsame | ⟨answer, raw, hapi, hanswer, hraw⟩ := lastAnswer_endCall (c.without job.id)
      job.pending.api job.pending.ticket (job.pending.api.answerOf job.pending.id reply) api
    · exact .inl (hrun.trans hsame)
    · exact .inr ⟨job, mem, reply, answer, raw, rfl, hapi, hanswer, hrun.trans hraw⟩
  | idle loop now => exact .inl rfl

/-- Whether a move hands some job the answer to the call that the job waits for. -/
def Hears (c : Console) (sent : List Sending) (m : Move) (api : Api) (raw : Json) : Prop :=
  ∃ job ∈ c.jobs, ∃ x ∈ sent, ∃ d reply answer, m = .event (.answer job.id reply) ∧
    x.Starts job.pending d ∧ x.api = api ∧ reply.Answers x.request x.api answer raw

theorem hears_of_answerOf {sent : List Sending} {reply : Reply} {answer : job.pending.api.Answer}
    {raw : Json} (hj : job ∈ c.jobs) (hx : x ∈ sent) (hstarts : x.Starts job.pending d)
    (hapi : job.pending.api ≠ .register)
    (hanswer : job.pending.api.answerOf job.pending.id reply = .ok (answer, raw)) :
    c.Hears sent (.event (.answer job.id reply)) job.pending.api raw := by
  obtain ⟨hregister, _⟩ | ⟨_, hid, hrequest, _⟩ := ids_of_starts hstarts
  · exact absurd (hstarts.api.trans hregister) hapi
  · rw [hid] at hanswer
    obtain ⟨x, xapi, payload⟩ := x
    obtain ⟨rfl, hcalled⟩ := hstarts
    exact ⟨job, hj, _, hx, d, reply, answer, rfl, ⟨rfl, hcalled⟩, rfl,
      (Reply.answers_iff hrequest).mpr hanswer⟩

/-- A load returns an answer just if its own call has one. -/
theorem load_returns_answer_iff (h : c.Numbered) (later : List Move) (answer : api.Answer) :
    (∃ result, (c.jobsStarted, .loaded api result) ∈
        ((c.make (.load gate api payload)).makeAll later).finished ∧
        result.answer = some answer) ↔
      ∃ raw, c.ownOutcome? api payload later = some (.ok (answer, raw)) := by
  constructor
  · rintro ⟨result, hmem, hanswer⟩
    obtain ⟨outcome, ho, hr⟩ := (load_returns_own h later _).mp hmem
    cases hr
    obtain ⟨raw, rfl⟩ := Api.report_answer.mp hanswer
    exact ⟨raw, ho⟩
  · rintro ⟨raw, ho⟩
    exact ⟨_, (load_returns_own h later _).mpr ⟨_, ho, rfl⟩, rfl⟩

theorem load_returns_answer (h : c.Numbered) (hapi : api ≠ .register) (later : List Move)
    (answer : api.Answer) :
    (∃ result, (c.jobsStarted, .loaded api result) ∈
        ((c.make (.load gate api payload)).makeAll later).finished ∧
        result.answer = some answer) ↔
      ∃ x reply raw, c.sent? (.load gate api payload) = some x ∧
        Move.firstReply? c.jobsStarted later = some reply ∧
        reply.Answers x.request api answer raw := by
  rw [load_returns_answer_iff h, ownOutcome?]
  cases hi : c.identify api payload with
  | error e => simp [sent?_load_error hi]
  | ok sender =>
    have hsent : c.sent? (.load gate api payload) = some ⟨_, api, payload⟩ := sent?_load_ok hi
    obtain ⟨p, d, hstarts⟩ := starts_of_sent? hsent
    obtain ⟨hregister, _⟩ | ⟨_, _, hid, _⟩ := ids_of_starts hstarts
    · exact absurd hregister hapi
    have hown : (c.client.request (api.message payload) sender false).1 = some c.client.nextId := by
      obtain ⟨hregister, _⟩ | ⟨_, method, params, hm⟩ := Api.message_cases api payload
      · exact absurd hregister hapi
      · rw [hm]
        rfl
    simp only [hsent, hown, Option.map_eq_some_iff, Option.some.injEq]
    constructor
    · rintro ⟨raw, reply, hreply, hanswer⟩
      exact ⟨_, reply, raw, rfl, hreply, (Reply.answers_iff hid).mpr hanswer⟩
    · rintro ⟨_, reply, raw, rfl, hreply, hanswer⟩
      exact ⟨raw, reply, hreply, (Reply.answers_iff hid).mp hanswer⟩

/-- In every run the calls are numbered in the order in which they are sent, and an answer is handed
to a load or stored only where the reply to the very request echoes its number. -/
theorem answers_are_attributed (config : Config) (table : Route.Table) (storage : Storage)
    {moves : List Move} (honest : ∀ m ∈ moves, m.isHonest) :
    let c := start config table storage
    ((c.makeAll moves).requests = (c.sentAll moves).map Sending.request ∧
      (∀ x ∈ c.sentAll moves, x.request.id? = none ↔ x.api = .register) ∧
      ∃ n, (c.makeAll moves).requests.filterMap Request.id? =
        (List.range n).map fun id => .int id) ∧
    (∀ earlier gate api payload later, moves = earlier ++ .load gate api payload :: later →
      api ≠ .register → ∀ answer,
      (∃ result, ((c.makeAll earlier).jobsStarted, .loaded api result) ∈
          (c.makeAll moves).finished ∧ result.answer = some answer) ↔
        ∃ x reply raw, (c.makeAll earlier).sent? (.load gate api payload) = some x ∧
          Move.firstReply? (c.makeAll earlier).jobsStarted later = some reply ∧
          reply.Answers x.request api answer raw) ∧
    ∀ earlier m later, moves = earlier ++ m :: later → ∀ api, api ≠ .register →
      ((c.makeAll earlier).make m).lastAnswer api = (c.makeAll earlier).lastAnswer api ∨
      ∃ raw, (c.makeAll earlier).Hears (c.sentAll earlier) m api raw ∧
        ((c.makeAll earlier).make m).lastAnswer api = some raw := by
  intro c
  have hsplit : ∀ earlier m later, moves = earlier ++ m :: later →
      (c.makeAll earlier).Sound ∧ m.isHonest := by
    rintro earlier m later rfl
    exact ⟨sound_makeAll (fun m hm => honest m (List.mem_append_left _ hm)) sound_start,
      honest m (List.mem_append_right _ (.head _))⟩
  refine ⟨⟨requests_makeAll c moves, ?_, (c.makeAll moves).client.nextId, inOrder_makeAll rfl⟩,
    ?_, ?_⟩
  · intro x hx
    obtain ⟨p, d, hstarts⟩ := starts_of_mem_sentAll hx
    obtain ⟨hapi, _, hid, _⟩ | ⟨hapi, _, hid, _⟩ := ids_of_starts hstarts
    · simp [hapi, hid]
    · simp [hapi, hid]
  · rintro earlier gate api payload later hmoves hapi answer
    rw [← load_returns_answer (hsplit _ _ _ hmoves).1.numbered hapi, hmoves]
    have hrun : c.makeAll (earlier ++ .load gate api payload :: later) =
        ((c.makeAll earlier).make (.load gate api payload)).makeAll later := List.foldl_append ..
    rw [hrun]
  · intro earlier m later hmoves api hapi
    obtain ⟨hsound, hhonest⟩ := hsplit _ _ _ hmoves
    obtain hsame | ⟨job, hj, reply, answer, raw, rfl, rfl, hanswer, hraw⟩ :=
      lastAnswer_make hsound hhonest api
    · exact .inl hsame
    · obtain hnone | ⟨x, hx, d, hstarts⟩ := exists_starts hj
      · cases hnone
      · exact .inr ⟨raw, hears_of_answerOf hj hx hstarts hapi hanswer, hraw⟩

/-- A login and a registration, which are both still to be answered. -/
def crossed : List Move :=
  [.load none .login .empty, .load none .register ⟨"c@x", "cy", "pw"⟩]

/-- A second login. -/
def secondLogin : Move := .load none .login .empty

/-- The reply to a request with the id one. -/
def echoOfOne : Reply := .received 200 "\x7b\"id\":1,\"result\":\x7b\"Id\":\"u\"\x7d\x7d".toUTF8

/-- The reply to the second login is handed to the first one too. -/
def crossedReplies : List Move :=
  [.event (.answer 0 echoOfOne), .event (.answer 2 echoOfOne)]

theorem answers_are_attributed_crossed :
    (∀ m ∈ crossed ++ secondLogin :: crossedReplies, m.isHonest) ∧
    (∃ n, ((start .default .empty (.memory .empty)).makeAll
        (crossed ++ secondLogin :: crossedReplies)).requests.filterMap Request.id? =
      (List.range n).map fun id => .int id) ∧
    (∃ result, (((start .default .empty (.memory .empty)).makeAll crossed).jobsStarted,
        .loaded .login result) ∈
      ((start .default .empty (.memory .empty)).makeAll
        (crossed ++ secondLogin :: crossedReplies)).finished ∧
      result.answer = some ⟨"u", "", none, none⟩) ∧
    ∃ raw, ((start .default .empty (.memory .empty)).makeAll
        (crossed ++ [secondLogin, .event (.answer 0 echoOfOne)])).Hears
      ((start .default .empty (.memory .empty)).sentAll
        (crossed ++ [secondLogin, .event (.answer 0 echoOfOne)]))
      (.event (.answer 2 echoOfOne)) .login raw := by
  have honest : ∀ m ∈ crossed ++ secondLogin :: crossedReplies, m.isHonest := by decide
  obtain ⟨⟨_, _, hids⟩, hloads, hstored⟩ :=
    answers_are_attributed .default .empty (.memory .empty) honest
  have hjson : echoOfOne.json =
      .ok (.obj [("id", .int 1), ("result", .obj [("Id", .str "u")])]) := by decide +kernel
  have hechoes : echoOfOne.Echoes 1 (.obj [("Id", .str "u")]) := ⟨_, hjson, rfl, nofun, rfl⟩
  have hsent : ((start .default .empty (.memory .empty)).makeAll crossed).sent? secondLogin =
      some ⟨_, .login, .empty⟩ := sent?_load_ok rfl
  have hstores :
      (((start .default .empty (.memory .empty)).makeAll
        (crossed ++ [secondLogin, .event (.answer 0 echoOfOne)])).make
          (.event (.answer 2 echoOfOne))).lastAnswer .login ≠
      ((start .default .empty (.memory .empty)).makeAll
        (crossed ++ [secondLogin, .event (.answer 0 echoOfOne)])).lastAnswer .login := by
    decide +kernel
  refine ⟨honest, hids, (hloads crossed none .login .empty crossedReplies rfl nofun _).mpr ?_, ?_⟩
  · exact ⟨_, echoOfOne, _, hsent, rfl, ⟨1, by decide +kernel, hechoes⟩, by decide +kernel⟩
  · obtain hsame | ⟨raw, hhears, _⟩ := hstored
      (crossed ++ [secondLogin, .event (.answer 0 echoOfOne)]) _ [] rfl .login nofun
    · exact absurd hsame hstores
    · exact ⟨raw, hhears⟩

end Console
end StorageConsole
