import StorageConsole.Proofs.ColdStart
import StorageConsole.Proofs.Saving
import StorageConsole.Proofs.SessionText

/-!
Sessions across restarts: a login that is to be remembered leaves a text behind, from which a
console over the same storage restores the same session in silence.
-/
namespace StorageConsole

open Backend (Api CallError LoadResult Reply Request)

/-- Merged once more, a profile changes nothing. -/
theorem Credentials.merge_merge (c : Credentials) (p : Profile) :
    (c.merge p).merge p = c.merge p := by
  cases hname : p.name.isEmpty <;> cases hemail : p.email <;> simp [merge, hname, hemail]

namespace Console
variable {σ : Type} {backend : Request → StateM σ Reply} {s : σ} {c d e : Console}

/-- Whether the backend, asked in some state, gives a certain answer to a call. -/
def Answers (backend : Request → StateM σ Reply) (s : σ) (x : Sending)
    (answer : x.api.Answer) : Prop :=
  ∃ id raw, (x.console.call x.api x.payload).2.1 = .ok id ∧
    x.api.answerOf id ((backend x.request).run s).1 = .ok (answer, raw)

/-- Nothing has become of the session since: nobody has entered or left it, the same settings and
texts are stored, and nothing was signalled. -/
structure KeepsSession (c d : Console) : Prop where
  user : d.state.user = c.state.user
  config : d.config = c.config
  storage : d.storage = c.storage
  signals : d.signals = c.signals

theorem keepsSession_afterCall (c : Console) (api : Api) (payload : api.Payload)
    (outcome : Except CallError (api.Answer × Json)) :
    c.KeepsSession (c.afterCall api payload outcome) := by
  obtain ⟨client, requests, hafter⟩ := afterCall_eq c api payload outcome
  rw [hafter]
  cases outcome <;> exact ⟨rfl, rfl, rfl, rfl⟩

theorem answers_iff {x : Sending} {answer : x.api.Answer} :
    Answers backend s x answer ↔ ∃ raw, heard backend s x = .ok (answer, raw) := by
  unfold Answers heard
  cases (x.console.call x.api x.payload).2.1 <;> simp

/-- What a console is like that a session has entered. -/
structure Enters (session : Credentials) (silent : Bool) (c d : Console) : Prop where
  user : d.state.user = some session
  storage : d.storage =
    if session.remember then (c.storage.save c.config.sessionKey session.toText).2 else c.storage
  signals : silent → d.signals = c.signals

theorem KeepsSession.enters {session : Credentials} {silent : Bool} (h : c.KeepsSession d)
    (hin : Enters session silent d e) : Enters session silent c e where
  user := hin.user
  storage := by rw [hin.storage, h.storage, h.config]
  signals hs := (hin.signals hs).trans h.signals

/-- What is said of a failed login. -/
def refusal (silent : Bool) : List Signal :=
  if silent then [] else [.loginFailed "incorrect details"]

/-- What comes of a login: word that it has failed, or the session that its call has confirmed. -/
inductive LoginEnd (c : Console) (credentials : Credentials) (silent : Bool) :
    List Exchange → Bool → Console → Prop
  | refused {outcome d} (unconfirmed : confirmed? credentials outcome = none)
      (called : d = c.afterCall .login credentials outcome) :
      LoginEnd c credentials silent [⟨⟨c, .login, credentials⟩, outcome⟩] false
        { d with signals := d.signals ++ refusal silent }
  | entered {outcome session xs d} (confirmed : confirmed? credentials outcome = some session)
      (inside : Enters session silent c d) :
      LoginEnd c credentials silent (⟨⟨c, .login, credentials⟩, outcome⟩ :: xs) true d

section
variable {credentials : Credentials} {profile : Profile} {silent ok : Bool} {xs : List Exchange}

/-- Whether the login has succeeded is what the backend is heard to say. -/
theorem LoginEnd.ok_eq (h : c.LoginEnd credentials silent xs ok d)
    (hxs : AnsweredBy backend s xs) :
    ok = (confirmed? credentials (heard backend s ⟨c, .login, credentials⟩)).isSome := by
  cases h with
  | refused unconfirmed =>
    obtain rfl := hxs.outcome_eq
    exact (congrArg Option.isSome unconfirmed).symm
  | entered confirmed =>
    obtain rfl := hxs.outcome_eq
    exact (congrArg Option.isSome confirmed).symm

/-- A login that the backend confirms enters the merged session. -/
theorem LoginEnd.enters (h : c.LoginEnd credentials silent xs ok d)
    (hxs : AnsweredBy backend s xs) (hanswer : Answers backend s ⟨c, .login, credentials⟩ profile)
    (hp : profile.isValid) : ok = true ∧ Enters (credentials.merge profile) silent c d := by
  obtain ⟨raw, hheard⟩ := answers_iff.mp hanswer
  have hmerged : confirmed? credentials (heard backend s ⟨c, .login, credentials⟩) =
      some (credentials.merge profile) := by
    rw [hheard]
    exact if_pos hp
  cases h with
  | refused unconfirmed =>
    obtain rfl := hxs.outcome_eq
    cases unconfirmed.symm.trans hmerged
  | entered confirmed inside =>
    obtain rfl := hxs.outcome_eq
    cases confirmed.symm.trans hmerged
    exact ⟨rfl, inside⟩

end

end Console

namespace Workflow
open Console
variable {σ : Type} {backend : Request → StateM σ Reply} {s : σ} {c : Console}
  {credentials session : Credentials} {profile : Profile}

theorem loadPublicConfig_keepsSession (c : Console) :
    Ends loadPublicConfig c fun _ _ d => c.KeepsSession d := by
  unfold loadPublicConfig
  rw [ends_bind]
  refine ends_call fun xs outcome _ => ?_
  obtain ⟨huser, hconfig, hstorage, hsignals⟩ := keepsSession_afterCall c .config () outcome
  cases (Api.report .config outcome).toExcept <;>
    exact ends_set.mpr ⟨huser, hconfig, hstorage, hsignals⟩

theorem perform_redirect_user (c : Console) (path : String) :
    (c.perform none (.redirect path)).2.state.user = c.state.user := by
  obtain ⟨route, generation, h⟩ := Store.redirect_state c.toStore path
  exact (congrArg State.user h :)

theorem enterSession_enters (config : Config) (session : Credentials) (silent : Bool)
    (c : Console) :
    Ends (enterSession config session silent) c fun _ ok d =>
      ok = true ∧ Enters session silent c d := by
  have hlast : ∀ c', Enters session silent c c' → Ends loadPublicConfig c'
      fun _ _ d => Enters session silent c (d.onStore (·.dispatch (.setReposLoaded false))) := by
    intro c' h
    refine (loadPublicConfig_keepsSession c').mono fun _ _ d hd => ?_
    exact ⟨hd.user.trans h.user, hd.storage.trans h.storage,
      fun hs => hd.signals.trans (h.signals hs)⟩
  have hloud : ∀ d : Console, false → d.signals = c.signals :=
    fun _ h => absurd h Bool.false_ne_true
  unfold enterSession
  cases hremember : session.remember <;> cases silent <;>
    simp only [ends_bind, ends_setAlways, ends_keepSession, ends_signal, ends_goTo, ends_set,
      ends_pure, Bool.not_true, Bool.not_false, Bool.false_eq_true, if_true, if_false, true_and]
  · exact hlast _ ⟨perform_redirect_user _ _, by rw [hremember]; rfl, hloud _⟩
  · exact hlast _ ⟨rfl, by rw [hremember]; rfl, fun _ => rfl⟩
  · exact hlast _ ⟨perform_redirect_user _ _, by rw [hremember]; rfl, hloud _⟩
  · exact hlast _ ⟨rfl, by rw [hremember]; rfl, fun _ => rfl⟩

theorem ends_login_loginEnd (config : Config) (credentials : Credentials) (silent : Bool)
    (c : Console) :
    Ends (login config credentials silent) c fun xs ok d =>
      c.LoginEnd credentials silent xs ok d := by
  refine ends_login_iff.mpr fun outcome => ?_
  cases hconfirmed : confirmed? credentials outcome with
  | none =>
    have hrefused : c.LoginEnd credentials silent [⟨⟨c, .login, credentials⟩, outcome⟩] false _ :=
      .refused hconfirmed rfl
    unfold concludeLogin refuseLogin
    cases silent with
    | true =>
      rw [refusal, if_pos rfl, List.append_nil] at hrefused
      exact ends_pure.mpr hrefused
    | false => exact ends_bind.mpr (ends_signal.mpr (ends_pure.mpr hrefused))
  | some session =>
    refine (enterSession_enters config session silent _).mono fun xs ok d hd => ?_
    obtain ⟨rfl, hin⟩ := hd
    exact .entered hconfirmed ((keepsSession_afterCall c .login credentials outcome).enters hin)

theorem exists_entered {w : Workflow Bool}
    (hw : Ends w c fun xs ok d => c.LoginEnd credentials silent xs ok d)
    (hanswer : Answers backend s ⟨c, .login, credentials⟩ profile) (hp : profile.isValid) :
    ∃ d, ((complete backend w c).run s).1 = (true, d) ∧
      Enters (credentials.merge profile) silent c d := by
  obtain ⟨hok, hin⟩ :=
    (hw.complete backend s).enters (answeredBy_exchanges backend w c s) hanswer hp
  exact ⟨_, Prod.ext hok rfl, hin⟩

theorem restorable?_toText (h : session.name ≠ "") :
    restorable? (.ok (some session.toText)) = some session := by
  simp [restorable?, Credentials.ofText_toText, h]

/-- A session that is to be remembered is stored, and a console that starts over the same storage
restores it in silence. -/
theorem remembered_session_is_restored {τ : Type} (config : Config) (c : Console) (silent : Bool)
    (backend : Request → StateM σ Reply) (s : σ) (hremember : credentials.remember)
    (hvalid : profile.isValid) (hname : (credentials.merge profile).name ≠ "")
    (hsaved : (c.storage.save c.config.sessionKey (credentials.merge profile).toText).1 = .ok ())
    (hanswer : Answers backend s ⟨c, .login, credentials⟩ profile) :
    let key := c.config.sessionKey
    let session := credentials.merge profile
    ∃ d, ((complete backend (login config credentials silent) c).run s).1 = (true, d) ∧
      d.state.user = some session ∧ restorable? (d.storage.load key) = some session ∧
      ∀ (config' : Config) (table : Route.Table) (backend' : Request → StateM τ Reply) (t : τ),
        let restart := start config' table d.storage
        config'.sessionKey = key → Answers backend' t ⟨restart, .login, session⟩ profile →
        ∃ e, ((complete backend' (restore config') restart).run t).1 = (true, e) ∧
          e.state.user = some session ∧ e.storage.load key = d.storage.load key ∧
          e.signals = [] := by
  intro key session
  have hremains : session.remember := hremember
  obtain ⟨d, hlogin, hin⟩ :=
    exists_entered (ends_login_loginEnd config credentials silent c) hanswer hvalid
  have hload : d.storage.load key = .ok (some session.toText) := by
    rw [hin.storage, if_pos hremains]
    exact Storage.load_of_save hsaved
  have hstored : restorable? (d.storage.load key) = some session := by
    rw [hload, restorable?_toText hname]
  refine ⟨d, hlogin, hin.user, hstored, ?_⟩
  intro config' table backend' t restart hkey hanswer'
  have hrestart : restorable? (restart.storage.load restart.config.sessionKey) = some session :=
    (congrArg (fun k => restorable? (d.storage.load k)) hkey).trans hstored
  -- The silent login merges the same profile once more, and saves the same text.
  have hmerge : session.merge profile = session := Credentials.merge_merge credentials profile
  have hsilent : Ends (restore config') restart fun xs ok e =>
      restart.LoginEnd session true xs ok e :=
    (ends_restore_iff hrestart).mpr (ends_login_loginEnd config' session true restart)
  obtain ⟨e, hrestore, hback⟩ := exists_entered hsilent hanswer' hvalid
  rw [hmerge] at hback
  refine ⟨e, hrestore, hback.user, ?_, hback.signals rfl⟩
  have hkept : e.storage = (d.storage.save key session.toText).2 := by
    rw [hback.storage, if_pos hremains, ← hkey]
    rfl
  rw [hkept, hload]
  exact Storage.load_of_save_again hload

/-- A session whose name and password are written with escapes. -/
def escapedSession : Credentials :=
  ⟨none, "\x07nn\"ö", some "a@x", some "old", "\\p\tw\n☃\x7f", true⟩

/-- A profile that leaves the name and the address to the session. -/
def namelessProfile : Profile := ⟨"u", "", none, none⟩

/-- A backend that confirms every first call. -/
def confirming (_ : Request) : StateM Unit Reply := pure .confirmation

theorem answers_confirming (storage : Storage) (credentials : Credentials) :
    Answers confirming () ⟨start .default .empty storage, .login, credentials⟩ namelessProfile := by
  have hanswer : Api.login.answerOf (some 0) .confirmation =
      .ok (namelessProfile, .obj [("Id", .str "u")]) := by decide +kernel
  exact ⟨some 0, _, rfl, hanswer⟩

/-- A folder in which a save was broken off. -/
def brokenOff : Storage := .folder (.made (Named.ofList [("user.json.tmp", .file "\x7b" true)]))

theorem remembered_session_is_restored_escaped :
    let c := start .default .empty brokenOff
    let session := escapedSession.merge namelessProfile
    (escapedSession.remember ∧ namelessProfile.isValid ∧ session.name ≠ "" ∧
      (brokenOff.save "user" session.toText).1 = .ok () ∧
      Answers confirming () ⟨c, .login, escapedSession⟩ namelessProfile) ∧
    ∃ d e, ((complete confirming (login .default escapedSession false) c).run ()).1 = (true, d) ∧
      restorable? (d.storage.load "user") = some session ∧
      Answers confirming () ⟨start .default .empty d.storage, .login, session⟩ namelessProfile ∧
      ((complete confirming (restore .default) (start .default .empty d.storage)).run ()).1 =
        (true, e) ∧
      e.state.user = some session ∧ e.signals = [] := by
  intro c session
  have hname : session.name ≠ "" := by decide
  have hsaved : (brokenOff.save "user" session.toText).1 = .ok () := by decide +kernel
  have hanswer := answers_confirming brokenOff escapedSession
  obtain ⟨d, hlogin, _, hstored, hrestored⟩ := remembered_session_is_restored (τ := Unit)
    .default c false confirming () rfl rfl hname hsaved hanswer
  have hanswer' := answers_confirming d.storage session
  obtain ⟨e, hrestore, huser, _, hsilent⟩ := hrestored .default .empty confirming () rfl hanswer'
  exact ⟨⟨rfl, rfl, hname, hsaved, hanswer⟩, d, e, hlogin, hstored, hanswer', hrestore, huser,
    hsilent⟩

end Workflow
end StorageConsole
