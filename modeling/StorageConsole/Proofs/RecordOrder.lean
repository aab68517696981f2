import Mathlib.Data.List.Infix
import Mathlib.Data.List.Pairwise
import StorageConsole.Proofs.ClosedGate

/-!
Calls that are recorded in another order than their tickets have. A call takes its ticket before it
is recorded, so an older call may be recorded after a newer one. The ticket shown is the highest all
the same, but what is shown of that call is lost when an older one is recorded after its end: the api
is busy from then on, and the end of the older call does not count.
-/
namespace StorageConsole

open Backend (Api)

variable {api : Api} {records earlier later : List Action} {a last : Action} {s : State} {n t : Nat}

/-- The tickets of the calls of an api that the records say have begun. -/
def requestedIn (api : Api) (records : List Action) : List Nat :=
  records.filterMap (·.requested? api)

/-- The tickets of those that they say have ended. -/
def completedIn (api : Api) (records : List Action) : List Nat :=
  records.filterMap (·.completed? api)

/-- Records of the calls of one api, of which each has a ticket of its own, begins once and, after
that, ends once. The tickets may come in any order. -/
structure Orderly (api : Api) (records : List Action) : Prop where
  own : ∀ a ∈ records, (a.requested? api).isSome ∨ (a.completed? api).isSome
  positive : ∀ t ∈ requestedIn api records, 0 < t
  requestedOnce : (requestedIn api records).Nodup
  completedOnce : (completedIn api records).Nodup
  ends : requestedIn api records ⊆ completedIn api records
  begun : ∀ made ∈ records.inits, completedIn api made ⊆ requestedIn api made

/-- What is shown of an api has come to rest: its ticket is the highest, and what is shown is how
the call with that ticket has ended. -/
structure Settled (api : Api) (records : List Action) (entry : CallState) : Prop where
  idle : entry.loading = false
  highest : (requestedIn api records).max? = some entry.ticket
  answered : ∀ raw, .callAnswered api entry.ticket raw ∈ records →
    entry.lastAnswer = some raw ∧ entry.error = none
  failed : ∀ error, .callFailed api entry.ticket error ∈ records → entry.error = some error

/-- Whether a call of the api is recorded as begun. -/
def anyBegins (api : Api) (records : List Action) : Bool :=
  records.any fun a => (a.requested? api).isSome

/-- Whether a call is recorded as begun after the end of the call with the ticket. -/
def anyBeginsAfter (api : Api) (ticket : Nat) (records : List Action) : Bool :=
  anyBegins api (records.dropWhile fun a => a.completed? api != some ticket)

/-- What is shown of an api after the records. -/
def entryAfter (api : Api) (records : List Action) : CallState :=
  (State.start.recorded records).calls api

/-- An entry after the record of a call that is not the newest. -/
def CallState.reopened (entry : CallState) : CallState :=
  { entry with loading := true, error := none }

/-- If the record is of a call of the api, that call has a lower ticket. -/
def Action.IsOlder (api : Api) (ticket : Nat) (a : Action) : Prop :=
  (∀ t ∈ a.requested? api, t < ticket) ∧ ∀ t ∈ a.completed? api, t < ticket

theorem requestedIn_append (api : Api) (earlier later : List Action) :
    requestedIn api (earlier ++ later) = requestedIn api earlier ++ requestedIn api later :=
  List.filterMap_append

theorem completedIn_append (api : Api) (earlier later : List Action) :
    completedIn api (earlier ++ later) = completedIn api earlier ++ completedIn api later :=
  List.filterMap_append

/-- No record is of a beginning and of an end. -/
theorem Action.requested?_of_completed? (h : a.completed? api = some t) :
    a.requested? api = none := by
  cases a <;> first | rfl | cases h

namespace State

/-- A request raises the ticket shown, and nothing else changes it. -/
theorem ticket_apply (a : Action) (s : State) (api : Api) :
    ((a.apply s).calls api).ticket =
      (a.requested? api).toList.foldl max (s.calls api).ticket := by
  cases a with
  | callRequested other t =>
    by_cases ho : other = api
    · subst ho
      simp [Action.apply, updateCall, CallState.requested, Action.requested?]
    · simp [Action.apply, updateCall, Action.requested?, ho, Ne.symm ho]
  | callAnswered other t raw =>
    by_cases ho : api = other
    · simp only [Action.apply, updateCall, if_pos ho, CallState.answered, Action.requested?]
      split <;> rfl
    · simp [Action.apply, updateCall, Action.requested?, ho]
  | callFailed other t error =>
    by_cases ho : api = other
    · simp only [Action.apply, updateCall, if_pos ho, CallState.failed, Action.requested?]
      split <;> rfl
    · simp [Action.apply, updateCall, Action.requested?, ho]
  | _ => rfl

theorem ticket_recorded (records : List Action) (s : State) (api : Api) :
    ((s.recorded records).calls api).ticket =
      (requestedIn api records).foldl max (s.calls api).ticket := by
  induction records generalizing s with
  | nil => rfl
  | cons a records ih =>
    have hcons : requestedIn api (a :: records) =
        (a.requested? api).toList ++ requestedIn api records := by
      cases h : a.requested? api <;> simp [requestedIn, h]
    rw [hcons, List.foldl_append, ← ticket_apply]
    exact ih (a.apply s)

/-- In whichever order calls are recorded, the ticket shown is the highest. -/
theorem ticket_recorded_start (h : (requestedIn api records).max? = some n) :
    ((State.start.recorded records).calls api).ticket = n := by
  have hzero : (State.start.calls api).ticket = 0 := rfl
  rw [ticket_recorded, List.foldl_max, h, hzero]
  exact Nat.zero_max n

/-- A record of a call that is older than the one shown reopens the entry if the call begins, and
changes nothing if it ends. -/
theorem calls_apply_of_older (ha : a.IsOlder api (s.calls api).ticket) :
    (a.apply s).calls api =
      if (a.requested? api).isSome then (s.calls api).reopened else s.calls api := by
  obtain ⟨hrequested, hcompleted⟩ := ha
  cases a with
  | callRequested other t =>
    by_cases ho : other = api
    · subst ho
      have hlt : t < (s.calls other).ticket := hrequested t (if_pos rfl)
      simp [Action.apply, updateCall, CallState.requested, CallState.reopened, Action.requested?,
        Nat.max_eq_left (Nat.le_of_lt hlt)]
    · simp [Action.apply, updateCall, Action.requested?, ho, Ne.symm ho]
  | callAnswered other t raw =>
    by_cases ho : other = api
    · subst ho
      have hlt : t < (s.calls other).ticket := hcompleted t (if_pos rfl)
      simp [Action.apply, updateCall, CallState.answered, Action.requested?, Nat.not_le.mpr hlt]
    · simp [Action.apply, updateCall, Action.requested?, Ne.symm ho]
  | callFailed other t error =>
    by_cases ho : other = api
    · subst ho
      have hlt : t < (s.calls other).ticket := hcompleted t (if_pos rfl)
      simp [Action.apply, updateCall, CallState.failed, Action.requested?, Nat.not_le.mpr hlt]
    · simp [Action.apply, updateCall, Action.requested?, Ne.symm ho]
  | _ => rfl

theorem calls_recorded_of_older (h : ∀ a ∈ records, a.IsOlder api (s.calls api).ticket) :
    (s.recorded records).calls api =
      if anyBegins api records then (s.calls api).reopened else s.calls api := by
  induction records generalizing s with
  | nil => rfl
  | cons a records ih =>
    have happly := calls_apply_of_older (h a (.head _))
    have hticket : ((a.apply s).calls api).ticket = (s.calls api).ticket := by
      rw [happly]
      split <;> rfl
    have hrest := ih (s := a.apply s) fun b hb => hticket ▸ h b (.tail _ hb)
    change ((a.apply s).recorded records).calls api = _
    have hcons : anyBegins api (a :: records) =
        ((a.requested? api).isSome || anyBegins api records) := rfl
    rw [hrest, happly, hcons]
    cases (a.requested? api).isSome <;> cases anyBegins api records <;> rfl

/-- The end of the call with the ticket shown is what is shown then. -/
theorem calls_apply_of_newest (h : a.completed? api = some (s.calls api).ticket) :
    (∃ raw, a = .callAnswered api (s.calls api).ticket raw ∧
      (a.apply s).calls api = ⟨false, none, some raw, (s.calls api).ticket⟩) ∨
    ∃ error, a = .callFailed api (s.calls api).ticket error ∧
      (a.apply s).calls api =
        ⟨false, some error, (s.calls api).lastAnswer, (s.calls api).ticket⟩ := by
  cases a with
  | callAnswered other t raw =>
    obtain ⟨rfl, rfl⟩ : other = api ∧ t = (s.calls api).ticket := by
      simpa [Action.completed?] using h
    exact .inl ⟨raw, rfl, by simp [Action.apply, updateCall, CallState.answered]⟩
  | callFailed other t error =>
    obtain ⟨rfl, rfl⟩ : other = api ∧ t = (s.calls api).ticket := by
      simpa [Action.completed?] using h
    exact .inr ⟨error, rfl, by simp [Action.apply, updateCall, CallState.failed]⟩
  | _ => cases h

end State

namespace Orderly

theorem eq_of_completed? (h : Orderly api records) {b : Action} (ha : a ∈ records)
    (hb : b ∈ records) (hat : a.completed? api = some t) (hbt : b.completed? api = some t) :
    a = b := by
  by_contra hne
  have hapart : records.Pairwise fun a b =>
      ∀ t, a.completed? api = some t → ∀ t', b.completed? api = some t' → t ≠ t' :=
    List.pairwise_filterMap.mp h.completedOnce
  have hsymm : Std.Symm fun a b : Action =>
      ∀ t, a.completed? api = some t → ∀ t', b.completed? api = some t' → t ≠ t' :=
    ⟨fun _ _ hab t ht t' ht' => (hab t' ht' t ht).symm⟩
  exact hapart.forall ha hb hne t hat t hbt rfl

/-- Where the call with the highest ticket ends, it has begun, and all that is recorded later is of
older calls. -/
theorem split (h : Orderly api records) (hmax : (requestedIn api records).max? = some n) :
    ∃ before last after, records = before ++ last :: after ∧ last.completed? api = some n ∧
      (requestedIn api before).max? = some n ∧ ∀ a ∈ after, a.IsOlder api n := by
  obtain ⟨hmem, hle⟩ := List.max?_eq_some_iff.mp hmax
  obtain ⟨last, hlast, hn⟩ := List.mem_filterMap.mp (h.ends hmem)
  obtain ⟨before, after, rfl⟩ := List.append_of_mem hlast
  have hbegun : n ∈ requestedIn api before := by
    have hmade : n ∈ requestedIn api (before ++ [last]) := by
      refine h.begun _ ((List.mem_inits _ _).mpr ⟨after, by simp⟩) ?_
      exact List.mem_filterMap.mpr ⟨last, by simp, hn⟩
    rw [requestedIn_append] at hmade
    refine (List.mem_append.mp hmade).resolve_right ?_
    simp [requestedIn, Action.requested?_of_completed? hn]
  refine ⟨before, last, after, rfl, hn, ?_, fun a ha => ⟨fun t ht => ?_, fun t ht => ?_⟩⟩
  · refine List.max?_eq_some_iff.mpr ⟨hbegun, fun t ht => hle t ?_⟩
    rw [requestedIn_append]
    exact List.mem_append_left _ ht
  · have ht : t ∈ requestedIn api (last :: after) := List.mem_filterMap.mpr ⟨a, .tail _ ha, ht⟩
    have hapart := h.requestedOnce
    rw [requestedIn_append] at hapart hle
    have hne : n ≠ t := (List.nodup_append.mp hapart).2.2 n hbegun t ht
    exact Nat.lt_of_le_of_ne (hle t (List.mem_append_right _ ht)) hne.symm
  · have hended : t ∈ completedIn api (before ++ last :: after) :=
      List.mem_filterMap.mpr ⟨a, by simp [ha], ht⟩
    have hle : t ≤ n := hle t (h.begun _ ((List.mem_inits _ _).mpr (List.prefix_refl _)) hended)
    refine Nat.lt_of_le_of_ne hle ?_
    rintro rfl
    have hapart := (List.nodup_append.mp (completedIn_append api before _ ▸ h.completedOnce)).2.1
    rw [completedIn, List.filterMap_cons_some hn] at hapart
    exact (List.nodup_cons.mp hapart).1 (List.mem_filterMap.mpr ⟨a, ha, ht⟩)

theorem anyBeginsAfter_split {before after : List Action}
    (h : Orderly api (before ++ last :: after)) (hlast : last.completed? api = some n) :
    anyBeginsAfter api n (before ++ last :: after) = anyBegins api after := by
  have hfirst : ∀ a ∈ before, (a.completed? api != some n) = true := by
    intro a ha
    rw [bne_iff_ne]
    intro hn
    have hapart := h.completedOnce
    rw [completedIn_append] at hapart
    exact (List.nodup_append.mp hapart).2.2 n (List.mem_filterMap.mpr ⟨a, ha, hn⟩) n
      (List.mem_filterMap.mpr ⟨last, .head _, hlast⟩) rfl
  rw [anyBeginsAfter, List.dropWhile_append_of_pos hfirst,
    List.dropWhile_cons_of_neg (by simp [hlast])]
  simp [anyBegins, Action.requested?_of_completed? hlast]

/-- What is shown in the end is the end of the call with the highest ticket, reopened if an older
call is recorded as begun later. -/
theorem entryAfter_eq (h : Orderly api records) (hmax : (requestedIn api records).max? = some n) :
    (∃ raw, .callAnswered api n raw ∈ records ∧
      entryAfter api records = ⟨anyBeginsAfter api n records, none, some raw, n⟩) ∨
    ∃ error answer, .callFailed api n error ∈ records ∧ entryAfter api records =
      ⟨anyBeginsAfter api n records, if anyBeginsAfter api n records then none else some error,
        answer, n⟩ := by
  obtain ⟨before, last, after, rfl, hlast, hbegun, holder⟩ := h.split hmax
  rw [h.anyBeginsAfter_split hlast]
  let s := State.start.recorded before
  have hs : (s.calls api).ticket = n := State.ticket_recorded_start hbegun
  have hnewest := State.calls_apply_of_newest (s := s) (hs.symm ▸ hlast)
  have hended : ((last.apply s).calls api).ticket = n := by
    obtain ⟨_, _, heq⟩ | ⟨_, _, heq⟩ := hnewest <;> rw [heq] <;> exact hs
  have hentry : entryAfter api (before ++ last :: after) =
      if anyBegins api after then ((last.apply s).calls api).reopened
      else (last.apply s).calls api := by
    rw [← State.calls_recorded_of_older (hended.symm ▸ holder), entryAfter, State.recorded_append]
    rfl
  rw [hentry]
  rw [hs] at hnewest
  obtain ⟨raw, rfl, heq⟩ | ⟨error, rfl, heq⟩ := hnewest
  · refine .inl ⟨raw, by simp, ?_⟩
    rw [heq]
    cases anyBegins api after <;> rfl
  · refine .inr ⟨error, (s.calls api).lastAnswer, by simp, ?_⟩
    rw [heq]
    cases anyBegins api after <;> rfl

/-- What is shown of an api comes to rest just if, after the end of the call with the highest
ticket, no older call is recorded as begun. The ticket shown is the highest in any case, and the
newest answer stays; but a late beginning leaves the api busy for good, and takes the newest error
away. -/
theorem settles_iff_none_late (h : Orderly api records)
    (hmax : (requestedIn api records).max? = some n) :
    (entryAfter api records).ticket = n ∧
      (entryAfter api records).loading = anyBeginsAfter api n records ∧
      (∀ raw, .callAnswered api n raw ∈ records →
        (entryAfter api records).lastAnswer = some raw ∧ (entryAfter api records).error = none) ∧
      (∀ error, .callFailed api n error ∈ records →
        (entryAfter api records).error =
          if anyBeginsAfter api n records then none else some error) ∧
      (Settled api records (entryAfter api records) ↔ anyBeginsAfter api n records = false) := by
  have hended (raw : Json) : (Action.callAnswered api n raw).completed? api = some n :=
    if_pos rfl
  have hfailed (error : String) : (Action.callFailed api n error).completed? api = some n :=
    if_pos rfl
  obtain ⟨raw, hraw, heq⟩ | ⟨error, answer, herror, heq⟩ := h.entryAfter_eq hmax
  · have hanswers (raw') (h' : .callAnswered api n raw' ∈ records) : some raw = some raw' := by
      cases h.eq_of_completed? hraw h' (hended _) (hended _)
      rfl
    have hfails (error) (h' : .callFailed api n error ∈ records) : False := by
      cases h.eq_of_completed? hraw h' (hended _) (hfailed _)
    rw [heq]
    refine ⟨rfl, rfl, fun raw' h' => ⟨hanswers raw' h', rfl⟩, fun error h' => (hfails error h').elim,
      fun hsettled => hsettled.idle, fun hnone => ⟨hnone, hmax, ?_, ?_⟩⟩
    · intro raw' h'
      exact ⟨hanswers raw' h', rfl⟩
    · intro error h'
      exact (hfails error h').elim
  · have hanswers (raw) (h' : .callAnswered api n raw ∈ records) : False := by
      cases h.eq_of_completed? herror h' (hfailed _) (hended _)
    have hfails (error') (h' : .callFailed api n error' ∈ records) : error = error' := by
      cases h.eq_of_completed? herror h' (hfailed _) (hfailed _)
      rfl
    rw [heq]
    refine ⟨rfl, rfl, fun raw h' => (hanswers raw h').elim, fun error' h' => ?_,
      fun hsettled => hsettled.idle, fun hnone => ⟨hnone, hmax, ?_, ?_⟩⟩
    · rw [hfails error' h']
    · intro raw h'
      exact (hanswers raw h').elim
    · intro error' h'
      rw [hfails error' h', hnone]
      rfl

end Orderly

/-- Three calls, recorded as begun in another order than their tickets have, but each before the
newest has failed. -/
def shuffledRun : List Action :=
  [.callRequested .repoList 3, .callRequested .repoList 1, .callRequested .repoList 2,
    .callAnswered .repoList 1 (.str "oldest"), .callFailed .repoList 3 "refused",
    .callAnswered .repoList 2 (.str "older")]

theorem Orderly.settles_iff_none_late_shuffledRun :
    Orderly .repoList shuffledRun ∧
      Settled .repoList shuffledRun (entryAfter .repoList shuffledRun) := by
  have h : Orderly .repoList shuffledRun :=
    ⟨by decide, by decide, by decide, by decide, by decide, by decide⟩
  have hmax : (requestedIn .repoList shuffledRun).max? = some 3 := by decide
  exact ⟨h, (h.settles_iff_none_late hmax).2.2.2.2.mpr (by decide)⟩

/-- Two calls, of which the older is recorded as begun when the newer has been answered. -/
def overtakenRun : List Action :=
  [.callRequested .repoList 2, .callAnswered .repoList 2 (.str "new"),
    .callRequested .repoList 1, .callAnswered .repoList 1 (.str "old")]

/-- Not every order of the records comes to rest: the api is busy for good when the older call is
recorded as begun last. -/
theorem overtakenRun_never_settles :
    ¬ ∀ (api : Api) (records : List Action) (n : Nat), Orderly api records →
      (requestedIn api records).max? = some n → Settled api records (entryAfter api records) := by
  intro hall
  have h : Orderly .repoList overtakenRun :=
    ⟨by decide, by decide, by decide, by decide, by decide, by decide⟩
  have hidle := (hall .repoList overtakenRun 2 h (by decide)).idle
  have hbusy : (entryAfter .repoList overtakenRun).loading = true := by decide
  exact Bool.noConfusion (hbusy.symm.trans hidle)

end StorageConsole
