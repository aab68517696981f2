import StorageConsole.Proofs.Routing

/-!
Where a navigation ends. The guard sends a visitor on from one stop to the next until it lets him
pass, and a navigation publishes the stop at which it does, if that comes after no more redirects
than are followed.
-/
namespace StorageConsole

namespace Route.Table
variable {t : Table} {hasUser : Bool} {path target : String} {k j fuel : Nat} {m route : Match}
  {targets : List String}

/-- The stop of a visitor after so many redirects; after one where the guard lets him pass there is
none. -/
def stop (t : Table) (hasUser : Bool) (path : String) : Nat → Option Match
  | 0 => some (t.resolve path)
  | k + 1 => (t.stop hasUser path k).bind fun m => (m.policy.guard hasUser).map t.resolve

/-- The targets that the guard gives at the first stops of a visitor, in their order. -/
def AreTargets (t : Table) (hasUser : Bool) (path : String) (targets : List String) : Prop :=
  ∀ i, ∀ target ∈ targets[i]?, ∃ m ∈ t.stop hasUser path i, m.policy.guard hasUser = some target

/-- Who is sent on goes the way of the target from there. -/
theorem stop_succ (h : (t.resolve path).policy.guard hasUser = some target) (k : Nat) :
    t.stop hasUser path (k + 1) = t.stop hasUser target k := by
  induction k with
  | zero => simp [stop, h]
  | succ k ih => rw [stop, ih, stop]

theorem stop_succ_of_pass (hm : t.stop hasUser path k = some m)
    (hg : m.policy.guard hasUser = none) : t.stop hasUser path (k + 1) = none := by
  simp [stop, hm, hg]

theorem stop_eq_none_of_pass (hm : t.stop hasUser path k = some m)
    (hg : m.policy.guard hasUser = none) (hj : k < j) : t.stop hasUser path j = none := by
  induction hj with
  | refl => exact stop_succ_of_pass hm hg
  | step _ ih => rw [stop, ih, Option.bind_none]

theorem areTargets_nil : t.AreTargets hasUser path [] := fun _ _ h => nomatch h

theorem AreTargets.cons (hg : (t.resolve path).policy.guard hasUser = some target)
    (h : t.AreTargets hasUser target targets) : t.AreTargets hasUser path (target :: targets) := by
  intro i target' htarget
  cases i with
  | zero =>
    obtain rfl := Option.some.inj htarget
    exact ⟨_, rfl, hg⟩
  | succ i =>
    rw [stop_succ hg]
    exact h i target' htarget

/-- How far the guard is followed: to the stop where it lets the visitor pass, or one redirect too
far. -/
inductive Followed (t : Table) (hasUser : Bool) (path : String) (fuel : Nat) :
    Option Match × List String → Prop
  | landed {k : Nat} {route : Match} {targets : List String} (within : k ≤ fuel)
      (reached : t.stop hasUser path k = some route) (allowed : route.policy.guard hasUser = none)
      (length : targets.length = k) (sent : t.AreTargets hasUser path targets) :
      Followed t hasUser path fuel (some route, targets)
  | lost {targets : List String} (length : targets.length = fuel + 1)
      (sent : t.AreTargets hasUser path targets) : Followed t hasUser path fuel (none, targets)

theorem followed_of_pass (h : (t.resolve path).policy.guard hasUser = none) (fuel : Nat) :
    Followed t hasUser path fuel (t.follow hasUser fuel (t.resolve path)) := by
  have hfollow : t.follow hasUser fuel (t.resolve path) = (some (t.resolve path), []) := by
    cases fuel <;> simp [follow, h]
  rw [hfollow]
  exact .landed (Nat.zero_le fuel) rfl h rfl areTargets_nil

theorem followed_follow (t : Table) (hasUser : Bool) (path : String) (fuel : Nat) :
    Followed t hasUser path fuel (t.follow hasUser fuel (t.resolve path)) := by
  induction fuel generalizing path with
  | zero =>
    cases hg : (t.resolve path).policy.guard hasUser with
    | none => exact followed_of_pass hg 0
    | some target =>
      have hfollow : t.follow hasUser 0 (t.resolve path) = (none, [target]) := by simp [follow, hg]
      rw [hfollow]
      exact .lost rfl (areTargets_nil.cons hg)
  | succ fuel ih =>
    cases hg : (t.resolve path).policy.guard hasUser with
    | none => exact followed_of_pass hg (fuel + 1)
    | some target =>
      have hfollow : t.follow hasUser (fuel + 1) (t.resolve path) =
          ((t.follow hasUser fuel (t.resolve target)).1,
            target :: (t.follow hasUser fuel (t.resolve target)).2) := by
        rw [follow, hg]
      rw [hfollow]
      have hrest := ih target
      generalize t.follow hasUser fuel (t.resolve target) = result at hrest
      cases hrest with
      | @landed k _ _ within reached allowed length sent =>
        have hreached := (stop_succ hg k).trans reached
        exact .landed (Nat.succ_le_succ within) hreached allowed (congrArg (· + 1) length)
          (sent.cons hg)
      | lost length sent => exact .lost (congrArg (· + 1) length) (sent.cons hg)

/-- Who has been sent on from each of the first stops was let pass at none of them. -/
theorem AreTargets.refused (h : t.AreTargets hasUser path targets) (hk : k < targets.length)
    (hm : t.stop hasUser path k = some m) : m.policy.guard hasUser ≠ none := by
  intro hg
  obtain ⟨m', hm', hsent⟩ := h k targets[k] (List.getElem?_eq_getElem hk)
  obtain rfl := Option.some.inj (hm.symm.trans hm')
  cases hg.symm.trans hsent

end Route.Table

namespace Store
open Route
variable {s : Store} {path : String} {route : Match} {targets : List String}

theorem navigate_of_landed
    (h : s.table.follow s.state.user.isSome Table.maxRedirects (s.table.resolve path) =
      (some route, targets)) :
    s.navigate path = (.ok route, { s with
      state := { s.state with route, routeGeneration := s.state.routeGeneration + 1 }
      version := s.version + 1
      signals := s.signals ++ targets.map .redirected }) := by
  rw [navigate, h]
  rfl

theorem navigate_of_lost
    (h : s.table.follow s.state.user.isSome Table.maxRedirects (s.table.resolve path) =
      (none, targets)) :
    s.navigate path =
      (.error ⟨path⟩, { s with signals := s.signals ++ targets.map .redirected }) := by
  rw [navigate, h]

/-- A navigation publishes nothing, or a route at which the guard lets the visitor pass. -/
theorem allowed_of_navigate (s : Store) (path : String) :
    let after := (s.navigate path).2
    after.state.routeGeneration ≠ s.state.routeGeneration →
      after.state.route.policy.guard after.state.user.isSome = none := by
  intro after hpublished
  have hfollowed := s.table.followed_follow s.state.user.isSome path Table.maxRedirects
  generalize hresult : s.table.follow s.state.user.isSome Table.maxRedirects
    (s.table.resolve path) = result at hfollowed
  cases hfollowed with
  | landed _ _ allowed =>
    have hafter : after = _ := congrArg Prod.snd (navigate_of_landed hresult)
    rw [hafter]
    exact allowed
  | lost =>
    have hafter : after = _ := congrArg Prod.snd (navigate_of_lost hresult)
    rw [hafter] at hpublished
    exact absurd rfl hpublished

/-- A navigation lands at the stop where the guard lets the visitor pass, if that is one of the
first stops: this route alone is published, and all redirects up to it are signalled. Otherwise it
fails and leaves the state as it was. So nothing is published but what the guard allows. -/
theorem navigate_follows_guard (s : Store) (path : String) :
    let hasUser := s.state.user.isSome
    let stop := s.table.stop hasUser path
    (∀ k ≤ Table.maxRedirects, ∀ route ∈ stop k, route.policy.guard hasUser = none →
      ∃ targets : List String, targets.length = k ∧ s.table.AreTargets hasUser path targets ∧
        s.navigate path = (.ok route, { s with
          state := { s.state with route, routeGeneration := s.state.routeGeneration + 1 }
          version := s.version + 1
          signals := s.signals ++ targets.map .redirected })) ∧
    ((∀ k ≤ Table.maxRedirects, ∀ m ∈ stop k, m.policy.guard hasUser ≠ none) →
      ∃ targets : List String, targets.length = Table.maxRedirects + 1 ∧
        s.table.AreTargets hasUser path targets ∧ s.navigate path =
          (.error ⟨path⟩, { s with signals := s.signals ++ targets.map .redirected })) ∧
    ∀ after ∈ [(s.navigate path).2, s.redirect path],
      after.state.routeGeneration ≠ s.state.routeGeneration →
        after.state.route.policy.guard after.state.user.isSome = none := by
  intro hasUser stop
  have hfollowed := s.table.followed_follow hasUser path Table.maxRedirects
  generalize hresult : s.table.follow hasUser Table.maxRedirects (s.table.resolve path) = result
    at hfollowed
  refine ⟨fun k hk route hroute hpass => ?_, fun hrefused => ?_, fun after hafter => ?_⟩
  · cases hfollowed with
    | @landed k' route' targets within reached allowed length sent =>
      obtain hlt | rfl | hlt := Nat.lt_trichotomy k k'
      · cases (Table.stop_eq_none_of_pass hroute hpass hlt).symm.trans reached
      · obtain rfl := Option.some.inj (hroute.symm.trans reached)
        exact ⟨targets, length, sent, navigate_of_landed hresult⟩
      · cases (Table.stop_eq_none_of_pass reached allowed hlt).symm.trans hroute
    | lost length sent =>
      refine absurd hpass (sent.refused ?_ hroute)
      rw [length]
      exact Nat.lt_succ_of_le hk
  · cases hfollowed with
    | landed within reached allowed => exact absurd allowed (hrefused _ within _ reached)
    | lost length sent => exact ⟨_, length, sent, navigate_of_lost hresult⟩
  · simp only [List.mem_cons, List.not_mem_nil, or_false] at hafter
    rcases hafter with rfl | rfl
    · exact allowed_of_navigate s path
    · exact allowed_of_navigate (s.emit (.redirected path)) path

/-- Routes of which each sends guests on to the next. -/
def chain (length : Nat) : Table :=
  (Table.build ((List.range length).map fun i =>
    ⟨"/" ++ Text.showNat i, some true, some ("/" ++ Text.showNat (i + 1)), none⟩)).toOption.getD
      .empty

/-- A guest comes to the end of the chain just if it is no longer than the redirects followed. -/
theorem navigate_follows_guard_chains :
    (∃ route ∈ (chain 8).stop false "/0" 8, route.path = "/8" ∧ route.policy.guard false = none ∧
      let after := ((start (chain 8)).navigate "/0").2
      ((start (chain 8)).navigate "/0").1 = .ok route ∧ after.state.routeGeneration ≠ 0 ∧
        after.state.route.policy.guard after.state.user.isSome = none) ∧
    (∀ k ≤ 8, ∀ m ∈ (chain 9).stop false "/0" k, m.policy.guard false ≠ none) ∧
      ((start (chain 9)).navigate "/0").1 = .error ⟨"/0"⟩ := by
  have hreached : (chain 8).stop false "/0" 8 = some (.unmatched "/8") := by decide +kernel
  have hrefused : ∀ k ≤ 8, ∀ m ∈ (chain 9).stop false "/0" k, m.policy.guard false ≠ none := by
    decide +kernel
  obtain ⟨hlands, _, hallowed⟩ := navigate_follows_guard (start (chain 8)) "/0"
  obtain ⟨_, _, _, hlanded⟩ := hlands 8 (Nat.le_refl 8) _ hreached rfl
  have hpublished : ((start (chain 8)).navigate "/0").2.state.routeGeneration ≠ 0 := by
    rw [hlanded]
    exact Nat.succ_ne_zero 0
  obtain ⟨_, hlost, _⟩ := navigate_follows_guard (start (chain 9)) "/0"
  obtain ⟨_, _, _, hfails⟩ := hlost hrefused
  exact ⟨⟨_, hreached, rfl, rfl, congrArg Prod.fst hlanded, hpublished,
    hallowed _ (.head _) hpublished⟩, hrefused, congrArg Prod.fst hfails⟩

end Store
end StorageConsole
