import StorageConsole.State.Store

/-!
Where paths lead. A table knows only what its declarations say, a redirect is followed like a path of
its own, and on the console's own routes one redirect is enough.
-/
namespace StorageConsole

namespace Route.Table
variable {t : Table} {d : Declaration} {declarations : List Declaration} {entries : List Entry}
  {e : Entry} {path : String}

/-- A path leads to an entry that it matches, or nowhere when it matches none. -/
theorem resolve_found (t : Table) (path : String) :
    (∃ e ∈ t.entries, e.matchPath? path = some (t.resolve path)) ∨
      (t.resolve path = .unmatched path ∧ ∀ e ∈ t.entries, e.matchPath? path = none) := by
  unfold resolve
  cases hf : t.entries.findSome? (·.matchPath? path) with
  | none => exact .inr ⟨rfl, List.findSome?_eq_none_iff.mp hf⟩
  | some m => exact .inl (List.exists_of_findSome?_eq_some hf)

/-- A path leads to nothing or to an entry of the table that it matches. -/
theorem resolve_cases (t : Table) (path : String) :
    t.resolve path = .unmatched path ∨ ∃ e ∈ t.entries, ∃ params,
      Segment.matchParts e.segments (splitPath path) = some params ∧
        t.resolve path = ⟨path, some e.pattern, params, e.policy⟩ := by
  obtain ⟨e, he, hm⟩ | ⟨hnone, _⟩ := t.resolve_found path
  · obtain ⟨params, hparams, hroute⟩ := Option.map_eq_some_iff.mp hm
    exact .inr ⟨e, he, params, hparams, hroute.symm⟩
  · exact .inl hnone

theorem resolve_path (t : Table) (path : String) : (t.resolve path).path = path := by
  obtain h | ⟨_, _, _, _, h⟩ := resolve_cases t path
  · rw [h]
    rfl
  · rw [h]

/-- Redirects lead only where a path leads. -/
theorem resolve_of_follow {hasUser : Bool} {fuel : Nat} {m route : Match} {targets : List String}
    (h : t.follow hasUser fuel m = (some route, targets))
    (hm : m = t.resolve m.path) : route = t.resolve route.path := by
  induction fuel generalizing m targets with
  | zero =>
    unfold follow at h
    split at h
    · cases h
      exact hm
    · cases h
  | succ fuel ih =>
    unfold follow at h
    split at h
    · cases h
      exact hm
    · next target _ =>
      rcases hf : t.follow hasUser fuel (t.resolve target) with ⟨landed, rest⟩
      simp only [hf, Prod.mk.injEq] at h
      obtain ⟨rfl, _⟩ := h
      refine ih hf ?_
      rw [resolve_path]

theorem check_policy {d : Declaration} (h : d.check = .ok e) :
    e.policy.user = d.user ∧ e.policy.redirect = d.redirect := by
  obtain ⟨segments, _, h⟩ := exists_ok_of_bind h
  obtain ⟨hook, _, h⟩ := exists_ok_of_bind h
  cases h
  exact ⟨rfl, rfl⟩

theorem checkAll_cons_iff :
    checkAll (d :: declarations) = .ok entries ↔
      ∃ e rest, d.check = .ok e ∧ checkAll declarations = .ok rest ∧ entries = e :: rest := by
  constructor
  · intro h
    obtain ⟨e, he, h⟩ := exists_ok_of_bind h
    obtain ⟨rest, hrest, h⟩ := exists_ok_of_bind h
    cases h
    exact ⟨e, rest, he, hrest, rfl⟩
  · rintro ⟨e, rest, he, hrest, rfl⟩
    rw [checkAll, he, hrest]
    rfl

theorem build_eq_ok_iff : build declarations = .ok t ↔ checkAll declarations = .ok t.entries := by
  constructor
  · intro h
    obtain ⟨entries, hentries, h⟩ := exists_ok_of_bind h
    cases h
    exact hentries
  · intro h
    rw [build, h]
    rfl

theorem declared_of_checkAll {entries : List Entry} (h : checkAll declarations = .ok entries)
    (he : e ∈ entries) : ∃ d ∈ declarations, d.check = .ok e := by
  induction declarations generalizing entries with
  | nil =>
    cases h
    cases he
  | cons d ds ih =>
    obtain ⟨first, rest, hfirst, hrest, rfl⟩ := checkAll_cons_iff.mp h
    rcases List.mem_cons.mp he with rfl | he
    · exact ⟨d, .head _, hfirst⟩
    · obtain ⟨d', hd', hc⟩ := ih hrest he
      exact ⟨d', .tail _ hd', hc⟩

theorem declared_of_build (h : build declarations = .ok t) (he : e ∈ t.entries) :
    ∃ d ∈ declarations, d.check = .ok e := declared_of_checkAll (build_eq_ok_iff.mp h) he

/-- Whoever is turned away by the guard of a route is let in where the guard sends him. -/
def IsDirect (t : Table) : Prop :=
  ∀ path hasUser target, (t.resolve path).policy.guard hasUser = some target →
    (t.resolve target).policy.guard hasUser = none

theorem follow_of_direct (h : t.IsDirect) (path : String) (hasUser : Bool) (fuel : Nat) :
    ∃ route targets, t.follow hasUser (fuel + 1) (t.resolve path) = (some route, targets) ∧
      targets.length ≤ 1 ∧ route.policy.guard hasUser = none := by
  cases hg : (t.resolve path).policy.guard hasUser with
  | none => exact ⟨t.resolve path, [], by simp [follow, hg], by simp, hg⟩
  | some target =>
    have hlands := h path hasUser target hg
    refine ⟨t.resolve target, [target], ?_, by simp, hlands⟩
    cases fuel <;> simp [follow, hg, hlands]

/-- On the console's routes guests are sent to the login page and users to the dashboard. -/
theorem guard_console (h : build consoleDeclarations = .ok t) {hasUser : Bool} {target : String}
    (hg : (t.resolve path).policy.guard hasUser = some target) :
    target = if hasUser then "/dashboard" else "/login" := by
  have hdeclared : ∀ d ∈ consoleDeclarations, ∀ hasUser,
      (Access.ofUser d.user).allows hasUser = false →
        d.redirect = some (if hasUser then "/dashboard" else "/login") := by
    decide
  obtain hr | ⟨e, he, params, _, hr⟩ := resolve_cases t path
  · rw [hr] at hg
    cases hg
  · obtain ⟨d, hd, hcheck⟩ := declared_of_build h he
    obtain ⟨huser, hredirect⟩ := check_policy hcheck
    rw [hr, Policy.guard, Policy.access, huser, hredirect] at hg
    cases ha : (Access.ofUser d.user).allows hasUser with
    | true =>
      rw [ha] at hg
      cases hg
    | false =>
      rw [ha, hdeclared d hd hasUser ha] at hg
      exact (Option.some.inj hg).symm

theorem isDirect_console (h : build consoleDeclarations = .ok t) : t.IsDirect := by
  intro path hasUser target hg
  have hlogin : (build consoleDeclarations).toOption.map
      (fun t => (t.resolve "/login").policy.guard false) = some none := by
    decide +kernel
  have hdashboard : (build consoleDeclarations).toOption.map
      (fun t => (t.resolve "/dashboard").policy.guard true) = some none := by
    decide +kernel
  rw [h] at hlogin hdashboard
  have ht := guard_console h hg
  subst ht
  cases hasUser with
  | true => exact Option.some.inj hdashboard
  | false => exact Option.some.inj hlogin

end Route.Table

namespace Store
variable {s : Store}

/-- A navigation lands where the path of the landing leads. -/
theorem resolve_of_navigate {path : String} {route : Route.Match}
    (h : (s.navigate path).1 = .ok route) : route = s.table.resolve route.path := by
  have hlanding : ∀ targets, s.table.follow s.state.user.isSome Route.Table.maxRedirects
      (s.table.resolve path) = (some route, targets) → route = s.table.resolve route.path := by
    intro targets hf
    refine Route.Table.resolve_of_follow hf ?_
    rw [Route.Table.resolve_path]
  unfold navigate at h
  rcases hf : s.table.follow s.state.user.isSome Route.Table.maxRedirects (s.table.resolve path)
    with ⟨_ | landed, targets⟩
  · simp only [hf] at h
    cases h
  · simp only [hf] at h
    cases h
    exact hlanding targets hf

/-- What a navigation publishes is where the path of its landing leads. -/
theorem route_of_navigate {path : String} {route : Route.Match} (h : (s.navigate path).1 = .ok route) :
    (s.navigate path).2.state.route = s.table.resolve route.path := by
  have hlanding := resolve_of_navigate h
  unfold navigate at h ⊢
  rcases hf : s.table.follow s.state.user.isSome Route.Table.maxRedirects (s.table.resolve path)
    with ⟨_ | landed, targets⟩
  · simp only [hf] at h
    cases h
  · simp only [hf] at h ⊢
    cases h
    exact hlanding

/-- On a direct table every navigation lands, after at most one redirect, where the visitor may be. -/
theorem navigate_of_direct (h : s.table.IsDirect) (path : String) :
    ∃ (route : Route.Match) (targets : List String),
      (s.navigate path).1 = .ok route ∧ targets.length ≤ 1 ∧
      (s.navigate path).2.signals = s.signals ++ targets.map .redirected ∧
      (s.navigate path).2.state =
        { s.state with route, routeGeneration := s.state.routeGeneration + 1 } ∧
      route.policy.guard s.state.user.isSome = none := by
  obtain ⟨route, targets, hf, hlen, hg⟩ :=
    Route.Table.follow_of_direct h path s.state.user.isSome 7
  have hmax : Route.Table.maxRedirects = 7 + 1 := rfl
  refine ⟨route, targets, ?_, hlen, ?_, ?_, hg⟩ <;> simp [navigate, hmax, hf, dispatch, Action.apply]

end Store

end StorageConsole
