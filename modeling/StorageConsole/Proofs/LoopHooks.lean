import StorageConsole.Proofs.Conduct
import StorageConsole.Proofs.Resolution
import StorageConsole.Proofs.Routing

/-!
The hooks of the control loop. A table is built just from sound declarations, so each of its routes
names no hook or one that the loop can run; the console publishes no other routes, and a pass never
meets a hook that it has to refuse.
-/
namespace StorageConsole

open Backend (Api Reply)

section Accepted
variable {ε α β γ : Type} {x : Except ε α} {y : Except ε β}

/-- Two checks and what is made of their results are passed just if both checks are. -/
theorem accepts_both {make : α → β → γ} :
    (∃ c, (do return make (← x) (← y)) = Except.ok c) ↔ (∃ a, x = .ok a) ∧ ∃ b, y = .ok b := by
  constructor
  · rintro ⟨_, h⟩
    obtain ⟨a, ha, h⟩ := exists_ok_of_bind h
    obtain ⟨b, hb, _⟩ := exists_ok_of_bind h
    exact ⟨⟨a, ha⟩, b, hb⟩
  · rintro ⟨⟨a, rfl⟩, b, rfl⟩
    exact ⟨_, rfl⟩

end Accepted

namespace HookName
variable {name : String} {hook : HookName}

theorem ofText?_text (hook : HookName) : ofText? hook.text = some hook := by
  cases hook <;> decide +kernel

theorem ofText?_eq_some_iff : ofText? name = some hook ↔ hook.text = name := by
  constructor
  · intro h
    simpa using List.find?_some h
  · rintro rfl
    exact ofText?_text hook

/-- What the loop may run needs no payload, so the loop does not refuse it. -/
theorem exists_refreshed (h : hook.isRefreshable) :
    ∃ full, (Hook.withoutPayload? hook).filter (fun _ => hook.isRefreshable) = some full ∧
      full.name = hook := by
  cases hook with
  | repoList | commitList | configLoad => exact ⟨_, rfl, rfl⟩
  | _ => cases h

end HookName

namespace Route

/-- The route names no hook, or one that a control loop may run. -/
def Policy.IsRefreshable (p : Policy) : Prop := ∀ hook, p.hook = some hook → hook.isRefreshable

/-- A declaration without a mistake: in its pattern only the last part is a star and every parameter
has a name, and its hook is named exactly like one that a control loop may run. -/
structure Declaration.IsSound (d : Declaration) : Prop where
  pattern : ∃ parts, ReadsParts d.pattern.toList parts ∧ "*" ∉ parts.dropLast ∧ ":" ∉ parts
  hook : ∀ name, d.hook = some name → ∃ hook : HookName, hook.isRefreshable ∧ hook.text = name

namespace Segment
variable {part : String} {parts : List String} {isLast : Bool}

theorem ofPart_accepts_iff :
    (∃ segment, ofPart isLast part = .ok segment) ↔ (part = "*" → isLast) ∧ part ≠ ":" := by
  constructor
  · rintro ⟨segment, h⟩
    obtain ⟨rfl, hlast, _⟩ | ⟨name, named, rfl, _⟩ | ⟨fixed, _⟩ := ofPart_cases h
    · exact ⟨fun _ => hlast, by decide⟩
    · refine ⟨fun hstar => absurd hstar (param_ne_star name), fun hcolon => named ?_⟩
      simpa using congrArg String.toList hcolon
    · refine ⟨fun hstar => absurd hstar fixed.1, ?_⟩
      rintro rfl
      exact fixed.2 rfl
  · rintro ⟨hstar, hcolon⟩
    unfold ofPart
    split
    · next hpart =>
      rw [if_pos (hstar (String.toList_inj.mp hpart))]
      exact ⟨_, rfl⟩
    · next hpart => exact absurd (String.toList_inj.mp hpart) hcolon
    · exact ⟨_, rfl⟩
    · exact ⟨_, rfl⟩

theorem ofParts_accepts_iff :
    (∃ segments, ofParts parts = .ok segments) ↔ "*" ∉ parts.dropLast ∧ ":" ∉ parts := by
  induction parts with
  | nil => simp [ofParts]
  | cons part rest ih =>
    rw [ofParts, accepts_both, ofPart_accepts_iff, ih]
    cases rest with
    | nil => simp [eq_comm]
    | cons next rest =>
      -- With others behind it the part must not be a star, and it counts for `dropLast`.
      simp only [List.isEmpty_cons, Bool.false_eq_true, List.dropLast_cons_cons, List.mem_cons,
        not_or]
      grind

end Segment

section Check
variable {d : Declaration} {declarations : List Declaration} {t : Table} {pattern : String}
  {declared : Option String}

theorem checkHook_accepts_iff :
    (∃ hook, checkHook pattern declared = .ok hook) ↔
      ∀ name, declared = some name → ∃ hook : HookName, hook.isRefreshable ∧ hook.text = name := by
  cases declared with
  | none => exact ⟨fun _ => nofun, fun _ => ⟨none, rfl⟩⟩
  | some name =>
    simp only [Option.some.injEq, forall_eq', ← HookName.ofText?_eq_some_iff]
    cases hfound : HookName.ofText? name with
    | none => simp [checkHook, hfound]
    | some hook =>
      cases hrefreshable : hook.isRefreshable with
      | false => simp [checkHook, hfound, hrefreshable]
      | true => simp [checkHook, hfound, hrefreshable]

theorem Declaration.check_accepts_iff : (∃ e, d.check = .ok e) ↔ d.IsSound := by
  simp only [check, accepts_both, mapError_eq_ok_iff, Segment.parse, Segment.ofParts_accepts_iff,
    checkHook_accepts_iff]
  constructor
  · rintro ⟨hpattern, hhook⟩
    exact ⟨⟨_, readsParts_iff.mpr rfl, hpattern⟩, hhook⟩
  · rintro ⟨⟨parts, hreads, hpattern⟩, hhook⟩
    obtain rfl := readsParts_iff.mp hreads
    exact ⟨hpattern, hhook⟩

/-- A table is built just from declarations without a mistake. -/
theorem Table.build_accepts_iff :
    (∃ t, build declarations = .ok t) ↔ ∀ d ∈ declarations, d.IsSound := by
  have hall : (∃ entries, checkAll declarations = .ok entries) ↔
      ∀ d ∈ declarations, d.IsSound := by
    induction declarations with
    | nil => exact ⟨fun _ _ hd => (List.not_mem_nil hd).elim, fun _ => ⟨[], rfl⟩⟩
    | cons d rest ih =>
      rw [checkAll, accepts_both, Declaration.check_accepts_iff, ih, List.forall_mem_cons]
  rw [← hall]
  constructor
  · rintro ⟨t, h⟩
    exact ⟨t.entries, build_eq_ok_iff.mp h⟩
  · rintro ⟨entries, hentries⟩
    exact ⟨⟨entries⟩, build_eq_ok_iff.mpr hentries⟩

theorem Declaration.IsSound.isRefreshable (h : d.IsSound) : d.policy.IsRefreshable := by
  intro hook hhook
  obtain ⟨name, hname, hfound⟩ := Option.bind_eq_some_iff.mp hhook
  obtain ⟨hook', hrefreshable, rfl⟩ := h.hook name hname
  rw [HookName.ofText?_text] at hfound
  exact Option.some.inj hfound ▸ hrefreshable

/-- Wherever a path leads, a control loop can run the hook there. -/
def Table.IsRefreshable (t : Table) : Prop := ∀ path, (t.resolve path).policy.IsRefreshable

theorem Table.isRefreshable_of_build (h : build declarations = .ok t) : t.IsRefreshable := by
  intro path
  obtain hr | ⟨e, he, _, _, hr⟩ := t.resolve_cases path
  · rw [hr]
    exact nofun
  · obtain ⟨d, _, hcheck⟩ := declared_of_build h he
    rw [hr, (Declaration.of_check hcheck).2.2]
    exact (Declaration.check_accepts_iff.mp ⟨e, hcheck⟩).isRefreshable

end Check

/-- The route that is followed last is one to which a path leads. -/
theorem Table.IsRefreshable.follow {t : Table} (h : t.IsRefreshable) {hasUser : Bool} {fuel : Nat}
    {path : String} {route : Match} {targets : List String}
    (hf : t.follow hasUser fuel (t.resolve path) = (some route, targets)) :
    route.policy.IsRefreshable := by
  rw [resolve_of_follow hf (by rw [resolve_path])]
  exact h route.path

end Route

theorem Action.apply_route {a : Action} (h : ∀ route, a ≠ .publishRoute route) (s : State) :
    (a.apply s).route = s.route := by
  cases a with
  | publishRoute route => exact absurd rfl (h route)
  | _ => rfl

namespace Store
variable {s : Store} {a : Action}

/-- The hook of the published route, like that of every route of the table, can run in a control
loop. -/
structure IsRefreshable (s : Store) : Prop where
  table : s.table.IsRefreshable
  route : s.state.route.policy.IsRefreshable

theorem IsRefreshable.dispatch (h : s.IsRefreshable)
    (ha : ∀ route, a = .publishRoute route → route.policy.IsRefreshable) :
    (s.dispatch a).IsRefreshable := by
  refine ⟨h.table, ?_⟩
  by_cases hroute : ∃ route, a = .publishRoute route
  · obtain ⟨route, rfl⟩ := hroute
    exact ha route rfl
  · have hkept := Action.apply_route (fun route he => hroute ⟨route, he⟩) s.state
    have hafter : (s.dispatch a).state.route = s.state.route := hkept
    rw [hafter]
    exact h.route

theorem IsRefreshable.emit (h : s.IsRefreshable) (signal : Signal) :
    (s.emit signal).IsRefreshable := ⟨h.table, h.route⟩

theorem IsRefreshable.navigate (h : s.IsRefreshable) (path : String) :
    (s.navigate path).2.IsRefreshable := by
  unfold Store.navigate
  rcases hf : s.table.follow s.state.user.isSome Route.Table.maxRedirects (s.table.resolve path)
    with ⟨_ | landed, targets⟩
  · exact ⟨h.table, h.route⟩
  · exact ⟨h.table, h.table.follow hf⟩

theorem IsRefreshable.redirect (h : s.IsRefreshable) (path : String) :
    (s.redirect path).IsRefreshable := (h.emit _).navigate path

theorem IsRefreshable.through (h : s.IsRefreshable) (isOpen : Bool) (change : Store → Store)
    (hchange : (change s).IsRefreshable) : (s.through isOpen change).IsRefreshable := by
  cases isOpen with
  | true => exact hchange
  | false => exact h

end Store

/-- Without the table the effect publishes only a route whose hook can run in a control loop. -/
def Effect.IsRefreshable (e : Effect) : Prop :=
  ∀ route, e = .write (.publishRoute route) ∨ e = .force (.publishRoute route) →
    route.policy.IsRefreshable

/-- What a workflow may publish by hand. The routes that it visits come out of the table. -/
def refreshable : Discipline Unit where
  mayDo _ e := e.IsRefreshable
  afterDo _ _ _ := ()
  mayCall _ _ _ := True
  afterCall _ _ _ := ()

theorem isRefreshable_of_conduct {s : Phase} {e : Effect} (h : conduct.mayDo s e) :
    e.IsRefreshable := by
  intro route hroute
  obtain hplain | hlisting | ⟨_, huser⟩ := written_of_conduct h hroute
  · cases hplain
  · cases hlisting
  · cases huser

theorem refreshable_workflow {config : Config} {op : Operation}
    (h : ∀ route, op = .dispatch (.publishRoute route) → route.policy.IsRefreshable) :
    refreshable.Follows () (op.workflow config) fun _ _ => True := by
  refine Workflow.follows_workflow (fun _ _ => isRefreshable_of_conduct) (fun _ _ => trivial)
    (fun _ => ?_) fun a ha route hroute => ?_
  · rintro route (hroute | hroute) <;> cases hroute
  · obtain hroute | hroute := hroute <;> cases hroute
    exact h route ha

namespace Console
variable {c : Console} {gate : Gate} {e : Event}

theorem refreshable_perform {e : Effect} (h : c.toStore.IsRefreshable) (he : e.IsRefreshable)
    (gate : Gate) : (c.perform gate e).2.toStore.IsRefreshable := by
  cases e with
  | write a =>
    have hwritten := h.dispatch (a := a) fun route hroute => he route (.inl (hroute ▸ rfl))
    exact h.through _ (·.dispatch a) hwritten
  | force a => exact h.dispatch fun route hroute => he route (.inr (hroute ▸ rfl))
  | emit signal => exact h.through _ (·.emit signal) (h.emit signal)
  | redirect path => exact h.through _ (·.redirect path) (h.redirect path)
  | visit path => exact h.navigate path
  | look | listen | keep _ | retrieve | forget | startLoop | stopLoop => exact h

theorem refreshable_record {a : Action} (h : c.toStore.IsRefreshable) (ha : a.isRecord) :
    (c.record a).toStore.IsRefreshable := by
  refine h.dispatch fun route hroute => ?_
  subst hroute
  cases ha

theorem refreshable_beginCall (h : c.toStore.IsRefreshable) (api : Api) :
    (c.beginCall api).2.toStore.IsRefreshable :=
  refreshable_record (c := { c with tickets := c.tickets + 1 }) h rfl

theorem keeps_refreshable : refreshable.Keeps gate fun _ c => c.toStore.IsRefreshable where
  act he h := refreshable_perform h he gate
  fail {s api payload c ticket e c'} _ h hc := by
    obtain ⟨_, _, rfl⟩ := call_eq_error hc
    exact refreshable_record (refreshable_beginCall h api) completion_isRecord

theorem refreshable_advance {α : Type} {w : Workflow α}
    (hw : refreshable.Follows () w fun _ _ => True) (h : c.toStore.IsRefreshable) :
    (advance gate w c).2.toStore.IsRefreshable := by
  have hkeeps : refreshable.Keeps gate fun _ c => c.toStore.IsRefreshable := keeps_refreshable
  have hr := rests_advance hkeeps hw h
  generalize advance gate w c = r at hr
  cases hr with
  | finished kept _ => exact kept
  | waiting kept _ called _ =>
    obtain ⟨_, _, _, _, rfl⟩ := call_eq_ok called
    exact refreshable_beginCall kept _

/-- What a run keeps: the hooks at hand can run in a control loop, and the work under way brings no
other. -/
structure Refreshable (c : Console) : Prop where
  disciplined : c.Disciplined refreshable (fun _ _ => True) fun _ => True
  store : c.toStore.IsRefreshable

theorem Refreshable.begin {work : Workflow Outcome} (h : c.Refreshable)
    (hw : refreshable.Follows () work fun _ _ => True) : (c.begin gate work).Refreshable where
  disciplined := disciplined_begin (fun _ => hw) h.disciplined
  store := by
    rw [Console.begin, settle_toStore]
    exact refreshable_advance hw h.store

theorem Refreshable.goOn {job : Job} (h : c.Refreshable) (hj : job ∈ c.jobs) (reply : Reply) :
    (c.goOn job reply).Refreshable where
  disciplined := disciplined_goOn hj h.disciplined
  store := by
    obtain ⟨_, _, _, hw⟩ := h.disciplined job hj trivial
    rw [Console.goOn, settle_toStore]
    exact refreshable_advance (hw _)
      (refreshable_record (c := c.without job.id) h.store completion_isRecord)

theorem refreshable_step
    (he : ∀ route, e = .run (.dispatch (.publishRoute route)) → route.policy.IsRefreshable)
    (h : c.Refreshable) : (c.step e).Refreshable := by
  have hs := stepped c e
  generalize c.step e = d at hs
  cases hs with
  | ran op => exact h.begin (refreshable_workflow fun route hroute => he route (by rw [hroute]))
  | @passed id hook loop turn =>
    have hl : Refreshable { c with loop } := ⟨h.disciplined, h.store⟩
    exact hl.begin (refreshable_workflow fun route hroute => nomatch hroute)
  | answered hj reply => exact h.goOn hj reply
  | idle => exact ⟨h.disciplined, h.store⟩

theorem refreshable_start {config : Config} {table : Route.Table} {storage : Storage}
    (h : table.IsRefreshable) : (start config table storage).Refreshable :=
  ⟨fun _ hj => (List.not_mem_nil hj).elim, h, nofun⟩

/-- A pass that begins does not refuse the hook that the published route names, but runs it. -/
def RunsHooks (c : Console) : Prop :=
  ∀ id hook loop, c.loop.turn c.loopView id = (some hook, loop) →
    c.state.route.policy.hook = some hook ∧
    ∃ full, (Hook.withoutPayload? hook).filter (fun _ => hook.isRefreshable) = some full ∧
      full.name = hook ∧ c.step (.turn id) = { c with loop }.begin (some id) (do
        Workflow.runHook c.config full
        return .nothing)

theorem runsHooks_of_refreshable (h : c.state.route.policy.IsRefreshable) : c.RunsHooks := by
  intro id hook loop hturn
  have found : c.state.route.policy.hook = some hook := (ControlLoop.of_turn hturn).2
  obtain ⟨full, haccepted, hname⟩ := HookName.exists_refreshed (h hook found)
  have hwork : Workflow.refresh c.config hook = Workflow.runHook c.config full := by
    rw [Workflow.refresh, haccepted]
  refine ⟨found, full, haccepted, hname, ?_⟩
  simp only [step, giveTurn, hturn, Operation.workflow, hwork]

/-- A table is built just from sound declarations. On a console of such a table, whatever happens and
wherever anybody goes, the published route names no hook or one that the control loop can run, and
each pass runs it. -/
theorem loop_hooks_run (declarations : List Route.Declaration) :
    ((∃ table, Route.Table.build declarations = .ok table) ↔ ∀ d ∈ declarations, d.IsSound) ∧
    ∀ table, Route.Table.build declarations = .ok table →
      ∀ (config : Config) (storage : Storage) (events : List Event),
        (∀ route, .run (.dispatch (.publishRoute route)) ∈ events →
          route.policy.IsRefreshable) →
        let c := (start config table storage).runAll events
        c.state.route.policy.IsRefreshable ∧
        (∀ path, (c.toStore.navigate path).2.state.route.policy.IsRefreshable) ∧ c.RunsHooks := by
  refine ⟨Route.Table.build_accepts_iff, fun table hbuild config storage events hevents => ?_⟩
  have hrun : ((start config table storage).runAll events).Refreshable :=
    runAll_keeps (fun e he _ => refreshable_step fun route hroute => hevents route (hroute ▸ he))
      (refreshable_start (Route.Table.isRefreshable_of_build hbuild))
  exact ⟨hrun.store.route, fun path => (hrun.store.navigate path).route,
    runsHooks_of_refreshable hrun.store.route⟩

/-- A page whose pattern goes on after its end, and one that guests are sent to it from. -/
def serverPages : List Route.Declaration :=
  [⟨"servers//:id?all/*", none, none, some "repoList"⟩,
    ⟨"/*", some true, some "/servers/7", some "configLoad"⟩]

/-- A guest is put somewhere by hand, goes on, and has the loop started. -/
def visitServers : List Event :=
  [.run (.dispatch (.publishRoute (.unmatched "/nowhere"))), .run (.navigate "/payment"),
    .run .startLoop]

theorem loop_hooks_run_servers :
    ∃ table, Route.Table.build serverPages = .ok table ∧ (∀ d ∈ serverPages, d.IsSound) ∧
      let c := (start .default table (.memory .empty)).runAll visitServers
      c.state.route.path = "/servers/7" ∧
      ∃ loop full, c.loop.turn c.loopView 0 = (some .repoList, loop) ∧ full.name = .repoList ∧
        c.step (.turn 0) = { c with loop }.begin (some 0) (do
          Workflow.runHook c.config full
          return .nothing) := by
  let table : Route.Table := (Route.Table.build serverPages).toOption.getD .empty
  have hbuild : Route.Table.build serverPages = .ok table := by decide +kernel
  have hpublished : ∀ route, .run (.dispatch (.publishRoute route)) ∈ visitServers →
      route.policy.IsRefreshable := by
    intro route hroute
    obtain rfl : route = .unmatched "/nowhere" := by simpa [visitServers] using hroute
    exact nofun
  obtain ⟨hbuilds, hruns⟩ := loop_hooks_run serverPages
  obtain ⟨_, _, hpass⟩ := hruns table hbuild .default (.memory .empty) visitServers hpublished
  refine ⟨table, hbuild, hbuilds.mp ⟨table, hbuild⟩, ?_⟩
  intro c
  have hpath : c.state.route.path = "/servers/7" := by decide +kernel
  have hhook : (c.loop.turn c.loopView 0).1 = some .repoList := by decide +kernel
  have hturn : c.loop.turn c.loopView 0 = (some .repoList, (c.loop.turn c.loopView 0).2) := by
    rw [← hhook]
  obtain ⟨_, full, _, hname, hwork⟩ := hpass 0 .repoList _ hturn
  exact ⟨hpath, _, full, hturn, hname, hwork⟩

end Console

end StorageConsole
