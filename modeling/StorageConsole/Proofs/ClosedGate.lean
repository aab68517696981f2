import StorageConsole.Proofs.Compositional
import StorageConsole.Proofs.Ledger

/-!
Passes whose gate has been closed: whatever is left of them writes nothing but the records of their
calls.
-/
namespace StorageConsole

open Backend (Api CallError LoadResult Reply)

/-- Whether the effect goes through the gate or changes nothing. -/
def Effect.isGated : Effect → Bool
  | look | listen | retrieve | write _ | emit _ | redirect _ => true
  | _ => false

def gated : Discipline Unit where
  mayDo _ e := e.isGated
  afterDo _ _ _ := ()
  mayCall _ _ _ := True
  afterCall _ _ _ := ()

namespace Workflow

def IsGated {α : Type} (w : Workflow α) : Prop := gated.Follows () w fun _ _ => True

theorem compositional_gated : Compositional @IsGated := by
  refine gated.compositional_unit rfl fun e he => ?_
  cases e with
  | write _ | emit _ | redirect _ => rfl
  | _ => cases he

theorem gated_set (a : Action) : IsGated (set a) := ⟨rfl, fun _ => trivial⟩

theorem gated_call (api : Api) (payload : api.Payload) : IsGated (call api payload) :=
  ⟨trivial, fun _ => trivial⟩

/-- A pass of the control loop does everything through its gate. -/
theorem gated_pass (config : Config) (name : HookName) :
    IsGated ((Operation.refresh name).workflow config) := by
  have hgated : Compositional @IsGated := compositional_gated
  have hlist : IsGated listRepos := hgated.listRepos (gated_call _ _) fun _ _ => gated_set _
  have hload : IsGated loadPublicConfig :=
    hgated.loadPublicConfig (gated_call _ _) fun _ => gated_set _
  have hcommits : ∀ branchId, IsGated (loadCommits branchId) :=
    fun _ => hgated.loadCommits (gated_call _ _)
  exact hgated.bind (hgated.refresh hlist hcommits hload name) fun _ => hgated.pure _

end Workflow

/-- The state when some records have been made of it. -/
def State.recorded (s : State) (records : List Action) : State :=
  records.foldl (fun s a => a.apply s) s

theorem State.recorded_append (s : State) (xs ys : List Action) :
    s.recorded (xs ++ ys) = (s.recorded xs).recorded ys := List.foldl_append ..

namespace Console
variable {c c' c'' : Console} {gate : Gate} {records : List Action}

/-- Nothing has been written but these records. -/
structure OnlyRecords (c : Console) (records : List Action) (c' : Console) : Prop where
  made : ∀ a ∈ records, a.isRecord
  listed : c'.records = c.records ++ records
  state : c'.state = c.state.recorded records
  signals : c'.signals = c.signals

theorem OnlyRecords.record (h : c.OnlyRecords records c') {a : Action} (ha : a.isRecord) :
    c.OnlyRecords (records ++ [a]) (c'.record a) where
  made b hb := by
    rcases List.mem_append.mp hb with hb | hb
    · exact h.made b hb
    · rw [List.mem_singleton.mp hb]
      exact ha
  listed := by rw [record_records, h.listed, List.append_assoc]
  state := by
    rw [record_state, h.state, State.recorded_append]
    rfl
  signals := h.signals

theorem OnlyRecords.beginCall (h : c.OnlyRecords records c') (api : Api) :
    c.OnlyRecords (records ++ [.callRequested api (c'.tickets + 1)]) (c'.beginCall api).2 := by
  have ht : c.OnlyRecords records { c' with tickets := c'.tickets + 1 } :=
    ⟨h.made, h.listed, h.state, h.signals⟩
  exact ht.record rfl

/-- All calls that the records mention have failed on the spot. -/
def Settled (records : List Action) : Prop :=
  ∀ api ticket, .callRequested api ticket ∈ records → ∃ e, .callFailed api ticket e ∈ records

theorem OnlyRecords.trans {more : List Action} (h : c.OnlyRecords records c')
    (h' : c'.OnlyRecords more c'') : c.OnlyRecords (records ++ more) c'' where
  made a ha := by
    rcases List.mem_append.mp ha with ha | ha
    · exact h.made a ha
    · exact h'.made a ha
  listed := by rw [h'.listed, h.listed, List.append_assoc]
  state := by rw [h'.state, h.state, State.recorded_append]
  signals := h'.signals.trans h.signals

/-- The loops have been numbered, those that jobs belong to among them. -/
structure GatesKnown (c : Console) : Prop where
  wired : c.loop.Wired
  jobs : ∀ job ∈ c.jobs, ∀ id, job.gate = some id → id < c.loop.started

theorem gatesKnown_start {config : Config} {table : Route.Table} {storage : Storage} :
    (start config table storage).GatesKnown :=
  ⟨ControlLoop.wired_idle _, by simp [start]⟩

theorem gatesKnown_step {e : Event} (h : c.GatesKnown) : (c.step e).GatesKnown := by
  have hl := c.step_loop e
  refine ⟨hl.wired h.wired, fun job hj id hid => Nat.lt_of_lt_of_le ?_ hl.started⟩
  clear hl
  have hs := stepped c e
  generalize c.step e = d at hs hj
  cases hs with
  | ran op =>
    obtain hj | ⟨p, _, rfl⟩ := mem_begin_jobs hj
    · exact h.jobs job hj id hid
    · cases hid
  | passed turn =>
    obtain hj | ⟨p, _, rfl⟩ := mem_begin_jobs hj
    · exact h.jobs job hj id hid
    · cases hid
      obtain ⟨⟨run, hr, rfl⟩, _⟩ := ControlLoop.of_turn turn
      exact h.wired.numbered run hr
  | @answered job₀ hj₀ reply =>
    obtain ⟨hj, _⟩ | ⟨p, _, rfl⟩ := mem_goOn_jobs hj
    · exact h.jobs job hj id hid
    · exact h.jobs job₀ hj₀ id hid
  | idle => exact h.jobs job hj id hid

/-- What every run keeps. -/
structure Gated (c : Console) : Prop where
  numbered : c.Numbered
  known : c.GatesKnown
  disciplined : c.Disciplined gated (fun _ _ => True) fun gate => gate ≠ none

theorem gated_step {e : Event} (h : c.Gated) : (c.step e).Gated where
  numbered := numbered_step h.numbered
  known := gatesKnown_step h.known
  disciplined := disciplined_step (fun hk => absurd rfl hk)
    (fun _ _ hook => Workflow.gated_pass c.config hook) h.disciplined

theorem gated_runAll {config : Config} {table : Route.Table} {storage : Storage}
    {events : List Event} : ((start config table storage).runAll events).Gated :=
  runAll_keeps (fun _ _ _ => gated_step)
    ⟨numbered_start, gatesKnown_start, fun _ hj => by simp [start] at hj⟩

end Console

end StorageConsole
