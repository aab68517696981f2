import StorageConsole.Console

/-!
Disciplines of workflows. A discipline says, phase by phase, what a workflow may do next; what each
allowed step keeps then holds of the console wherever the workflow comes to rest.
-/
namespace StorageConsole

open Backend (Api CallError LoadResult)

/-- What a phase allows, and the phase that each step leads to. -/
structure Discipline (σ : Type) where
  mayDo : σ → Effect → Prop
  afterDo : σ → (e : Effect) → e.Result → σ
  mayCall : σ → (api : Api) → api.Payload → Prop
  afterCall : σ → (api : Api) → LoadResult api.Answer → σ

namespace Discipline
variable {σ τ α β : Type} {D : Discipline σ} {s : σ} {Q Q' : σ → α → Prop} {gate : Gate}
  {I : σ → Console → Prop}

/-- Every branch of the workflow keeps to the discipline, and ends as `Q` says. -/
def Follows (D : Discipline σ) : σ → Workflow α → (σ → α → Prop) → Prop
  | s, .done value, Q => Q s value
  | s, .act effect next, Q => D.mayDo s effect ∧ ∀ r, D.Follows (D.afterDo s effect r) (next r) Q
  | s, .await api payload next, Q =>
    D.mayCall s api payload ∧ ∀ r, D.Follows (D.afterCall s api r) (next r) Q

@[simp] theorem follows_call {api : Api} {payload : api.Payload}
    {Q : σ → LoadResult api.Answer → Prop} :
    D.Follows s (.call api payload) Q ↔
      D.mayCall s api payload ∧ ∀ r, Q (D.afterCall s api r) r := Iff.rfl

@[simp] theorem follows_bind {w : Workflow α} {f : α → Workflow β} {Q : σ → β → Prop} :
    D.Follows s (w >>= f) Q ↔ D.Follows s w fun s a => D.Follows s (f a) Q := by
  change D.Follows s (w.bind f) Q ↔ _
  induction w generalizing s with
  | done value => exact Iff.rfl
  | act effect next ih => exact and_congr_right' (forall_congr' fun r => ih r)
  | await api payload next ih => exact and_congr_right' (forall_congr' fun r => ih r)

theorem Follows.mono {w : Workflow α} (h : D.Follows s w Q) (hQ : ∀ s a, Q s a → Q' s a) :
    D.Follows s w Q' := by
  induction w generalizing s with
  | done value => exact hQ s value h
  | act effect next ih => exact ⟨h.1, fun r => ih r (h.2 r)⟩
  | await api payload next ih => exact ⟨h.1, fun r => ih r (h.2 r)⟩

/-- A workflow followed by another: the second starts where the first may end. -/
theorem Follows.bind {w : Workflow α} {f : α → Workflow β} {R : σ → β → Prop}
    (h : D.Follows s w Q) (hf : ∀ s a, Q s a → D.Follows s (f a) R) : D.Follows s (w >>= f) R :=
  follows_bind.mpr (h.mono hf)

/-- A discipline without phases that allows no less is followed too. -/
theorem Follows.relax {w : Workflow α} {E : Discipline Unit} (h : D.Follows s w Q)
    (hdo : ∀ s e, D.mayDo s e → E.mayDo () e)
    (hcall : ∀ s api payload, D.mayCall s api payload → E.mayCall () api payload) :
    E.Follows () w fun _ _ => True := by
  induction w generalizing s with
  | done value => trivial
  | act effect next ih => exact ⟨hdo s effect h.1, fun r => ih r (h.2 r)⟩
  | await api payload next ih => exact ⟨hcall s api payload h.1, fun r => ih r (h.2 r)⟩

/-- What both disciplines allow. -/
def prod (D : Discipline σ) (E : Discipline τ) : Discipline (σ × τ) where
  mayDo s e := D.mayDo s.1 e ∧ E.mayDo s.2 e
  afterDo s e r := (D.afterDo s.1 e r, E.afterDo s.2 e r)
  mayCall s api payload := D.mayCall s.1 api payload ∧ E.mayCall s.2 api payload
  afterCall s api r := (D.afterCall s.1 api r, E.afterCall s.2 api r)

theorem Follows.prod {E : Discipline τ} {t : τ} {w : Workflow α} {R : τ → α → Prop}
    (h : D.Follows s w Q) (h' : E.Follows t w R) :
    (D.prod E).Follows (s, t) w fun s a => Q s.1 a ∧ R s.2 a := by
  induction w generalizing s t with
  | done value => exact ⟨h, h'⟩
  | act effect next ih => exact ⟨⟨h.1, h'.1⟩, fun r => ih r (h.2 r) (h'.2 r)⟩
  | await api payload next ih => exact ⟨⟨h.1, h'.1⟩, fun r => ih r (h.2 r) (h'.2 r)⟩

/-- What a job is owed that waits for a call: from any result on it keeps to the discipline. -/
def Awaits (D : Discipline σ) (Q : σ → α → Prop) (p : Pending α) : Prop :=
  ∃ s payload, D.mayCall s p.api payload ∧ ∀ r, D.Follows (D.afterCall s p.api r) (p.next r) Q

/-- The steps of a discipline keep an invariant that may depend on the phase. -/
structure Keeps (D : Discipline σ) (gate : Gate) (I : σ → Console → Prop) : Prop where
  act : ∀ {s e c}, D.mayDo s e → I s c →
    I (D.afterDo s e (c.perform gate e).1) (c.perform gate e).2
  fail : ∀ {s api payload c ticket e c'}, D.mayCall s api payload → I s c →
    c.call api payload = (ticket, .error e, c') →
    I (D.afterCall s api (api.report (.error e))) (c'.endCall api ticket (.error e)).2

/-- How a workflow comes to rest: it has ended, or it has just made a call that its phase allows. -/
inductive Rests (D : Discipline σ) (I : σ → Console → Prop) (Q : σ → α → Prop) :
    Progress α × Console → Prop where
  | finished {s value c} (kept : I s c) (ends : Q s value) : Rests D I Q (.finished value, c)
  | waiting {s c c' api payload ticket id next} (kept : I s c)
      (allowed : D.mayCall s api payload) (called : c.call api payload = (ticket, .ok id, c'))
      (rest : ∀ r, D.Follows (D.afterCall s api r) (next r) Q) :
      Rests D I Q (.waiting ⟨api, ticket, id, next⟩, c')

theorem Rests.awaits {p : Pending α} {c : Console} (h : D.Rests I Q (.waiting p, c)) :
    D.Awaits Q p := by
  cases h with
  | waiting _ allowed _ rest => exact ⟨_, _, allowed, rest⟩

end Discipline

namespace Console
variable {σ α : Type} {D : Discipline σ} {s : σ} {Q : σ → α → Prop} {gate : Gate}
  {I : σ → Console → Prop} {c c' : Console} {api : Api} {payload : api.Payload}
  {next : LoadResult api.Answer → Workflow α} {ticket : Nat}

theorem advance_await_error {e : CallError} (h : c.call api payload = (ticket, .error e, c')) :
    advance gate (.await api payload next) c =
      advance gate (next (api.report (.error e))) (c'.endCall api ticket (.error e)).2 := by
  simp only [advance, h]
  rfl

theorem advance_await_ok {id : Option Nat} (h : c.call api payload = (ticket, .ok id, c')) :
    advance gate (.await api payload next) c = (.waiting ⟨api, ticket, id, next⟩, c') := by
  simp only [advance, h]

/-- From allowed step to allowed step, the invariant reaches the place where the workflow rests. -/
theorem rests_advance (hI : D.Keeps gate I) {w : Workflow α} (hw : D.Follows s w Q) (h : I s c) :
    D.Rests I Q (advance gate w c) := by
  induction w generalizing s c with
  | done value => exact .finished h hw
  | act effect next ih => exact ih _ (hw.2 _) (hI.act hw.1 h)
  | await api payload next ih =>
    rcases hc : c.call api payload with ⟨ticket, sent, c'⟩
    cases sent with
    | error e =>
      rw [advance_await_error hc]
      exact ih _ (hw.2 _) (hI.fail hw.1 h hc)
    | ok id =>
      rw [advance_await_ok hc]
      exact .waiting h hw.1 hc hw.2

end Console

end StorageConsole
