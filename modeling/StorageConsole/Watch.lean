/-!
A watched value. Every publication has a version of its own. A receiver marks the version that it has
seen, and it is told of a publication just as long as that mark is another one; publications between
two looks are lost but for the last.
-/
namespace StorageConsole.Watch

/-- A value with the version of its last publication. Versions are counted in a 64-bit word, of which
one bit says whether the channel is closed; there are fewer than 2^63 publications. -/
structure Channel (α : Type) where
  value : α
  version : Nat
  deriving DecidableEq, Repr, Inhabited

/-- What a receiver has marked as seen. -/
structure Receiver where
  seen : Nat
  deriving DecidableEq, Repr, Inhabited

namespace Channel
variable {α β : Type}

def start (value : α) : Channel α := ⟨value, 0⟩

/-- Publishes a value, be it a new one or not. -/
def send (c : Channel α) (value : α) : Channel α := ⟨value, c.version + 1⟩

/-- A receiver that has seen all that was published so far. -/
def subscribe (c : Channel α) : Receiver := ⟨c.version⟩

/-- The same publications of another value. -/
def map (f : α → β) (c : Channel α) : Channel β := ⟨f c.value, c.version⟩

@[simp] theorem send_value (c : Channel α) (value : α) : (c.send value).value = value := rfl

@[simp] theorem send_version (c : Channel α) (value : α) :
    (c.send value).version = c.version + 1 := rfl

end Channel

namespace Receiver
variable {α : Type}

/-- Reads the value and marks it as seen. -/
def borrowAndUpdate (_ : Receiver) (c : Channel α) : α × Receiver := (c.value, ⟨c.version⟩)

/-- Marks the last publication as seen, unless it is already; then there is nothing but to wait. -/
def changed? (r : Receiver) (c : Channel α) : Option Receiver :=
  if r.seen = c.version then none else some ⟨c.version⟩

theorem changed?_of_seen {r : Receiver} {c : Channel α} (h : r.seen = c.version) :
    r.changed? c = none := if_pos h

theorem changed?_of_unseen {r : Receiver} {c : Channel α} (h : r.seen ≠ c.version) :
    r.changed? c = some c.subscribe := if_neg h

end Receiver

end StorageConsole.Watch
