/-!
Entries under names. They are kept in the order of the names, so that two collections with the same
entries are equal.
-/
namespace StorageConsole

/-- The member of a name; of several the first counts. -/
def member? {α : Type} (members : List (String × α)) (name : String) : Option α :=
  (members.find? (·.1 == name)).map (·.2)

section
variable {α : Type} {name other : String} {value : α} {members : List (String × α)}

@[simp] theorem member?_cons_self : member? ((name, value) :: members) name = some value := by
  simp [member?]

@[simp] theorem member?_cons_of_ne (h : other ≠ name) :
    member? ((other, value) :: members) name = member? members name := by
  simp [member?, h]

theorem member?_append (before after : List (String × α)) (name : String) :
    member? (before ++ after) name = (member? before name).or (member? after name) := by
  rw [member?, List.find?_append, Option.map_or]
  rfl

theorem member?_eq_none_iff :
    member? members name = none ↔ ∀ member ∈ members, member.1 ≠ name := by
  simp only [member?, Option.map_eq_none_iff, List.find?_eq_none, beq_iff_eq]

end

/-- Entries sorted by name, each name once. -/
structure Named (α : Type) where
  entries : List (String × α)
  ordered : entries.Pairwise (fun a b => a.1 < b.1)

namespace Named
variable {α : Type}

instance [DecidableEq α] : DecidableEq (Named α) := fun x y =>
  decidable_of_iff (x.entries = y.entries)
    ⟨fun h => by cases x; cases y; cases h; rfl, (· ▸ rfl)⟩

instance [BEq α] : BEq (Named α) := ⟨fun x y => x.entries == y.entries⟩

instance [Repr α] : Repr (Named α) := ⟨fun x n => reprPrec x.entries n⟩

def empty : Named α := ⟨[], .nil⟩

instance : Inhabited (Named α) := ⟨empty⟩

/-- Puts an entry in its place; one of the same name is replaced. -/
def insertEntry (name : String) (value : α) : List (String × α) → List (String × α)
  | [] => [(name, value)]
  | (k, v) :: rest =>
    if name < k then (name, value) :: (k, v) :: rest
    else if k < name then (k, v) :: insertEntry name value rest
    else (name, value) :: rest

theorem mem_insertEntry {name : String} {value : α} {xs : List (String × α)} {e : String × α}
    (h : e ∈ insertEntry name value xs) : e.1 = name ∨ e ∈ xs := by
  induction xs with
  | nil => simp [insertEntry] at h; simp [h]
  | cons x xs ih =>
    obtain ⟨k, v⟩ := x
    simp only [insertEntry] at h
    split at h
    · simp only [List.mem_cons] at h ⊢
      rcases h with rfl | h
      · exact .inl rfl
      · exact .inr h
    · split at h
      · simp only [List.mem_cons] at h ⊢
        rcases h with h | h
        · exact .inr (.inl h)
        · exact (ih h).imp_right .inr
      · simp only [List.mem_cons] at h ⊢
        rcases h with rfl | h
        · exact .inl rfl
        · exact .inr (.inr h)

theorem insertEntry_ordered {name : String} {value : α} {xs : List (String × α)}
    (h : xs.Pairwise (fun a b => a.1 < b.1)) :
    (insertEntry name value xs).Pairwise (fun a b => a.1 < b.1) := by
  induction xs with
  | nil => simp [insertEntry]
  | cons x xs ih =>
    obtain ⟨k, v⟩ := x
    obtain ⟨hx, hxs⟩ := List.pairwise_cons.1 h
    simp only [insertEntry]
    split
    · next hlt =>
      refine List.pairwise_cons.2 ⟨fun e he => ?_, h⟩
      rcases List.mem_cons.1 he with rfl | he
      · exact hlt
      · exact String.lt_trans hlt (hx e he)
    · split
      · next hgt =>
        refine List.pairwise_cons.2 ⟨fun e he => ?_, ih hxs⟩
        rcases mem_insertEntry he with he | he
        · exact he ▸ hgt
        · exact hx e he
      · next hge hle =>
        have hk : k = name := String.le_antisymm (String.not_lt.1 hge) (String.not_lt.1 hle)
        exact List.pairwise_cons.2 ⟨fun e he => hk ▸ hx e he, hxs⟩

theorem find?_insertEntry (name : String) (value : α) (xs : List (String × α)) (other : String) :
    (insertEntry name value xs).find? (·.1 == other) =
      if name = other then some (name, value) else xs.find? (·.1 == other) := by
  induction xs with
  | nil =>
    rw [insertEntry, List.find?_singleton]
    simp only [beq_iff_eq]
    rfl
  | cons x xs ih =>
    obtain ⟨k, v⟩ := x
    have hfind : ∀ (e : String × α) (rest : List (String × α)),
        (e :: rest).find? (·.1 == other) =
          if e.1 = other then some e else rest.find? (·.1 == other) := by
      intro e rest
      by_cases he : e.1 = other
      · rw [if_pos he, List.find?_cons_of_pos (by simpa using he)]
      · rw [if_neg he, List.find?_cons_of_neg (by simpa using he)]
    rw [insertEntry]
    split
    · rw [hfind]
    · next hlt =>
      split
      · next hgt =>
        have hne : name ≠ k := fun h => String.lt_irrefl k (h ▸ hgt)
        rw [hfind, hfind, ih]
        split
        · next hk => rw [if_neg fun h => hne (h.trans hk.symm)]
        · rfl
      · next hgt =>
        have hk : name = k := String.le_antisymm (String.not_lt.1 hgt) (String.not_lt.1 hlt)
        rw [hfind, hfind, ← hk]
        split <;> rfl

def insert (name : String) (value : α) (x : Named α) : Named α :=
  ⟨insertEntry name value x.entries, insertEntry_ordered x.ordered⟩

/-- Of entries with one name the last is kept. -/
def ofList (xs : List (String × α)) : Named α :=
  xs.foldl (fun x e => x.insert e.1 e.2) empty

def get? (x : Named α) (name : String) : Option α := member? x.entries name

/-- An entry replaces what stood under its name and nothing else. -/
theorem get?_insert (x : Named α) (name : String) (value : α) (other : String) :
    (x.insert name value).get? other = if name = other then some value else x.get? other := by
  unfold get? member? insert
  rw [find?_insertEntry]
  split <;> rfl

@[simp] theorem get?_empty (name : String) : (empty : Named α).get? name = none := rfl

def names (x : Named α) : List String := x.entries.map (·.1)

def erase (name : String) (x : Named α) : Named α :=
  ⟨x.entries.filter (·.1 != name), x.ordered.filter _⟩

theorem get?_erase (x : Named α) (name : String) : (x.erase name).get? name = none := by
  rw [get?, erase, member?_eq_none_iff]
  intro e he
  simpa using (List.mem_filter.mp he).2

end Named

end StorageConsole
