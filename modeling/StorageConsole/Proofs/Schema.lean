import Mathlib.Data.List.Sort
import Mathlib.Logic.Relation
import StorageConsole.Proofs.SessionText

/-!
Schemas: which values a record is decoded from, and which edits of a value leave the record as it
is. A decoder that reads along a schema accepts what the schema admits and does not see the edits;
each way of reading has its own law, and a record's law is put together from those of its members.
-/
namespace StorageConsole

namespace Named
variable {α : Type} {name : String} {value : α} {xs ys : List (String × α)}

theorem insertEntry_perm (h : name ∉ xs.map (·.1)) :
    (insertEntry name value xs).Perm ((name, value) :: xs) := by
  induction xs with
  | nil => exact .refl _
  | cons x xs ih =>
    obtain ⟨k, v⟩ := x
    have hne : name ≠ k := fun hk => h (hk ▸ List.mem_cons_self)
    have hrest : name ∉ xs.map (·.1) := fun hm => h (List.mem_cons_of_mem _ hm)
    rw [insertEntry]
    split
    · exact .refl _
    · next hlt =>
      have hgt : k < name := by
        by_contra hge
        exact hne (String.le_antisymm (String.not_lt.mp hge) (String.not_lt.mp hlt))
      rw [if_pos hgt]
      exact ((ih hrest).cons _).trans (.swap _ _ _)

/-- Entries of different names are only put in order. -/
theorem ofList_perm (h : (xs.map (·.1)).Nodup) : (ofList xs).entries.Perm xs := by
  induction hr : xs.reverse generalizing xs with
  | nil =>
    rw [List.reverse_eq_nil_iff.mp hr]
    exact .refl _
  | cons e rest ih =>
    obtain rfl : xs = rest.reverse ++ [e] := by
      rw [← List.reverse_reverse xs, hr, List.reverse_cons]
    rw [List.map_append, List.nodup_append] at h
    have hrest := ih h.1 (List.reverse_reverse rest)
    have hnew : e.1 ∉ (ofList rest.reverse).entries.map (·.1) := by
      rw [(hrest.map _).mem_iff]
      exact fun hm => h.2.2 _ hm _ (List.mem_singleton_self _) rfl
    rw [ofList_concat]
    exact (insertEntry_perm hnew).trans ((hrest.cons e).trans (List.perm_append_singleton e _).symm)

theorem ofList_congr (h : xs.Perm ys) (hn : (xs.map (·.1)).Nodup) : ofList xs = ofList ys := by
  have hys : (ys.map (·.1)).Nodup := ((h.map _).nodup_iff).mp hn
  refine eq_of_entries ?_
  refine (((ofList_perm hn).trans h).trans (ofList_perm hys).symm).eq_of_pairwise ?_
    (ofList xs).ordered (ofList ys).ordered
  intro a b _ _ hab hba
  exact absurd hba (String.lt_asymm hab)

end Named

namespace Json

def isText : Json → Bool
  | str _ => true
  | _ => false

end Json

/-- What a value is to be. -/
inductive Schema where
  | text
  | flag
  /-- An integer of 63 bits and a sign. -/
  | integer
  /-- An object of texts. -/
  | texts
  | list (item : Schema)
  | orNull (schema : Schema)
  | record (declared : List (String × Schema))
  /-- A record that keeps the members it does not declare. -/
  | openRecord (declared : List (String × Schema))

namespace Schema

mutual

/-- Whether the value is what it is to be, at every depth; each declared member may be absent. -/
def admits : Schema → Json → Bool
  | text, j => j.isText
  | flag, j => match j with
    | .bool _ => true
    | _ => false
  | integer, j => match j with
    | .int value => -9223372036854775808 ≤ value && value < 9223372036854775808
    | _ => false
  | texts, j => match j with
    | .obj members => members.all (·.2.isText)
    | _ => false
  | list item, j => match j with
    | .arr items => items.all item.admits
    | _ => false
  | orNull schema, j => match j with
    | .null => true
    | j => schema.admits j
  | record declared, j | openRecord declared, j => match j with
    | .obj members => admitsMembers declared members
    | _ => false

def admitsMembers : List (String × Schema) → List (String × Json) → Bool
  | [], _ => true
  | (name, schema) :: declared, members =>
    (match member? members name with
      | some j => schema.admits j
      | none => true) && admitsMembers declared members

end

mutual

/-- Whether no array stands where a record is expected, at any depth. -/
def isKeyed : Schema → Json → Bool
  | text, _ | flag, _ | integer, _ | texts, _ => true
  | list item, j => match j with
    | .arr items => items.all item.isKeyed
    | _ => true
  | orNull schema, j => schema.isKeyed j
  | record declared, j | openRecord declared, j => match j with
    | .obj members => isKeyedMembers declared members
    | .arr _ => false
    | _ => true

def isKeyedMembers : List (String × Schema) → List (String × Json) → Bool
  | [], _ => true
  | (name, schema) :: declared, members =>
    (match member? members name with
      | some j => schema.isKeyed j
      | none => true) && isKeyedMembers declared members

end

/-- One edit of a value that leaves it saying the same. Nothing inside an open record is edited,
since it keeps everything. -/
inductive Edit : Schema → Json → Json → Prop
  /-- A member that is not declared comes in. -/
  | addUndeclared {declared before after name value} (undeclared : name ∉ declared.map (·.1)) :
      Edit (record declared) (.obj (before ++ after)) (.obj (before ++ (name, value) :: after))
  | reorder {declared members members'} (perm : List.Perm members members')
      (distinct : (members.map (·.1)).Nodup) :
      Edit (record declared) (.obj members) (.obj members')
  | reorderTexts {members members'} (perm : List.Perm members members')
      (distinct : (members.map (·.1)).Nodup) : Edit texts (.obj members) (.obj members')
  /-- A null is left out of a record that has no second member of that name. -/
  | dropNull {declared before after name schema} (mem : (name, orNull schema) ∈ declared)
      (single : name ∉ after.map (·.1)) :
      Edit (record declared) (.obj (before ++ (name, .null) :: after)) (.obj (before ++ after))
  | inMember {declared before after name schema x y} (mem : (name, schema) ∈ declared)
      (edit : Edit schema x y) :
      Edit (record declared) (.obj (before ++ (name, x) :: after))
        (.obj (before ++ (name, y) :: after))
  | inItem {schema before after x y} (edit : Edit schema x y) :
      Edit (list schema) (.arr (before ++ x :: after)) (.arr (before ++ y :: after))
  | besideNull {schema x y} (edit : Edit schema x y) : Edit (orNull schema) x y

/-- Two values that edits lead from one to the other. -/
def Same (schema : Schema) : Json → Json → Prop := Relation.EqvGen schema.Edit

variable {α β : Type} {schema item : Schema} {decode : Json → Decoded α} {default : α}
  {x y j : Json} {declared : List (String × Schema)} {members members' : List (String × Json)}
  {name : String}

/-- The decoder accepts what the schema admits, and makes the same of values that are edited. -/
structure Reads (schema : Schema) (decode : Json → Decoded α) : Prop where
  accepts : ∀ {j}, schema.isKeyed j → (decode j).isOk = schema.admits j
  ignores : ∀ {x y}, schema.Edit x y → decode x = decode y

theorem Reads.same (h : Reads schema decode) (hs : schema.Same x y) : decode x = decode y := by
  induction hs with
  | rel x y he => exact h.ignores he
  | refl x => rfl
  | symm x y _ ih => exact ih.symm
  | trans x y z _ _ ih ih' => exact ih.trans ih'

theorem reads_text : Reads text Json.text where
  accepts := by
    intro j _
    cases j <;> rfl
  ignores := nofun

theorem reads_flag : Reads flag Json.flag where
  accepts := by
    intro j _
    cases j <;> rfl
  ignores := nofun

theorem reads_integer : Reads integer Json.int64 where
  accepts := by
    intro j _
    cases j with
    | int value =>
      have hmin : Int64.minValue.toInt = -9223372036854775808 := rfl
      have hmax : Int64.maxValue.toInt = 9223372036854775807 := rfl
      simp only [Json.int64, Json.asSigned?, hmin, hmax, admits]
      by_cases h : -9223372036854775808 ≤ value ∧ value ≤ 9223372036854775807
      · have hin : -9223372036854775808 ≤ value ∧ value < 9223372036854775808 := by omega
        rw [if_pos h]
        simpa [Except.isOk, Except.toBool] using hin
      · have hout : -9223372036854775808 ≤ value → 9223372036854775808 ≤ value := by omega
        rw [if_neg h]
        simpa [Except.isOk, Except.toBool] using hout
    | null | bool _ | double _ | str _ | arr _ | obj _ => rfl
  ignores := nofun

theorem decodeEntries_text (members : List (String × Json)) :
    Json.decodeEntries Json.text members =
      if members.all (·.2.isText) then .ok (members.map fun m => (m.1, m.2.asText?.getD ""))
      else .error (.unexpected "a string") := by
  induction members with
  | nil => rfl
  | cons m members ih =>
    obtain ⟨name, j⟩ := m
    rw [Json.decodeEntries, ih]
    cases j with
    | str text =>
      have hhead : ((name, Json.str text) :: members).all (·.2.isText) =
          members.all (·.2.isText) := rfl
      rw [hhead]
      split <;> rfl
    | null | bool _ | int _ | double _ | arr _ | obj _ => rfl

theorem reads_texts : Reads texts (Json.named Json.text) where
  accepts := by
    intro j _
    cases j with
    | obj members =>
      simp only [Json.named, admits, decodeEntries_text]
      split
      · next h => exact h.symm
      · next h => exact (Bool.eq_false_iff.mpr h).symm
    | null | bool _ | int _ | double _ | str _ | arr _ => rfl
  ignores := by
    intro x y he
    cases he with
    | @reorderTexts members members' perm distinct =>
      have hall : members.all (·.2.isText) = members'.all (·.2.isText) := perm.all_eq
      simp only [Json.named, decodeEntries_text, hall]
      split
      · refine congrArg Except.ok (Named.ofList_congr (perm.map _) ?_)
        rwa [List.map_map]
      · rfl

theorem isOk_decodeItems (h : Reads schema decode) {items : List Json}
    (hk : items.all schema.isKeyed) :
    (Json.decodeItems decode items).isOk = items.all schema.admits := by
  induction items with
  | nil => rfl
  | cons item items ih =>
    rw [List.all_cons, Bool.and_eq_true] at hk
    have hitem := h.accepts hk.1
    rw [Json.decodeItems, List.all_cons, ← hitem, ← ih hk.2]
    cases decode item with
    | error e => rfl
    | ok a => cases Json.decodeItems decode items <;> rfl

theorem reads_list (h : Reads item decode) : Reads (.list item) (Json.list decode) where
  accepts := by
    intro j hk
    cases j with
    | arr items => exact isOk_decodeItems h hk
    | null | bool _ | int _ | double _ | str _ | obj _ => rfl
  ignores := by
    intro x y he
    cases he with
    | @inItem _ before after x y edit =>
      change Json.decodeItems decode _ = Json.decodeItems decode _
      induction before with
      | nil => simp only [List.nil_append, Json.decodeItems, h.ignores edit]
      | cons first before ih => simp only [List.cons_append, Json.decodeItems, ih]

/-- No edit makes a null or takes one away, except as a member of a record. -/
theorem Edit.not_null (h : schema.Edit x y) : x ≠ .null ∧ y ≠ .null := by
  induction h with
  | besideNull _ ih => exact ih
  | _ => simp

/-- How a member is read that may be absent: where null is allowed, it stands for the absent
member. -/
structure ReadsMember (schema : Schema) (default : α) (decode : Json → Decoded α) : Prop
    extends Reads schema decode where
  omitted : ∀ inner, schema = .orNull inner → decode .null = .ok default

theorem Reads.member (h : Reads schema decode) (hs : ∀ inner, schema ≠ .orNull inner) :
    ReadsMember schema default decode := ⟨h, fun inner he => absurd he (hs inner)⟩

theorem member_text {default : String} : ReadsMember text default Json.text :=
  reads_text.member nofun

theorem member_flag {default : Bool} : ReadsMember flag default Json.flag :=
  reads_flag.member nofun

theorem member_integer {default : Int64} : ReadsMember integer default Json.int64 :=
  reads_integer.member nofun

theorem admits_orNull (hj : j ≠ .null) : (orNull schema).admits j = schema.admits j := by
  cases j with
  | null => exact absurd rfl hj
  | _ => rfl

/-- Null is read as the default, and the rest along the schema. -/
theorem Reads.orNull {read : Json → Decoded β} {default : β} (h : Reads schema decode) (g : α → β)
    (hnull : read .null = .ok default) (hrest : ∀ j ≠ .null, read j = (decode j).map g) :
    ReadsMember (.orNull schema) default read where
  accepts := by
    intro j hk
    by_cases hj : j = .null
    · rw [hj, hnull]
      rfl
    · have haccepts := h.accepts hk
      rw [hrest j hj, admits_orNull hj, ← haccepts]
      cases decode j <;> rfl
  ignores := by
    intro x y he
    cases he with
    | besideNull he =>
      obtain ⟨hx, hy⟩ := he.not_null
      rw [hrest x hx, hrest y hy, h.ignores he]
  omitted _ _ := hnull

theorem Reads.nullable (h : Reads schema decode) :
    ReadsMember (.orNull schema) default (Json.nullable default decode) := by
  apply h.orNull id rfl
  intro j hj
  cases j with
  | null => exact absurd rfl hj
  | _ => exact (congrFun Except.map_id _).symm

theorem Reads.optional (h : Reads schema decode) :
    ReadsMember (.orNull schema) none (Json.optional decode) := by
  apply h.orNull some rfl
  intro j hj
  cases j with
  | null => exact absurd rfl hj
  | _ => rfl

/-- What has become of a member, if anything: it has been edited, or it was null and is absent. -/
inductive MemberEdit (schema : Schema) : Option Json → Option Json → Prop where
  | same {a : Option Json} : MemberEdit schema a a
  | edited {x y : Json} (edit : schema.Edit x y) : MemberEdit schema (some x) (some y)
  | omitted {inner : Schema} (null : schema = orNull inner) : MemberEdit schema (some .null) none

/-- What is put in the place of one member is seen under no other name. -/
theorem member?_replace_of_ne {before after : List (String × Json)} {other : String}
    (h : other ≠ name) (x y : Json) :
    member? (before ++ (other, x) :: after) name =
      member? (before ++ (other, y) :: after) name := by
  rw [member?_append, member?_append, member?_cons_of_ne h, member?_cons_of_ne h]

/-- What an edit of a record comes to for each member that is declared. -/
theorem Edit.memberEdit (hd : (declared.map (·.1)).Nodup)
    (h : (record declared).Edit (.obj members) (.obj members')) (hm : (name, schema) ∈ declared) :
    MemberEdit schema (member? members name) (member? members' name) := by
  have hschema : ∀ other, (name, other) ∈ declared → other = schema := by
    intro other ho
    have he := List.inj_on_of_nodup_map hd ho hm rfl
    exact congrArg Prod.snd he
  cases h with
  | @addUndeclared _ before after other value undeclared =>
    have hne : other ≠ name := by
      rintro rfl
      exact undeclared (List.mem_map_of_mem hm)
    rw [member?_append, member?_append, member?_cons_of_ne hne]
    exact .same
  | reorder perm distinct =>
    rw [member?_perm perm distinct]
    exact .same
  | @dropNull _ before after other inner mem single =>
    by_cases hname : other = name
    · subst hname
      have hafter : member? after other = none := by
        rw [member?_eq_none_iff]
        rintro e he hother
        exact single (List.mem_map.mpr ⟨e, he, by simpa using hother⟩)
      rw [member?_append, member?_append, member?_cons_self, hafter]
      cases member? before other with
      | none => exact .omitted (hschema _ mem).symm
      | some j => exact .same
    · rw [member?_append, member?_append, member?_cons_of_ne hname]
      exact .same
  | @inMember _ before after other inner x y mem edit =>
    by_cases hname : other = name
    · subst hname
      rw [member?_append, member?_append, member?_cons_self, member?_cons_self]
      cases member? before other with
      | none => exact .edited (hschema _ mem ▸ edit)
      | some j => exact .same
    · rw [member?_replace_of_ne hname x y]
      exact .same

/-- The reading of some members of a record, one after another. -/
structure ReadsMembers (declared : List (String × Schema)) (read : Members → Decoded α) : Prop where
  accepts : ∀ {members}, isKeyedMembers declared members →
    (read (.byName members)).isOk = admitsMembers declared members
  ignores : ∀ {members members'}, (∀ m ∈ declared,
    MemberEdit m.2 (member? members m.1) (member? members' m.1)) →
    read (.byName members) = read (.byName members')

theorem ReadsMembers.nil (value : α) : ReadsMembers [] fun _ => .ok value :=
  ⟨fun _ => rfl, fun _ => rfl⟩

theorem withDefault_present {place : Nat} (h : member? members name = some j) :
    (Members.byName members).withDefault place name default decode = decode j := by
  have hget : (Members.byName members).get? place name = some j := h
  rw [Members.withDefault, hget]

theorem withDefault_absent {place : Nat} (h : member? members name = none) :
    (Members.byName members).withDefault place name default decode = .ok default := by
  have hget : (Members.byName members).get? place name = none := h
  rw [Members.withDefault, hget]

theorem ReadsMember.withDefault (h : ReadsMember schema default decode) (place : Nat)
    (he : MemberEdit schema (member? members name) (member? members' name)) :
    (Members.byName members).withDefault place name default decode =
      (Members.byName members').withDefault place name default decode := by
  generalize hx : member? members name = x at he
  generalize hy : member? members' name = y at he
  cases he with
  | edited edit =>
    rw [withDefault_present hx, withDefault_present hy]
    exact h.ignores edit
  | omitted null =>
    rw [withDefault_present hx, withDefault_absent hy]
    exact h.omitted _ null
  | same =>
    cases x with
    | none => rw [withDefault_absent hx, withDefault_absent hy]
    | some j => rw [withDefault_present hx, withDefault_present hy]

/-- One more member is read, and the others after it. -/
theorem ReadsMember.andThen {read : α → Members → Decoded β} {place : Nat}
    (h : ReadsMember schema default decode) (hrest : ∀ a, ReadsMembers declared (read a)) :
    ReadsMembers ((name, schema) :: declared) fun ms =>
      ms.withDefault place name default decode >>= fun a => read a ms where
  accepts := by
    intro members hk
    rw [isKeyedMembers, Bool.and_eq_true] at hk
    obtain ⟨hmember, hk⟩ := hk
    rw [admitsMembers]
    cases hj : member? members name with
    | none =>
      rw [withDefault_absent hj]
      exact (hrest default).accepts hk
    | some j =>
      rw [hj] at hmember
      have hok := h.accepts hmember
      rw [withDefault_present hj]
      dsimp only
      rw [← hok]
      cases decode j with
      | error e => rfl
      | ok a => exact (hrest a).accepts hk
  ignores := by
    intro members members' he
    rw [h.withDefault place (he _ (.head _))]
    refine congrArg _ (funext fun a => ?_)
    exact (hrest a).ignores fun m hm => he m (.tail _ hm)

theorem ReadsMembers.record {read : Members → Decoded α} {count : Nat}
    (h : ReadsMembers declared read) (hd : (declared.map (·.1)).Nodup) :
    Reads (.record declared) fun j => j.members count >>= read where
  accepts := by
    intro j hk
    cases j with
    | obj members => exact h.accepts hk
    | arr items => cases hk
    | null | bool _ | int _ | double _ | str _ => rfl
  ignores := by
    intro x y he
    have hobj : ∃ members members', x = .obj members ∧ y = .obj members' := by
      cases he <;> exact ⟨_, _, rfl, rfl⟩
    obtain ⟨members, members', rfl, rfl⟩ := hobj
    exact h.ignores fun m hm => he.memberEdit hd hm

end Schema
end StorageConsole
