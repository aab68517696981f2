import StorageConsole.Backend.Api

/-!
Records as JSON values: what has been encoded is decoded again. Each kind of member has its own law,
and a record's law is put together from those of its members.
-/
namespace StorageConsole

namespace Named
variable {α : Type} {name : String} {value : α} {xs : List (String × α)}

theorem eq_of_entries {x y : Named α} (h : x.entries = y.entries) : x = y := by
  cases x
  cases y
  cases h
  rfl

theorem insertEntry_of_lt (h : ∀ e ∈ xs, e.1 < name) :
    insertEntry name value xs = xs ++ [(name, value)] := by
  induction xs with
  | nil => rfl
  | cons x xs ih =>
    have hx : x.1 < name := h x (.head _)
    rw [insertEntry, if_neg (String.lt_asymm hx), if_pos hx, ih fun e he => h e (.tail _ he)]
    rfl

/-- Entries that are in order already are kept as they are. -/
theorem ofList_entries (x : Named α) : ofList x.entries = x := by
  have hfold : ∀ (ys : List (String × α)) (y : Named α),
      (y.entries ++ ys).Pairwise (fun a b => a.1 < b.1) →
      (ys.foldl (fun z e => z.insert e.1 e.2) y).entries = y.entries ++ ys := by
    intro ys
    induction ys with
    | nil => exact fun y _ => (List.append_nil _).symm
    | cons e ys ih =>
      intro y hy
      have hlast : ∀ d ∈ y.entries, d.1 < e.1 := fun d hd =>
        (List.pairwise_append.mp hy).2.2 d hd e (.head _)
      have he : (y.insert e.1 e.2).entries = y.entries ++ [e] := insertEntry_of_lt hlast
      rw [List.foldl_cons, ih _ (by rwa [he, List.append_assoc]), he, List.append_assoc]
      rfl
  exact eq_of_entries (hfold x.entries empty x.ordered)

theorem ofList_concat (xs : List (String × α)) (e : String × α) :
    ofList (xs ++ [e]) = (ofList xs).insert e.1 e.2 := List.foldl_append ..

/-- Of entries with one name the last is found. -/
theorem get?_ofList (xs : List (String × α)) (name : String) :
    (ofList xs).get? name = member? xs.reverse name := by
  induction h : xs.reverse generalizing xs with
  | nil =>
    rw [List.reverse_eq_nil_iff.mp h]
    rfl
  | cons e ys ih =>
    obtain rfl : xs = ys.reverse ++ [e] := by rw [← List.reverse_reverse xs, h, List.reverse_cons]
    rw [ofList_concat, get?_insert, ih ys.reverse (List.reverse_reverse ys)]
    by_cases he : e.1 = name
    · rw [if_pos he, ← he, member?_cons_self]
    · rw [if_neg he, member?_cons_of_ne he]

end Named

namespace Decoded
variable {α β : Type}

@[simp] theorem ok_bind (a : α) (f : α → Decoded β) : (Except.ok a : Decoded α) >>= f = f a := rfl

@[simp] theorem pure_eq (a : α) : (pure a : Decoded α) = .ok a := rfl

end Decoded

namespace Json
variable {α : Type} {decode : Json → Decoded α} {encode : α → Json} {j : Json}

@[simp] theorem text_str (s : String) : text (.str s) = .ok s := rfl

@[simp] theorem flag_bool (b : Bool) : flag (.bool b) = .ok b := rfl

@[simp] theorem int64_toInt (n : Int64) : int64 (.int n.toInt) = .ok n := by
  have hrange : Int64.minValue.toInt ≤ n.toInt ∧ n.toInt ≤ Int64.maxValue.toInt :=
    ⟨n.minValue_le_toInt, n.toInt_le⟩
  rw [int64, asSigned?, if_pos hrange]
  simp

theorem decodeItems_map {xs : List α} (h : ∀ x ∈ xs, decode (encode x) = .ok x) :
    decodeItems decode (xs.map encode) = .ok xs := by
  induction xs with
  | nil => rfl
  | cons x xs ih =>
    rw [List.map_cons, decodeItems, h x (.head _), ih fun y hy => h y (.tail _ hy)]
    rfl

theorem list_map {xs : List α} (h : ∀ x ∈ xs, decode (encode x) = .ok x) :
    list decode (.arr (xs.map encode)) = .ok xs := decodeItems_map h

/-- Each item of a list was decoded from some value. -/
theorem exists_of_list {xs : List α} (h : list decode j = .ok xs) :
    ∀ x ∈ xs, ∃ j, decode j = .ok x := by
  cases j with
  | arr items =>
    change decodeItems decode items = .ok xs at h
    induction items generalizing xs with
    | nil =>
      cases h
      exact fun x hx => nomatch hx
    | cons item items ih =>
      obtain ⟨first, hfirst, h⟩ := exists_ok_of_bind h
      obtain ⟨rest, hrest, h⟩ := exists_ok_of_bind h
      cases h
      intro x hx
      rcases List.mem_cons.mp hx with rfl | hx
      · exact ⟨item, hfirst⟩
      · exact ih hrest x hx
  | null | bool _ | int _ | double _ | str _ | obj _ => cases h

theorem of_nullable {default a : α} (h : nullable default decode j = .ok a) :
    a = default ∨ decode j = .ok a := by
  cases j with
  | null =>
    cases h
    exact .inl rfl
  | bool _ | int _ | double _ | str _ | arr _ | obj _ => exact .inr h

@[simp] theorem decodeEntries_texts (xs : List (String × String)) :
    decodeEntries text (xs.map fun (name, text) => (name, .str text)) = .ok xs := by
  induction xs with
  | nil => rfl
  | cons x xs ih =>
    rw [List.map_cons, decodeEntries, ih]
    rfl

theorem named_encodeTexts (texts : Named String) :
    named text (encodeTexts texts) = .ok texts := by
  rw [encodeTexts, named, decodeEntries_texts]
  exact congrArg Except.ok texts.ofList_entries

end Json

namespace Members
variable {α : Type} {ms : List (String × Json)} {place : Nat} {name other : String} {a : α}
  {default : α} {decode : Json → Decoded α} {j : Json}

@[simp] theorem of_obj (count : Nat) : (Json.obj ms).members count = .ok (byName ms) := rfl

@[simp] theorem withDefault_nil : (byName []).withDefault place name default decode = .ok default :=
  rfl

@[simp] theorem withDefault_self :
    (byName ((name, j) :: ms)).withDefault place name default decode = decode j := by
  simp [withDefault, get?]

@[simp] theorem withDefault_other (h : other ≠ name) :
    (byName ((other, j) :: ms)).withDefault place name default decode =
      (byName ms).withDefault place name default decode := by
  simp [withDefault, get?, h]

@[simp] theorem required_self :
    (byName ((name, j) :: ms)).required place name decode = decode j := by
  simp [required, get?]

@[simp] theorem required_other (h : other ≠ name) :
    (byName ((other, j) :: ms)).required place name decode =
      (byName ms).required place name decode := by
  simp [required, get?, h]

/-- A member that has been left out is absent, unless a later one takes its name. -/
@[simp] theorem withDefault_optional {value : Option String}
    (h : (byName ms).withDefault place name none (Json.optional Json.text) = .ok none) :
    (byName (optionalMember name value ++ ms)).withDefault place name none
      (Json.optional Json.text) = .ok value := by
  cases value with
  | none => exact h
  | some text => exact withDefault_self

@[simp] theorem withDefault_optional_other {value : Option String} (h : other ≠ name) :
    (byName (optionalMember other value ++ ms)).withDefault place name default decode =
      (byName ms).withDefault place name default decode := by
  cases value with
  | none => rfl
  | some text => exact withDefault_other h

@[simp] theorem withDefault_optional_last_other {value : Option String} (h : other ≠ name) :
    (byName (optionalMember other value)).withDefault place name default decode = .ok default := by
  cases value with
  | none => rfl
  | some text => exact withDefault_other h

@[simp] theorem withDefault_optional_last {value : Option String} :
    (byName (optionalMember name value)).withDefault place name none
      (Json.optional Json.text) = .ok value := by
  rw [← List.append_nil (optionalMember name value)]
  exact withDefault_optional rfl

theorem of_withDefault {ms : Members} (h : ms.withDefault place name default decode = .ok a) :
    a = default ∨ ∃ j, decode j = .ok a := by
  unfold withDefault at h
  split at h
  · exact .inr ⟨_, h⟩
  · cases h
    exact .inl rfl

end Members

theorem VolumeName.decode_encode (v : VolumeName) : decode v.encode = .ok v := by
  simp [decode, encode]

theorem Profile.decode_encode (p : Profile) : decode p.encode = .ok p := by
  simp [decode, encode]

theorem Credentials.decode_encode (c : Credentials) : decode c.encode = .ok c := by
  cases h : c.remember <;> simp [decode, encode, h] <;> rw [← h]

theorem Registration.decode_encode (r : Registration) : decode r.encode = .ok r := by
  simp [decode, encode]

theorem RegistrationOutcome.decode_encode (o : RegistrationOutcome) : decode o.encode = .ok o := by
  simp [decode, encode]

theorem Invitation.decode_encode (i : Invitation) : decode i.encode = .ok i := by
  simp [decode, encode]

theorem Payment.decode_encode (p : Payment) : decode p.encode = .ok p := by
  simp [decode, encode]

theorem Volume.decode_encode (v : Volume) : decode v.encode = .ok v := by
  have hname : Json.nullable .empty VolumeName.decode v.name.encode = .ok v.name :=
    v.name.decode_encode
  have hstatuses : Json.nullable .empty (Json.named Json.text) (encodeTexts v.serverStatuses) =
      .ok v.serverStatuses := Json.named_encodeTexts v.serverStatuses
  simp [decode, encode, hname, hstatuses]

theorem Repo.decode_encode (r : Repo) : decode r.encode = .ok r := by
  have htop : Json.nullable .empty Volume.decode r.topLevel.encode = .ok r.topLevel :=
    r.topLevel.decode_encode
  have hclones : Json.nullable [] (Json.list Volume.decode) (.arr (r.clones.map Volume.encode)) =
      .ok r.clones := Json.list_map fun v _ => v.decode_encode
  have howner : Json.nullable .empty Profile.decode r.owner.encode = .ok r.owner :=
    r.owner.decode_encode
  have hothers : Json.nullable [] (Json.list Profile.decode)
      (.arr (r.collaborators.map Profile.encode)) = .ok r.collaborators :=
    Json.list_map fun p _ => p.decode_encode
  simp [decode, encode, htop, hclones, howner, hothers]

theorem Server.decode_encode (s : Server) : decode s.encode = .ok s := by
  have haddresses : Json.nullable [] (Json.list Json.text) (.arr (s.addresses.map .str)) =
      .ok s.addresses := Json.list_map fun text _ => Json.text_str text
  simp [decode, encode, haddresses]

theorem Inventory.decode_encode (i : Inventory) : decode i.encode = .ok i := by
  have hrepos : Json.nullable [] (Json.list Repo.decode) (.arr (i.repos.map Repo.encode)) =
      .ok i.repos := Json.list_map fun r _ => r.decode_encode
  have hservers : Json.nullable [] (Json.list Server.decode) (.arr (i.servers.map Server.encode)) =
      .ok i.servers := Json.list_map fun s _ => s.decode_encode
  simp [decode, encode, hrepos, hservers]

theorem Commit.decode_encode (c : Commit) : decode c.encode = .ok c := by
  have hmetadata : Json.nullable .empty (Json.named Json.text) (encodeTexts c.metadata) =
      .ok c.metadata := Json.named_encodeTexts c.metadata
  simp [decode, encode, hmetadata]

namespace Plan

/-- The details leave the id to the plan itself. -/
def IsProper (p : Plan) : Prop := p.details.get? "Id" = none

theorem decode_encode {p : Plan} (h : p.IsProper) : decode p.encode = .ok p := by
  have hkept : p.details.entries.filter (·.1 != "Id") = p.details.entries := by
    refine List.filter_eq_self.mpr fun e he => ?_
    simpa using member?_eq_none_iff.mp h e he
  simp [decode, encode, hkept, Named.ofList_entries]

/-- What is decoded as details never holds the id. -/
theorem isProper_of_decode {j : Json} {p : Plan} (h : decode j = .ok p) : p.IsProper := by
  cases j with
  | obj members =>
    obtain ⟨id, _, h⟩ := exists_ok_of_bind h
    cases h
    rw [IsProper, Named.get?_ofList, member?_eq_none_iff]
    intro e he
    have hne := (List.mem_filter.mp (List.mem_reverse.mp he)).2
    simpa using hne
  | null | bool _ | int _ | double _ | str _ | arr _ => cases h

end Plan

namespace PublicConfig

def IsProper (c : PublicConfig) : Prop := ∀ p ∈ c.plans, p.IsProper

theorem decode_encode {c : PublicConfig} (h : c.IsProper) : decode c.encode = .ok c := by
  have hplans : Json.nullable [] (Json.list Plan.decode) (.arr (c.plans.map Plan.encode)) =
      .ok c.plans := Json.list_map fun p hp => Plan.decode_encode (h p hp)
  simp [decode, encode, hplans]

theorem isProper_of_decode {j : Json} {c : PublicConfig} (h : decode j = .ok c) : c.IsProper := by
  obtain ⟨ms, _, h⟩ := exists_ok_of_bind h
  obtain ⟨plans, hplans, h⟩ := exists_ok_of_bind h
  obtain ⟨key, _, h⟩ := exists_ok_of_bind h
  cases h
  intro p hp
  obtain rfl | ⟨_, hlist⟩ := Members.of_withDefault hplans
  · cases hp
  · obtain rfl | hlist := Json.of_nullable hlist
    · cases hp
    · obtain ⟨_, hplan⟩ := Json.exists_of_list hlist p hp
      exact Plan.isProper_of_decode hplan

end PublicConfig

inductive RecordKind where
  | credentials
  | profile
  | registration
  | registrationOutcome
  | volumeName
  | volume
  | repo
  | server
  | inventory
  | invitation
  | commit
  | plan
  | publicConfig
  | payment

namespace RecordKind

/-- The records of a kind. -/
@[reducible] def Record : RecordKind → Type
  | credentials => Credentials
  | profile => Profile
  | registration => Registration
  | registrationOutcome => RegistrationOutcome
  | volumeName => VolumeName
  | volume => Volume
  | repo => Repo
  | server => Server
  | inventory => Inventory
  | invitation => Invitation
  | commit => Commit
  | plan => Plan
  | publicConfig => PublicConfig
  | payment => Payment

def encode : (kind : RecordKind) → kind.Record → Json
  | credentials => Credentials.encode
  | profile => Profile.encode
  | registration => Registration.encode
  | registrationOutcome => RegistrationOutcome.encode
  | volumeName => VolumeName.encode
  | volume => Volume.encode
  | repo => Repo.encode
  | server => Server.encode
  | inventory => Inventory.encode
  | invitation => Invitation.encode
  | commit => Commit.encode
  | plan => Plan.encode
  | publicConfig => PublicConfig.encode
  | payment => Payment.encode

def decode : (kind : RecordKind) → Json → Decoded kind.Record
  | credentials => Credentials.decode
  | profile => Profile.decode
  | registration => Registration.decode
  | registrationOutcome => RegistrationOutcome.decode
  | volumeName => VolumeName.decode
  | volume => Volume.decode
  | repo => Repo.decode
  | server => Server.decode
  | inventory => Inventory.decode
  | invitation => Invitation.decode
  | commit => Commit.decode
  | plan => Plan.decode
  | publicConfig => PublicConfig.decode
  | payment => Payment.decode

/-- Only plans can hold what their text does not tell apart: details under the name of the id. -/
def IsProper : (kind : RecordKind) → kind.Record → Prop
  | plan, p => p.IsProper
  | publicConfig, c => c.IsProper
  | _, _ => True

theorem decode_encode (kind : RecordKind) (v : kind.Record) (h : kind.IsProper v) :
    kind.decode (kind.encode v) = .ok v := by
  cases kind with
  | credentials => exact Credentials.decode_encode v
  | profile => exact Profile.decode_encode v
  | registration => exact Registration.decode_encode v
  | registrationOutcome => exact RegistrationOutcome.decode_encode v
  | volumeName => exact VolumeName.decode_encode v
  | volume => exact Volume.decode_encode v
  | repo => exact Repo.decode_encode v
  | server => exact Server.decode_encode v
  | inventory => exact Inventory.decode_encode v
  | invitation => exact Invitation.decode_encode v
  | commit => exact Commit.decode_encode v
  | plan => exact Plan.decode_encode h
  | publicConfig => exact PublicConfig.decode_encode h
  | payment => exact Payment.decode_encode v

theorem isProper_of_decode {kind : RecordKind} {j : Json} {v : kind.Record}
    (h : kind.decode j = .ok v) : kind.IsProper v := by
  cases kind with
  | plan => exact Plan.isProper_of_decode h
  | publicConfig => exact PublicConfig.isProper_of_decode h
  | _ => trivial

/-- A record of any kind is read back from what it is written as, and so is every record that has
been read from any value. -/
theorem records_are_read_back (kind : RecordKind) :
    (∀ v : kind.Record, kind.IsProper v → kind.decode (kind.encode v) = .ok v) ∧
    ∀ (j : Json) (v : kind.Record), kind.decode j = .ok v →
      kind.IsProper v ∧ kind.decode (kind.encode v) = .ok v := by
  refine ⟨kind.decode_encode, fun j v h => ?_⟩
  have hproper : kind.IsProper v := isProper_of_decode h
  exact ⟨hproper, kind.decode_encode v hproper⟩

/-- A configuration whose plan has details of its own, one of them an object with an id. -/
def goldPlan : PublicConfig :=
  ⟨[⟨"gold", Named.ofList [("Amount", .int 5), ("Limits", .obj [("Id", .str "x")])]⟩], none⟩

/-- The same as an array of its members, the plan's members out of order. -/
def goldPlanByPlace : Json :=
  .arr [.arr [.obj [("Limits", .obj [("Id", .str "x")]), ("Amount", .int 5), ("Id", .str "gold")]]]

theorem records_are_read_back_goldPlan :
    (goldPlan.IsProper ∧ PublicConfig.decode goldPlan.encode = .ok goldPlan) ∧
      PublicConfig.decode goldPlanByPlace = .ok goldPlan ∧
      PublicConfig.decode goldPlan.encode = .ok goldPlan := by
  have hproper : goldPlan.IsProper := by
    intro p hp
    rw [List.mem_singleton.mp hp]
    rfl
  have hplace : PublicConfig.decode goldPlanByPlace = .ok goldPlan := by rfl
  obtain ⟨hwritten, hread⟩ := records_are_read_back .publicConfig
  exact ⟨⟨hproper, hwritten goldPlan hproper⟩, hplace, (hread goldPlanByPlace goldPlan hplace).2⟩

end RecordKind

end StorageConsole
