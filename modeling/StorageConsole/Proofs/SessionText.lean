import Mathlib.Data.List.Nodup
import StorageConsole.Proofs.RecordRoundTrip

/-!
Texts of flat objects, whose members are texts and flags: what has been written is read back. A
stored session is such a text.
-/
namespace StorageConsole

namespace Json

/-- Whether a value is a text or a flag. -/
def isWord : Json → Bool
  | str _ | bool _ => true
  | null | int _ | double _ | arr _ | obj _ => false

namespace Source
variable {text cs rest : List Char} {c : Char} {n fuel room : Nat} {p : Piece} {j : Json}
  {ms : List (String × Json)}

/-- Whether some characters are read as one piece, whatever comes behind them. -/
def ReadAs (text : List Char) (p : Piece) : Prop :=
  ∀ cs, pieces (text ++ cs) = (pieces cs).map fun r => (p :: r.1, r.2)

theorem join_char (c : Char) (ps : List Piece) :
    join (.char c :: ps) = (join ps).map (c :: ·) := rfl

/-- A unit below the surrogates is a character of its own. -/
theorem join_unit (h : n < 0xD800) (ps : List Piece) :
    join (.unit n :: ps) = (join ps).map (Char.ofNat n :: ·) := by
  have hhigh : isHigh n = false := by simp [isHigh]; omega
  have hlow : isLow n = false := by simp [isLow]; omega
  cases ps with
  | nil => simp [join, hhigh, hlow]
  | cons p ps => cases p <;> simp [join, hhigh, hlow]

theorem hexUnit_hexDigit : ∀ n < 32, hexUnit '0' '0' (hexDigit (n / 16)) (hexDigit n) = some n := by
  decide

theorem readAs_short {e : Char} (h : ∀ cs, pieces ('\\' :: e :: cs) =
    (pieces cs).bind fun r => some (.char c :: r.1, r.2)) : ReadAs ['\\', e] (.char c) := by
  intro cs
  exact (h cs).trans (Option.map_eq_bind ..).symm

theorem readAs_unit (h : n < 32) :
    ReadAs ['\\', 'u', '0', '0', hexDigit (n / 16), hexDigit n] (.unit n) := by
  intro cs
  simp only [List.cons_append, List.nil_append, pieces, hexUnit_hexDigit n h]
  exact (Option.map_eq_bind ..).symm

theorem readAs_plain (h : 32 ≤ c.toNat) (hquote : c ≠ '\"') (hslash : c ≠ '\\') :
    ReadAs [c] (.char c) := by
  intro cs
  have hc : ¬(c = '\\' ∨ c.toNat < 32) := not_or.mpr ⟨hslash, Nat.not_lt.mpr h⟩
  simp only [List.cons_append, List.nil_append]
  rw [pieces, if_neg hc]
  · exact (Option.map_eq_bind ..).symm
  · exact hquote
  · exact fun _ _ _ _ _ h _ => hslash h
  · exact fun _ _ h _ => hslash h

/-- An escaped character is read as one piece, which stands for the character. -/
theorem exists_piece (c : Char) :
    ∃ p, ReadAs (escape c) p ∧ ∀ ps, join (p :: ps) = (join ps).map (c :: ·) := by
  have hofNat : Char.ofNat c.toNat = c := Char.ofNat_toNat c
  unfold escape
  split
  case h_6 hquote hslash _ _ _ =>
    split
    · next h =>
      obtain rfl : c = '\x08' := by rw [← hofNat, h]
      exact ⟨_, readAs_short fun _ => rfl, join_char _⟩
    · split
      · next h =>
        obtain rfl : c = '\x0c' := by rw [← hofNat, h]
        exact ⟨_, readAs_short fun _ => rfl, join_char _⟩
      · split
        · next h =>
          have hc : c.toNat < 0xD800 := Nat.lt_trans h (by decide)
          exact ⟨.unit c.toNat, readAs_unit h, fun ps => by rw [join_unit hc, hofNat]⟩
        · next h => exact ⟨_, readAs_plain (by omega) hquote hslash, join_char c⟩
  all_goals exact ⟨_, readAs_short fun _ => rfl, join_char _⟩

theorem pieces_escaped (text rest : List Char) :
    ∃ ps, pieces (text.flatMap escape ++ '\"' :: rest) = some (ps, rest) ∧ join ps = some text := by
  induction text with
  | nil => exact ⟨[], rfl, rfl⟩
  | cons c text ih =>
    obtain ⟨ps, hps, hjoin⟩ := ih
    obtain ⟨p, hp, hc⟩ := exists_piece c
    refine ⟨p :: ps, ?_, ?_⟩
    · rw [List.flatMap_cons, List.append_assoc, hp, hps]
      rfl
    · rw [hc, hjoin]
      rfl

theorem readString_quote (text : String) (rest : List Char) :
    readString (text.toList.flatMap escape ++ '\"' :: rest) = some (some text, rest) := by
  obtain ⟨ps, hps, hjoin⟩ := pieces_escaped text.toList rest
  rw [readString, hps]
  simp [hjoin]

/-- How a text or a flag is read. -/
def ofWord : Json → Source
  | .str text => .string (some text)
  | .bool value => .bool value
  | .null | .int _ | .double _ | .arr _ | .obj _ => .null

def ofMember (m : String × Json) : Option String × Source := (some m.1, ofWord m.2)

theorem readValue_word (h : j.isWord) (rest : List Char) :
    readValue (fuel + 1) (compactChars j ++ rest) = some (ofWord j, rest) := by
  cases j with
  | str text =>
    have hs := readString_quote text rest
    simp [compactChars, quote, readValue, skip, isSpace, hs, ofWord]
  | bool value => cases value <;> simp [compactChars, readValue, skip, isSpace, ofWord]
  | null | int _ | double _ | arr _ | obj _ => cases h

section
variable {name : String} {value : Source} {tail : List Char}
  {members : List (Option String × Source)}

theorem readMembers_last (hvalue : readValue fuel cs = some (value, '\x7d' :: rest)) :
    readMembers (fuel + 1) (quote name ++ ':' :: cs) = some ([(some name, value)], rest) := by
  have hname := readString_quote name (':' :: cs)
  simp [readMembers, quote, skip, isSpace, hname, hvalue]

theorem readMembers_more (hvalue : readValue fuel cs = some (value, ',' :: rest))
    (hmore : readMembers fuel rest = some (members, tail)) :
    readMembers (fuel + 1) (quote name ++ ':' :: cs) =
      some ((some name, value) :: members, tail) := by
  have hname := readString_quote name (':' :: cs)
  simp [readMembers, quote, skip, isSpace, hname, hvalue, hmore]

end

theorem compactMembers_cons_cons (m d : String × Json) (ms : List (String × Json)) :
    compactMembers (m :: d :: ms) =
      quote m.1 ++ ':' :: compactChars m.2 ++ ',' :: compactMembers (d :: ms) := rfl

/-- Members are read from the first one to the closing brace. -/
theorem readMembers_words (hms : ms ≠ []) (hfuel : ms.length < fuel) (hw : ∀ m ∈ ms, m.2.isWord)
    (rest : List Char) :
    readMembers fuel (compactMembers ms ++ '\x7d' :: rest) = some (ms.map ofMember, rest) := by
  induction ms generalizing fuel with
  | nil => exact absurd rfl hms
  | cons m ms ih =>
    -- One step of the fuel is for the member and one for its value.
    obtain ⟨fuel, rfl⟩ : ∃ k, fuel = k + 2 := ⟨fuel - 2, by simp at hfuel; omega⟩
    have hvalue : ∀ cs, readValue (fuel + 1) (compactChars m.2 ++ cs) = some (ofWord m.2, cs) :=
      readValue_word (hw m (.head _))
    cases ms with
    | nil =>
      rw [compactMembers, List.append_assoc, List.cons_append]
      exact readMembers_last (hvalue _)
    | cons d ms =>
      have hmore := ih (List.cons_ne_nil d ms) (Nat.lt_of_succ_lt_succ hfuel)
        fun x hx => hw x (.tail _ hx)
      rw [compactMembers_cons_cons, List.append_assoc, List.append_assoc]
      exact readMembers_more (hvalue _) hmore

theorem length_le_compactMembers (ms : List (String × Json)) :
    ms.length ≤ (compactMembers ms).length := by
  induction ms with
  | nil => exact Nat.le_refl _
  | cons m ms ih =>
    cases ms with
    | nil => simp [compactMembers, quote]
    | cons d ms =>
      rw [compactMembers_cons_cons]
      simp only [List.length_append, List.length_cons] at ih ⊢
      omega

theorem readValue_flat (hfuel : ms.length < fuel) (hw : ∀ m ∈ ms, m.2.isWord) :
    readValue (fuel + 1) (compactChars (.obj ms)) = some (.object (ms.map ofMember), []) := by
  cases ms with
  | nil => rfl
  | cons m ms =>
    have hread := readMembers_words (List.cons_ne_nil m ms) hfuel hw []
    obtain ⟨cs, hcs⟩ : ∃ cs, compactMembers (m :: ms) = '\"' :: cs := by
      cases ms <;> exact ⟨_, rfl⟩
    rw [hcs, List.cons_append] at hread
    rw [compactChars, hcs]
    simp [readValue, skip, isSpace, hread]

/-- A flat object is read with each of its members. -/
theorem read?_compact (hw : ∀ m ∈ ms, m.2.isWord) :
    read? (Json.obj ms).compact.toList = some (.object (ms.map ofMember)) := by
  have hlength := length_le_compactMembers ms
  have hfuel : ms.length < 2 * (compactChars (.obj ms)).length + 1 := by
    rw [compactChars, List.length_append, List.length_cons]
    omega
  rw [compact, String.toList_ofList, read?, readValue_flat hfuel hw]
  rfl

theorem whole_word (h : j.isWord) (room : Nat) : whole room (ofWord j) = .ok j := by
  cases j with
  | str text => rfl
  | bool value => rfl
  | null | int _ | double _ | arr _ | obj _ => cases h

theorem along_value (s : Source) : along room .value s = whole room s := by
  cases s <;> rfl

theorem memberNames_words (ms : List (String × Json)) :
    memberNames (ms.map ofMember) = some (ms.map (·.1)) := by
  induction ms with
  | nil => rfl
  | cons m ms ih =>
    simp only [memberNames, List.map_cons, List.mapM_cons] at ih ⊢
    rw [ih]
    rfl

/-- Declared members of a flat object are kept as they are. -/
theorem membersAlong_words {declared : List String} (hw : ∀ m ∈ ms, m.2.isWord)
    (hd : ∀ m ∈ ms, m.1 ∈ declared) :
    membersAlong room (declared.map fun name => (name, .value)) (ms.map ofMember) = .ok ms := by
  induction ms with
  | nil => rfl
  | cons m ms ih =>
    have hm : member? (declared.map fun name => (name, Outline.value)) m.1 = some .value := by
      have hfound : m.1 ∈ declared := hd m (.head _)
      cases hfind : (declared.map fun name => (name, Outline.value)).find? (·.1 == m.1) with
      | none =>
        simpa using List.find?_eq_none.mp hfind _ (List.mem_map_of_mem hfound)
      | some e =>
        obtain ⟨name, _, rfl⟩ := List.mem_map.mp (List.mem_of_find?_eq_some hfind)
        rw [member?, hfind]
        rfl
    have hrest := ih (fun x hx => hw x (.tail _ hx)) fun x hx => hd x (.tail _ hx)
    rw [List.map_cons, ofMember, membersAlong, hm]
    simp only [along_value, whole_word (hw m (.head _)), hrest]
    rfl

end Source
end Json

theorem Outline.repeatedName_eq_none {declared names : List String} (h : names.Nodup) :
    repeatedName declared names = none := by
  refine List.find?_eq_none.mpr fun name _ => ?_
  have hcount : names.count name ≤ 1 := List.nodup_iff_count_le_one.mp h name
  simpa using hcount

section
variable {α : Type} {ms ms' : List (String × α)} {e : String × α}

/-- Where no two members share a name, each is found under its own. -/
theorem member?_of_nodup (h : (ms.map (·.1)).Nodup) (he : e ∈ ms) : member? ms e.1 = some e.2 := by
  cases hfind : ms.find? (·.1 == e.1) with
  | none => simpa using List.find?_eq_none.mp hfind e he
  | some d =>
    have hname : d.1 = e.1 := by simpa using List.find?_some hfind
    rw [member?, hfind, List.inj_on_of_nodup_map h (List.mem_of_find?_eq_some hfind) he hname,
      Option.map_some]

theorem member?_perm (h : ms.Perm ms') (hn : (ms.map (·.1)).Nodup) (name : String) :
    member? ms name = member? ms' name := by
  have hn' : (ms'.map (·.1)).Nodup := ((h.map _).nodup_iff).mp hn
  by_cases hm : ∃ e ∈ ms, e.1 = name
  · obtain ⟨e, he, rfl⟩ := hm
    rw [member?_of_nodup hn he, member?_of_nodup hn' (h.mem_iff.mp he)]
  · have hnone : ∀ e ∈ ms, e.1 ≠ name := fun e he hname => hm ⟨e, he, hname⟩
    rw [member?_eq_none_iff.mpr hnone, member?_eq_none_iff.mpr fun e he =>
      hnone e (h.mem_iff.mpr he)]

theorem Named.get?_ofList_of_nodup (h : (ms.map (·.1)).Nodup) (name : String) :
    (Named.ofList ms).get? name = member? ms name := by
  rw [Named.get?_ofList, member?_perm (List.reverse_perm ms).symm h]

end

namespace Members
variable {α : Type} {ms ms' : List (String × Json)} {place : Nat} {name : String} {default : α}
  {decode : Json → Decoded α}

/-- Only what is found under its name counts for a member. -/
theorem withDefault_congr (h : (byName ms).get? place name = (byName ms').get? place name) :
    (byName ms).withDefault place name default decode =
      (byName ms').withDefault place name default decode := by
  rw [withDefault, withDefault, h]

end Members

namespace Json

/-- Members of a flat object: each is a text or a flag, and their names stand in the order of their
declaration. -/
structure IsFlat (declared : List String) (ms : List (String × Json)) : Prop where
  words : ∀ m ∈ ms, m.2.isWord
  names : (ms.map (·.1)).Sublist declared

namespace IsFlat
variable {declared declared' : List String} {ms ms' : List (String × Json)} {name : String}
  {j : Json}

theorem nil : IsFlat declared [] := ⟨nofun, List.nil_sublist _⟩

theorem word (h : j.isWord) : IsFlat [name] [(name, j)] :=
  ⟨fun _ hm => List.mem_singleton.mp hm ▸ h, List.Sublist.refl _⟩

theorem optional (name : String) (value : Option String) :
    IsFlat [name] (optionalMember name value) := by
  cases value with
  | none => exact .nil
  | some text => exact .word rfl

theorem append (h : IsFlat declared ms) (h' : IsFlat declared' ms') :
    IsFlat (declared ++ declared') (ms ++ ms') where
  words m hm := (List.mem_append.mp hm).elim (h.words m) (h'.words m)
  names := by
    rw [List.map_append]
    exact h.names.append h'.names

/-- Read back, a flat object has the same members, in the order of their names. -/
theorem decodeText_compact {α : Type} {decode : Json → Decoded α} (h : IsFlat declared ms)
    (hd : declared.Nodup) :
    decodeText (.record (declared.map fun name => (name, .value))) decode (Json.obj ms).compact =
      decode (.obj (Named.ofList ms).entries) := by
  have hmem : ∀ m ∈ ms, m.1 ∈ declared := fun m hm => h.names.subset (List.mem_map_of_mem hm)
  rw [decodeText, Source.read?_compact h.words]
  simp only [Source.maxDepth, Source.along, Source.memberNames_words,
    Outline.repeatedName_eq_none (hd.sublist h.names), Source.membersAlong_words h.words hmem]
  rfl

end IsFlat
end Json

namespace Credentials

theorem decode_congr {ms ms' : List (String × Json)}
    (h : ∀ place name, (Members.byName ms).get? place name = (Members.byName ms').get? place name) :
    decode (.obj ms) = decode (.obj ms') := by
  simp only [decode, Members.of_obj, Decoded.ok_bind, Members.withDefault_congr (h _ _)]

theorem exists_flat (c : Credentials) : ∃ ms, c.encode = .obj ms ∧
    Json.IsFlat ["Id", "Name", "Email", "EmailHash", "Password", "Remember"] ms := by
  have hremember : Json.IsFlat ["Remember"]
      (if c.remember then [("Remember", .bool true)] else []) := by
    split
    · exact .word rfl
    · exact .nil
  refine ⟨_, rfl, ?_⟩
  exact (((((Json.IsFlat.optional "Id" c.id).append (.word rfl)).append
    (.optional "Email" c.email)).append (.optional "EmailHash" c.emailHash)).append
    (.word rfl)).append hremember

/-- A stored session is read back, whatever characters stand in it. -/
theorem ofText_toText (c : Credentials) : ofText c.toText = .ok c := by
  obtain ⟨ms, hms, hflat⟩ := c.exists_flat
  have hnodup : ["Id", "Name", "Email", "EmailHash", "Password", "Remember"].Nodup := by decide
  have hread : ofText c.toText = decode (.obj (Named.ofList ms).entries) := by
    rw [toText, hms]
    exact hflat.decodeText_compact hnodup
  have hsame : decode (.obj (Named.ofList ms).entries) = decode (.obj ms) :=
    decode_congr fun _ => Named.get?_ofList_of_nodup (hnodup.sublist hflat.names)
  rw [hread, hsame, ← hms, decode_encode]

end Credentials

end StorageConsole
