import StorageConsole.Storage

/-!
Saved texts: what has been saved is loaded, and a save that fails leaves what was saved before.
-/
namespace StorageConsole

theorem Named.get?_erase_of_ne {α : Type} (x : Named α) {name other : String} (h : other ≠ name) :
    (x.erase name).get? other = x.get? other := by
  rw [get?, get?, member?, member?, erase, List.find?_filter]
  congr 2
  funext e
  by_cases he : e.1 = other
  · simp [he, h]
  · simp [he]

namespace Folder
variable {f g : Folder} {entries : Named FolderEntry} {key name target text : String}
  {ownerOnly : Bool} {x : Option FolderEntry}

/-- What may be the name of a file in a folder. -/
def isName (name : String) : Bool := isPath name && name.utf8ByteSize ≤ nameLimit

theorem look?_made : (made entries).look? name = some x ↔ isName name ∧ entries.get? name = x := by
  unfold look? isName
  by_cases hp : isPath name = true <;> by_cases hl : name.utf8ByteSize ≤ nameLimit <;> simp [hp, hl]

/-- Where something is found there is a folder. -/
theorem exists_made {e : FolderEntry} (h : f.look? name = some (some e)) :
    ∃ entries, f = made entries := by
  cases f with
  | made entries => exact ⟨entries, rfl⟩
  | absent =>
    unfold look? at h
    split at h <;> cases h

theorem load_eq_some :
    f.load key = .ok (some text) ↔
      isKey key ∧ ∃ ownerOnly, f.look? (fileOf key) = some (some (.file text ownerOnly)) := by
  unfold load readFile?
  cases isKey key with
  | false => simp
  | true =>
    rcases f.look? (fileOf key) with _ | _ | _ | _ <;> simp

theorem eq_of_removeFile? (h : (made entries).removeFile? name = some g) :
    g = made (entries.erase name) ∨ g = made entries := by
  unfold removeFile? at h
  split at h <;> cases h
  · exact .inl rfl
  · exact .inr rfl

theorem eq_of_makeFile? (h : (made entries).makeFile? name text = some g) :
    g = made (entries.insert name (.file text true)) := by
  unfold makeFile? at h
  split at h <;> cases h
  rfl

theorem eq_of_moveFile? (h : (made entries).moveFile? name target = some g) :
    isName target ∧ ∃ text ownerOnly, entries.get? name = some (.file text ownerOnly) ∧
      g = made ((entries.erase name).insert target (.file text ownerOnly)) := by
  unfold moveFile? at h
  split at h
  · cases h
  · next hname htarget =>
    cases h
    exact ⟨(look?_made.mp htarget).1, _, _, (look?_made.mp hname).2, rfl⟩
  · cases h

theorem fileOf_ne_temporaryFileOf (key : String) : fileOf key ≠ temporaryFileOf key := by
  intro h
  have hlength := congrArg String.length h
  simp only [fileOf, temporaryFileOf, String.length_append] at hlength
  have : ".json".length = 5 := rfl
  have : ".json.tmp".length = 9 := rfl
  omega

/-- A save puts the text under the key, or fails and touches nothing but the temporary file. -/
theorem save_cases (f : Folder) (key text : String) :
    ((f.save key text).1 = .ok () ∧ (f.save key text).2.load key = .ok (some text)) ∨
    ((∃ e, (f.save key text).1 = .error e) ∧ ∀ entries, f = made entries →
      ∀ name ≠ temporaryFileOf key, (f.save key text).2.look? name = f.look? name) := by
  -- What a broken save has left behind is removed first, if it can be.
  obtain ⟨kept, hkept, hsame⟩ : ∃ kept,
      ((made f.entries).removeFile? (temporaryFileOf key)).getD (made f.entries) = made kept ∧
        ∀ name ≠ temporaryFileOf key, kept.get? name = f.entries.get? name := by
    cases h : (made f.entries).removeFile? (temporaryFileOf key) with
    | none => exact ⟨_, rfl, fun _ _ => rfl⟩
    | some g =>
      obtain rfl | rfl := eq_of_removeFile? h
      · exact ⟨_, rfl, fun _ hne => Named.get?_erase_of_ne _ hne⟩
      · exact ⟨_, rfl, fun _ _ => rfl⟩
  have hlook : ∀ {after : Named FolderEntry},
      (∀ name ≠ temporaryFileOf key, after.get? name = f.entries.get? name) →
      ∀ entries, f = made entries → ∀ name ≠ temporaryFileOf key,
        (made after).look? name = f.look? name := by
    rintro after hafter entries rfl name hne
    simp only [look?, hafter name hne, Folder.entries]
  cases hkey : isKey key with
  | false =>
    simp only [save, hkey]
    exact .inr ⟨⟨_, rfl⟩, fun _ _ _ _ => rfl⟩
  | true =>
    simp only [save, hkey, hkept, Bool.not_true, Bool.false_eq_true, if_false]
    cases hmake : (made kept).makeFile? (temporaryFileOf key) text with
    | none => exact .inr ⟨⟨_, rfl⟩, hlook hsame⟩
    | some written =>
      obtain rfl := eq_of_makeFile? hmake
      dsimp only
      cases hmove : (made (kept.insert (temporaryFileOf key) (.file text true))).moveFile?
          (temporaryFileOf key) (fileOf key) with
      | none =>
        refine .inr ⟨⟨_, rfl⟩, hlook fun name hne => ?_⟩
        rw [Named.get?_insert, if_neg hne.symm, hsame name hne]
      | some moved =>
        obtain ⟨hname, text', ownerOnly, htext, rfl⟩ := eq_of_moveFile? hmove
        rw [Named.get?_insert, if_pos rfl] at htext
        cases htext
        refine .inl ⟨rfl, load_eq_some.mpr ⟨hkey, true, look?_made.mpr ⟨hname, ?_⟩⟩⟩
        rw [Named.get?_insert, if_pos rfl]

end Folder

namespace Storage
variable {s : Storage} {key text : String}

/-- What has been saved is loaded. -/
theorem load_of_save (h : (s.save key text).1 = .ok ()) :
    (s.save key text).2.load key = .ok (some text) := by
  cases s with
  | memory texts => exact congrArg Except.ok ((texts.get?_insert key text key).trans (if_pos rfl))
  | folder f =>
    obtain ⟨_, hload⟩ | ⟨⟨e, he⟩, _⟩ := f.save_cases key text
    · exact hload
    · cases h.symm.trans he

/-- A text that is saved once more is still there, even where the save fails. -/
theorem load_of_save_again (h : s.load key = .ok (some text)) :
    (s.save key text).2.load key = .ok (some text) := by
  cases s with
  | memory texts => exact load_of_save rfl
  | folder f =>
    obtain ⟨_, hload⟩ | ⟨_, hsame⟩ := f.save_cases key text
    · exact hload
    · obtain ⟨hkey, ownerOnly, hfile⟩ := Folder.load_eq_some.mp h
      obtain ⟨entries, hf⟩ := Folder.exists_made hfile
      have hfile' := hsame entries hf _ (Folder.fileOf_ne_temporaryFileOf key)
      exact Folder.load_eq_some.mpr ⟨hkey, ownerOnly, hfile'.trans hfile⟩

end Storage
end StorageConsole
