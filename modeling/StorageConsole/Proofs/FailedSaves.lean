import StorageConsole.Proofs.StoredFiles

/-!
Saves that fail. What stands in the way of a save can be seen in the folder beforehand. Whatever it
is, no key loads anything else afterwards, as long as the folder was there. But where a folder has
the name of the key's file, the text has been written before that is noticed, and its temporary file
stays.
-/
namespace StorageConsole

theorem Named.erase_of_get?_eq_none {α : Type} {x : Named α} {name : String}
    (h : x.get? name = none) : x.erase name = x := by
  have hnone : ∀ e ∈ x.entries, e.1 ≠ name := member?_eq_none_iff.mp h
  have hentries : x.entries.filter (·.1 != name) = x.entries :=
    List.filter_eq_self.mpr fun e he => by simpa using hnone e he
  simp only [Named.erase, hentries]

namespace Folder
variable {f g : Folder} {entries : Named FolderEntry} {key other name text : String} {e : StorageError}

/-- Whether a file of that name holds the text. -/
def HasText (f : Folder) (name text : String) : Prop :=
  ∃ ownerOnly, f.entries.get? name = some (.file text ownerOnly)

/-- The entries when the text has been written to the key's temporary file. -/
def drafted (entries : Named FolderEntry) (key text : String) : Named FolderEntry :=
  (entries.erase (temporaryFileOf key)).insert (temporaryFileOf key) (.file text true)

theorem get?_drafted_self :
    (drafted entries key text).get? (temporaryFileOf key) = some (.file text true) := by
  rw [drafted, Named.get?_insert, if_pos rfl]

theorem get?_drafted_of_ne (h : name ≠ temporaryFileOf key) :
    (drafted entries key text).get? name = entries.get? name := by
  rw [drafted, Named.get?_insert, if_neg h.symm, Named.get?_erase_of_ne _ h]

/-- Why a save fails, and the folder that it leaves. -/
inductive FailedSave (f : Folder) (key text : String) : StorageError → Folder → Prop
  | improper (refused : isKey key = false) : FailedSave f key text (.invalidKey key) f
  | barred (proper : isKey key)
      (inTheWay : isName (temporaryFileOf key) = false ∨
        f.entries.get? (temporaryFileOf key) = some .folder) :
      FailedSave f key text (.unwritable (temporaryFileOf key)) (made f.entries)
  | occupied (proper : isKey key) (writable : isName (temporaryFileOf key))
      (free : f.entries.get? (temporaryFileOf key) ≠ some .folder)
      (inTheWay : f.entries.get? (fileOf key) = some .folder) :
      FailedSave f key text (.unmovable (fileOf key)) (made (drafted f.entries key text))

theorem failedSave_cases (f : Folder) (key text : String) :
    (∃ e g, f.FailedSave key text e g) ∨ isKey key ∧ isName (temporaryFileOf key) ∧
      f.entries.get? (temporaryFileOf key) ≠ some .folder ∧
      f.entries.get? (fileOf key) ≠ some .folder := by
  by_cases hkey : isKey key
  · by_cases hname : isName (temporaryFileOf key)
    · by_cases hfree : f.entries.get? (temporaryFileOf key) = some .folder
      · exact .inl ⟨_, _, .barred hkey (.inr hfree)⟩
      · by_cases hoccupied : f.entries.get? (fileOf key) = some .folder
        · exact .inl ⟨_, _, .occupied hkey hname hfree hoccupied⟩
        · exact .inr ⟨hkey, hname, hfree, hoccupied⟩
    · exact .inl ⟨_, _, .barred hkey (.inl (Bool.eq_false_iff.mpr hname))⟩
  · exact .inl ⟨_, _, .improper (Bool.eq_false_iff.mpr hkey)⟩

theorem look?_made_of_not_isName (h : isName name = false) : (made entries).look? name = none := by
  rw [Option.eq_none_iff_forall_ne_some]
  intro x hx
  rw [(look?_made.mp hx).1] at h
  cases h

theorem look?_made_congr {entries' : Named FolderEntry}
    (h : entries.get? name = entries'.get? name) :
    (made entries).look? name = (made entries').look? name := by
  simp only [look?, h]

theorem save_of_barred (hkey : isKey key)
    (h : isName (temporaryFileOf key) = false ∨
      f.entries.get? (temporaryFileOf key) = some .folder) (text : String) :
    f.save key text = (.error (.unwritable (temporaryFileOf key)), made f.entries) := by
  have hlook : (made f.entries).look? (temporaryFileOf key) = none ∨
      (made f.entries).look? (temporaryFileOf key) = some (some .folder) := by
    cases hname : isName (temporaryFileOf key) with
    | false => exact .inl (look?_made_of_not_isName hname)
    | true => exact .inr (look?_made.mpr ⟨hname, h.resolve_left (by simp [hname])⟩)
  rcases hlook with hlook | hlook <;> simp [save, hkey, removeFile?, makeFile?, hlook]

/-- A file that has the name of the temporary file makes way for it. -/
theorem save_of_writable (hkey : isKey key) (hname : isName (temporaryFileOf key))
    (hfree : f.entries.get? (temporaryFileOf key) ≠ some .folder) (text : String) :
    f.save key text =
      match (made (drafted f.entries key text)).moveFile? (temporaryFileOf key) (fileOf key) with
      | none => (.error (.unmovable (fileOf key)), made (drafted f.entries key text))
      | some moved => (.ok (), moved) := by
  have hcleared : ((made f.entries).removeFile? (temporaryFileOf key)).getD (made f.entries) =
      made (f.entries.erase (temporaryFileOf key)) := by
    rw [removeFile?, look?_made_of_isName hname]
    cases hentry : f.entries.get? (temporaryFileOf key) with
    | none => exact congrArg made (Named.erase_of_get?_eq_none hentry).symm
    | some entry =>
      cases entry with
      | file draft ownerOnly => rfl
      | folder => exact absurd hentry hfree
  have hmade : (made (f.entries.erase (temporaryFileOf key))).makeFile? (temporaryFileOf key) text =
      some (made (drafted f.entries key text)) := by
    rw [makeFile?, look?_made_of_isName hname, Named.get?_erase]
    rfl
  cases hmoved : (made (drafted f.entries key text)).moveFile? (temporaryFileOf key) (fileOf key) with
  | none | some => simp [save, hkey, hcleared, hmade, hmoved]

/-- The temporary file takes the place of anything but a folder. -/
theorem moveFile?_drafted (hname : isName (temporaryFileOf key)) :
    (made (drafted entries key text)).moveFile? (temporaryFileOf key) (fileOf key) =
      if entries.get? (fileOf key) = some .folder then none
      else some (made (((drafted entries key text).erase (temporaryFileOf key)).insert
        (fileOf key) (.file text true))) := by
  rw [moveFile?, look?_made_of_isName hname, look?_made_of_isName (isName_fileOf hname),
    get?_drafted_self, get?_drafted_of_ne (fileOf_ne_temporaryFileOf key)]
  rcases entries.get? (fileOf key) with _ | _ | _ <;> rfl

theorem FailedSave.save_eq (h : f.FailedSave key text e g) : f.save key text = (.error e, g) := by
  cases h with
  | improper refused => simp [save, refused]
  | barred proper inTheWay => exact save_of_barred proper inTheWay text
  | occupied proper writable free inTheWay =>
    rw [save_of_writable proper writable free, moveFile?_drafted writable, if_pos inTheWay]

/-- A save fails in no other way. -/
theorem failedSave_of_save (h : (f.save key text).1 = .error e) :
    f.FailedSave key text e (f.save key text).2 := by
  obtain ⟨e', g, hfailed⟩ | ⟨hkey, hname, hfree, hfile⟩ := failedSave_cases f key text
  · rw [hfailed.save_eq] at h ⊢
    cases h
    exact hfailed
  · rw [save_of_writable hkey hname hfree, moveFile?_drafted hname, if_neg hfile] at h
    cases h

theorem FailedSave.get?_of_ne (h : f.FailedSave key text e g) (hne : name ≠ temporaryFileOf key) :
    g.entries.get? name = f.entries.get? name := by
  cases h with
  | improper | barred => rfl
  | occupied => exact get?_drafted_of_ne hne

/-- The text is where it was and, if it could not be moved, in the temporary file. -/
theorem FailedSave.hasText_iff (h : f.FailedSave key text e g) :
    g.HasText name text ↔
      f.HasText name text ∨ name = temporaryFileOf key ∧ e = .unmovable (fileOf key) := by
  cases h with
  | improper | barred => exact (or_iff_left (by simp)).symm
  | occupied =>
    by_cases hname : name = temporaryFileOf key
    · subst hname
      exact iff_of_true ⟨true, get?_drafted_self⟩ (.inr ⟨rfl, rfl⟩)
    · rw [or_iff_left fun h => hname h.1, HasText, HasText, entries, get?_drafted_of_ne hname]

/-- In a folder that is there every key loads what it has loaded before. -/
theorem FailedSave.load_made (h : (made entries).FailedSave key text e g) (other : String) :
    g.load other = (made entries).load other := by
  have hget := h.get?_of_ne (temporaryFileOf_ne_fileOf key other).symm
  have hlook : g.look? (fileOf other) = (made entries).look? (fileOf other) := by
    cases h with
    | improper => rfl
    | barred | occupied => exact look?_made_congr hget
  rw [load, load, readFile?, readFile?, hlook]

/-- A key whose file name is too long for a folder that is there. -/
def IsOverlong (key : String) : Prop :=
  isKey key ∧ isPath (fileOf key) ∧ nameLimit < (fileOf key).utf8ByteSize

/-- A folder that is made in vain refuses names that were just not found before. -/
theorem FailedSave.load_absent_iff (h : absent.FailedSave key text e g) (other : String) :
    g.load other = absent.load other ↔ ¬ (isKey key ∧ IsOverlong other) := by
  cases h with
  | improper refused => simp [refused]
  | occupied _ _ _ inTheWay => cases inTheWay
  | barred proper =>
    have hnone : absent.entries.get? (fileOf other) = none := rfl
    unfold IsOverlong load readFile? look?
    cases isKey other <;> cases isPath (fileOf other) <;>
      by_cases hlong : (fileOf other).utf8ByteSize ≤ nameLimit <;>
      simp [proper, hlong, hnone]

/-- A save that fails has met with one of three obstacles. All entries but the temporary file stay as
they were, and so does what every key loads, unless the folder was made in vain and the key's file
name is too long for it. No other file has got the text. But where it is a folder that has stood in
the way of the key's file, the temporary file stays and holds the text. -/
theorem failed_save_strands_text (f : Folder) (key text : String) {e : StorageError}
    (h : (f.save key text).1 = .error e) :
    let after := (f.save key text).2
    f.FailedSave key text e after ∧
    (∀ other, after.load other = f.load other ↔ ¬ (f = absent ∧ isKey key ∧ IsOverlong other)) ∧
    (∀ name ≠ temporaryFileOf key, after.entries.get? name = f.entries.get? name) ∧
    ∀ name, after.HasText name text ↔
      f.HasText name text ∨ name = temporaryFileOf key ∧ e = .unmovable (fileOf key) := by
  intro after
  have hfailed : f.FailedSave key text e after := failedSave_of_save h
  refine ⟨hfailed, fun other => ?_, fun name => hfailed.get?_of_ne, fun name => hfailed.hasText_iff⟩
  cases f with
  | absent => simpa using hfailed.load_absent_iff other
  | made entries => exact iff_of_true (hfailed.load_made other) nofun

/-- A folder in which a folder has the name of a session's file. -/
def obstructed : Folder :=
  made (Named.ofList [("ann.json", .file "old" true), ("user.json", .folder),
    ("user.json.tmp", .file "older" false)])

theorem failed_save_strands_text_obstructed :
    (obstructed.save "user" "secret").1 = .error (.unmovable "user.json") ∧
      let after := (obstructed.save "user" "secret").2
      after.load "ann" = .ok (some "old") ∧ after.HasText "user.json.tmp" "secret" ∧
        ¬ obstructed.HasText "user.json.tmp" "secret" := by
  have hfails : (obstructed.save "user" "secret").1 = .error (.unmovable "user.json") := by
    rfl
  obtain ⟨_, hloads, _, htext⟩ := failed_save_strands_text obstructed "user" "secret" hfails
  refine ⟨hfails, ?_, (htext _).mpr (.inr ⟨rfl, rfl⟩), ?_⟩
  · exact ((hloads "ann").mpr nofun).trans (by rfl)
  · rintro ⟨ownerOnly, hentry⟩
    revert hentry
    cases ownerOnly <;> decide +kernel

/-- A save that fails may leave the text behind. -/
theorem failed_save_not_traceless :
    ¬ ∀ (f : Folder) (key text : String) (e : StorageError), (f.save key text).1 = .error e →
      let after := (f.save key text).2
      (∀ other, after.load other = f.load other) ∧
        ∀ name, after.HasText name text → f.HasText name text := by
  intro h
  have hfails : (obstructed.save "user" "secret").1 = .error (.unmovable "user.json") := by
    rfl
  have hkept : (obstructed.save "user" "secret").2.HasText "user.json.tmp" "secret" :=
    ⟨true, by decide +kernel⟩
  obtain ⟨ownerOnly, hentry⟩ := (h obstructed "user" "secret" _ hfails).2 _ hkept
  revert hentry
  cases ownerOnly <;> decide +kernel

end Folder
end StorageConsole
