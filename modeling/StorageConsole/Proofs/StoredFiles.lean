import StorageConsole.Proofs.Saving

/-!
A folder of files as a memory of texts. While nobody else touches the folder and the file system
takes the names, each use of a key returns what a memory would return, and the folder holds one file
for each text that is kept and nothing else.
-/
namespace StorageConsole

/-- A use of a storage. -/
inductive StorageEvent where
  | load (key : String)
  | save (key text : String)
  | remove (key : String)
  deriving DecidableEq, Repr

namespace StorageEvent

def key : StorageEvent → String
  | load key | save key _ | remove key => key

/-- Whether the key can be that of a file. -/
def isProper (e : StorageEvent) : Bool := Folder.isKey e.key

/-- What an event returns while these texts are kept; only a load has a text to return. -/
def reply (texts : String → Option String) : StorageEvent → Option String
  | load key => texts key
  | save _ _ | remove _ => none

/-- The texts that are kept afterwards. -/
def leaves (texts : String → Option String) (e : StorageEvent) (key : String) : Option String :=
  match e with
  | load _ => texts key
  | save other text => if other = key then some text else texts key
  | remove other => if other = key then none else texts key

/-- The text that some events leave under a key: the one saved last, unless it has been removed. -/
def kept (events : List StorageEvent) : String → Option String := events.foldl leaves fun _ => none

theorem leaves_of_ne {texts : String → Option String} {e : StorageEvent} {key : String}
    (h : e.key ≠ key) : e.leaves texts key = texts key := by
  cases e with
  | load other => rfl
  | save other text => exact if_neg h
  | remove other => exact if_neg h

theorem foldl_leaves_of_ne {events : List StorageEvent} {texts : String → Option String}
    {key : String} (h : ∀ e ∈ events, e.key ≠ key) : events.foldl leaves texts key = texts key := by
  induction events generalizing texts with
  | nil => rfl
  | cons e events ih =>
    rw [List.foldl_cons, ih fun e' he' => h e' (.tail _ he')]
    exact leaves_of_ne (h e (.head _))

/-- What happens to improper keys leaves the proper ones alone. -/
theorem kept_filter {events : List StorageEvent} {key : String} (h : Folder.isKey key) :
    kept (events.filter (·.isProper)) key = kept events key := by
  have hfold : ∀ texts other : String → Option String, texts key = other key →
      (events.filter (·.isProper)).foldl leaves texts key = events.foldl leaves other key := by
    induction events with
    | nil => exact fun _ _ hsame => hsame
    | cons e events ih =>
      intro texts other hsame
      by_cases he : e.isProper
      · rw [List.filter_cons_of_pos he]
        apply ih
        cases e <;> simp only [leaves, hsame]
      · rw [List.filter_cons_of_neg he]
        have hne : e.key ≠ key := by
          intro hk
          rw [StorageEvent.isProper, hk] at he
          exact he h
        exact ih _ _ (hsame.trans (leaves_of_ne hne).symm)
  exact hfold _ _ rfl

theorem kept_filter_eq_some_iff {events : List StorageEvent} {key text : String} :
    kept (events.filter (·.isProper)) key = some text ↔
      Folder.isKey key ∧ kept events key = some text := by
  by_cases hkey : Folder.isKey key
  · rw [kept_filter hkey]
    exact (and_iff_right hkey).symm
  · have hnone : kept (events.filter (·.isProper)) key = none := by
      apply foldl_leaves_of_ne
      intro e he hk
      have hproper : e.isProper := (List.mem_filter.mp he).2
      rw [isProper, hk] at hproper
      exact hkey hproper
    simp [hnone, hkey]

end StorageEvent

namespace Folder
variable {f : Folder} {entries : Named FolderEntry} {key other name text : String}
  {texts : String → Option String} {e : StorageEvent}

/-- A file's name up to its last dot; a name without a dot, or with nothing before it, is whole. -/
def stem (name : String) : String :=
  match name.toList.reverse.dropWhile (· != '.') with
  | _ :: c :: before => String.ofList (c :: before).reverse
  | _ => name

/-- A file's name with another extension in the place of its last one. -/
def withExtension (name extension : String) : String := stem name ++ "." ++ extension

/-- A proper key's temporary file is its file under another extension, whatever dots the key has. -/
theorem withExtension_fileOf (h : isKey key) :
    withExtension (fileOf key) "json.tmp" = temporaryFileOf key := by
  obtain ⟨c, cs, hcs⟩ : ∃ c cs, key.toList.reverse = c :: cs := by
    refine List.exists_cons_of_ne_nil fun hnil => ?_
    have hkey : key.toList = [] := List.reverse_eq_nil_iff.mp hnil
    simp [isKey, hkey] at h
  have hrev : (fileOf key).toList.reverse.dropWhile (· != '.') = '.' :: c :: cs := by
    simp [fileOf, hcs]
  have hstem : stem (fileOf key) = key := by
    rw [stem, hrev]
    change String.ofList (c :: cs).reverse = key
    rw [← hcs, List.reverse_reverse, String.ofList_toList]
  rw [withExtension, hstem, temporaryFileOf, String.append_assoc]
  rfl

theorem fileOf_injective (h : fileOf key = fileOf other) : key = other :=
  (String.append_left_inj ".json").mp h

/-- No key's temporary file is the file of another. -/
theorem temporaryFileOf_ne_fileOf (key other : String) : temporaryFileOf key ≠ fileOf other := by
  intro h
  have hlast := congrArg (fun name => name.toList.getLast?) h
  simp [temporaryFileOf, fileOf] at hlast

theorem isName_fileOf (h : isName (temporaryFileOf key)) : isName (fileOf key) := by
  have hsize : (temporaryFileOf key).utf8ByteSize = (fileOf key).utf8ByteSize + 4 := by
    rw [temporaryFileOf, fileOf, String.utf8ByteSize_append, String.utf8ByteSize_append]
    rfl
  simp only [isName, isPath, Bool.and_eq_true, Bool.not_eq_true', decide_eq_true_eq, hsize] at h ⊢
  refine ⟨⟨?_, by omega⟩, by omega⟩
  simpa [temporaryFileOf, fileOf] using h.1.1

/-- The folder holds the file of each text that is kept, and nothing else. -/
structure Holds (f : Folder) (texts : String → Option String) : Prop where
  file : ∀ key, f.entries.get? (fileOf key) = (texts key).map fun text => .file text true
  only : ∀ name, (∀ key, name ≠ fileOf key) → f.entries.get? name = none

theorem holds_empty (h : f.entries = .empty) : f.Holds fun _ => none :=
  ⟨fun _ => by rw [h]; rfl, fun _ _ => by rw [h]; rfl⟩

theorem Holds.get?_temporaryFileOf (h : f.Holds texts) (key : String) :
    f.entries.get? (temporaryFileOf key) = none :=
  h.only _ (temporaryFileOf_ne_fileOf key)

theorem Holds.get?_eq_some_iff (h : f.Holds texts) {entry : FolderEntry} :
    f.entries.get? name = some entry ↔
      ∃ key text, texts key = some text ∧ name = fileOf key ∧ entry = .file text true := by
  constructor
  · intro hget
    by_cases hname : ∃ key, name = fileOf key
    · obtain ⟨key, rfl⟩ := hname
      rw [h.file] at hget
      obtain ⟨text, htext, rfl⟩ := Option.map_eq_some_iff.mp hget
      exact ⟨key, text, htext, rfl, rfl⟩
    · rw [h.only name fun key hkey => hname ⟨key, hkey⟩] at hget
      cases hget
  · rintro ⟨key, text, htext, rfl, rfl⟩
    rw [h.file, htext]
    rfl

/-- Where the file system finds anything at all, it finds the entry. -/
theorem look?_of_isSome (h : (f.look? name).isSome) :
    f.look? name = some (f.entries.get? name) := by
  unfold look? at h ⊢
  split at h
  · next hp =>
    rw [if_pos hp]
    cases f with
    | absent => rfl
    | made entries =>
      dsimp only at h ⊢
      split at h
      · next hl =>
        rw [if_pos hl]
        rfl
      · cases h
  · cases h

theorem look?_made_of_isName (h : isName name) :
    (made entries).look? name = some (entries.get? name) := look?_made.mpr ⟨h, rfl⟩

/-- Whether the file system takes the names that an event on a proper key needs. -/
def admits (f : Folder) : StorageEvent → Bool
  | .load key | .remove key => (f.look? (fileOf key)).isSome
  | .save key _ => isName (temporaryFileOf key)

theorem Holds.load (h : f.Holds texts) (hkey : isKey key)
    (ha : (f.look? (fileOf key)).isSome) : f.load key = .ok (texts key) := by
  have hlook := look?_of_isSome ha
  rw [h.file] at hlook
  cases htext : texts key with
  | none => simp [Folder.load, hkey, readFile?, hlook, htext]
  | some text => simp [Folder.load, hkey, readFile?, hlook, htext]

/-- The entries when a temporary file has been made and has taken the place of the key's file. -/
def filed (entries : Named FolderEntry) (key text : String) : Named FolderEntry :=
  ((entries.insert (temporaryFileOf key) (.file text true)).erase (temporaryFileOf key)).insert
    (fileOf key) (.file text true)

theorem get?_filed_self : (filed entries key text).get? (fileOf key) = some (.file text true) := by
  rw [filed, Named.get?_insert, if_pos rfl]

/-- The temporary file has come and gone, if there was none before. -/
theorem get?_filed_of_ne (hfree : entries.get? (temporaryFileOf key) = none)
    (hne : name ≠ fileOf key) : (filed entries key text).get? name = entries.get? name := by
  rw [filed, Named.get?_insert, if_neg hne.symm]
  by_cases htmp : name = temporaryFileOf key
  · rw [htmp, Named.get?_erase, hfree]
  · rw [Named.get?_erase_of_ne _ htmp, Named.get?_insert, if_neg fun he => htmp he.symm]

/-- A save with nothing in its way. -/
theorem Holds.save_eq (h : f.Holds texts) (hkey : isKey key) (ha : isName (temporaryFileOf key))
    (text : String) : f.save key text = (.ok (), made (filed f.entries key text)) := by
  have hfree := h.get?_temporaryFileOf key
  have hcleared : (made f.entries).removeFile? (temporaryFileOf key) = some (made f.entries) := by
    rw [removeFile?, look?_made_of_isName ha, hfree]
  have hmade : (made f.entries).makeFile? (temporaryFileOf key) text =
      some (made (f.entries.insert (temporaryFileOf key) (.file text true))) := by
    rw [makeFile?, look?_made_of_isName ha, hfree]
    rfl
  have hmoved : (made (f.entries.insert (temporaryFileOf key) (.file text true))).moveFile?
      (temporaryFileOf key) (fileOf key) = some (made (filed f.entries key text)) := by
    rw [moveFile?, look?_made_of_isName ha, look?_made_of_isName (isName_fileOf ha),
      Named.get?_insert, if_pos rfl, Named.get?_insert,
      if_neg (temporaryFileOf_ne_fileOf key key), h.file]
    cases texts key <;> rfl
  simp [Folder.save, hkey, hcleared, hmade, hmoved]

theorem Holds.save (h : f.Holds texts) (hkey : isKey key) (ha : isName (temporaryFileOf key))
    (text : String) :
    (f.save key text).1 = .ok () ∧
      (f.save key text).2.Holds (StorageEvent.leaves texts (.save key text)) := by
  have hfree := h.get?_temporaryFileOf key
  rw [h.save_eq hkey ha]
  refine ⟨rfl, fun other => ?_, fun name hname => ?_⟩
  · by_cases he : key = other
    · subst he
      rw [entries, get?_filed_self, StorageEvent.leaves, if_pos rfl]
      rfl
    · have hfile : fileOf other ≠ fileOf key := fun hf => he (fileOf_injective hf).symm
      rw [entries, get?_filed_of_ne hfree hfile, h.file, StorageEvent.leaves, if_neg he]
  · rw [entries, get?_filed_of_ne hfree (hname key), h.only name hname]

theorem Holds.remove (h : f.Holds texts) (hkey : isKey key)
    (ha : (f.look? (fileOf key)).isSome) :
    (f.remove key).1 = .ok () ∧
      (f.remove key).2.Holds (StorageEvent.leaves texts (.remove key)) := by
  have hlook := look?_of_isSome ha
  have hfile := h.file key
  cases htext : texts key with
  | none =>
    have heq : f.remove key = (.ok (), f) := by
      simp [Folder.remove, hkey, removeFile?, hlook, hfile, htext]
    rw [heq]
    refine ⟨rfl, fun other => ?_, h.only⟩
    by_cases he : key = other
    · rw [StorageEvent.leaves, if_pos he, ← he, hfile, htext]
    · rw [StorageEvent.leaves, if_neg he, h.file]
  | some text =>
    have heq : f.remove key = (.ok (), f.drop (fileOf key)) := by
      simp [Folder.remove, hkey, removeFile?, hlook, hfile, htext]
    have hentries : (f.drop (fileOf key)).entries = f.entries.erase (fileOf key) := by
      cases f <;> rfl
    rw [heq]
    refine ⟨rfl, fun other => ?_, fun name hname => ?_⟩
    · by_cases he : key = other
      · subst he
        rw [hentries, Named.get?_erase, StorageEvent.leaves, if_pos rfl]
        rfl
      · rw [hentries, Named.get?_erase_of_ne _ fun hf => he (fileOf_injective hf).symm, h.file,
          StorageEvent.leaves, if_neg he]
    · rw [hentries, Named.get?_erase_of_ne _ (hname key), h.only name hname]

end Folder

namespace Storage
variable {s : Storage} {texts : String → Option String} {e : StorageEvent}
  {events : List StorageEvent} {key : String}

/-- What a storage returns, and what becomes of it. -/
def step (s : Storage) : StorageEvent → Except StorageError (Option String) × Storage
  | .load key => (s.load key, s)
  | .save key text => let (result, s) := s.save key text; (result.map fun _ => none, s)
  | .remove key => let (result, s) := s.remove key; (result.map fun _ => none, s)

def runAll (s : Storage) (events : List StorageEvent) : Storage :=
  events.foldl (fun s e => (s.step e).2) s

/-- Whether the file system takes the names that an event needs. -/
def admits (s : Storage) (e : StorageEvent) : Bool :=
  match s with
  | memory _ => true
  | folder f => !e.isProper || f.admits e

def admitsAll : Storage → List StorageEvent → Bool
  | _, [] => true
  | s, e :: events => s.admits e && (s.step e).2.admitsAll events

theorem step_save_folder (f : Folder) (key text : String) :
    (folder f).step (.save key text) =
      ((f.save key text).1.map fun _ => none, folder (f.save key text).2) := rfl

theorem step_remove_folder (f : Folder) (key : String) :
    (folder f).step (.remove key) =
      ((f.remove key).1.map fun _ => none, folder (f.remove key).2) := rfl

/-- Just these texts are kept. -/
def Keeps : Storage → (String → Option String) → Prop
  | memory named, texts => named.get? = texts
  | folder f, texts => f.Holds texts

/-- A memory and a folder of files serve the texts that they keep in one way. -/
theorem Keeps.step (h : s.Keeps texts) (he : e.isProper) (ha : s.admits e) :
    (s.step e).1 = .ok (e.reply texts) ∧ (s.step e).2.Keeps (e.leaves texts) := by
  cases s with
  | memory named =>
    change named.get? = texts at h
    subst h
    cases e with
    | load key => exact ⟨rfl, rfl⟩
    | save key text => exact ⟨rfl, funext fun other => named.get?_insert key text other⟩
    | remove key =>
      refine ⟨rfl, funext fun other => ?_⟩
      by_cases hk : key = other
      · subst hk
        exact (named.get?_erase key).trans (if_pos rfl).symm
      · exact (named.get?_erase_of_ne (Ne.symm hk)).trans (if_neg hk).symm
  | folder f =>
    change f.Holds texts at h
    have hf : f.admits e := by simpa [admits, he] using ha
    cases e with
    | load key => exact ⟨h.load he hf, h⟩
    | save key text =>
      have hkey : Folder.isKey key := he
      obtain ⟨hok, hholds⟩ := h.save hkey hf text
      rw [step_save_folder, hok]
      exact ⟨rfl, hholds⟩
    | remove key =>
      have hkey : Folder.isKey key := he
      obtain ⟨hok, hholds⟩ := h.remove hkey hf
      rw [step_remove_folder, hok]
      exact ⟨rfl, hholds⟩

theorem Keeps.runAll (h : s.Keeps texts) (he : ∀ e ∈ events, e.isProper)
    (ha : s.admitsAll events) :
    (s.runAll events).Keeps (events.foldl StorageEvent.leaves texts) := by
  induction events generalizing s texts with
  | nil => exact h
  | cons e events ih =>
    simp only [admitsAll, Bool.and_eq_true] at ha
    exact ih (h.step (he e (.head _)) ha.1).2 (fun e' he' => he e' (.tail _ he')) ha.2

/-- A memory takes every name at any time. -/
theorem memory_admits (named : Named String) (events : List StorageEvent) :
    (memory named).admitsAll events ∧ ∀ e, ((memory named).runAll events).admits e := by
  induction events generalizing named with
  | nil => exact ⟨rfl, fun _ => rfl⟩
  | cons e events ih => cases e <;> exact ih _

theorem exists_step_folder (f : Folder) (e : StorageEvent) :
    ∃ g, ((folder f).step e).2 = folder g := by
  cases e with
  | load key => exact ⟨f, rfl⟩
  | save key text => exact ⟨(f.save key text).2, rfl⟩
  | remove key => exact ⟨(f.remove key).2, rfl⟩

theorem exists_runAll_folder (f : Folder) (events : List StorageEvent) :
    ∃ g, (folder f).runAll events = folder g := by
  induction events generalizing f with
  | nil => exact ⟨f, rfl⟩
  | cons e events ih =>
    obtain ⟨g, hg⟩ := exists_step_folder f e
    simp only [runAll, List.foldl_cons, hg]
    exact ih g

/-- An improper key is refused, and nothing is touched. -/
theorem step_of_improper {f : Folder} (he : e.isProper = false) :
    (folder f).step e = (.error (.invalidKey e.key), folder f) := by
  cases e with
  | load key | save key text | remove key =>
    have hkey : Folder.isKey key = false := he
    simp [step, load, save, remove, Folder.load, Folder.save, Folder.remove, hkey, Except.map,
      StorageEvent.key]

/-- Events on improper keys might as well not have happened. -/
theorem runAll_filter (f : Folder) (events : List StorageEvent) :
    (folder f).runAll (events.filter (·.isProper)) = (folder f).runAll events ∧
      (folder f).admitsAll (events.filter (·.isProper)) = (folder f).admitsAll events := by
  induction events generalizing f with
  | nil => exact ⟨rfl, rfl⟩
  | cons e events ih =>
    by_cases he : e.isProper
    · rw [List.filter_cons_of_pos he]
      obtain ⟨g, hg⟩ := exists_step_folder f e
      obtain ⟨hrun, hadmits⟩ := ih g
      simp only [runAll, List.foldl_cons, admitsAll, hg] at hrun ⊢
      exact ⟨hrun, by rw [hadmits]⟩
    · rw [List.filter_cons_of_neg he]
      have hstep := step_of_improper (f := f) (Bool.eq_false_iff.mpr he)
      obtain ⟨hrun, hadmits⟩ := ih f
      simp only [runAll, List.foldl_cons, admitsAll, hstep] at hrun ⊢
      exact ⟨hrun, by rw [hadmits, admits, Bool.eq_false_iff.mpr he]; rfl⟩

/-- In a folder that starts out empty and is used by nobody else, whatever is done with it, each use
of a proper key returns what it returns in memory and leaves the other keys as they are, an improper
key is refused and changes nothing, and there is one file for each text that is kept, no other. -/
theorem folder_refines_memory {f : Folder} (fresh : f.entries = .empty) {events : List StorageEvent}
    (admitted : (folder f).admitsAll events) :
    let s := (folder f).runAll events
    let m := (memory .empty).runAll (events.filter (·.isProper))
    (∀ e, e.isProper → s.admits e → (s.step e).1 = (m.step e).1) ∧
    (∀ e, e.isProper = false → s.step e = (.error (.invalidKey e.key), s)) ∧
    (∀ e key, e.isProper → s.admits e → Folder.isKey key → key ≠ e.key →
      s.admits (.load key) → (s.step e).2.admits (.load key) →
      (s.step e).2.load key = s.load key) ∧
    Function.Injective Folder.fileOf ∧
    ∃ g, s = folder g ∧
      (∀ name entry, g.entries.get? name = some entry ↔ ∃ key text, Folder.isKey key ∧
        StorageEvent.kept events key = some text ∧ name = Folder.fileOf key ∧
        entry = .file text true) ∧
      ∀ key, Folder.isKey key →
        g.entries.get? (Folder.withExtension (Folder.fileOf key) "json.tmp") = none := by
  intro s m
  let proper := events.filter (·.isProper)
  have hproper : ∀ e ∈ proper, e.isProper := fun e he => (List.mem_filter.mp he).2
  obtain ⟨hrun, hadmits⟩ := runAll_filter f events
  have hs : s.Keeps (StorageEvent.kept proper) := by
    have hstart : (folder f).Keeps fun _ => none := Folder.holds_empty fresh
    have hkeeps := hstart.runAll hproper (hadmits.trans admitted)
    rwa [hrun] at hkeeps
  have hm : m.Keeps (StorageEvent.kept proper) := by
    have hstart : (memory .empty).Keeps fun _ => none := rfl
    exact hstart.runAll hproper (memory_admits _ _).1
  obtain ⟨g, hg⟩ : ∃ g, s = folder g := exists_runAll_folder f events
  refine ⟨fun e he ha => ?_, fun e he => ?_, fun e key he ha hkey hne hbefore hafter => ?_,
    fun _ _ => Folder.fileOf_injective, g, hg, fun name entry => ?_, fun key hkey => ?_⟩
  · have hmemory : m.admits e := (memory_admits _ proper).2 e
    rw [(hs.step he ha).1, (hm.step he hmemory).1]
  · rw [hg]
    exact step_of_improper he
  · have hload := (hs.step (e := .load key) hkey hbefore).1
    have hload' := ((hs.step he ha).2.step (e := .load key) hkey hafter).1
    change s.load key = _ at hload
    change (s.step e).2.load key = _ at hload'
    rw [hload, hload']
    exact congrArg Except.ok (StorageEvent.leaves_of_ne hne.symm)
  · rw [hg] at hs
    simp only [Folder.Holds.get?_eq_some_iff hs, proper, StorageEvent.kept_filter_eq_some_iff,
      and_assoc]
  · rw [hg] at hs
    rw [Folder.withExtension_fileOf hkey]
    exact Folder.Holds.get?_temporaryFileOf hs key

/-- Keys that look like the files of others, and one that leads out of the folder. -/
def dottedKeys : List StorageEvent :=
  [.load "a", .save "a" "1", .save "a.json" "2", .save "../a" "3", .save "a.json.tmp" "4",
    .save "a" "5", .remove "a.json.tmp"]

theorem folder_refines_memory_dottedKeys :
    Folder.absent.entries = .empty ∧ (folder .absent).admitsAll dottedKeys ∧
    let s := (folder .absent).runAll dottedKeys
    (s.step (.load "a")).1 = .ok (some "5") ∧
    (s.step (.save "a" "6")).2.load "a.json" = .ok (some "2") ∧
    (s.step (.save "../a" "3")) = (.error (.invalidKey "../a"), s) ∧
    ∃ g, s = folder g ∧ g.entries.get? "a.json.json" = some (.file "2" true) ∧
      g.entries.get? "a.json.tmp.json" = none ∧ g.entries.get? "a.json.tmp" = none := by
  have hadmitted : (folder .absent).admitsAll dottedKeys := by decide +kernel
  obtain ⟨hsame, hrefused, hother, _, g, hg, hfiles, htemporary⟩ :=
    folder_refines_memory (f := .absent) rfl hadmitted
  refine ⟨rfl, hadmitted, ?_, ?_, hrefused (.save "../a" "3") (by decide), g, hg, ?_, ?_,
    htemporary "a" (by decide)⟩
  · exact (hsame (.load "a") (by decide) (by decide +kernel)).trans rfl
  · exact (hother (.save "a" "6") "a.json" (by decide) (by decide +kernel) (by decide) (by decide)
      (by decide +kernel) (by decide +kernel)).trans rfl
  · exact (hfiles _ _).mpr ⟨"a.json", "2", by decide, by decide, rfl, rfl⟩
  · rw [Option.eq_none_iff_forall_ne_some]
    intro entry hentry
    obtain ⟨key, text, _, hkept, hname, _⟩ := (hfiles _ _).mp hentry
    obtain rfl : "a.json.tmp" = key := Folder.fileOf_injective hname
    cases hkept

end Storage
end StorageConsole
