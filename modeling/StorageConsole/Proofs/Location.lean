import Mathlib.Data.List.TakeWhile
import StorageConsole.Route.Table
import StorageConsole.State.View

/-!
Where a path leads on the console's own routes. The parts of a path, not its text, decide which
branch it names, and a path built from parts has these parts again just if they are plain.
-/
namespace StorageConsole

namespace Route

/-- A text that a path keeps whole as one of its parts. -/
def IsPlainPart (part : String) : Prop :=
  part ≠ "" ∧ ∀ c ∈ part.toList, c ≠ '/' ∧ !isPathEnd c

instance (part : String) : Decidable (IsPlainPart part) :=
  @instDecidableAnd _ _ inferInstance (List.decidableBAll _ _)

theorem pieces_eq_splitOnP (sep : Char → Bool) (cs : List Char) : pieces sep cs = cs.splitOnP sep := by
  induction cs with
  | nil => rfl
  | cons c cs ih =>
    rw [List.splitOnP_cons_eq_if_modifyHead, pieces, ih]
    cases hs : cs.splitOnP sep with
    | nil => exact absurd hs (List.splitOnP_ne_nil sep cs)
    | cons piece rest => rfl

theorem mem_of_mem_splitOnP {sep : Char → Bool} {cs piece : List Char} {c : Char}
    (h : piece ∈ cs.splitOnP sep) (hc : c ∈ piece) : c ∈ cs ∧ sep c = false := by
  induction cs generalizing piece with
  | nil =>
    rw [List.splitOnP_nil, List.mem_singleton] at h
    subst h
    cases hc
  | cons d cs ih =>
    rw [List.splitOnP_cons_eq_if_modifyHead] at h
    by_cases hd : sep d = true
    · rw [if_pos hd] at h
      rcases List.mem_cons.mp h with rfl | h
      · cases hc
      · obtain ⟨hmem, hsep⟩ := ih h hc
        exact ⟨.tail _ hmem, hsep⟩
    · rw [if_neg hd] at h
      cases hs : cs.splitOnP sep with
      | nil => exact absurd hs (List.splitOnP_ne_nil sep cs)
      | cons first rest =>
        rw [hs, List.modifyHead_cons] at h
        rcases List.mem_cons.mp h with rfl | h
        · rcases List.mem_cons.mp hc with rfl | hc
          · exact ⟨.head _, Bool.eq_false_iff.mpr hd⟩
          · obtain ⟨hmem, hsep⟩ := ih (hs ▸ List.mem_cons_self) hc
            exact ⟨.tail _ hmem, hsep⟩
        · obtain ⟨hmem, hsep⟩ := ih (hs ▸ List.mem_cons_of_mem first h) hc
          exact ⟨.tail _ hmem, hsep⟩

theorem plain_of_mem_splitPath {path part : String} (h : part ∈ splitPath path) :
    IsPlainPart part := by
  obtain ⟨piece, hpiece, rfl⟩ := List.mem_map.mp h
  obtain ⟨hpiece, hne⟩ := List.mem_filter.mp hpiece
  rw [pieces_eq_splitOnP] at hpiece
  refine ⟨?_, fun c hc => ?_⟩
  · intro he
    have hnil : piece = [] := by simpa using congrArg String.toList he
    simp [hnil] at hne
  · rw [String.toList_ofList] at hc
    obtain ⟨hbefore, hsep⟩ := mem_of_mem_splitOnP hpiece hc
    have hend := List.mem_takeWhile_imp hbefore
    exact ⟨by simpa using hsep, by simpa using hend⟩

/-- Texts behind a slash each are split at these slashes, if they have none of their own. -/
theorem splitOnP_flatMap {parts : List String} (h : ∀ part ∈ parts, ∀ c ∈ part.toList, c ≠ '/') :
    (parts.flatMap fun part => '/' :: part.toList).splitOnP (· == '/') =
      [] :: parts.map String.toList := by
  induction parts with
  | nil => rfl
  | cons part parts ih =>
    have hpart : ∀ c ∈ part.toList, (c == '/') = false := by
      intro c hc
      simpa using h part List.mem_cons_self c hc
    have hrest := ih fun p hp => h p (List.mem_cons_of_mem part hp)
    have hslash : ('/' == '/') = true := rfl
    rw [List.flatMap_cons, List.cons_append, List.splitOnP_cons_eq_if_modifyHead, if_pos hslash,
      List.map_cons]
    congr 1
    cases parts with
    | nil => rw [List.flatMap_nil, List.append_nil, List.splitOnP_eq_singleton hpart, List.map_nil]
    | cons next rest =>
      rw [List.flatMap_cons, List.cons_append, List.splitOnP_cons_eq_if_modifyHead, if_pos hslash] at hrest
      rw [List.flatMap_cons, List.cons_append,
        List.splitOnP_append_cons_of_forall_mem hpart '/' rfl, List.tail_eq_of_cons_eq hrest]

/-- A path that is built from plain parts has these parts. -/
theorem splitPath_of_parts {path : String} {parts : List String}
    (h : path.toList = parts.flatMap fun part => '/' :: part.toList)
    (hplain : ∀ part ∈ parts, IsPlainPart part) : splitPath path = parts := by
  have hwhole : path.toList.takeWhile (fun c => !isPathEnd c) = path.toList := by
    rw [List.takeWhile_eq_self_iff]
    intro c hc
    rw [h] at hc
    obtain ⟨part, hpart, hc⟩ := List.mem_flatMap.mp hc
    rcases List.mem_cons.mp hc with rfl | hc
    · rfl
    · exact ((hplain part hpart).2 c hc).2
  have hnonempty : (parts.map String.toList).filter (!·.isEmpty) = parts.map String.toList := by
    rw [List.filter_eq_self]
    intro piece hpiece
    obtain ⟨part, hpart, rfl⟩ := List.mem_map.mp hpiece
    simpa using (hplain part hpart).1
  unfold splitPath
  rw [hwhole, h]
  simp only [pieces_eq_splitOnP]
  rw [splitOnP_flatMap fun p hp c hc => ((hplain p hp).2 c hc).1]
  simp only [List.filter_cons, List.isEmpty_nil, Bool.not_true, Bool.false_eq_true, if_false,
    hnonempty, List.map_map]
  simp

/-- The segments of the console's routes. -/
def consolePatterns : List (List Segment) :=
  [[], [], [.literal "help"], [.literal "help", .wildcard], [.literal "dashboard"],
    [.literal "servers"], [.literal "repos"], [.literal "repos", .literal "page", .param "page"],
    [.literal "repo", .param "namespace", .param "name"],
    [.literal "repo", .param "namespace", .param "name", .param "branch"],
    [.literal "repo", .param "namespace", .param "name", .param "branch", .literal "page",
      .param "page"],
    [.literal "payment"], [.literal "login"], [.literal "register"]]

theorem segments_console {t : Table} (h : Table.build consoleDeclarations = .ok t) :
    t.entries.map (·.segments) = consolePatterns := by
  have hsegments : (Table.build consoleDeclarations).toOption.map (·.entries.map (·.segments)) =
      some consolePatterns := by
    decide +kernel
  rw [h] at hsegments
  exact Option.some.inj hsegments

/-- The parameters that a path gives are those of the first pattern that matches its parts. -/
theorem resolve_params (t : Table) (path : String) :
    (t.resolve path).params =
      ((t.entries.map (·.segments)).findSome? (Segment.matchParts · (splitPath path))).getD .empty := by
  obtain ⟨entries⟩ := t
  unfold Table.resolve
  induction entries with
  | nil => rfl
  | cons e entries ih =>
    rw [List.map_cons, List.findSome?_cons, List.findSome?_cons, Entry.matchPath?]
    cases hm : Segment.matchParts e.segments (splitPath path) with
    | none => exact ih
    | some params => rfl

/-- What no segment takes stays as it was. -/
theorem Segment.get?_of_bindParts {segments : List Segment} {parts : List String}
    {params params' : Params} {name : String} (h : bindParts segments parts params = some params')
    (hname : name ≠ "_") (hparam : .param name ∉ segments) : params'.get? name = params.get? name := by
  fun_induction bindParts segments parts params with
  | case1 params =>
    cases h
    rfl
  | case4 rest part parts params =>
    cases h
    rw [Named.get?_insert, if_neg hname.symm]
  | case5 segments params text parts ih => exact ih h (List.not_mem_of_not_mem_cons hparam)
  | case7 name' segments part parts params ih =>
    rw [ih h (List.not_mem_of_not_mem_cons hparam), Named.get?_insert, if_neg]
    rintro rfl
    exact hparam List.mem_cons_self
  | _ => cases h

end Route

namespace RepoLocation
open Route

/-- The branch that the parts of a path name; a repo's own path names its master branch. -/
def ofParts? : List String → Option RepoLocation
  | ["repo", space, name] => some ⟨space, name, masterBranch⟩
  | ["repo", space, name, branch] => some ⟨space, name, branch⟩
  | ["repo", space, name, branch, "page", _] => some ⟨space, name, branch⟩
  | _ => none

/-- The branch that a path names. -/
def ofPath? (path : String) : Option RepoLocation := ofParts? (splitPath path)

/-- What the parameters of a route name. -/
def ofParams? (params : Segment.Params) : Option RepoLocation := do
  return ⟨← params.get? "namespace", ← params.get? "name", (params.get? "branch").getD masterBranch⟩

theorem ofParts?_of_head {parts : List String} (h : parts.head? ≠ some "repo") :
    ofParts? parts = none := by
  unfold ofParts?
  split <;> first | rfl | exact absurd rfl h

/-- Only the patterns of repos give a namespace. -/
theorem get?_console_of_head {parts : List String} (h : parts.head? ≠ some "repo") :
    ((consolePatterns.findSome? (Segment.matchParts · parts)).getD .empty).get? "namespace" = none := by
  have hpatterns : ∀ segments ∈ consolePatterns,
      segments.head? = some (.literal "repo") ∨ .param "namespace" ∉ segments := by
    decide
  cases hf : consolePatterns.findSome? (Segment.matchParts · parts) with
  | none => rfl
  | some params =>
    obtain ⟨segments, hmem, hm⟩ := List.exists_of_findSome?_eq_some hf
    have hparam : .param "namespace" ∉ segments := by
      refine (hpatterns segments hmem).resolve_left fun hs => ?_
      obtain ⟨rest, rfl⟩ := List.head?_eq_some_iff.mp hs
      cases parts with
      | nil => cases hm
      | cons part parts =>
        have hpart : part ≠ "repo" := fun he => h (congrArg some he)
        rw [Segment.matchParts, Segment.bindParts, if_neg hpart] at hm
        cases hm
    exact Segment.get?_of_bindParts hm (by decide) hparam

/-- On the console's routes the parameters name what the parts do. -/
theorem ofParams?_console (parts : List String) :
    ofParams? ((consolePatterns.findSome? (Segment.matchParts · parts)).getD .empty) =
      ofParts? parts := by
  by_cases hrepo : parts.head? = some "repo"
  · obtain ⟨rest, rfl⟩ := List.head?_eq_some_iff.mp hrepo
    rcases rest with _ | ⟨space, _ | ⟨name, _ | ⟨branch, _ | ⟨fixed, _ | ⟨page, rest⟩⟩⟩⟩⟩
    case cons.cons.cons.cons.cons =>
      by_cases hfixed : fixed = "page"
      · subst hfixed
        cases rest <;>
          simp [consolePatterns, List.findSome?_cons, Segment.matchParts, Segment.bindParts,
            ofParams?, ofParts?, Named.get?_insert]
      · simp [consolePatterns, List.findSome?_cons, Segment.matchParts, Segment.bindParts,
          ofParams?, ofParts?, hfixed]
    all_goals
      simp [consolePatterns, List.findSome?_cons, Segment.matchParts, Segment.bindParts, ofParams?,
        ofParts?, Named.get?_insert]
  · rw [ofParts?_of_head hrepo, ofParams?, get?_console_of_head hrepo]
    rfl

theorem ofState?_resolve {t : Table} (h : Table.build consoleDeclarations = .ok t) {s : State}
    {path : String} (hs : s.route = t.resolve path) : ofState? s = ofPath? path := by
  rw [ofPath?, ← ofParams?_console, ← segments_console h, ← resolve_params, ← hs]
  rfl

/-- A branch whose names a path keeps whole. -/
structure IsPlain (l : RepoLocation) : Prop where
  space : IsPlainPart l.space
  name : IsPlainPart l.name
  branch : IsPlainPart l.branch

theorem isPlain_of_ofPath? {path : String} {l : RepoLocation} (h : ofPath? path = some l) :
    l.IsPlain := by
  have hparts : ∀ part ∈ splitPath path, IsPlainPart part := fun _ => plain_of_mem_splitPath
  have hmaster : IsPlainPart masterBranch := by decide
  unfold ofPath? at h
  generalize splitPath path = parts at h hparts
  unfold ofParts? at h
  split at h
  · cases h
    exact ⟨hparts _ (by simp), hparts _ (by simp), hmaster⟩
  · cases h
    exact ⟨hparts _ (by simp), hparts _ (by simp), hparts _ (by simp)⟩
  · cases h
    exact ⟨hparts _ (by simp), hparts _ (by simp), hparts _ (by simp)⟩
  · cases h

/-- The path of a repo leads to it just if its names are plain. -/
theorem ofPath?_repo (space name : String) :
    (∃ l, ofPath? ("/repo/" ++ space ++ "/" ++ name) = some l ∧ l.space = space ∧ l.name = name) ↔
      IsPlainPart space ∧ IsPlainPart name := by
  constructor
  · rintro ⟨l, h, rfl, rfl⟩
    have hplain := isPlain_of_ofPath? h
    exact ⟨hplain.space, hplain.name⟩
  · rintro ⟨hspace, hname⟩
    have hrepo : IsPlainPart "repo" := by decide
    have hparts : splitPath ("/repo/" ++ space ++ "/" ++ name) = ["repo", space, name] := by
      refine splitPath_of_parts ?_ ?_
      · simp
      · simp [hrepo, hspace, hname]
    refine ⟨⟨space, name, masterBranch⟩, ?_, rfl, rfl⟩
    rw [ofPath?, hparts]
    rfl

theorem isPlainPart_showNat (n : Nat) : IsPlainPart (Text.showNat n) := by
  unfold Text.showNat Text.decimalDigits
  refine ⟨?_, fun c hc => ?_⟩
  · intro h
    have hdigits : Nat.toDigits 10 n = [] := by simpa using congrArg String.toList h
    exact Nat.toDigits_ne_nil hdigits
  · rw [String.toList_ofList] at hc
    have hdigit : c.isDigit = true := Nat.isDigit_of_mem_toDigits (by decide) (by decide) hc
    have hother : ∀ d : Char, d.isDigit = false → c ≠ d := by
      rintro d hd rfl
      rw [hd] at hdigit
      cases hdigit
    exact ⟨hother '/' rfl, by simp [isPathEnd, hother '?' rfl, hother '#' rfl]⟩

theorem splitPath_pageUrl {l : RepoLocation} (h : l.IsPlain) (page : Nat) :
    splitPath (l.pageUrl page) =
      ["repo", l.space, l.name, l.branch, "page", Text.showNat page] := by
  have hrepo : IsPlainPart "repo" := by decide
  have hpage : IsPlainPart "page" := by decide
  refine splitPath_of_parts ?_ ?_
  · simp [pageUrl, url]
  · simp [hrepo, hpage, h.space, h.name, h.branch, isPlainPart_showNat]

/-- The path of a page of a branch leads to the branch just if its names are plain. -/
theorem ofPath?_pageUrl (l : RepoLocation) (page : Nat) :
    ofPath? (l.pageUrl page) = some l ↔ l.IsPlain := by
  refine ⟨isPlain_of_ofPath?, fun h => ?_⟩
  rw [ofPath?, splitPath_pageUrl h]
  rfl

end RepoLocation

end StorageConsole
