import Mathlib.Data.List.Pairwise
import StorageConsole.Proofs.Paging
import StorageConsole.Proofs.Resolution

/-!
Routes that do not stand in each other's way. The segments of two patterns tell whether there is a
path that both match. Where no two routes of a table do, the order of their declarations does not
matter; the console's routes are of that kind, but for the two names of its root.
-/
namespace StorageConsole.Route

namespace Segment

/-- Whether a segment takes a part of a path; a wildcard takes those behind it as well. -/
def takes : Segment → String → Bool
  | literal text, part => part == text
  | param _, _ | wildcard, _ => true

/-- Whether the parts of a path match the segments. -/
def accepts : List Segment → List String → Bool
  | [], parts => parts.isEmpty
  | _ :: _, [] => false
  | segment :: segments, part :: parts =>
    segment.takes part && (segment == wildcard || accepts segments parts)

/-- Whether there is a part that both segments take. -/
def meets : Segment → Segment → Bool
  | literal text, literal text' => text == text'
  | _, _ => true

/-- Whether there are parts of a path that both patterns match. -/
def overlaps : List Segment → List Segment → Bool
  | [], [] => true
  | [], _ :: _ | _ :: _, [] => false
  | a :: s, b :: t => a.meets b && (a == wildcard || b == wildcard || overlaps s t)

/-- A pattern whose fixed texts can stand in a path. -/
def IsPlain (segments : List Segment) : Prop := ∀ text, .literal text ∈ segments → IsPlainPart text

variable {a b : Segment} {s t : List Segment} {part : String} {parts : List String}

theorem isSome_bindParts (s : List Segment) (parts : List String) (params : Params) :
    (bindParts s parts params).isSome = accepts s parts := by
  fun_induction bindParts s parts params with
  | case1 | case2 | case3 | case4 | case8 | case9 => simp [accepts, takes]
  | case5 segments params part parts ih => simp [accepts, takes, ih]
  | case6 segments params text part parts hne => simp [accepts, takes, hne]
  | case7 name segments part parts params ih => simp [accepts, takes, ih]

theorem meets_of_takes (ha : a.takes part) (hb : b.takes part) : a.meets b := by
  cases a with
  | literal text =>
    cases b with
    | literal text' =>
      have htext : part = text := by simpa [takes] using ha
      have htext' : part = text' := by simpa [takes] using hb
      simp [meets, ← htext, ← htext']
    | param _ | wildcard => rfl
  | param _ | wildcard => rfl

theorem overlaps_of_accepts (hs : accepts s parts) (ht : accepts t parts) : overlaps s t := by
  induction s generalizing t parts with
  | nil =>
    cases t with
    | nil => rfl
    | cons b t =>
      obtain rfl := List.isEmpty_iff.mp hs
      cases ht
  | cons a s ih =>
    cases parts with
    | nil => cases hs
    | cons part parts =>
      cases t with
      | nil => cases ht
      | cons b t =>
        obtain ⟨ha, hs⟩ := Bool.and_eq_true_iff.mp hs
        obtain ⟨hb, ht⟩ := Bool.and_eq_true_iff.mp ht
        have hrest : (a == wildcard || b == wildcard || overlaps s t) = true := by
          rcases Bool.or_eq_true_iff.mp hs with hs | hs
          · simp [hs]
          · rcases Bool.or_eq_true_iff.mp ht with ht | ht
            · simp [ht]
            · simp [ih hs ht]
        exact Bool.and_eq_true_iff.mpr ⟨meets_of_takes ha hb, hrest⟩

/-- A pattern has only plain texts if its first segment and the others do. -/
theorem isPlain_cons : IsPlain (a :: s) ↔ IsPlain [a] ∧ IsPlain s := by
  simp only [IsPlain, List.mem_cons, List.not_mem_nil, or_false]
  constructor
  · intro h
    exact ⟨fun text ha => h text (.inl ha), fun text hs => h text (.inr hs)⟩
  · rintro ⟨ha, hs⟩ text (h | h)
    · exact ha text h
    · exact hs text h

theorem exists_taken (ha : IsPlain [a]) (hb : IsPlain [b]) (h : a.meets b) :
    ∃ part, IsPlainPart part ∧ a.takes part ∧ b.takes part := by
  have hplain : IsPlainPart "x" := by decide
  cases a with
  | literal text =>
    refine ⟨text, ha text (.head _), by simp [takes], ?_⟩
    cases b with
    | literal text' => simpa [takes, meets] using h
    | param _ | wildcard => rfl
  | param _ | wildcard =>
    cases b with
    | literal text => exact ⟨text, hb text (.head _), rfl, by simp [takes]⟩
    | param _ | wildcard => exact ⟨"x", hplain, rfl, rfl⟩

theorem exists_accepted (hs : IsPlain s) :
    ∃ parts, (∀ part ∈ parts, IsPlainPart part) ∧ accepts s parts := by
  induction s with
  | nil => exact ⟨[], by simp, rfl⟩
  | cons a s ih =>
    obtain ⟨ha, hs⟩ := isPlain_cons.mp hs
    obtain ⟨parts, hparts, haccepts⟩ := ih hs
    obtain ⟨part, hpart, htakes, _⟩ := exists_taken ha ha (by cases a <;> simp [meets])
    exact ⟨part :: parts, List.forall_mem_cons.mpr ⟨hpart, hparts⟩,
      by simp [accepts, htakes, haccepts]⟩

theorem exists_accepted_of_overlaps (hs : IsPlain s) (ht : IsPlain t) (h : overlaps s t) :
    ∃ parts, (∀ part ∈ parts, IsPlainPart part) ∧ accepts s parts ∧ accepts t parts := by
  induction s generalizing t with
  | nil =>
    cases t with
    | nil => exact ⟨[], by simp, rfl, rfl⟩
    | cons b t => cases h
  | cons a s ih =>
    cases t with
    | nil => cases h
    | cons b t =>
      obtain ⟨ha, hs⟩ := isPlain_cons.mp hs
      obtain ⟨hb, ht⟩ := isPlain_cons.mp ht
      obtain ⟨hmeets, hrest⟩ := Bool.and_eq_true_iff.mp h
      obtain ⟨part, hpart, hta, htb⟩ := exists_taken ha hb hmeets
      -- A wildcard takes whatever the other pattern takes from here on.
      obtain ⟨parts, hparts, hsa, htb'⟩ : ∃ parts, (∀ part ∈ parts, IsPlainPart part) ∧
          (a == wildcard || accepts s parts) ∧ (b == wildcard || accepts t parts) := by
        rcases Bool.or_eq_true_iff.mp hrest with hrest | hrest
        · rcases Bool.or_eq_true_iff.mp hrest with hwild | hwild
          · obtain ⟨parts, hparts, haccepts⟩ := exists_accepted ht
            exact ⟨parts, hparts, by simp [hwild], by simp [haccepts]⟩
          · obtain ⟨parts, hparts, haccepts⟩ := exists_accepted hs
            exact ⟨parts, hparts, by simp [haccepts], by simp [hwild]⟩
        · obtain ⟨parts, hparts, haccepts, haccepts'⟩ := ih hs ht hrest
          exact ⟨parts, hparts, by simp [haccepts], by simp [haccepts']⟩
      exact ⟨part :: parts, List.forall_mem_cons.mpr ⟨hpart, hparts⟩,
        Bool.and_eq_true_iff.mpr ⟨hta, hsa⟩, Bool.and_eq_true_iff.mpr ⟨htb, htb'⟩⟩

/-- Two patterns have a path in common just if their segments say so. -/
theorem overlaps_iff (hs : IsPlain s) (ht : IsPlain t) :
    overlaps s t ↔ ∃ path, accepts s (splitPath path) ∧ accepts t (splitPath path) := by
  constructor
  · intro h
    obtain ⟨parts, hparts, hboth⟩ := exists_accepted_of_overlaps hs ht h
    let path := String.ofList (parts.flatMap fun part => '/' :: part.toList)
    have hpath : splitPath path = parts := splitPath_of_parts (String.toList_ofList) hparts
    exact ⟨path, hpath.symm ▸ hboth⟩
  · rintro ⟨path, haccepts, haccepts'⟩
    exact overlaps_of_accepts haccepts haccepts'

/-- The texts of a pattern that can be read are parts of it. -/
theorem isPlain_of_parse {pattern : String} (h : parse pattern = .ok s) : IsPlain s := by
  have hparts : ∀ part ∈ splitPath pattern, IsPlainPart part := fun _ => plain_of_mem_splitPath
  unfold parse at h
  generalize splitPath pattern = parts at h hparts
  induction parts generalizing s with
  | nil =>
    cases h
    exact fun _ => nofun
  | cons part parts ih =>
    obtain ⟨segment, hsegment, h⟩ := exists_ok_of_bind h
    obtain ⟨rest, hrest, h⟩ := exists_ok_of_bind h
    cases h
    refine isPlain_cons.mpr ⟨fun text htext => ?_, ih hrest fun p hp => hparts p (.tail _ hp)⟩
    obtain rfl := List.mem_singleton.mp htext
    obtain ⟨_, _, hliteral⟩ | ⟨_, _, _, hliteral⟩ | ⟨_, hliteral⟩ := ofPart_cases hsegment
    · cases hliteral
    · cases hliteral
    · cases hliteral
      exact hparts _ (.head _)

end Segment

section Entries
variable {d d' : Declaration} {e e' : Entry}

theorem Entry.isSome_matchPath? (e : Entry) (path : String) :
    (e.matchPath? path).isSome = Segment.accepts e.segments (splitPath path) := by
  rw [matchPath?, Option.isSome_map]
  exact Segment.isSome_bindParts e.segments (splitPath path) .empty

/-- There is a path that both routes match. -/
def Entry.Overlaps (e e' : Entry) : Prop :=
  ∃ path, (e.matchPath? path).isSome ∧ (e'.matchPath? path).isSome

theorem Entry.Overlaps.symm (h : e.Overlaps e') : e'.Overlaps e := by
  obtain ⟨path, hm, hm'⟩ := h
  exact ⟨path, hm', hm⟩

/-- The segments of declared routes tell whether the routes overlap. -/
theorem Entry.overlaps_iff (h : d.check = .ok e) (h' : d'.check = .ok e') :
    e.Overlaps e' ↔ Segment.overlaps e.segments e'.segments := by
  simp only [Overlaps, isSome_matchPath?]
  exact (Segment.overlaps_iff (Segment.isPlain_of_parse (Declaration.of_check h).1)
    (Segment.isPlain_of_parse (Declaration.of_check h').1)).symm

end Entries

namespace Table
variable {t t' : Table} {d : Declaration} {declarations declarations' : List Declaration}
  {entries : List Entry}

/-- The order of the routes matters only to a path that two of them match. -/
theorem resolve_of_perm (hperm : t'.entries.Perm t.entries) (path : String) :
    t'.resolve path = t.resolve path ∨
      ∃ e ∈ t.entries, ∃ e' ∈ t.entries, e ≠ e' ∧ e.matchPath? path = some (t.resolve path) ∧
        e'.matchPath? path = some (t'.resolve path) := by
  obtain ⟨e, he, hm⟩ | ⟨hnone, hall⟩ := t.resolve_found path
  · obtain ⟨e', he', hm'⟩ | ⟨_, hall'⟩ := t'.resolve_found path
    · by_cases heq : e = e'
      · subst heq
        exact .inl (Option.some.inj (hm'.symm.trans hm))
      · exact .inr ⟨e, he, e', hperm.mem_iff.mp he', heq, hm, hm'⟩
    · rw [hall' e (hperm.mem_iff.mpr he)] at hm
      cases hm
  · obtain ⟨e', he', hm'⟩ | ⟨hnone', _⟩ := t'.resolve_found path
    · rw [hall e' (hperm.mem_iff.mp he')] at hm'
      cases hm'
    · exact .inl (hnone'.trans hnone.symm)

/-- Declarations in another order are accepted as well and become the same entries in that order. -/
theorem checkAll_of_perm (hperm : declarations.Perm declarations')
    (h : checkAll declarations = .ok entries) :
    ∃ entries', checkAll declarations' = .ok entries' ∧ entries'.Perm entries := by
  induction hperm generalizing entries with
  | nil => exact ⟨entries, h, .refl entries⟩
  | cons d _ ih =>
    obtain ⟨e, rest, he, hrest, rfl⟩ := checkAll_cons_iff.mp h
    obtain ⟨rest', hrest', hperm⟩ := ih hrest
    exact ⟨e :: rest', checkAll_cons_iff.mpr ⟨e, rest', he, hrest', rfl⟩, hperm.cons e⟩
  | swap d d' _ =>
    obtain ⟨e', _, he', htail, rfl⟩ := checkAll_cons_iff.mp h
    obtain ⟨e, rest, he, hrest, rfl⟩ := checkAll_cons_iff.mp htail
    have hlast := checkAll_cons_iff.mpr ⟨e', rest, he', hrest, rfl⟩
    exact ⟨e :: e' :: rest, checkAll_cons_iff.mpr ⟨e, e' :: rest, he, hlast, rfl⟩, .swap e' e rest⟩
  | trans _ _ ih ih' =>
    obtain ⟨middle, hmiddle, hperm⟩ := ih h
    obtain ⟨last, hlast, hperm'⟩ := ih' hmiddle
    exact ⟨last, hlast, hperm'.trans hperm⟩

theorem build_of_perm (hperm : declarations.Perm declarations') (h : build declarations = .ok t) :
    ∃ t', build declarations' = .ok t' ∧ t'.entries.Perm t.entries := by
  obtain ⟨entries, hentries, hperm⟩ := checkAll_of_perm hperm (build_eq_ok_iff.mp h)
  exact ⟨⟨entries⟩, build_eq_ok_iff.mpr hentries, hperm⟩

end Table

section Console
variable {t : Table} {e e' : Entry} {path : String} {m : Match}

/-- What the root's names have in common. -/
structure Entry.IsRoot (e : Entry) : Prop where
  segments : e.segments = []
  policy : e.policy = .unspecified

theorem Entry.IsRoot.isSome_iff (h : e.IsRoot) :
    (e.matchPath? path).isSome ↔ splitPath path = [] := by
  rw [isSome_matchPath?, h.segments]
  exact List.isEmpty_iff

theorem Entry.IsRoot.eq_of_matchPath? (h : e.IsRoot) (hm : e.matchPath? path = some m) :
    splitPath path = [] ∧ m.params = .empty ∧ m.policy = .unspecified := by
  have hparts : splitPath path = [] := h.isSome_iff.mp (hm ▸ rfl)
  rw [matchPath?, h.segments, hparts] at hm
  cases hm
  exact ⟨hparts, rfl, h.policy⟩

theorem isRoot_console (h : Table.build consoleDeclarations = .ok t) :
    ∀ e ∈ t.entries, e.pattern = "/" ∨ e.pattern = "" → e.IsRoot := by
  have hroot : ∀ e ∈ t.entries, e.pattern = "/" ∨ e.pattern = "" →
      e.segments = [] ∧ e.policy = .unspecified := Table.of_build_console h (by decide +kernel)
  intro e he hname
  obtain ⟨hsegments, hpolicy⟩ := hroot e he hname
  exact ⟨hsegments, hpolicy⟩

/-- Two routes of the console overlap just if they are the two names of its root. -/
theorem overlaps_console (h : Table.build consoleDeclarations = .ok t) :
    t.entries.Pairwise fun e e' => e.Overlaps e' ↔ e.pattern = "/" ∧ e'.pattern = "" := by
  have hsegments : t.entries.Pairwise fun e e' =>
      Segment.overlaps e.segments e'.segments ↔ e.pattern = "/" ∧ e'.pattern = "" :=
    Table.of_build_console h (by decide +kernel)
  refine hsegments.imp_of_mem fun he he' hseen => ?_
  obtain ⟨d, _, hd⟩ := Table.declared_of_build h he
  obtain ⟨d', _, hd'⟩ := Table.declared_of_build h he'
  exact (Entry.overlaps_iff hd hd').trans hseen

theorem isRoot_of_overlaps (h : Table.build consoleDeclarations = .ok t) (he : e ∈ t.entries)
    (he' : e' ∈ t.entries) (hne : e ≠ e') (hover : e.Overlaps e') : e.IsRoot ∧ e'.IsRoot := by
  have : Std.Symm fun e e' : Entry => e.Overlaps e' → e.IsRoot ∧ e'.IsRoot :=
    ⟨fun _ _ hroots hover => (hroots hover.symm).symm⟩
  have hroots : t.entries.Pairwise fun e e' => e.Overlaps e' → e.IsRoot ∧ e'.IsRoot := by
    refine (overlaps_console h).imp_of_mem fun he he' hnames hover => ?_
    obtain ⟨hname, hname'⟩ := hnames.mp hover
    exact ⟨isRoot_console h _ he (.inl hname), isRoot_console h _ he' (.inr hname')⟩
  exact hroots.forall he he' hne hover

/-- No two routes of the console match the same path but the two names of its root, which match just
the paths without parts; so whatever the order of the declarations, every path leads to the same
access, the same hook and the same parameters, and but for the root to the same route. -/
theorem console_routes_disjoint (built : Table.build consoleDeclarations = .ok t) :
    (t.entries.Pairwise fun e e' => e.Overlaps e' ↔ e.pattern = "/" ∧ e'.pattern = "") ∧
    (∀ e ∈ t.entries, e.pattern = "/" ∨ e.pattern = "" → ∀ path,
      (e.matchPath? path).isSome ↔ splitPath path = []) ∧
    ∀ declarations, consoleDeclarations.Perm declarations →
      ∃ t', Table.build declarations = .ok t' ∧ ∀ path,
        (t'.resolve path).params = (t.resolve path).params ∧
        (t'.resolve path).policy = (t.resolve path).policy ∧
        (splitPath path ≠ [] → t'.resolve path = t.resolve path) := by
  refine ⟨overlaps_console built, fun e he hname path => ?_, fun declarations hperm => ?_⟩
  · exact (isRoot_console built e he hname).isSome_iff
  · obtain ⟨t', hbuild, hentries⟩ := Table.build_of_perm hperm built
    refine ⟨t', hbuild, fun path => ?_⟩
    obtain heq | ⟨e, he, e', he', hne, hm, hm'⟩ := Table.resolve_of_perm hentries path
    · rw [heq]
      exact ⟨rfl, rfl, fun _ => rfl⟩
    · have hover : e.Overlaps e' := ⟨path, hm ▸ rfl, hm' ▸ rfl⟩
      obtain ⟨hroot, hroot'⟩ := isRoot_of_overlaps built he he' hne hover
      obtain ⟨hparts, hparams, hpolicy⟩ := hroot.eq_of_matchPath? hm
      obtain ⟨_, hparams', hpolicy'⟩ := hroot'.eq_of_matchPath? hm'
      exact ⟨hparams'.trans hparams.symm, hpolicy'.trans hpolicy.symm,
        fun hsome => absurd hparts hsome⟩

theorem console_routes_disjoint_reversed :
    ∃ t t', Table.build consoleDeclarations = .ok t ∧
      consoleDeclarations.Perm consoleDeclarations.reverse ∧
      Table.build consoleDeclarations.reverse = .ok t' ∧
      (t'.resolve "/?next=/login").policy = (t.resolve "/?next=/login").policy ∧
      (t'.resolve "/?next=/login").pattern ≠ (t.resolve "/?next=/login").pattern ∧
      t'.resolve "/repo/ann//page/help#1" = t.resolve "/repo/ann//page/help#1" ∧
      (t.resolve "/repo/ann//page/help#1").params.get? "branch" = some "help" := by
  let t : Table := (Table.build consoleDeclarations).toOption.getD .empty
  have hbuild : Table.build consoleDeclarations = .ok t := by decide +kernel
  have hperm : consoleDeclarations.Perm consoleDeclarations.reverse :=
    (List.reverse_perm consoleDeclarations).symm
  obtain ⟨t', hbuild', hresolve⟩ := (console_routes_disjoint hbuild).2.2 _ hperm
  have hnames : ∀ t' ∈ (Table.build consoleDeclarations.reverse).toOption,
      (t'.resolve "/?next=/login").pattern ≠ (t.resolve "/?next=/login").pattern := by
    decide +kernel
  rw [hbuild'] at hnames
  obtain ⟨_, hpolicy, _⟩ := hresolve "/?next=/login"
  obtain ⟨_, _, hsame⟩ := hresolve "/repo/ann//page/help#1"
  exact ⟨t, t', hbuild, hperm, hbuild', hpolicy, hnames t' rfl, hsame (by decide +kernel),
    by decide +kernel⟩

end Console

end StorageConsole.Route
