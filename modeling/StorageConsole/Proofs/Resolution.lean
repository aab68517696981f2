import StorageConsole.Proofs.Location
import StorageConsole.Proofs.Routing
import StorageConsole.Proofs.SessionText

/-!
What a table of routes makes of a path. A path is read as its parts, the parts of a pattern take
those of a path one by one, and the route declared first among those whose pattern takes them all is
the one that the path leads to.
-/
namespace StorageConsole

namespace Named
variable {α : Type} {x y : Named α} {name : String}

theorem nodup_names (x : Named α) : (x.entries.map (·.1)).Nodup := by
  refine List.pairwise_map.mpr (x.ordered.imp fun {a b} hlt heq => ?_)
  rw [heq] at hlt
  exact String.lt_irrefl b.1 hlt

theorem mem_entries_iff {e : String × α} : e ∈ x.entries ↔ x.get? e.1 = some e.2 := by
  constructor
  · intro he
    exact member?_of_nodup x.nodup_names he
  · intro h
    obtain ⟨d, hd, hvalue⟩ := Option.map_eq_some_iff.mp h
    have hname : d.1 = e.1 := by simpa using List.find?_some hd
    rw [← Prod.ext hname hvalue]
    exact List.mem_of_find?_eq_some hd

/-- Entries that are found under the same names are the same. -/
theorem eq_of_get? (h : ∀ name, x.get? name = y.get? name) : x = y := by
  have hperm : x.entries.Perm y.entries := by
    refine (List.perm_ext_iff_of_nodup x.nodup_names.of_map y.nodup_names.of_map).mpr fun e => ?_
    rw [mem_entries_iff, mem_entries_iff, h]
  exact eq_of_entries (hperm.eq_of_pairwise
    (fun _ _ _ _ hab hba => absurd hba (String.lt_asymm hab)) x.ordered y.ordered)

end Named

namespace Route

/-- How a path is read as parts: slashes stand between them, a question mark or a hash ends the
path, and a part goes on to the next of these. -/
inductive ReadsParts : List Char → List String → Prop
  | nothing : ReadsParts [] []
  | ended {c : Char} {cs : List Char} (ends : isPathEnd c) : ReadsParts (c :: cs) []
  | slash {cs : List Char} {parts : List String} (rest : ReadsParts cs parts) :
      ReadsParts ('/' :: cs) parts
  | part {part : String} {cs : List Char} {parts : List String} (plain : IsPlainPart part)
      (whole : ∀ c ∈ cs.head?, c = '/' ∨ isPathEnd c) (rest : ReadsParts cs parts) :
      ReadsParts (part.toList ++ cs) (part :: parts)

section Parts
variable {cs : List Char} {c : Char} {part : String} {parts : List String}

/-- The parts of a path, given its characters. -/
def partsOf (cs : List Char) : List String :=
  ((pieces (· == '/') (cs.takeWhile fun c => !isPathEnd c)).filter (!·.isEmpty)).map String.ofList

theorem partsOf_ended (h : isPathEnd c) : partsOf (c :: cs) = [] := by
  rw [partsOf, List.takeWhile_cons_of_neg (by simpa using h)]
  rfl

theorem partsOf_slash (cs : List Char) : partsOf ('/' :: cs) = partsOf cs := by
  unfold partsOf
  rw [List.takeWhile_cons_of_pos rfl]
  simp only [pieces_eq_splitOnP]
  rw [List.splitOnP_cons_eq_if_modifyHead, if_pos (beq_self_eq_true _)]
  rfl

theorem partsOf_part (plain : IsPlainPart part) (whole : ∀ c ∈ cs.head?, c = '/' ∨ isPathEnd c) :
    partsOf (part.toList ++ cs) = part :: partsOf cs := by
  have hbefore : (part.toList ++ cs).takeWhile (fun c => !isPathEnd c) =
      part.toList ++ cs.takeWhile fun c => !isPathEnd c :=
    List.takeWhile_append_of_pos fun c hc => (plain.2 c hc).2
  have hslash : ∀ c ∈ part.toList, (c == '/') = false := fun c hc => by
    simpa using (plain.2 c hc).1
  have hnonempty : part.toList.isEmpty = false := by simpa using plain.1
  unfold partsOf
  rw [hbefore]
  simp only [pieces_eq_splitOnP]
  -- What follows the part begins with a slash or counts for nothing.
  obtain hnil | ⟨ds, hds⟩ : cs.takeWhile (fun c => !isPathEnd c) = [] ∨
      ∃ ds, cs.takeWhile (fun c => !isPathEnd c) = '/' :: ds := by
    cases cs with
    | nil => exact .inl rfl
    | cons c cs =>
      obtain rfl | hend := whole c rfl
      · exact .inr ⟨_, List.takeWhile_cons_of_pos rfl⟩
      · exact .inl (List.takeWhile_cons_of_neg (by simpa using hend))
  · rw [hnil, List.append_nil, List.splitOnP_eq_singleton hslash]
    simp [hnonempty]
  · rw [hds, List.splitOnP_append_cons_of_forall_mem hslash '/' rfl,
      List.splitOnP_cons_eq_if_modifyHead, if_pos (beq_self_eq_true _)]
    simp [hnonempty]

theorem ReadsParts.eq_partsOf (h : ReadsParts cs parts) : parts = partsOf cs := by
  induction h with
  | nothing => rfl
  | ended ends => exact (partsOf_ended ends).symm
  | slash rest ih => rw [partsOf_slash, ih]
  | part plain whole rest ih => rw [partsOf_part plain whole, ih]

/-- Whether a character stands in a part of a path. -/
def standsInPart (c : Char) : Bool := c != '/' && !isPathEnd c

theorem readsParts_partsOf (cs : List Char) : ReadsParts cs (partsOf cs) := by
  induction hlength : cs.length using Nat.strong_induction_on generalizing cs with
  | _ n ih =>
    subst hlength
    cases cs with
    | nil => exact .nothing
    | cons c cs =>
      by_cases hend : isPathEnd c = true
      · rw [partsOf_ended hend]
        exact .ended hend
      · by_cases hslash : c = '/'
        · subst hslash
          rw [partsOf_slash]
          exact .slash (ih cs.length (Nat.lt_succ_self _) cs rfl)
        · -- The first part goes as far as its characters do.
          have hc : standsInPart c = true := by simp [standsInPart, hend, hslash]
          let first := String.ofList (c :: cs.takeWhile standsInPart)
          have hpath : c :: cs = first.toList ++ cs.dropWhile standsInPart := by simp [first]
          have hplain : IsPlainPart first := by
            refine ⟨by simp [first], fun d hd => ?_⟩
            have hd : d = c ∨ d ∈ cs.takeWhile standsInPart := by simpa [first] using hd
            have hstands : standsInPart d = true := by
              rcases hd with rfl | hd
              · exact hc
              · exact List.mem_takeWhile_imp hd
            simpa [standsInPart] using hstands
          have hwhole : ∀ d ∈ (cs.dropWhile standsInPart).head?, d = '/' ∨ isPathEnd d := by
            intro d hd
            have hstops := List.head?_dropWhile_not standsInPart cs
            rw [Option.mem_def.mp hd] at hstops
            have hstops : standsInPart d = false := hstops
            rw [standsInPart, Bool.and_eq_false_iff] at hstops
            simpa using hstops
          rw [hpath, partsOf_part hplain hwhole]
          exact .part hplain hwhole (ih _ (Nat.lt_succ_of_le (List.length_dropWhile_le ..)) _ rfl)

/-- Every path is read in one way. -/
theorem readsParts_iff {path : String} :
    ReadsParts path.toList parts ↔ parts = splitPath path :=
  ⟨ReadsParts.eq_partsOf, fun h => h ▸ readsParts_partsOf path.toList⟩

end Parts

/-- A part of a pattern that takes only itself. -/
def IsFixed (text : String) : Prop := text ≠ "*" ∧ text.toList.head? ≠ some ':'

/-- How the parts of a pattern take the parts of a path, with the texts that they take and the names
that they take them under. A star stands last and takes all that is left. -/
inductive Takes : List String → List String → List (String × String) → Prop
  | nothing : Takes [] [] []
  | star {part : String} {parts : List String} :
      Takes ["*"] (part :: parts) [("_", "/".intercalate (part :: parts))]
  | param {name part : String} {pattern parts : List String} {taken : List (String × String)}
      (named : name ≠ "") (rest : Takes pattern parts taken) :
      Takes ((":" ++ name) :: pattern) (part :: parts) ((name, part) :: taken)
  | fixed {text : String} {pattern parts : List String} {taken : List (String × String)}
      (fixed : IsFixed text) (rest : Takes pattern parts taken) :
      Takes (text :: pattern) (text :: parts) taken

/-- What was taken under a name, the last time that something was. -/
def lastTaken? (taken : List (String × String)) (name : String) : Option String :=
  member? taken.reverse name

section Takes
variable {text name part : String} {pattern parts : List String}
  {taken taken' : List (String × String)} {segment : Segment} {segments : List Segment}
  {params params' : Segment.Params} {isLast : Bool}

theorem not_isFixed_star : ¬ IsFixed "*" := fun h => h.1 rfl

theorem not_isFixed_param (name : String) : ¬ IsFixed (":" ++ name) := fun h => h.2 (by simp)

theorem param_ne_star (name : String) : ":" ++ name ≠ "*" := by
  intro h
  have hhead := congrArg (·.toList.head?) h
  simp at hhead

theorem takes_star_iff :
    Takes ("*" :: pattern) parts taken ↔
      pattern = [] ∧ ∃ part rest, parts = part :: rest ∧
        taken = [("_", "/".intercalate (part :: rest))] := by
  constructor
  · intro h
    generalize hstar : "*" :: pattern = whole at h
    cases h with
    | nothing => cases hstar
    | star =>
      cases hstar
      exact ⟨rfl, _, _, rfl, rfl⟩
    | param => exact absurd (List.head_eq_of_cons_eq hstar).symm (param_ne_star _)
    | fixed fixed =>
      cases hstar
      exact absurd fixed not_isFixed_star
  · rintro ⟨rfl, part, rest, rfl, rfl⟩
    exact .star

theorem takes_param_iff (named : name ≠ "") :
    Takes ((":" ++ name) :: pattern) parts taken ↔
      ∃ part rest later, parts = part :: rest ∧ taken = (name, part) :: later ∧
        Takes pattern rest later := by
  constructor
  · intro h
    generalize hparam : (":" ++ name) :: pattern = whole at h
    cases h with
    | nothing => cases hparam
    | star => exact absurd (List.head_eq_of_cons_eq hparam) (param_ne_star _)
    | param _ rest =>
      obtain ⟨hname, rfl⟩ := List.cons.inj hparam
      obtain rfl : name = _ := by simpa using hname
      exact ⟨_, _, _, rfl, rfl, rest⟩
    | fixed fixed =>
      obtain ⟨rfl, rfl⟩ := List.cons.inj hparam
      exact absurd fixed (not_isFixed_param name)
  · rintro ⟨part, rest, later, rfl, rfl, h⟩
    exact .param named h

theorem takes_fixed_iff (fixed : IsFixed text) :
    Takes (text :: pattern) parts taken ↔
      ∃ rest, parts = text :: rest ∧ Takes pattern rest taken := by
  constructor
  · intro h
    generalize htext : text :: pattern = whole at h
    cases h with
    | nothing => cases htext
    | star =>
      cases htext
      exact absurd fixed not_isFixed_star
    | param =>
      obtain ⟨rfl, rfl⟩ := List.cons.inj htext
      exact absurd fixed (not_isFixed_param _)
    | fixed _ rest =>
      obtain ⟨rfl, rfl⟩ := List.cons.inj htext
      exact ⟨_, rfl, rest⟩
  · rintro ⟨rest, rfl, h⟩
    exact .fixed fixed h

/-- A pattern takes the parts of a path in one way. -/
theorem Takes.unique (h : Takes pattern parts taken) (h' : Takes pattern parts taken') :
    taken = taken' := by
  induction h generalizing taken' with
  | nothing =>
    cases h'
    rfl
  | star =>
    obtain ⟨_, _, _, hparts, rfl⟩ := takes_star_iff.mp h'
    rw [hparts]
  | param named rest ih =>
    obtain ⟨_, _, _, hparts, rfl, hrest⟩ := (takes_param_iff named).mp h'
    obtain ⟨rfl, rfl⟩ := List.cons.inj hparts
    rw [ih hrest]
  | fixed fixed rest ih =>
    obtain ⟨_, hparts, hrest⟩ := (takes_fixed_iff fixed).mp h'
    obtain ⟨_, rfl⟩ := List.cons.inj hparts
    exact ih hrest

/-- But for what a star takes, only parts of the path are taken. -/
theorem Takes.mem_parts (h : Takes pattern parts taken) {e : String × String} (he : e ∈ taken)
    (hname : e.1 ≠ "_") : e.2 ∈ parts := by
  induction h with
  | nothing => cases he
  | star =>
    rw [List.mem_singleton.mp he] at hname
    exact absurd rfl hname
  | param _ _ ih =>
    rcases List.mem_cons.mp he with rfl | he
    · exact .head _
    · exact .tail _ (ih he)
  | fixed _ _ ih => exact .tail _ (ih he)

/-- What a part of a pattern is read as. -/
theorem Segment.ofPart_cases (h : ofPart isLast part = .ok segment) :
    (part = "*" ∧ isLast ∧ segment = .wildcard) ∨
    (∃ name, name ≠ "" ∧ part = ":" ++ name ∧ segment = .param name) ∨
    (IsFixed part ∧ segment = .literal part) := by
  unfold ofPart at h
  split at h
  · next hstar =>
    split at h <;> cases h
    exact .inl ⟨String.toList_inj.mp hstar, ‹_›, rfl⟩
  · cases h
  · next name hne hparam =>
    cases h
    refine .inr (.inl ⟨String.ofList name, ?_, String.toList_inj.mp (by simp [hparam]), rfl⟩)
    rintro hname
    obtain rfl : name = [] := by simpa using congrArg String.toList hname
    exact hne rfl
  · next hstar hcolon hparam =>
    cases h
    refine .inr (.inr ⟨⟨?_, fun hhead => ?_⟩, rfl⟩)
    · rintro rfl
      exact hstar rfl
    · obtain ⟨name, hname⟩ := List.head?_eq_some_iff.mp hhead
      exact hparam name hname

/-- A pattern that can be read takes the parts of a path just as its segments do. -/
theorem Segment.bindParts_eq_some_iff (h : ofParts pattern = .ok segments) :
    bindParts segments parts params = some params' ↔
      ∃ taken, Takes pattern parts taken ∧
        params' = taken.foldl (fun x e => x.insert e.1 e.2) params := by
  induction pattern generalizing segments parts params with
  | nil =>
    cases h
    cases parts with
    | nil =>
      constructor
      · intro hbind
        cases hbind
        exact ⟨[], .nothing, rfl⟩
      · rintro ⟨_, ⟨⟩, rfl⟩
        rfl
    | cons part parts => exact ⟨nofun, fun ⟨_, htakes, _⟩ => nomatch htakes⟩
  | cons text pattern ih =>
    obtain ⟨segment, hsegment, h⟩ := exists_ok_of_bind h
    obtain ⟨rest, hrest, h⟩ := exists_ok_of_bind h
    cases h
    obtain ⟨rfl, hlast, rfl⟩ | ⟨name, named, rfl, rfl⟩ | ⟨fixed, rfl⟩ := ofPart_cases hsegment
    · have hnil : pattern = [] := by simpa using hlast
      simp only [takes_star_iff, hnil, true_and]
      cases parts with
      | nil => simp [bindParts]
      | cons part parts =>
        rw [bindParts, Option.some_inj]
        constructor
        · rintro rfl
          exact ⟨_, ⟨_, _, rfl, rfl⟩, rfl⟩
        · rintro ⟨_, ⟨_, _, hparts, rfl⟩, rfl⟩
          rw [hparts]
          rfl
    · simp only [takes_param_iff named]
      cases parts with
      | nil => simp [bindParts]
      | cons part parts =>
        rw [bindParts, ih hrest]
        constructor
        · rintro ⟨taken, htakes, rfl⟩
          exact ⟨_, ⟨_, _, _, rfl, rfl, htakes⟩, rfl⟩
        · rintro ⟨_, ⟨_, _, taken, hparts, rfl, htakes⟩, rfl⟩
          obtain ⟨rfl, rfl⟩ := List.cons.inj hparts
          exact ⟨taken, htakes, rfl⟩
    · simp only [takes_fixed_iff fixed]
      cases parts with
      | nil => simp [bindParts]
      | cons part parts =>
        rw [bindParts]
        by_cases hpart : part = text
        · subst hpart
          rw [if_pos rfl, ih hrest]
          simp
        · rw [if_neg hpart]
          simp [hpart]

theorem Segment.matchParts_eq_some_iff {path : String} (h : ofParts pattern = .ok segments) :
    matchParts segments (splitPath path) = some params ↔
      ∃ taken, Takes pattern (splitPath path) taken ∧ params = .ofList taken :=
  bindParts_eq_some_iff h

end Takes

/-- A route's policy as it is declared. -/
def Declaration.policy (d : Declaration) : Policy :=
  ⟨d.user, d.redirect, d.hook.bind HookName.ofText?⟩

/-- The pattern of a declared route takes the parts of a path. -/
def Declaration.Takes (d : Declaration) (path : String) (taken : List (String × String)) : Prop :=
  ∃ pattern parts, ReadsParts d.pattern.toList pattern ∧ ReadsParts path.toList parts ∧
    Route.Takes pattern parts taken

/-- What declared routes make of a path: the first one whose pattern takes its parts is what it
leads to, with what was taken, and without one it leads to nothing. -/
inductive Resolves (declarations : List Declaration) (path : String) : Match → Prop
  | found {i : Nat} {d : Declaration} {taken : List (String × String)} {params : Segment.Params}
      (declared : declarations[i]? = some d) (takes : d.Takes path taken)
      (first : ∀ j < i, ∀ d' ∈ declarations[j]?, ∀ taken', ¬ d'.Takes path taken')
      (names : ∀ name, params.get? name = lastTaken? taken name) :
      Resolves declarations path ⟨path, some d.pattern, params, d.policy⟩
  | unmatched (nobody : ∀ d ∈ declarations, ∀ taken, ¬ d.Takes path taken) :
      Resolves declarations path ⟨path, none, .empty, .unspecified⟩

section Resolves
variable {declarations : List Declaration} {d : Declaration} {e : Entry} {path : String}
  {m m' : Match} {taken taken' : List (String × String)}

theorem Declaration.takes_iff :
    d.Takes path taken ↔ Route.Takes (splitPath d.pattern) (splitPath path) taken := by
  simp only [Takes, readsParts_iff]
  constructor
  · rintro ⟨_, _, rfl, rfl, h⟩
    exact h
  · exact fun h => ⟨_, _, rfl, rfl, h⟩

theorem Declaration.Takes.unique (h : d.Takes path taken) (h' : d.Takes path taken') :
    taken = taken' := Route.Takes.unique (takes_iff.mp h) (takes_iff.mp h')

theorem checkHook_eq {pattern : String} {hook : Option String} {name : Option HookName}
    (h : checkHook pattern hook = .ok name) : name = hook.bind HookName.ofText? := by
  cases hook with
  | none =>
    cases h
    rfl
  | some text =>
    unfold checkHook at h
    dsimp only at h
    rw [Option.bind_some]
    cases hhook : HookName.ofText? text with
    | none => simp [hhook] at h
    | some hook =>
      simp only [hhook] at h
      split at h <;> cases h
      rfl

theorem mapError_eq_ok_iff {ε ε' α : Type} {x : Except ε α} {change : ε → ε'} {a : α} :
    x.mapError change = .ok a ↔ x = .ok a := by
  cases x <;> simp [Except.mapError]

/-- What a declaration is checked to be. -/
theorem Declaration.of_check (h : d.check = .ok e) :
    Segment.parse d.pattern = .ok e.segments ∧ e.pattern = d.pattern ∧ e.policy = d.policy := by
  obtain ⟨segments, hsegments, h⟩ := exists_ok_of_bind h
  obtain ⟨hook, hhook, h⟩ := exists_ok_of_bind h
  cases h
  exact ⟨mapError_eq_ok_iff.mp hsegments, rfl, by rw [checkHook_eq hhook]; rfl⟩

/-- An entry matches a path just if its declaration takes the parts of the path. -/
theorem matchPath?_eq_some_iff (h : d.check = .ok e) :
    e.matchPath? path = some m ↔
      ∃ taken, d.Takes path taken ∧ m = ⟨path, some d.pattern, .ofList taken, d.policy⟩ := by
  obtain ⟨hsegments, hpattern, hpolicy⟩ := Declaration.of_check h
  rw [Entry.matchPath?, Option.map_eq_some_iff, hpattern, hpolicy]
  simp only [Declaration.takes_iff, Segment.matchParts_eq_some_iff hsegments]
  constructor
  · rintro ⟨_, ⟨taken, htakes, rfl⟩, rfl⟩
    exact ⟨taken, htakes, rfl⟩
  · rintro ⟨taken, htakes, rfl⟩
    exact ⟨_, ⟨taken, htakes, rfl⟩, rfl⟩

/-- A route that does not take the path does not matter to where it leads. -/
theorem Resolves.later (hd : ∀ taken, ¬ d.Takes path taken) (h : Resolves declarations path m) :
    Resolves (d :: declarations) path m := by
  cases h with
  | @found i d' _ _ declared takes first names =>
    refine .found (i := i + 1) declared takes (fun j hj d' hd' => ?_) names
    cases j with
    | zero =>
      obtain rfl := Option.some.inj hd'
      exact hd
    | succ j => exact first j (Nat.lt_of_succ_lt_succ hj) d' hd'
  | unmatched nobody =>
    refine .unmatched fun d' hd' => ?_
    rcases List.mem_cons.mp hd' with rfl | hd'
    · exact hd
    · exact nobody d' hd'

/-- Declared routes make one thing of a path. -/
theorem Resolves.unique (h : Resolves declarations path m) (h' : Resolves declarations path m') :
    m = m' := by
  cases h with
  | @found i d taken params declared takes first names =>
    cases h' with
    | @found i' d' taken' params' declared' takes' first' names' =>
      obtain hlt | rfl | hlt := Nat.lt_trichotomy i i'
      · exact absurd takes (first' i hlt d declared taken)
      · obtain rfl := Option.some.inj (declared.symm.trans declared')
        obtain rfl := takes.unique takes'
        rw [Named.eq_of_get? fun name => (names name).trans (names' name).symm]
      · exact absurd takes' (first i' hlt d' declared' taken')
    | unmatched nobody => exact absurd takes (nobody d (List.mem_of_getElem? declared) taken)
  | unmatched nobody =>
    cases h' with
    | @found _ d' taken' _ declared' takes' =>
      exact absurd takes' (nobody d' (List.mem_of_getElem? declared') taken')
    | unmatched => rfl

theorem Table.resolves_of_checkAll {entries : List Entry}
    (h : checkAll declarations = .ok entries) (path : String) :
    Resolves declarations path (resolve ⟨entries⟩ path) := by
  induction declarations generalizing entries with
  | nil =>
    cases h
    exact .unmatched fun _ hd => nomatch hd
  | cons d declarations ih =>
    obtain ⟨e, entries, he, hentries, rfl⟩ := checkAll_cons_iff.mp h
    unfold resolve
    rw [List.findSome?_cons]
    cases hmatch : e.matchPath? path with
    | some m =>
      obtain ⟨taken, htakes, rfl⟩ := (matchPath?_eq_some_iff he).mp hmatch
      exact .found (i := 0) rfl htakes (fun _ hj => nomatch hj) (Named.get?_ofList taken)
    | none =>
      refine (ih hentries).later fun taken htakes => ?_
      have hsome := (matchPath?_eq_some_iff he).mpr ⟨taken, htakes, rfl⟩
      cases hmatch.symm.trans hsome

theorem Table.resolves_of_build {t : Table} (h : build declarations = .ok t) (path : String) :
    Resolves declarations path (t.resolve path) := resolves_of_checkAll (build_eq_ok_iff.mp h) path

/-- But for what a star takes, a parameter has a part of the path. -/
theorem Resolves.plain_of_get? (h : Resolves declarations path m) {name value : String}
    (hname : name ≠ "_") (hvalue : m.params.get? name = some value) : IsPlainPart value := by
  cases h with
  | @found _ _ taken _ _ takes _ names =>
    have hvalue := (names name).symm.trans hvalue
    obtain ⟨e, he, rfl⟩ := Option.map_eq_some_iff.mp hvalue
    obtain rfl : e.1 = name := by simpa using List.find?_some he
    have hmem : e ∈ taken := List.mem_reverse.mp (List.mem_of_find?_eq_some he)
    exact plain_of_mem_splitPath ((Declaration.takes_iff.mp takes).mem_parts hmem hname)
  | unmatched => cases hvalue

/-- A table that was built makes of every path what the first declared route does whose pattern
takes its parts, and its parameters other than a star's are plain parts. -/
theorem Table.resolve_is_first_match {t : Table} (built : build declarations = .ok t)
    (path : String) :
    (∀ m, t.resolve path = m ↔ Resolves declarations path m) ∧
      ∀ name value, name ≠ "_" → (t.resolve path).params.get? name = some value →
        IsPlainPart value := by
  have hresolves := resolves_of_build built path
  refine ⟨fun m => ⟨fun h => h ▸ hresolves, hresolves.unique⟩, fun name value hname hvalue => ?_⟩
  exact hresolves.plain_of_get? hname hvalue

end Resolves

/-- Routes that take some paths alike, one of them with a name that is repeated. -/
def crossing : List Declaration :=
  [⟨"files/:part//:part?old", none, none, none⟩, ⟨"/files/*", some true, some "/login", none⟩,
    ⟨"/:all", none, none, some "repoList"⟩]

theorem resolve_is_first_match_repeatedName :
    ∃ t, Table.build crossing = .ok t ∧
      let m := t.resolve "//files/a/b#/c"
      Resolves crossing "//files/a/b#/c" m ∧ m.params.get? "part" = some "b" ∧ IsPlainPart "b" ∧
      Resolves crossing "/files/a/b/c" (t.resolve "/files/a/b/c") ∧
      (t.resolve "/files/a/b/c").params.get? "_" = some "a/b/c" := by
  let t : Table := (Table.build crossing).toOption.getD .empty
  have hbuild : Table.build crossing = .ok t := by decide +kernel
  obtain ⟨hresolve, hplain⟩ := Table.resolve_is_first_match hbuild "//files/a/b#/c"
  have hpart : (t.resolve "//files/a/b#/c").params.get? "part" = some "b" := by decide +kernel
  have hrest : (t.resolve "/files/a/b/c").params.get? "_" = some "a/b/c" := by decide +kernel
  exact ⟨t, hbuild, (hresolve _).mp rfl, hpart, hplain "part" "b" (by decide) hpart,
    ((Table.resolve_is_first_match hbuild "/files/a/b/c").1 _).mp rfl, hrest⟩

end Route
end StorageConsole
