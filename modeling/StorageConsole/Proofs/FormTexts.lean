import Mathlib.Data.List.TakeDrop
import StorageConsole.Form
import StorageConsole.Proofs.Numerals

/-!
What the fields of a valid form read as. The validators look at values and the workflows read texts:
where a value that is no text is written as JSON it reads as something, and where only texts are read
it reads as nothing.
-/
namespace StorageConsole

namespace Json

theorem exists_not_blank_of_numeral {cs : List Char} (hne : cs ≠ [])
    (h : ∀ c ∈ cs, Number.IsNumeral c) : ∃ c ∈ cs, Text.isBlank c = false := by
  obtain ⟨c, hc⟩ := List.exists_mem_of_ne_nil cs hne
  exact ⟨c, hc, (h c hc).not_isBlank⟩

/-- No value is written as a blank text. -/
theorem exists_not_blank_compactChars (value : Json) :
    ∃ c ∈ value.compactChars, Text.isBlank c = false := by
  cases value with
  | null => exact ⟨'n', by decide, by decide⟩
  | bool value => cases value <;> exact ⟨'e', by decide, by decide⟩
  | int value =>
    exact exists_not_blank_of_numeral (Number.showInt_ne_nil value) fun _ => Number.isNumeral_showInt
  | double value =>
    exact exists_not_blank_of_numeral (Number.text_ne_nil value) (Number.isNumeral_text value)
  | str text => exact ⟨'\"', .head _, by decide⟩
  | arr items => exact ⟨'[', .head _, by decide⟩
  | obj members => exact ⟨'\x7b', .head _, by decide⟩

theorem compact_not_blank (value : Json) : Text.isBlankText value.compact = false := by
  obtain ⟨c, hc, hblank⟩ := value.exists_not_blank_compactChars
  rw [Text.isBlankText, compact, String.toList_ofList, List.all_eq_false]
  exact ⟨c, hc, by simp [hblank]⟩

end Json

namespace Text

theorem all_isBlank_dropWhile (cs : List Char) : (cs.dropWhile isBlank).all isBlank = cs.all isBlank := by
  have hwhole := congrArg (·.all isBlank) (List.takeWhile_append_dropWhile (p := isBlank) (l := cs))
  rw [← hwhole, List.all_append, List.all_takeWhile, Bool.true_and]

/-- A text is blank just if nothing is left of it without the blanks at its ends. -/
theorem isBlankText_trim (text : String) : isBlankText (trim text) = isBlankText text := by
  rw [isBlankText, trim, String.toList_ofList, trimEnd, trimStart, List.all_reverse,
    all_isBlank_dropWhile, List.all_reverse, all_isBlank_dropWhile, isBlankText]

end Text

namespace Validator

/-- An address: one `@` behind an account, and behind it a host and something after its first dot. -/
def IsAddress (text : String) : Prop :=
  ∃ account host top : List Char, text.toList = account ++ '@' :: (host ++ '.' :: top) ∧
    '@' ∉ account ∧ '@' ∉ host ∧ '@' ∉ top ∧ '.' ∉ host ∧ account ≠ [] ∧ host ≠ [] ∧ top ≠ []

theorem span_of_not_mem {sep : Char} {before : List Char} (h : sep ∉ before) (after : List Char) :
    (before ++ sep :: after).span (· != sep) = (before, sep :: after) := by
  have hbefore : ∀ c ∈ before, (c != sep) = true := by
    intro c hc
    simpa using ne_of_mem_of_not_mem hc h
  rw [List.span_eq_takeWhile_dropWhile, List.takeWhile_append_of_pos hbefore,
    List.dropWhile_append_of_pos hbefore]
  simp

/-- A text has nothing behind a separator, or it falls apart at its first one. -/
theorem span_cases (sep : Char) (cs : List Char) :
    cs.span (· != sep) = (cs, []) ∨ ∃ before after : List Char, sep ∉ before ∧
      cs = before ++ sep :: after ∧ cs.span (· != sep) = (before, sep :: after) := by
  by_cases hsep : sep ∈ cs
  · obtain ⟨before, after, rfl, hbefore⟩ := List.eq_append_cons_of_mem hsep
    exact .inr ⟨before, after, hbefore, rfl, span_of_not_mem hbefore after⟩
  · have hall : ∀ c ∈ cs, (c != sep) = true := by
      intro c hc
      simpa using ne_of_mem_of_not_mem hc hsep
    refine .inl ?_
    rw [List.span_eq_takeWhile_dropWhile, List.takeWhile_eq_self_iff.mpr hall,
      List.dropWhile_eq_nil_iff.mpr hall]

theorem isEmail_iff (text : String) : isEmail text.toList = true ↔ IsAddress text := by
  unfold IsAddress
  generalize text.toList = cs
  constructor
  · intro h
    unfold isEmail at h
    obtain hnone | ⟨account, domain, haccount, rfl, hspan⟩ := span_cases '@' cs
    · simp only [hnone] at h
      cases h
    · simp only [hspan] at h
      obtain hnone | ⟨host, top, hhost, rfl, hspan⟩ := span_cases '.' domain
      · simp only [hnone, List.tail_nil, List.isEmpty_nil, Bool.not_true, Bool.and_false] at h
        cases h
      · simp only [hspan, List.tail_cons, Bool.and_eq_true, Bool.not_eq_true',
          List.isEmpty_eq_false_iff, List.contains_eq_mem, decide_eq_false_iff_not, List.mem_append,
          List.mem_cons, not_or] at h
        obtain ⟨⟨⟨hsome, hat, _, htop⟩, hhostSome⟩, htopSome⟩ := h
        exact ⟨account, host, top, rfl, haccount, hat, htop, hhost, hsome, hhostSome, htopSome⟩
  · rintro ⟨account, host, top, rfl, haccount, hat, htop, hhost, hsome, hhostSome, htopSome⟩
    unfold isEmail
    simp only [span_of_not_mem haccount, span_of_not_mem hhost]
    simp [hat, htop, hsome, hhostSome, htopSome]

theorem isPresent_of_check {value : Json} (h : required.check value = none) : isPresent value = true := by
  rw [check] at h
  split at h
  · assumption
  · cases h

/-- A text that is neither missing nor a bad address is an address. -/
theorem isAddress_of_checks {text : String} (hpresent : isPresent (.str text) = true)
    (hemail : email.check (.str text) = none) : IsAddress text := by
  rw [check] at hemail
  split at hemail
  · next hcheck =>
    rw [checkEmail, Bool.or_eq_true] at hcheck
    obtain hempty | hcheck := hcheck
    · obtain rfl : text = "" := by simpa [Json.asText?] using hempty
      cases hpresent
    · exact (isEmail_iff text).mp hcheck
  · cases hemail

/-- What is written without an `@` is no address. -/
theorem not_isAddress {text : String} (h : '@' ∉ text.toList) : ¬ IsAddress text := by
  rintro ⟨account, host, top, htext, _⟩
  rw [htext] at h
  exact h (List.mem_append_right _ (.head _))

end Validator

/-- Whether a value that has passed for an address reads as one: a text does, and of the others an
array or an object may do so by accident. -/
def Json.ReadsAsAddress : Json → Prop
  | .str _ => True
  | .arr items => Validator.IsAddress (Json.arr items).compact
  | .obj members => Validator.IsAddress (Json.obj members).compact
  | .null | .bool _ | .int _ | .double _ => False

namespace FormName

/-- In a valid form every validator is content. -/
theorem check_of_valid {form : FormName} {values : FormValues} {field : Field} {v : Validator}
    (valid : (form.snapshot values).valid = true) (hf : field ∈ form.fields)
    (hv : v ∈ field.validators) : v.check ((values.get? field.name).getD .null) = none := by
  have hnone : ∀ field ∈ form.fields, (field.error? values).map (field.name, ·) = none := by
    rw [← List.filterMap_eq_nil_iff]
    exact List.isEmpty_iff.mp valid
  have herror : field.error? values = none := by simpa using hnone field hf
  exact List.findSome?_eq_none_iff.mp herror v hv

end FormName

namespace FormValues
variable {values : FormValues} {name : String}

/-- A required value never reads as a blank text where every value is read. -/
theorem typed_not_blank (h : Validator.isPresent ((values.get? name).getD .null) = true) :
    Text.isBlankText (values.typed name) = false := by
  unfold typed
  cases hvalue : values.get? name with
  | none => simp [hvalue, Validator.isPresent] at h
  | some value =>
    rw [hvalue] at h
    cases value with
    | null => cases h
    | str text => simpa [Validator.isPresent] using h
    | _ => exact Json.compact_not_blank _

/-- Where only texts are read, a required value reads as a blank text just if it is none. -/
theorem textOnly_not_blank_iff (h : Validator.isPresent ((values.get? name).getD .null) = true) :
    Text.isBlankText (values.textOnly name) = false ↔ ∃ text, values.get? name = some (.str text) := by
  unfold textOnly
  cases hvalue : values.get? name with
  | none => simp [hvalue, Validator.isPresent] at h
  | some value =>
    rw [hvalue] at h
    cases value with
    | null => cases h
    | str text =>
      refine iff_of_true ?_ ⟨text, rfl⟩
      simpa [Validator.isPresent, Json.asText?] using h
    | _ => exact iff_of_false (by simp [Json.asText?, Text.isBlankText]) (by simp)

/-- What a required address that has passed reads as. -/
theorem isAddress_typed_iff (hpresent : Validator.isPresent ((values.get? name).getD .null) = true)
    (hemail : Validator.email.check ((values.get? name).getD .null) = none) :
    Validator.IsAddress (values.typed name) ↔ ((values.get? name).getD .null).ReadsAsAddress := by
  unfold typed
  cases hvalue : values.get? name with
  | none => simp [hvalue, Validator.isPresent] at hpresent
  | some value =>
    rw [hvalue] at hpresent hemail
    cases value with
    | null => cases hpresent
    | bool value =>
      refine iff_of_false (Validator.not_isAddress ?_) id
      cases value <;> decide
    | int value =>
      refine iff_of_false (Validator.not_isAddress ?_) id
      change '@' ∉ (Json.int value).compact.toList
      rw [Json.compact, String.toList_ofList]
      exact fun hat => Number.not_isNumeral_at (Number.isNumeral_showInt hat)
    | double value =>
      refine iff_of_false (Validator.not_isAddress ?_) id
      change '@' ∉ (Json.double value).compact.toList
      rw [Json.compact, String.toList_ofList]
      exact fun hat => Number.not_isNumeral_at (Number.isNumeral_text value _ hat)
    | str text => exact iff_of_true (Validator.isAddress_of_checks hpresent hemail) trivial
    | arr items => exact Iff.rfl
    | obj members => exact Iff.rfl

end FormValues
end StorageConsole
