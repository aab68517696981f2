import Mathlib.Data.List.TakeWhile
import StorageConsole.Json.Text
import StorageConsole.Listing.Page

/-!
The texts of numbers. A number is read back as it was written, and the text of an integer or of a
double holds digits and a few signs, nothing that is blank.
-/
namespace StorageConsole

namespace Text

/-- A decimal digit is between zero and nine. -/
theorem bounds_of_isDigit {c : Char} (h : c.isDigit = true) : 48 ≤ c.toNat ∧ c.toNat ≤ 57 := by
  simpa [Char.isDigit, UInt32.le_iff_toNat_le] using h

theorem not_isBlank_of_isDigit {c : Char} (h : c.isDigit = true) : isBlank c = false := by
  have hranges : ∀ range ∈ blankRanges, range.2 < 48 ∨ 57 < range.1 := by decide
  obtain ⟨hlow, hhigh⟩ := bounds_of_isDigit h
  refine List.any_eq_false.mpr fun range hrange => ?_
  have hapart := hranges range hrange
  simp only [Bool.and_eq_true, decide_eq_true_eq]
  omega

theorem isDigit_decimalDigits {n : Nat} {c : Char} (h : c ∈ decimalDigits n) : c.isDigit = true :=
  Nat.isDigit_of_mem_toDigits (by decide) (by decide) h

theorem digitsValue_decimalDigits (n : Nat) : digitsValue 0 (decimalDigits n) = n := by
  refine Eq.trans ?_ (Nat.ofDigitChars_ten_toDigits (n := n))
  rw [Nat.ofDigitChars_eq_foldl, digitsValue, decimalDigits]
  congr 1
  funext value c
  rw [Nat.mul_comm]
  rfl

theorem readDigits_decimalDigits (n : Nat) : readDigits (decimalDigits n) = some n := by
  have hempty : (decimalDigits n).isEmpty = false := by simp [decimalDigits, Nat.toDigits_ne_nil]
  have hdigits : (decimalDigits n).all Char.isDigit = true :=
    List.all_eq_true.mpr fun _ => isDigit_decimalDigits
  rw [readDigits, hempty, hdigits, digitsValue_decimalDigits]
  rfl

/-- A number is read back as it was written, if it fits a 64-bit word. -/
theorem readUnsigned_decimalDigits {n : Nat} (h : n < UInt64.size) :
    readUnsigned (decimalDigits n) = some n := by
  have hsign : ∀ rest, decimalDigits n ≠ '+' :: rest := by
    intro rest hsign
    have hdigit : ('+').isDigit = true := isDigit_decimalDigits (n := n) (hsign ▸ .head _)
    cases hdigit
  unfold readUnsigned
  split
  · next rest hplus => exact absurd hplus (hsign rest)
  · dsimp only
    rw [readDigits_decimalDigits, Option.filter_some, if_pos (decide_eq_true h)]

end Text

namespace Listing

theorem one_le_parsePage (raw : Option String) : 1 ≤ parsePage raw := by
  unfold parsePage
  dsimp only
  split
  · exact Nat.le_max_right ..
  · exact Nat.le_refl 1

theorem parsePage_showNat {n : Nat} (h : n < UInt64.size) :
    parsePage (some (Text.showNat n)) = max n 1 := by
  have hstart : Text.trimStart (Text.decimalDigits n) = Text.decimalDigits n := by
    rw [Text.trimStart, List.dropWhile_eq_self_iff]
    intro hpos
    rw [Text.not_isBlank_of_isDigit (Text.isDigit_decimalDigits (List.getElem_mem hpos))]
    exact Bool.false_ne_true
  have hdigits : (Text.decimalDigits n).takeWhile Char.isDigit = Text.decimalDigits n :=
    List.takeWhile_eq_self_iff.mpr fun _ => Text.isDigit_decimalDigits
  simp only [parsePage, Option.getD_some, Text.showNat, String.toList_ofList, hstart, hdigits,
    Text.readUnsigned_decimalDigits h]

end Listing

namespace Number

/-- The characters that numbers are written with. -/
def IsNumeral (c : Char) : Prop := c.isDigit = true ∨ c = '.' ∨ c = 'e' ∨ c = '-'

theorem IsNumeral.not_isBlank {c : Char} (h : IsNumeral c) : Text.isBlank c = false := by
  obtain h | rfl | rfl | rfl := h
  · exact Text.not_isBlank_of_isDigit h
  all_goals decide

theorem not_isNumeral_at : ¬ IsNumeral '@' := by
  rintro (h | h | h | h) <;> cases h

theorem isNumeral_showNat {n : Nat} {c : Char} (h : c ∈ (Text.showNat n).toList) : IsNumeral c := by
  rw [Text.showNat, String.toList_ofList] at h
  exact .inl (Text.isDigit_decimalDigits h)

theorem isNumeral_showInt {n : Int} {c : Char} (h : c ∈ (Text.showInt n).toList) : IsNumeral c := by
  cases n with
  | ofNat n => exact isNumeral_showNat h
  | negSucc n =>
    rw [Text.showInt, String.toList_append, List.mem_append] at h
    obtain h | h := h
    · exact .inr (.inr (.inr (List.mem_singleton.mp h)))
    · exact isNumeral_showNat h

theorem showInt_ne_nil (n : Int) : (Text.showInt n).toList ≠ [] := by
  cases n <;> simp [Text.showInt, Text.showNat, Text.decimalDigits, Nat.toDigits_ne_nil]

theorem mem_of_mem_dropZeros {ds : List Char} {e : Int} {c : Char} (h : c ∈ (dropZeros ds e).1) :
    c ∈ ds := by
  fun_induction dropZeros ds e with
  | case1 rest e ih => exact .tail _ (ih h)
  | case2 => exact h

theorem isNumeral_shortest (x : Magnitude) : ∀ c ∈ x.shortest.1, IsNumeral c := by
  intro c h
  unfold Magnitude.shortest at h
  dsimp only at h
  have hdigits := mem_of_mem_dropZeros (List.mem_reverse.mp h)
  exact .inl (Text.isDigit_decimalDigits (List.mem_reverse.mp hdigits))

theorem isNumeral_layOut {ds : List Char} (hds : ∀ d ∈ ds, IsNumeral d) (e : Int) :
    ∀ c ∈ layOut ds e, IsNumeral c := by
  have hzero : IsNumeral '0' := .inl rfl
  have hpoint : IsNumeral '.' := .inr (.inl rfl)
  have hpower : IsNumeral 'e' := .inr (.inr (.inl rfl))
  have hzeros : ∀ n, ∀ c ∈ List.replicate n '0', IsNumeral c := by
    intro n c hc
    rw [List.eq_of_mem_replicate hc]
    exact hzero
  have hexponent : ∀ n : Int, ∀ c ∈ (Text.showInt n).toList, IsNumeral c :=
    fun _ _ => isNumeral_showInt
  unfold layOut
  dsimp only
  split
  · simp only [List.forall_mem_append, List.forall_mem_cons]
    exact ⟨⟨hds, hzeros _⟩, hpoint, hzero, nofun⟩
  · split
    · simp only [List.forall_mem_append, List.forall_mem_cons]
      exact ⟨fun c hc => hds c (List.mem_of_mem_take hc), hpoint,
        fun c hc => hds c (List.mem_of_mem_drop hc)⟩
    · split
      · simp only [List.forall_mem_append, List.forall_mem_cons]
        exact ⟨⟨hzero, hpoint, hzeros _⟩, hds⟩
      · split
        · simp only [List.forall_mem_cons] at hds ⊢
          exact ⟨hds.1, hpower, hexponent _⟩
        · simp only [List.forall_mem_append, List.forall_mem_cons] at hds ⊢
          exact ⟨⟨hds.1, hpoint, hds.2⟩, hpower, hexponent _⟩
        · simp only [List.forall_mem_cons]
          exact ⟨hpower, hexponent _⟩

theorem layOut_ne_nil (ds : List Char) (e : Int) : layOut ds e ≠ [] := by
  unfold layOut
  dsimp only
  split
  · simp
  · split
    · simp
    · split
      · simp
      · split <;> simp

theorem isNumeral_text (x : Double) : ∀ c ∈ x.text.toList, IsNumeral c := by
  have hzero : ∀ c ∈ ['0', '.', '0'], IsNumeral c := by
    simp only [List.forall_mem_cons]
    exact ⟨.inl rfl, .inr (.inl rfl), .inl rfl, nofun⟩
  unfold Double.text
  dsimp only
  rw [String.toList_ofList, List.forall_mem_append]
  constructor
  · split
    · exact fun c hc => .inr (.inr (.inr (List.mem_singleton.mp hc)))
    · exact nofun
  · split
    · exact hzero
    · exact isNumeral_layOut (isNumeral_shortest _) _

theorem text_ne_nil (x : Double) : x.text.toList ≠ [] := by
  unfold Double.text
  dsimp only
  rw [String.toList_ofList]
  refine List.append_ne_nil_of_right_ne_nil _ ?_
  split
  · exact List.cons_ne_nil _ _
  · exact layOut_ne_nil _ _

end Number
end StorageConsole
