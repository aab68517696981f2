import Mathlib.Data.Rat.Floor
import StorageConsole.Proofs.Listings

/-!
Pages partition a list. What a page needs is computed in words of 64 bits, and for a list of less
than 2^63 items every step of that gives a word and an index within the list, whatever page and size
are asked for. The pages in their order are the list, and only the last may be less than full.
-/
namespace StorageConsole.Listing

/-- A number as a word, unless it is too large for one. -/
def word? (n : Nat) : Option UInt64 := if n < UInt64.size then some (.ofNat n) else none

/-- The sum of two words, if that is a word. -/
def add? (a b : UInt64) : Option UInt64 := word? (a.toNat + b.toNat)

/-- The quotient of two words and the rest, unless the divisor is zero. -/
def divide? (a b : UInt64) : Option (UInt64 × UInt64) := if b = 0 then none else some (a / b, a % b)

/-- The difference of two words, at least zero. -/
def saturatingSub (a b : UInt64) : UInt64 := if b ≤ a then a - b else 0

/-- The product of two words, at most the largest word. -/
def saturatingMul (a b : UInt64) : UInt64 := (word? (a.toNat * b.toNat)).getD (.ofNat (UInt64.size - 1))

section Pages
variable {α : Type}

/-- The items from one index up to another, if the list has these indices in this order. -/
def slice? (items : List α) (first last : UInt64) : Option (List α) :=
  if first ≤ last ∧ last.toNat ≤ items.length then
    some ((items.drop first.toNat).take (last.toNat - first.toNat))
  else none

/-- The number of pages, computed in words; a rest takes one page more. -/
def pageCountWord? (length size : UInt64) : Option UInt64 := do
  let (full, rest) ← divide? length (max size 1)
  if 0 < rest then add? full 1 else return full

/-- The index of a page's first item, computed in words. -/
def pageStartWord (page size : UInt64) : UInt64 := saturatingMul (saturatingSub page 1) (max size 1)

/-- The items of one page, computed in words. -/
def pageItemsWord? (items : List α) (page size : UInt64) : Option (List α) := do
  let length ← word? items.length
  if length ≤ pageStartWord page size then return []
  let last ← add? (pageStartWord page size) (max size 1)
  slice? items (pageStartWord page size) (min last length)

/-- One page with its place among the others, computed in words; nothing if a step fails. -/
def paginateWord? (items : List α) (page size : UInt64) : Option (Page α) := do
  let shown ← pageItemsWord? items page size
  let count ← pageCountWord? (← word? items.length) size
  return ⟨shown, page.toNat, count.toNat, items.length⟩

end Pages

section Words
variable {n : Nat} {a b w : UInt64}

theorem exists_word? (h : n < UInt64.size) : ∃ w, word? n = some w ∧ w.toNat = n :=
  ⟨.ofNat n, if_pos h, UInt64.toNat_ofNat_of_lt' h⟩

theorem word?_eq_none_iff : word? n = none ↔ UInt64.size ≤ n := by
  simp [word?]

theorem toNat_saturatingSub (a b : UInt64) : (saturatingSub a b).toNat = a.toNat - b.toNat := by
  unfold saturatingSub
  split
  · next h => exact UInt64.toNat_sub_of_le a b h
  · next h =>
    have hlt : a.toNat < b.toNat := by simpa [UInt64.le_iff_toNat_le] using h
    rw [UInt64.toNat_zero]
    omega

theorem toNat_saturatingMul (a b : UInt64) :
    (saturatingMul a b).toNat = min (a.toNat * b.toNat) (UInt64.size - 1) := by
  unfold saturatingMul
  by_cases h : a.toNat * b.toNat < UInt64.size
  · obtain ⟨w, hw, hn⟩ := exists_word? h
    rw [hw, Option.getD_some, hn]
    omega
  · rw [word?_eq_none_iff.mpr (Nat.le_of_not_lt h), Option.getD_none,
      UInt64.toNat_ofNat_of_lt' (by decide)]
    omega

theorem toNat_width (size : UInt64) : (max size 1).toNat = max size.toNat 1 := UInt64.toNat_max size 1

end Words

section Computed
variable {α : Type} {items : List α}

/-- With a rest the pages are one more than the full ones. -/
theorem pageCount_eq_div (length size : Nat) :
    pageCount length size =
      length / max size 1 + if 0 < length % max size 1 then 1 else 0 := by
  have hpos := width_pos size
  unfold pageCount
  generalize max size 1 = width at hpos ⊢
  have hlength := Nat.div_add_mod length width
  have hrest := Nat.mod_lt length hpos
  generalize length / width = full at hlength ⊢
  generalize length % width = rest at hlength hrest ⊢
  split
  · next h =>
    have hsum : length + width - 1 = width * (full + 1) + (rest - 1) := by
      rw [Nat.mul_add]
      omega
    rw [hsum, Nat.mul_add_div hpos, Nat.div_eq_of_lt (show rest - 1 < width by omega)]
  · next h =>
    have hsum : length + width - 1 = width * full + (width - 1) := by omega
    rw [hsum, Nat.mul_add_div hpos, Nat.div_eq_of_lt (show width - 1 < width by omega)]

/-- The number of pages never fails to be computed. -/
theorem exists_pageCountWord? (length size : UInt64) :
    ∃ count, pageCountWord? length size = some count ∧
      count.toNat = pageCount length.toNat size.toNat := by
  have hcount := pageCount_eq_div length.toNat size.toNat
  have hpos : 0 < (max size 1).toNat := toNat_width size ▸ width_pos size.toNat
  rw [← toNat_width] at hcount
  unfold pageCountWord?
  generalize max size 1 = width at hcount hpos ⊢
  have hne : width ≠ 0 := by
    rintro rfl
    exact absurd hpos (by decide)
  have hdivide : divide? length width = some (length / width, length % width) := if_neg hne
  rw [hdivide]
  have hrest : 0 < length % width ↔ 0 < length.toNat % width.toNat := by
    rw [UInt64.lt_iff_toNat_lt, UInt64.toNat_mod]
    rfl
  by_cases h : 0 < length.toNat % width.toNat
  · -- There is a rest only where a page has two items or more, so the pages are few.
    have hfull : length.toNat / width.toNat + 1 < UInt64.size := by
      have hlength := length.toNat_lt_size
      have hwidth : 2 ≤ width.toNat := by
        have hlt := Nat.mod_lt length.toNat hpos
        omega
      have hdiv : length.toNat / width.toNat ≤ length.toNat / 2 :=
        Nat.div_le_div_left hwidth (by decide)
      have hsize : UInt64.size = 2 ^ 64 := rfl
      omega
    obtain ⟨count, hsome, hnat⟩ := exists_word? hfull
    refine ⟨count, ?_, ?_⟩
    · have hadd : add? (length / width) 1 = some count := by
        rw [add?, UInt64.toNat_div]
        exact hsome
      exact (if_pos (hrest.mpr h)).trans hadd
    · rw [hnat, hcount, if_pos h]
  · refine ⟨length / width, if_neg (mt hrest.mp h), ?_⟩
    rw [UInt64.toNat_div, hcount, if_neg h, Nat.add_zero]

theorem slice?_eq {first last : UInt64} (hle : first.toNat ≤ last.toNat)
    (hlast : last.toNat ≤ items.length) :
    slice? items first last =
      some ((items.drop first.toNat).take (last.toNat - first.toNat)) :=
  if_pos ⟨UInt64.le_iff_toNat_le.mpr hle, hlast⟩

theorem toNat_pageStartWord (page size : UInt64) :
    (pageStartWord page size).toNat = pageStart page.toNat size.toNat := by
  rw [pageStartWord, toNat_saturatingMul, toNat_saturatingSub, toNat_width]
  rfl

/-- A page that begins within the list ends at a word: the first page is no longer than the largest
word, and any other is no longer than what stands before it in the list. -/
theorem pageEnd_lt {length page size : Nat} (short : length ≤ 2 ^ 63) (hsize : size < UInt64.size)
    (hfirst : pageStart page size < length) :
    pageStart page size + max size 1 < UInt64.size := by
  have hwords : UInt64.size = 2 ^ 64 := rfl
  unfold pageStart at hfirst ⊢
  rcases Nat.eq_zero_or_pos (page - 1) with hzero | hpos
  · rw [hzero, Nat.zero_mul]
    omega
  · have hle : max size 1 ≤ (page - 1) * max size 1 := Nat.le_mul_of_pos_left _ hpos
    omega

/-- The items of a page are computed for every page and size. -/
theorem pageItemsWord?_eq (short : items.length ≤ 2 ^ 63) (page size : UInt64) :
    pageItemsWord? items page size = some (pageItems items page.toNat size.toNat) := by
  have hwords : UInt64.size = 2 ^ 64 := rfl
  obtain ⟨length, hlength, hnat⟩ := exists_word? (show items.length < UInt64.size by omega)
  have hfirst := toNat_pageStartWord page size
  unfold pageItemsWord? pageItems
  rw [hlength]
  generalize pageStartWord page size = first at hfirst ⊢
  by_cases hbeyond : length ≤ first
  · have hle : items.length ≤ pageStart page.toNat size.toNat := by
      rw [← hnat, ← hfirst]
      exact UInt64.le_iff_toNat_le.mp hbeyond
    rw [List.drop_of_length_le hle, List.take_nil]
    exact if_pos hbeyond
  · have hlt : pageStart page.toNat size.toNat < items.length := by
      rw [← hnat, ← hfirst]
      simpa [UInt64.le_iff_toNat_le] using hbeyond
    have hend : first.toNat + (max size 1).toNat < UInt64.size := by
      rw [hfirst, toNat_width]
      exact pageEnd_lt short size.toNat_lt_size hlt
    obtain ⟨last, hlast, hsum⟩ := exists_word? hend
    have hmin : (min last length).toNat = min last.toNat length.toNat := UInt64.toNat_min _ _
    have hslice : slice? items first (min last length) = some ((items.drop first.toNat).take
        ((min last length).toNat - first.toNat)) := slice?_eq (by omega) (by omega)
    -- Where the page ends with the list, it takes what is left of that.
    have htake : (min last length).toNat - first.toNat =
        min (max size.toNat 1) (items.drop first.toNat).length := by
      rw [List.length_drop, hmin, hsum, hnat, toNat_width]
      omega
    rw [htake, ← List.take_eq_take_min] at hslice
    have hadd : add? first (max size 1) = some last := hlast
    rw [← hfirst, ← hslice]
    simp [hbeyond, hadd]

end Computed

section Partition
variable {α : Type} {items : List α} {size k : Nat}

/-- There are as many pages as the length is pages long, rounded up. -/
theorem pageCount_eq_ceil (length size : Nat) :
    pageCount length size = ⌈(length / max size 1 : ℚ)⌉₊ := by
  have hpos : (0 : ℚ) < (max size 1 : Nat) := Nat.cast_pos.mpr (width_pos size)
  refine eq_of_forall_ge_iff fun n => ?_
  rw [pageCount_le_iff, Nat.ceil_le, div_le_iff₀ hpos]
  exact_mod_cast Iff.rfl

theorem length_pageItems_succ (h : items.length < UInt64.size) :
    (pageItems items (k + 1) size).length = min (max size 1) (items.length - k * max size 1) := by
  rw [pageItems_succ h, List.length_take, List.length_drop]

/-- Every page before the last is full, the last one has an item, and there are none beyond it. -/
theorem length_pageItems (h : items.length < UInt64.size) (page size : Nat) :
    let number := max page 1
    let length := (pageItems items page size).length
    (number < pageCount items.length size → length = max size 1) ∧
      (number = pageCount items.length size → 1 ≤ length ∧ length ≤ max size 1) ∧
      (pageCount items.length size < number → length = 0) := by
  intro number length
  obtain ⟨k, hk⟩ : ∃ k, number = k + 1 := ⟨number - 1, by omega⟩
  have hlength : length = min (max size 1) (items.length - k * max size 1) := by
    have hpage : pageItems items page size = pageItems items (k + 1) size := by
      have hindex : page - 1 = k + 1 - 1 := by omega
      unfold pageItems pageStart
      rw [hindex]
    exact (congrArg List.length hpage).trans (length_pageItems_succ h)
  have hbefore : pageCount items.length size ≤ k ↔ items.length ≤ k * max size 1 := pageCount_le_iff
  have hupto : pageCount items.length size ≤ k + 1 ↔ items.length ≤ k * max size 1 + max size 1 :=
    Nat.succ_mul k (max size 1) ▸ pageCount_le_iff
  refine ⟨fun hlt => ?_, fun heq => ?_, fun hlt => ?_⟩
  · omega
  · omega
  · omega

/-- One page and its place are computed for every page and size. -/
theorem paginateWord?_eq (short : items.length ≤ 2 ^ 63) (page size : UInt64) :
    paginateWord? items page size = some (paginate items page.toNat size.toNat) := by
  have hlt : items.length < UInt64.size := Nat.lt_of_le_of_lt short (by decide)
  obtain ⟨length, hlength, hnat⟩ := exists_word? hlt
  obtain ⟨count, hcount, hpages⟩ := exists_pageCountWord? length size
  unfold paginateWord? paginate
  rw [pageItemsWord?_eq short, hlength, ← hnat, ← hpages]
  simp [hcount]

/-- Longer lists are not safe: the second page of 2^63 items begins within such a list and ends beyond
the words. -/
theorem pageItemsWord?_isSome_iff (hword : items.length < UInt64.size) :
    (∀ page size, (pageItemsWord? items page size).isSome) ↔ items.length ≤ 2 ^ 63 := by
  constructor
  · intro h
    by_contra hlong
    obtain ⟨length, hlength, hnat⟩ := exists_word? hword
    have hfirst : pageStartWord 2 (.ofNat (2 ^ 63)) = .ofNat (2 ^ 63) := by decide +kernel
    have hadd : add? (.ofNat (2 ^ 63)) (max (.ofNat (2 ^ 63)) 1) = none := by decide +kernel
    have hwithin : ¬ length ≤ .ofNat (2 ^ 63) := by
      rw [UInt64.le_iff_toNat_le, hnat]
      exact hlong
    have hnone : pageItemsWord? items 2 (.ofNat (2 ^ 63)) = none := by
      unfold pageItemsWord?
      rw [hlength, hfirst, hadd]
      exact if_neg hwithin
    have hsome := h 2 (.ofNat (2 ^ 63))
    rw [hnone] at hsome
    cases hsome
  · intro short page size
    rw [pageItemsWord?_eq short]
    rfl

/-- For a list of less than 2^63 items, everything that a page needs is computed in words, whatever
page and size are asked for, and zero acts as one; there are as many pages as the list is pages long,
rounded up; they are in order the list, each full but the last, which is not empty, and there is
nothing beyond. -/
theorem pages_partition_list (items : List α) (short : items.length < 2 ^ 63) (size : UInt64) :
    (∀ page, paginateWord? items page size = some (paginate items page.toNat size.toNat)) ∧
    let width := max size.toNat 1
    let count := ⌈(items.length / width : ℚ)⌉₊
    let shown (page : UInt64) := paginate items page.toNat size.toNat
    (∀ page,
      let number := max page.toNat 1
      let length := (shown page).items.length
      (shown page).count = count ∧ (number < count → length = width) ∧
        (number = count → 1 ≤ length ∧ length ≤ width) ∧ (count < number → length = 0)) ∧
    (shown 0).items = (shown 1).items ∧
    ((List.range' 1 count).flatMap fun page => (shown (.ofNat page)).items) = items := by
  refine ⟨fun page => paginateWord?_eq (Nat.le_of_lt short) page size, ?_⟩
  intro width count shown
  have hlt : items.length < UInt64.size := Nat.lt_trans short (by decide)
  have hcount : pageCount items.length size.toNat = count := pageCount_eq_ceil _ _
  refine ⟨fun page => ⟨hcount, ?_⟩, rfl, ?_⟩
  · rw [← hcount]
    exact length_pageItems hlt page.toNat size.toNat
  · have hpages : ∀ page ∈ List.range' 1 count,
        (shown (.ofNat page)).items = pageItems items page size.toNat := by
      intro page hpage
      have hle := pageCount_le items.length size.toNat
      have hbound := List.mem_range'_1.mp hpage
      have hword : (UInt64.ofNat page).toNat = page := UInt64.toNat_ofNat_of_lt' (by omega)
      change pageItems items (UInt64.ofNat page).toNat size.toNat = _
      rw [hword]
    rw [List.flatMap_congr hpages, ← hcount]
    exact flatMap_pageItems hlt size.toNat

theorem pages_partition_list_seven :
    (List.range 7).length < 2 ^ 63 ∧
    paginateWord? (List.range 7) 0 3 = some ⟨[0, 1, 2], 0, 3, 7⟩ ∧
    paginateWord? (List.range 7) 3 3 = some ⟨[6], 3, 3, 7⟩ ∧
    paginateWord? (List.range 7) 2 0 = some ⟨[1], 2, 7, 7⟩ ∧
    paginateWord? (List.range 7) 1 (.ofNat (2 ^ 64 - 1)) = some ⟨List.range 7, 1, 1, 7⟩ ∧
    paginateWord? (List.range 7) (.ofNat (2 ^ 64 - 1)) 3 = some ⟨[], 2 ^ 64 - 1, 3, 7⟩ := by
  have short : (List.range 7).length < 2 ^ 63 := by decide
  have hpages (page size : UInt64) := (pages_partition_list (List.range 7) short size).1 page
  exact ⟨short, hpages 0 3, hpages 3 3, hpages 2 0, hpages 1 (.ofNat (2 ^ 64 - 1)),
    hpages (.ofNat (2 ^ 64 - 1)) 3⟩

end Partition

end StorageConsole.Listing
