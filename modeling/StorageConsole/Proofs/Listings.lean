import Mathlib.Data.List.Infix
import StorageConsole.Listing.Page
import StorageConsole.Listing.Search

/-!
What is shown of a list: its items in the order of their labels, those of them that a search finds,
and these in pages. No item is lost on the way or shown twice, and items of one label keep their
order.
-/
namespace StorageConsole.Listing

variable {α : Type} {label : α → String} {items sorted : List α}

/-- The items, ordered by label in the order of code points; those of one label stand as they
stood. -/
structure StablySorted (label : α → String) (items sorted : List α) : Prop where
  perm : sorted.Perm items
  ordered : sorted.Pairwise fun a b => label a ≤ label b
  stable : ∀ name, (sorted.filter fun a => label a == name) = items.filter fun a => label a == name

theorem stablySorted_sortByLabel (label : α → String) (items : List α) :
    StablySorted label items (sortByLabel label items) := by
  have htrans : ∀ a b c : α, decide (label a ≤ label b) = true → decide (label b ≤ label c) = true →
      decide (label a ≤ label c) = true := by
    intro a b c hab hbc
    exact decide_eq_true (String.le_trans (of_decide_eq_true hab) (of_decide_eq_true hbc))
  have htotal : ∀ a b : α, (decide (label a ≤ label b) || decide (label b ≤ label a)) = true := by
    intro a b
    simpa using String.le_total (label a) (label b)
  have hperm : (sortByLabel label items).Perm items := List.mergeSort_perm _ _
  refine ⟨hperm, ?_, fun name => ?_⟩
  · exact (List.pairwise_mergeSort htrans htotal items).imp of_decide_eq_true
  · -- Items of one label are in order as they stand, and a stable sort keeps such a sublist.
    have hsame : (items.filter fun a => label a == name).Pairwise
        fun a b => decide (label a ≤ label b) = true := by
      refine List.pairwise_of_forall_mem_list fun a ha b hb => decide_eq_true ?_
      have hlabel : label a = label b := by
        rw [beq_iff_eq.mp (List.mem_filter.mp ha).2, beq_iff_eq.mp (List.mem_filter.mp hb).2]
      exact hlabel ▸ String.le_refl _
    have hkept := (List.sublist_mergeSort htrans htotal hsame List.filter_sublist).filter
      fun a => label a == name
    simp only [List.filter_filter, Bool.and_self] at hkept
    exact (hkept.eq_of_length (hperm.filter _).length_eq.symm).symm

namespace StablySorted

/-- What is left of the list when some items are dropped is sorted as before. -/
theorem filter (h : StablySorted label items sorted) (p : α → Bool) :
    StablySorted label (items.filter p) (sorted.filter p) where
  perm := h.perm.filter p
  ordered := h.ordered.filter p
  stable name := by
    rw [List.filter_comm, h.stable, List.filter_comm]

end StablySorted

theorem occursIn_iff {needle cs : List Char} : occursIn needle cs = true ↔ needle <:+: cs := by
  induction cs with
  | nil => rw [occursIn, List.isEmpty_iff, List.infix_nil]
  | cons c cs ih =>
    rw [occursIn, Bool.or_eq_true, List.isPrefixOf_iff_prefix, ih, List.infix_cons_iff]

/-- Whether a label holds a query, both normalized. -/
def Holds (query label : String) : Prop :=
  normalizeChars query.toList <:+: normalizeChars label.toList

instance (query label : String) : Decidable (Holds query label) := by
  unfold Holds
  infer_instance

/-- A search for nothing finds everything, as nothing stands in every label. -/
theorem search_eq_filter (items : List α) (query : String) (label : α → String) :
    search items query label = items.filter fun a => Holds query (label a) := by
  unfold search
  dsimp only
  split
  · next hempty =>
    refine (List.filter_eq_self.mpr fun a _ => decide_eq_true ?_).symm
    rw [Holds, List.isEmpty_iff.mp hempty]
    exact List.nil_infix
  · refine List.filter_congr fun a _ => Bool.eq_iff_iff.mpr ?_
    rw [occursIn_iff, decide_eq_true_iff, Holds]

variable {size : Nat}

/-- Where the largest word cuts a page's first index off, the list has long ended. -/
theorem pageItems_succ (h : items.length < UInt64.size) (k size : Nat) :
    pageItems items (k + 1) size = (items.drop (k * max size 1)).take (max size 1) := by
  unfold pageItems pageStart
  rw [Nat.add_sub_cancel]
  rcases Nat.le_total (k * max size 1) (UInt64.size - 1) with hle | hle
  · rw [Nat.min_eq_left hle]
  · rw [Nat.min_eq_right hle, List.drop_of_length_le (Nat.le_sub_one_of_lt h),
      List.drop_of_length_le (Nat.le_trans (Nat.le_sub_one_of_lt h) hle)]

theorem flatMap_pageItems_range' (h : items.length < UInt64.size) (size count : Nat) :
    ((List.range' 1 count).flatMap fun page => pageItems items page size) =
      items.take (count * max size 1) := by
  induction count with
  | zero => simp
  | succ count ih =>
    rw [List.range'_1_concat, List.flatMap_append, ih, List.flatMap_singleton, Nat.add_comm 1 count,
      pageItems_succ h, Nat.succ_mul, List.take_add]

theorem width_pos (size : Nat) : 0 < max size 1 :=
  Nat.lt_of_lt_of_le Nat.one_pos (Nat.le_max_right size 1)

theorem pageCount_le_iff {length n : Nat} : pageCount length size ≤ n ↔ length ≤ n * max size 1 := by
  have hpos := width_pos size
  rw [pageCount, Nat.div_le_iff_le_mul_add_pred hpos, Nat.mul_comm]
  omega

theorem pageCount_le (length size : Nat) : pageCount length size ≤ length :=
  pageCount_le_iff.mpr (Nat.le_mul_of_pos_right length (width_pos size))

/-- The pages, from the first to the last, are the whole list. -/
theorem flatMap_pageItems (h : items.length < UInt64.size) (size : Nat) :
    ((List.range' 1 (pageCount items.length size)).flatMap fun page => pageItems items page size) =
      items := by
  rw [flatMap_pageItems_range' h, List.take_of_length_le (pageCount_le_iff.mp (Nat.le_refl _))]

end StorageConsole.Listing
