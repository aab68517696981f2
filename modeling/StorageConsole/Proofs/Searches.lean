import Mathlib
import StorageConsole.Proofs.Listings

/-!
How searches refine each other. Only the normal form of a query counts, and a query whose normal form
stands in that of another finds all that the other one finds.
-/
namespace StorageConsole.Listing

variable {α : Type} {label : α → String} {query narrower : String} {c : Char} {cs ds : List Char}

theorem isWordChar_toLower (h : isWordChar c) : isWordChar c.toLower := by
  by_cases hupper : c.isUpper
  · have halpha : c.toLower.isAlpha := by
      rw [Char.isAlpha_toLower_eq_isAlpha, Char.isAlpha, hupper, Bool.true_or]
    simp [isWordChar, Char.isAlphanum, halpha]
  · rwa [Char.toLower_eq_of_not_isUpper hupper]

theorem normalizeChars_normalizeChars (cs : List Char) :
    normalizeChars (normalizeChars cs) = normalizeChars cs := by
  have hword : ∀ c ∈ normalizeChars cs, isWordChar c := by
    intro c hc
    obtain ⟨d, hd, rfl⟩ := List.mem_map.mp hc
    exact isWordChar_toLower (List.mem_filter.mp hd).2
  have hlower : ∀ c ∈ normalizeChars cs, c.toLower = c := by
    intro c hc
    obtain ⟨d, _, rfl⟩ := List.mem_map.mp hc
    exact Char.toLower_toLower_eq_toLower d
  calc normalizeChars (normalizeChars cs)
      = (normalizeChars cs).map Char.toLower := by
        rw [normalizeChars, List.filter_eq_self.mpr hword]
    _ = normalizeChars cs := by rw [List.map_congr_left hlower, List.map_id']

theorem normalizeChars_append (cs ds : List Char) :
    normalizeChars (cs ++ ds) = normalizeChars cs ++ normalizeChars ds := by
  rw [normalizeChars, List.filter_append, List.map_append]
  rfl

/-- A query counts by its normal form alone. -/
theorem holds_normalize_iff {text : String} : Holds (normalize query) text ↔ Holds query text := by
  rw [Holds, normalize, String.toList_ofList, normalizeChars_normalizeChars]
  rfl

/-- Whatever is added to a query, before it or behind it, the longer one holds it. -/
theorem holds_of_extended (before query behind : String) :
    Holds query (before ++ query ++ behind) := by
  rw [Holds, String.toList_append, String.toList_append, normalizeChars_append,
    normalizeChars_append]
  exact List.infix_append ..

theorem Holds.trans {text : String} (h : Holds query narrower) (h' : Holds narrower text) :
    Holds query text := List.IsInfix.trans h h'

/-- What is found for a query is searched again for a narrower one without a loss. -/
theorem search_search (h : Holds query narrower) (items : List α) :
    search (search items query label) narrower label = search items narrower label := by
  simp only [search_eq_filter, List.filter_filter]
  refine List.filter_congr fun a _ => ?_
  rw [← Bool.decide_and, decide_eq_decide]
  exact ⟨And.left, fun hnarrower => ⟨hnarrower, h.trans hnarrower⟩⟩

theorem search_sublist (items : List α) (query : String) :
    (search items query label).Sublist items := by
  rw [search_eq_filter]
  exact List.filter_sublist

theorem search_sublist_search (h : Holds query narrower) (items : List α) :
    (search items narrower label).Sublist (search items query label) := by
  rw [← search_search h]
  exact search_sublist _ narrower

/-- A search finds the items whose label holds the query, in their order, and no query but by its
normal form. The narrower of two queries finds no item that the wider one does not, and finds the
same among those as among all. -/
theorem search_refines (items : List α) (label : α → String) (query narrower : String) :
    (∀ a, a ∈ search items query label ↔ a ∈ items ∧ Holds query (label a)) ∧
    search items query label = search items (normalize query) label ∧
    (search items query label).Sublist items ∧
    (∀ a ∈ items, label a = query → a ∈ search items query label) ∧
    (Holds query narrower →
      (search items narrower label).Sublist (search items query label) ∧
      search (search items query label) narrower label = search items narrower label) ∧
    (∀ before behind, (search items (before ++ query ++ behind) label).Sublist
      (search items query label)) ∧
    (normalize query = "" → search items query label = items) := by
  have hmem : ∀ a, a ∈ search items query label ↔ a ∈ items ∧ Holds query (label a) := by
    intro a
    rw [search_eq_filter, List.mem_filter, decide_eq_true_iff]
  refine ⟨hmem, ?_, search_sublist items query, fun a ha hlabel => ?_, fun h => ?_,
    fun before behind => ?_, fun hempty => ?_⟩
  · simp only [search_eq_filter, holds_normalize_iff]
  · exact (hmem a).mpr ⟨ha, hlabel ▸ List.infix_rfl⟩
  · exact ⟨search_sublist_search h items, search_search h items⟩
  · exact search_sublist_search (holds_of_extended before query behind) items
  · have hnil : normalizeChars query.toList = [] := String.ofList_eq_empty_iff.mp hempty
    rw [search, hnil]
    rfl

/-- Names that are searched. -/
def fruits : List String := ["apples", "Oranges", "blood oranges", "pears"]

theorem search_refines_oranges :
    Holds "-Ran" "d Ora-nges!" ∧
    (search fruits "d Ora-nges!" id).Sublist (search fruits "-Ran" id) ∧
    search (search fruits "-Ran" id) "d Ora-nges!" id = ["blood oranges"] ∧
    "Oranges" ∈ search fruits "Oranges" id ∧ search fruits "-- !" id = fruits := by
  have hholds : Holds "-Ran" "d Ora-nges!" := by decide
  obtain ⟨_, _, _, _, hnarrower, _⟩ := search_refines fruits id "-Ran" "d Ora-nges!"
  obtain ⟨hsublist, hagain⟩ := hnarrower hholds
  obtain ⟨_, _, _, hlabelled, _⟩ := search_refines fruits id "Oranges" ""
  obtain ⟨_, _, _, _, _, _, hempty⟩ := search_refines fruits id "-- !" ""
  exact ⟨hholds, hsublist, hagain.trans (by decide), hlabelled "Oranges" (by decide) rfl,
    hempty (by decide)⟩

end StorageConsole.Listing
