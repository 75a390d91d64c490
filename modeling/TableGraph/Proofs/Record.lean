import Mathlib.Data.List.Nodup
import TableGraph.Record

/-!
Records whose entries have distinct names are filled as they are.
-/

namespace TableGraph

variable {α : Type}

theorem find?_of_nodup (name : α → String) {items : List α} (hnames : (items.map name).Nodup) {item : α}
    (hitem : item ∈ items) : items.find? (name · == name item) = some item := by
  induction items with
  | nil => cases hitem
  | cons first rest ih =>
    rw [List.map_cons, List.nodup_cons] at hnames
    rcases List.mem_cons.mp hitem with rfl | hitem
    . rw [List.find?_cons_of_pos (by simp)]
    . have hne : name first ≠ name item := by
        intro heq
        exact hnames.left (heq ▸ List.mem_map_of_mem hitem)
      rw [List.find?_cons_of_neg (by simpa using hne)]
      exact ih hnames.right hitem

theorem eraseDups_of_nodup {names : List String} (hnames : names.Nodup) : names.eraseDups = names := by
  induction names with
  | nil => rfl
  | cons name rest ih =>
    rw [List.nodup_cons] at hnames
    rw [List.eraseDups_cons, List.filter_eq_self.mpr, ih hnames.right]
    intro other hother
    have hne : other ≠ name := by
      rintro rfl
      exact hnames.left hother
    simpa using hne

theorem recordEntries_of_nodup {entries : List (String × α)} (hnames : (entries.map (·.1)).Nodup) :
    recordEntries entries = entries := by
  -- the last entry of a name is its only one
  have hfind : ∀ entry ∈ entries, entries.reverse.find? (·.1 == entry.1) = some entry := by
    intro entry hentry
    apply find?_of_nodup Prod.fst
    . rw [List.map_reverse]
      exact List.nodup_reverse.mpr hnames
    . exact List.mem_reverse.mpr hentry
  unfold recordEntries
  rw [eraseDups_of_nodup hnames, List.filterMap_map]
  calc entries.filterMap ((fun name => entries.reverse.find? (·.1 == name)) ∘ (·.1))
      = entries.filterMap some := by
        apply List.filterMap_congr
        exact hfind
    _ = entries := List.filterMap_some

end TableGraph
