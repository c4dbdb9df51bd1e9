import Mathlib.Data.List.Nodup
import Mathlib.Data.List.Count
import Mathlib.Data.List.Sort

/-!
# Lists with distinct keys

In a list whose items have distinct keys, the search for a key finds exactly the
item with that key, and sorting by the key forgets the order. Two lists that agree
class by class are permutations of each other.
-/

namespace Keyed

variable {α κ : Type} [DecidableEq κ] {key : α → κ} {items : List α}

/-- The search for a key finds an item exactly when the item is listed and has
the key. -/
theorem find?_eq_some_iff
    (distinct : (items.map key).Nodup)
    (wanted : κ)
    (item : α) :
    items.find? (fun other => key other = wanted) = some item ↔
      item ∈ items ∧ key item = wanted := by
  constructor
  · intro found
    exact ⟨List.mem_of_find?_eq_some found, by simpa using List.find?_some found⟩
  · rintro ⟨member, rfl⟩
    cases found : items.find? fun other => key other = key item with
    | none => exact absurd (List.find?_eq_none.mp found item member) (by simp)
    | some other =>
        have same : key other = key item := by simpa using List.find?_some found
        rw [List.inj_on_of_nodup_map distinct (List.mem_of_find?_eq_some found) member same]

omit [DecidableEq κ] in
theorem nodup_map_concat
    (distinct : (items.map key).Nodup)
    {item : α}
    (fresh : key item ∉ items.map key) :
    ((items ++ [item]).map key).Nodup := by
  rw [List.map_append, List.map_singleton, ← List.concat_eq_append]
  exact distinct.concat fresh

omit [DecidableEq κ] in
/-- Items with distinct keys can be put in order in one way only. -/
theorem eq_of_perm_of_sorted
    [LinearOrder κ]
    {left right : List α}
    (permutation : left.Perm right)
    (distinct : (left.map key).Nodup)
    (sortedLeft : left.Pairwise fun first second => key first ≤ key second)
    (sortedRight : right.Pairwise fun first second => key first ≤ key second) :
    left = right := by
  refine permutation.eq_of_pairwise (fun first second member member' before after => ?_)
    sortedLeft sortedRight
  exact List.inj_on_of_nodup_map distinct member (permutation.mem_iff.mpr member')
    (le_antisymm before after)

omit [DecidableEq κ] in
/-- Sorting by distinct keys forgets the order of the items. -/
theorem insertionSort_eq_of_perm
    [LinearOrder κ]
    {left right : List α}
    (permutation : left.Perm right)
    (distinct : (left.map key).Nodup) :
    (left.insertionSort fun first second => key first ≤ key second) =
      right.insertionSort fun first second => key first ≤ key second := by
  let order : α → α → Prop := fun first second => key first ≤ key second
  have total : Std.Total order := ⟨fun first second => le_total (key first) (key second)⟩
  have transitive : IsTrans α order := ⟨fun _ _ _ => le_trans⟩
  have sortedPerm : (left.insertionSort order).Perm (right.insertionSort order) :=
    (left.perm_insertionSort order).trans (permutation.trans (right.perm_insertionSort order).symm)
  refine eq_of_perm_of_sorted sortedPerm ?_ (left.pairwise_insertionSort order)
    (right.pairwise_insertionSort order)
  exact ((left.perm_insertionSort order).map key).nodup_iff.mpr distinct

theorem perm_of_filter
    [DecidableEq α]
    {left right : List α}
    (classes : ∀ item, ∃ kind : α → Bool, kind item = true ∧
      left.filter kind = right.filter kind) :
    left.Perm right := by
  rw [List.perm_iff_count]
  intro item
  obtain ⟨kind, listed, same⟩ := classes item
  rw [← List.count_filter listed, same, List.count_filter listed]

end Keyed
