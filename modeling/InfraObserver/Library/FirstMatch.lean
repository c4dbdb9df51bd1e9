import Mathlib.Data.List.Basic

/-!
# Changing the first item that matches

`amendFirst` changes the first item of a list that satisfies a test. Filtering a
list by another test either sees the same change or no change at all.
-/

namespace FirstMatch

variable {α : Type} {wanted keep : α → Bool} {amend : α → α}

/-- Change the first wanted item. -/
def amendFirst (wanted : α → Bool) (amend : α → α) : List α → List α
  | [] => []
  | item :: rest => if wanted item then amend item :: rest else item :: amendFirst wanted amend rest

theorem amendFirst_cons (item : α) (rest : List α) :
    amendFirst wanted amend (item :: rest) =
      if wanted item then amend item :: rest else item :: amendFirst wanted amend rest := rfl

theorem amendFirst_append
    {earlier later : List α}
    {item : α}
    (before : ∀ other ∈ earlier, wanted other = false)
    (found : wanted item = true) :
    amendFirst wanted amend (earlier ++ item :: later) = earlier ++ amend item :: later := by
  induction earlier with
  | nil => simp [amendFirst_cons, found]
  | cons other rest ih =>
      rw [List.forall_mem_cons] at before
      simp [amendFirst_cons, before.1, ih before.2]

theorem amendFirst_of_none
    {items : List α}
    (none : items.any wanted = false) :
    amendFirst wanted amend items = items := by
  induction items with
  | nil => rfl
  | cons item rest ih =>
      rw [List.any_cons, Bool.or_eq_false_iff] at none
      simp [amendFirst_cons, none.1, ih none.2]

theorem mem_amendFirst
    {items : List α}
    {item : α}
    (member : item ∈ amendFirst wanted amend items) :
    item ∈ items ∨ ∃ old ∈ items, wanted old = true ∧ item = amend old := by
  induction items with
  | nil => cases member
  | cons first rest ih =>
      by_cases found : wanted first = true
      · rw [amendFirst_cons, if_pos found] at member
        rcases List.mem_cons.mp member with changed | same
        · exact Or.inr ⟨first, List.mem_cons_self .., found, changed⟩
        · exact Or.inl (List.mem_cons_of_mem _ same)
      · rw [amendFirst_cons, if_neg found] at member
        rcases List.mem_cons.mp member with rfl | later
        · exact Or.inl (List.mem_cons_self ..)
        · rcases ih later with same | ⟨old, present, chosen, changed⟩
          · exact Or.inl (List.mem_cons_of_mem _ same)
          · exact Or.inr ⟨old, List.mem_cons_of_mem _ present, chosen, changed⟩

@[simp] theorem length_amendFirst (items : List α) :
    (amendFirst wanted amend items).length = items.length := by
  induction items with
  | nil => rfl
  | cons first rest ih =>
      rw [amendFirst_cons]
      split
      · rfl
      · exact congrArg (· + 1) ih

theorem getElem?_amendFirst (items : List α) (position : ℕ) :
    (amendFirst wanted amend items)[position]? = items[position]? ∨
      ∃ old, items[position]? = some old ∧ wanted old = true ∧
        (amendFirst wanted amend items)[position]? = some (amend old) := by
  induction items generalizing position with
  | nil => exact Or.inl rfl
  | cons first rest ih =>
      rw [amendFirst_cons]
      split
      · next found =>
          cases position with
          | zero => exact Or.inr ⟨first, rfl, found, rfl⟩
          | succ position => exact Or.inl rfl
      · cases position with
        | zero => exact Or.inl rfl
        | succ position => exact ih position

theorem filter_amendFirst
    (keeps : ∀ item, wanted item = true → keep item = true)
    (kept : ∀ item, keep (amend item) = keep item)
    (items : List α) :
    (amendFirst wanted amend items).filter keep = amendFirst wanted amend (items.filter keep) := by
  induction items with
  | nil => rfl
  | cons item rest ih =>
      by_cases found : wanted item = true
      · simp [amendFirst_cons, found, keeps item found, kept]
      · by_cases listed : keep item = true <;>
          simp [amendFirst_cons, found, listed, ih]

theorem filter_amendFirst_of_dropped
    (drops : ∀ item, wanted item = true → keep item = false)
    (kept : ∀ item, keep (amend item) = keep item)
    (items : List α) :
    (amendFirst wanted amend items).filter keep = items.filter keep := by
  induction items with
  | nil => rfl
  | cons item rest ih =>
      by_cases found : wanted item = true
      · simp [amendFirst_cons, found, drops item found, kept]
      · by_cases listed : keep item = true <;>
          simp [amendFirst_cons, found, listed, ih]

end FirstMatch
