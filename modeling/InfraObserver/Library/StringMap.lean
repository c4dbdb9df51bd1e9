import Mathlib.Data.Finmap
import Mathlib.Data.List.Sort
import Mathlib.Data.String.Basic

/-!
# Finite maps keyed by strings

Maps are Mathlib's finite maps, so two maps with the same lookups are equal.
This module adds what programs over such maps need: a listing in key order,
which the kernel can evaluate, and the laws by which an overwritten or a new
entry is taken back.
-/

/-- A finite map from strings to values of one type. -/
abbrev StringMap (V : Type) := Finmap fun _ : String => V

namespace StringMap

variable {V : Type}
variable (entries : StringMap V) (key : String)

theorem lookup_insert_ite
    (other : String)
    (value : V) :
    (entries.insert key value).lookup other =
      if other = key then some value else entries.lookup other := by
  split
  · next same =>
      subst same
      exact Finmap.lookup_insert entries
  · next different => exact Finmap.lookup_insert_of_ne entries different

theorem isSome_lookup_insert
    {map : StringMap V}
    {key : String}
    {old : V}
    (found : map.lookup key = some old)
    (value : V)
    (wanted : String) :
    ((map.insert key value).lookup wanted).isSome = (map.lookup wanted).isSome := by
  rw [lookup_insert_ite]
  split_ifs with same
  · rw [same, found]
    rfl
  · rfl

/-- Maps that agree on every part, and on what belongs to no part, are equal. -/
theorem ext_of_parts
    {κ : Type}
    {left right : StringMap V}
    (owns : κ → String → Prop)
    (inside : ∀ part key, owns part key → left.lookup key = right.lookup key)
    (outside : ∀ key, (∀ part, ¬owns part key) → left.lookup key = right.lookup key) :
    left = right := by
  refine Finmap.ext_lookup fun key => ?_
  by_cases owned : ∃ part, owns part key
  · obtain ⟨part, own⟩ := owned
    exact inside part key own
  · exact outside key (not_exists.mp owned)

/-- Removing a key that was new before its insertion restores the map. -/
theorem erase_insert_of_fresh
    (value : V)
    (fresh : entries.lookup key = none) :
    (entries.insert key value).erase key = entries := by
  apply Finmap.ext_lookup
  intro other
  by_cases same : other = key
  · subst same
    rw [Finmap.lookup_erase, fresh]
  · rw [Finmap.lookup_erase_ne same, Finmap.lookup_insert_of_ne entries same]

/-- Writing the old value back over an overwritten one restores the map. -/
theorem insert_insert_of_lookup
    (value old : V)
    (present : entries.lookup key = some old) :
    (entries.insert key value).insert key old = entries := by
  apply Finmap.ext_lookup
  intro other
  by_cases same : other = key
  · subst same
    rw [Finmap.lookup_insert, present]
  · rw [Finmap.lookup_insert_of_ne _ same, Finmap.lookup_insert_of_ne _ same]

/-- The keys in increasing order. Insertion sort evaluates in the kernel, and
its result does not depend on how the map is represented. -/
def sortedKeys : List String :=
  Quot.liftOn entries.keys.val (List.insertionSort (· ≤ ·)) fun left right perm =>
    ((List.perm_insertionSort _ left).trans
      (perm.trans (List.perm_insertionSort _ right).symm)).eq_of_pairwise
      (fun _ _ _ _ => le_antisymm)
      (List.pairwise_insertionSort _ left)
      (List.pairwise_insertionSort _ right)

@[simp] theorem mem_sortedKeys :
    key ∈ entries.sortedKeys ↔ key ∈ entries := by
  rw [← Finmap.mem_keys, ← Finset.mem_val]
  unfold sortedKeys
  induction entries.keys.val using Quotient.inductionOn with
  | h keys => exact (List.perm_insertionSort _ keys).mem_iff

theorem sortedKeys_nodup : entries.sortedKeys.Nodup := by
  have distinct := entries.keys.nodup
  unfold sortedKeys
  induction keysEq : entries.keys.val using Quotient.inductionOn with
  | h keys =>
      rw [keysEq] at distinct
      exact (List.perm_insertionSort _ keys).nodup_iff.mpr distinct

theorem sortedKeys_congr
    {W : Type}
    {left : StringMap V}
    {right : StringMap W}
    (same : ∀ key, (left.lookup key).isSome = (right.lookup key).isSome) :
    left.sortedKeys = right.sortedKeys := by
  have keys : left.keys = right.keys := by
    ext key
    rw [Finmap.mem_keys, Finmap.mem_keys, ← Finmap.lookup_isSome, ← Finmap.lookup_isSome, same]
  unfold sortedKeys
  rw [keys]

/-- The entries in increasing order of their keys. -/
def toSortedList : List (String × V) :=
  entries.sortedKeys.filterMap fun key =>
    (entries.lookup key).map fun value => (key, value)

@[simp] theorem mem_toSortedList
    (value : V) :
    (key, value) ∈ entries.toSortedList ↔ entries.lookup key = some value := by
  simp only [toSortedList, List.mem_filterMap, mem_sortedKeys,
    Option.map_eq_some_iff, Prod.mk.injEq]
  constructor
  · rintro ⟨listed, _, found, lookupFound, rfl, rfl⟩
    exact lookupFound
  · intro found
    exact ⟨key, Finmap.mem_of_lookup_eq_some found, value, found, rfl, rfl⟩

/-- An order in which a map can be gone through. -/
abbrev Visit : Type :=
  { order : List (String × V) // order.Perm entries.toSortedList }

/-- Going through a map in increasing order of the keys. -/
def sortedVisit : entries.Visit := ⟨entries.toSortedList, .refl _⟩

theorem mem_visit
    {entries : StringMap V}
    (visit : entries.Visit)
    (key : String)
    (value : V) :
    (key, value) ∈ visit.1 ↔ entries.lookup key = some value :=
  visit.2.mem_iff.trans (entries.mem_toSortedList key value)

theorem toSortedList_keys_nodup : (entries.toSortedList.map Prod.fst).Nodup := by
  rw [toSortedList, List.map_filterMap]
  refine entries.sortedKeys_nodup.filterMap ?_
  intro left right key first second
  simp only [Option.map_map, Option.mem_def, Option.map_eq_some_iff, Function.comp] at first second
  obtain ⟨_, _, rfl⟩ := first
  obtain ⟨_, _, rfl⟩ := second
  rfl

/-- Insert entries one after the other. -/
def insertAll (added : List (String × V)) : StringMap V :=
  added.foldl (fun map entry => map.insert entry.1 entry.2) entries

theorem lookup_insertAll
    {added : List (String × V)}
    (distinct : (added.map Prod.fst).Nodup)
    (key : String) :
    (entries.insertAll added).lookup key = (added.lookup key).or (entries.lookup key) := by
  induction added generalizing entries with
  | nil => rfl
  | cons entry rest ih =>
      obtain ⟨absent, distinctRest⟩ := List.nodup_cons.mp distinct
      have step := ih (entries.insert entry.1 entry.2) distinctRest
      rw [insertAll, List.foldl_cons]
      refine step.trans ?_
      rw [lookup_insert_ite, List.lookup_cons]
      by_cases same : key = entry.1
      · have unlisted : rest.lookup key = none := by
          rw [List.lookup_eq_none_iff]
          intro other member
          have different : entry.1 ≠ other.1 := fun equal =>
            absent (equal ▸ List.mem_map_of_mem member)
          simpa [same] using different
        rw [if_pos same, unlisted, beq_iff_eq.mpr same]
        rfl
      · rw [if_neg same, beq_eq_false_iff_ne.mpr same]

/-! ## Tables that only grow

A table is a map with the order in which its keys were inserted.
-/

/-- The new table is the old one with further entries behind it, each of which
satisfies a condition. -/
structure Grows
    (old : StringMap V)
    (oldOrder : List String)
    (new : StringMap V)
    (newOrder : List String)
    (caused : V → Prop) : Prop where
  kept : ∀ key value, old.lookup key = some value → new.lookup key = some value
  order : ∃ added, newOrder = oldOrder ++ added ∧ ∀ key ∈ added, old.lookup key = none
  added : ∀ key value, new.lookup key = some value →
    old.lookup key = some value ∨ old.lookup key = none ∧ caused value

namespace Grows

variable {old new : StringMap V} {oldOrder newOrder : List String} {caused : V → Prop}

theorem refl (old : StringMap V) (oldOrder : List String) (caused : V → Prop) :
    Grows old oldOrder old oldOrder caused :=
  ⟨fun _ _ found => found, ⟨[], (List.append_nil _).symm, nofun⟩, fun _ _ found => Or.inl found⟩

theorem insert
    (grows : Grows old oldOrder new newOrder caused)
    {key : String}
    {value : V}
    (fresh : new.lookup key = none)
    (holds : caused value) :
    Grows old oldOrder (new.insert key value) (newOrder ++ [key]) caused := by
  obtain ⟨kept, ⟨keys, order, unknown⟩, added⟩ := grows
  have absent : old.lookup key = none := by
    cases found : old.lookup key with
    | none => rfl
    | some present =>
        rw [kept key present found] at fresh
        cases fresh
  refine ⟨?_, ⟨keys ++ [key], by rw [order, List.append_assoc], ?_⟩, ?_⟩
  · intro other present found
    rw [lookup_insert_ite, if_neg fun same => by rw [same, absent] at found; cases found]
    exact kept other present found
  · intro other member
    rcases List.mem_append.mp member with earlier | newest
    · exact unknown other earlier
    · rw [List.mem_singleton.mp newest, absent]
  · intro other present found
    rw [lookup_insert_ite] at found
    split_ifs at found with same
    · rw [same, ← Option.some.inj found]
      exact Or.inr ⟨absent, holds⟩
    · exact added other present found

end Grows

end StringMap
