import Mathlib.Data.List.Sort
import Mathlib.Data.List.TakeWhile

/-! # Items taken out of a list by their positions

Items are collected with their positions, popped from the last position to the first, and
put in again one after the other from some position on.
-/

namespace Sequences

variable {α : Type}

/-- The items that pass, with their positions, the first item standing at this one. -/
def places (p : α → Bool) : Nat → List α → List (Nat × α)
  | _, [] => []
  | start, item :: rest =>
      if p item then (start, item) :: places p (start + 1) rest else places p (start + 1) rest

/-- The list without the item at this position, if it has one. -/
def popAt (items : List α) (index : Nat) : Option (List α) :=
  if index < items.length then some (items.eraseIdx index) else none

/-- The list with one more item at this position, or at its end. -/
def insertAt (items : List α) (index : Nat) (item : α) : List α :=
  items.take index ++ item :: items.drop index

/-- The items are put in one after the other. -/
def insertAllAt : Nat → List α → List α → List α
  | _, [], items => items
  | index, item :: rest, items => insertAllAt (index + 1) rest (insertAt items index item)

section Places

variable {p : α → Bool} {start : Nat} {items more : List α} {place : Nat × α}

@[simp] theorem places_nil : places p start [] = [] := rfl

theorem places_append : places p start (items ++ more) = places p start items ++ places p (start + items.length) more := by
  induction items generalizing start with
  | nil => simp
  | cons item rest ih =>
      have next : start + 1 + rest.length = start + (rest.length + 1) := by omega
      cases passes : p item <;> simp [places, passes, ih, next]

theorem places_items : (places p start items).map Prod.snd = items.filter p := by
  induction items generalizing start with
  | nil => rfl
  | cons item rest ih => cases passes : p item <;> simp [places, passes, ih]

theorem places_from (member : place ∈ places p start items) : start ≤ place.1 := by
  induction items generalizing start with
  | nil => simp at member
  | cons item rest ih =>
      cases passes : p item with
      | false =>
          have later := @ih (start + 1) (by simpa [places, passes] using member)
          omega
      | true =>
          rcases (by simpa [places, passes] using member : place = (start, item) ∨ place ∈ places p (start + 1) rest) with rfl | later
          · rfl
          · have later := ih later
            omega

theorem places_before (member : place ∈ places p start items) : place.1 < start + items.length := by
  induction items generalizing start with
  | nil => simp at member
  | cons item rest ih =>
      rw [List.length_cons]
      cases passes : p item with
      | false =>
          have later := @ih (start + 1) (by simpa [places, passes] using member)
          omega
      | true =>
          rcases (by simpa [places, passes] using member : place = (start, item) ∨ place ∈ places p (start + 1) rest) with rfl | later
          · simp
          · have later := ih later
            omega

/-- The positions are collected in their order. -/
theorem places_ordered : (places p start items).Pairwise fun place other => place.1 < other.1 := by
  induction items generalizing start with
  | nil => exact List.Pairwise.nil
  | cons item rest ih =>
      cases passes : p item with
      | false => simpa [places, passes] using ih
      | true =>
          rw [places, if_pos passes]
          exact List.pairwise_cons.mpr ⟨fun other member => places_from member, ih⟩

theorem places_eq_nil : places p start items = [] ↔ ∀ item ∈ items, p item = false := by
  rw [← List.map_eq_nil_iff (f := Prod.snd), places_items, List.filter_eq_nil_iff]
  simp

end Places

section Orders

variable {places : List (Nat × α)}

/-- Sorted with the last position first, an ordered list is turned round. -/
theorem lastFirst_ordered (ordered : places.Pairwise fun place other => place.1 < other.1) :
    places.insertionSort (fun place other => other.1 ≤ place.1) = places.reverse := by
  induction ordered with
  | nil => rfl
  | cons first rest ih =>
      rw [List.insertionSort_cons, ih, List.reverse_cons, List.orderedInsert_eq_take_drop,
        List.takeWhile_eq_self_iff.mpr (by simpa using first), List.dropWhile_eq_nil_iff.mpr (by simpa using first)]

theorem firstFirst_ordered (ordered : places.Pairwise fun place other => place.1 < other.1) :
    places.insertionSort (fun place other => place.1 ≤ other.1) = places :=
  List.Pairwise.insertionSort_eq (ordered.imp le_of_lt)

end Orders

section Moves

variable {p : α → Bool} {kept items : List α} {item : α}

theorem popAt_append : popAt (kept ++ item :: items) kept.length = some (kept ++ items) := by
  simp [popAt, List.eraseIdx_append]

/-- Popped from the last to the first, every position still holds its item. -/
theorem popAt_places : ((places p kept.length items).reverse.map Prod.fst).foldlM popAt (kept ++ items) =
    some (kept ++ items.filter fun item => !p item) := by
  induction items generalizing kept with
  | nil => simp
  | cons item rest ih =>
      have later := @ih (kept ++ [item])
      rw [List.length_append, List.length_singleton, List.append_assoc, List.singleton_append] at later
      cases passes : p item with
      | false => simpa [places, passes] using later
      | true =>
          rw [places, if_pos passes, List.reverse_cons, List.map_append, List.foldlM_append, later]
          simpa [passes] using @popAt_append _ kept (rest.filter fun item => !p item) item

theorem insertAt_append : insertAt (kept ++ items) kept.length item = kept ++ item :: items := by
  simp [insertAt]

theorem insertAllAt_append {put : List α} : insertAllAt kept.length put (kept ++ items) = kept ++ put ++ items := by
  induction put generalizing kept with
  | nil => simp [insertAllAt]
  | cons item rest ih =>
      rw [insertAllAt, insertAt_append]
      simpa using @ih (kept ++ [item])

end Moves

end Sequences
