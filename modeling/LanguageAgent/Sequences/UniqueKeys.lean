import Mathlib.Data.List.Nodup

/-! # Rows that are found by a key

No two rows have the same key, so that a search by key finds the one row that has it.
-/

namespace Sequences

section Keys

variable {α κ : Type} {key : α → κ} {rows : List α} {row : α}

def UniqueKeys (key : α → κ) (rows : List α) : Prop := (rows.map key).Nodup

/-- A row with a new key may be added. -/
theorem UniqueKeys.append (unique : UniqueKeys key rows) (fresh : ∀ other ∈ rows, key other ≠ key row) :
    UniqueKeys key (rows ++ [row]) := by
  rw [UniqueKeys, List.map_append, List.map_singleton]
  refine List.nodup_append'.mpr ⟨unique, List.nodup_singleton _, ?_⟩
  rw [List.disjoint_singleton]
  simpa using fresh

/-- Rows may be changed where they keep their keys. -/
theorem UniqueKeys.map {change : α → α} (unique : UniqueKeys key rows) (keeps : ∀ row, key (change row) = key row) :
    UniqueKeys key (rows.map change) := by
  have same : key ∘ change = key := funext keeps
  rwa [UniqueKeys, List.map_map, same]

variable [DecidableEq κ]

/-- The first row with this key. -/
def findBy (key : α → κ) (sought : κ) (rows : List α) : Option α := rows.find? fun row => key row = sought

theorem findBy_some {sought : κ} (found : findBy key sought rows = some row) : row ∈ rows ∧ key row = sought :=
  ⟨List.mem_of_find?_eq_some found, by simpa using List.find?_some found⟩

theorem findBy_none {sought : κ} (none : findBy key sought rows = .none) (member : row ∈ rows) : key row ≠ sought := by
  have differs := List.find?_eq_none.mp none row member
  simpa using differs

/-- A row is found by its own key. -/
theorem findBy_mem (unique : UniqueKeys key rows) (member : row ∈ rows) : findBy key (key row) rows = some row := by
  cases found : findBy key (key row) rows with
  | none => exact absurd rfl (findBy_none found member)
  | some other =>
      obtain ⟨isRow, same⟩ := findBy_some found
      exact congrArg some (List.inj_on_of_nodup_map unique isRow member same)

end Keys

end Sequences
