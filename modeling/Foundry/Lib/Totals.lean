import Mathlib.Algebra.Order.BigOperators.Group.List
import Mathlib.Algebra.Order.Group.Nat
import Mathlib.Algebra.GroupWithZero.Nat
import Foundry.Lib.Table

/-!
# Totals over the rows of a table

A total adds up a weight over all rows.  An insertion adds the weight of its row and gives back
that of the row it replaces; a deletion only takes away.
-/

set_option autoImplicit false

namespace Table

variable {κ α : Type}

def total (weight : α → Nat) (table : Table κ α) : Nat :=
  (table.rows.map fun row => weight row.2).sum

theorem total_of_sublist {weight : α → Nat} {smaller larger : Table κ α}
    (sublist : smaller.entries.Sublist larger.entries) :
    smaller.total weight ≤ larger.total weight :=
  ((sublist.map _).map _).sum_le_sum fun _ _ => Nat.zero_le _

theorem total_keep_le (weight : α → Nat) (stays : κ → α → Bool) (table : Table κ α) :
    (table.keep stays).total weight ≤ table.total weight :=
  total_of_sublist List.filter_sublist

variable [DecidableEq κ]

theorem total_erase_le (weight : α → Nat) (key : κ) (table : Table κ α) :
    total weight (table.erase key) ≤ table.total weight :=
  @total_of_sublist κ α weight (table.erase key) table (List.kerase_sublist key table.entries)

theorem total_insert (weight : α → Nat) (key : κ) (row : α) (table : Table κ α) :
    total weight (table.insert key row) = weight row + total weight (table.erase key) := rfl

theorem erase_of_none {key : κ} {table : Table κ α} (absent : table.lookup key = none) :
    table.erase key = table := by
  apply AList.ext
  exact List.kerase_of_notMem_keys (AList.lookup_eq_none.mp absent)

section

variable {weight : α → Nat} {key : κ}

/-- A key that was not there adds the weight of its row. -/
theorem total_insert_of_none {row : α} {table : Table κ α} (absent : table.lookup key = none) :
    total weight (table.insert key row) = table.total weight + weight row := by
  rw [total_insert, erase_of_none absent, Nat.add_comm]

/-- The total without one of its rows. -/
theorem total_erase_of_some {row : α} {table : Table κ α} (found : table.lookup key = some row) :
    table.total weight = weight row + total weight (table.erase key) := by
  have isKey : key ∈ table.entries.keys := by
    by_contra absent
    rw [AList.lookup_eq_none.mpr absent] at found
    cases found
  obtain ⟨stored, before, after, _, split, erased⟩ := List.exists_of_kerase isKey
  have same : stored = row := by
    have listed : (⟨key, stored⟩ : Sigma fun _ : κ => α) ∈ table.entries := by
      rw [split]
      exact List.mem_append_right _ (List.mem_cons_self ..)
    have other := AList.mem_lookup_iff.mpr listed
    rw [Option.mem_def, found, Option.some.injEq] at other
    exact other.symm
  have rest : (table.erase key).entries = before ++ after := erased
  rw [total, total, rows, rows, rest, split, same]
  simp only [List.map_append, List.map_cons, List.sum_append, List.sum_cons]
  omega

section

variable {row old : α} {table : Table κ α} (found : table.lookup key = some old)

include found

/-- A replaced row gives its weight back. -/
theorem total_insert_of_some :
    total weight (table.insert key row) + weight old = table.total weight + weight row := by
  rw [total_insert, total_erase_of_some found]
  omega

theorem total_insert_le (lighter : weight row ≤ weight old) :
    total weight (table.insert key row) ≤ table.total weight := by
  have replaced := @total_insert_of_some _ _ _ weight _ row _ _ found
  omega

end

/-- A row that weighs something is in the total. -/
theorem le_total {row : α} {table : Table κ α}
    (found : table.lookup key = some row) : weight row ≤ table.total weight := by
  rw [total_erase_of_some found]
  exact Nat.le_add_right _ _

/-- A row without weight may go. -/
theorem total_erase_of_zero {table : Table κ α}
    (zero : ∀ row, table.lookup key = some row → weight row = 0) :
    total weight (table.erase key) = table.total weight := by
  cases found : table.lookup key with
  | none => rw [erase_of_none found]
  | some row => rw [total_erase_of_some found, zero row found, Nat.zero_add]

theorem total_insert_of_zero {row : α} {table : Table κ α}
    (zero : ∀ old, table.lookup key = some old → weight old = 0) :
    total weight (table.insert key row) = weight row + table.total weight := by
  rw [total_insert, total_erase_of_zero zero]

end

theorem total_eq_zero {weight : α → Nat} {table : Table κ α}
    (zero : ∀ key row, table.lookup key = some row → weight row = 0) :
    table.total weight = 0 := by
  refine List.sum_eq_zero fun value member => ?_
  obtain ⟨row, listed, rfl⟩ := List.mem_map.mp member
  exact zero row.1 row.2 ((mem_rows _ _ _).mp listed)

/-- A total of the selected rows is one over all rows. -/
theorem sum_filter_rows {β : Type} (weight : β → Nat) (selects : β → Bool) (listed : List β) :
    ((listed.filter selects).map weight).sum =
      (listed.map fun row => if selects row then weight row else 0).sum := by
  induction listed with
  | nil => rfl
  | cons _ _ ih =>
    rw [List.filter_cons, List.map_cons, List.sum_cons, ← ih]
    split
    · rw [List.map_cons, List.sum_cons]
    · rw [Nat.zero_add]

theorem sum_ones {β : Type} (listed : List β) :
    (listed.map fun _ => 1).sum = listed.length := by
  rw [List.map_const', List.sum_replicate]
  exact Nat.mul_one _

theorem length_rows {κ α : Type} (table : Table κ α) :
    table.rows.length = table.total fun _ => 1 := by
  rw [total, sum_ones]

theorem length_filter_rows {β : Type} (selects : β → Bool) (listed : List β) :
    (listed.filter selects).length =
      (listed.map fun row => if selects row then 1 else 0).sum := by
  rw [← sum_filter_rows (fun _ => 1), sum_ones]

/-- One selected row fewer, once a row is replaced by one that is not selected. -/
theorem length_filter_insert {table : Table κ α} {selects : α → Bool} {key : κ} {old row : α}
    (found : table.lookup key = some old) (counted : selects old = true)
    (left : selects row = false) :
    ((Table.rows (table.insert key row)).filter fun entry => selects entry.2).length + 1 =
      (table.rows.filter fun entry => selects entry.2).length := by
  have replaced := @total_insert_of_some κ α _ (fun row => if selects row then 1 else 0)
    key row old table found
  rw [counted, left] at replaced
  rw [length_filter_rows, length_filter_rows]
  exact replaced

end Table
