import Mathlib.Data.List.AList

/-!
# Keyed tables

A table is a finite map with at most one row for each key.  Rows are read with
`AList.lookup` and written with `AList.insert`; this file adds the bulk
statements of a query language: the rows of a table, an update of every row, a
deletion by predicate, and the next free number of a numbered table.
-/

set_option autoImplicit false

universe u v w

abbrev Table (κ : Type u) (α : Type v) := AList (fun _ : κ => α)

namespace Table

variable {κ : Type u} {α : Type v}

/-- The rows in storage order. -/
def rows (table : Table κ α) : List (κ × α) :=
  table.entries.map fun entry => (entry.1, entry.2)

/-- A bulk `UPDATE`: every row is rewritten in place. -/
def updateAll (rewrite : κ → α → α) (table : Table κ α) : Table κ α where
  entries := table.entries.map fun entry => ⟨entry.1, rewrite entry.1 entry.2⟩
  nodupKeys := List.NodupKeys.map₂ rewrite table.entries table.nodupKeys

/-- A bulk `DELETE`: only the rows that satisfy the predicate stay. -/
def keep (stays : κ → α → Bool) (table : Table κ α) : Table κ α where
  entries := table.entries.filter fun entry => stays entry.1 entry.2
  nodupKeys := table.nodupKeys.sublist List.filter_sublist

theorem pairwise_keys (table : Table κ α) :
    table.rows.Pairwise fun left right => left.1 ≠ right.1 := by
  rw [rows, List.pairwise_map]
  exact table.nodupKeys.pairwise_ne

/-- A table whose keys another has is no longer than that. -/
theorem length_le_of_keys {β : Type w} {first : Table κ α} {second : Table κ β}
    (keys : ∀ key, key ∈ first → key ∈ second) :
    first.entries.length ≤ second.entries.length := by
  have subset : first.keys ⊆ second.keys := fun key member => keys key member
  have shorter := (List.subperm_of_subset first.keys_nodup subset).length_le
  rwa [AList.keys, AList.keys, List.keys, List.keys, List.length_map, List.length_map] at shorter

variable [DecidableEq κ]

variable {table : Table κ α}

@[simp] theorem mem_rows (table : Table κ α) (key : κ) (row : α) :
    (key, row) ∈ table.rows ↔ table.lookup key = some row := by
  have found := AList.mem_lookup_iff (a := key) (b := row) (s := table)
  rw [Option.mem_def] at found
  rw [found, rows, List.mem_map]
  constructor
  · rintro ⟨⟨_, _⟩, member, same⟩
    cases same
    exact member
  · intro member
    exact ⟨⟨key, row⟩, member, rfl⟩

theorem lookup_of_rows_nil (empty : table.rows = []) (key : κ) :
    table.lookup key = none := by
  cases found : table.lookup key with
  | none => rfl
  | some row =>
    have listed := (mem_rows table key row).mpr found
    rw [empty] at listed
    cases listed

@[simp] theorem lookup_updateAll
    (rewrite : κ → α → α) (table : Table κ α) (key : κ) :
    (table.updateAll rewrite).lookup key = (table.lookup key).map (rewrite key) := by
  ext row
  rw [← Option.mem_def, AList.mem_lookup_iff, Option.map_eq_some_iff]
  simp only [updateAll, List.mem_map]
  constructor
  · rintro ⟨⟨_, storedRow⟩, member, same⟩
    cases same
    exact ⟨storedRow, AList.mem_lookup_iff.mpr member, rfl⟩
  · rintro ⟨storedRow, found, rfl⟩
    exact ⟨⟨key, storedRow⟩, AList.mem_lookup_iff.mp found, rfl⟩

theorem lookup_keep_eq_some (stays : κ → α → Bool) (table : Table κ α) (key : κ) (row : α) :
    (table.keep stays).lookup key = some row ↔
      table.lookup key = some row ∧ stays key row = true := by
  have kept := AList.mem_lookup_iff (a := key) (b := row) (s := table.keep stays)
  have found := AList.mem_lookup_iff (a := key) (b := row) (s := table)
  rw [Option.mem_def] at kept found
  rw [kept, found]
  simp only [keep, List.mem_filter]

section

variable (table : Table κ α) (key other : κ) (row : α)

theorem lookup_insert_eq :
    (table.insert key row).lookup other =
      if other = key then some row else table.lookup other := by
  by_cases same : other = key
  · subst same
    simp
  · simp [same, AList.lookup_insert_ne same]

/-- An insertion removes nothing. -/
theorem lookup_of_insert_none
    (absent : (table.insert key row).lookup other = none) : table.lookup other = none := by
  rw [lookup_insert_eq] at absent
  split at absent
  · cases absent
  · exact absent

end

/-- A row found after an insertion is the one inserted, or was there before. -/
theorem cases_insert {key other : κ} {row found : α}
    (present : (table.insert key row).lookup other = some found) :
    (other = key ∧ found = row) ∨ (other ≠ key ∧ table.lookup other = some found) := by
  rw [lookup_insert_eq] at present
  split at present
  · next same =>
    cases present
    exact .inl ⟨same, rfl⟩
  · next different => exact .inr ⟨different, present⟩

theorem lookup_union (first second : Table κ α) (key : κ) :
    AList.lookup key (first ∪ second) = (first.lookup key).or (second.lookup key) := by
  cases found : first.lookup key with
  | none =>
    rw [AList.lookup_union_right (AList.lookup_eq_none.mp found), Option.none_or]
  | some =>
    have member : key ∈ first := by
      rw [← AList.lookup_isSome, found]
      rfl
    rw [AList.lookup_union_left member, found, Option.some_or]

theorem lookup_erase_eq (table : Table κ α) (key other : κ) :
    AList.lookup other (AList.erase key table) =
      if other = key then none else table.lookup other := by
  by_cases same : other = key
  · rw [if_pos same, same, AList.lookup_erase]
  · rw [if_neg same, AList.lookup_erase_ne same]

/-- A deletion adds nothing. -/
theorem lookup_of_erase {key other : κ} {row : α}
    (found : (AList.erase key table).lookup other = some row) : table.lookup other = some row := by
  rw [lookup_erase_eq] at found
  split at found
  · cases found
  · exact found

/-- A query that selects rows of one key only. -/
theorem filter_rows_eq_singleton {table : Table κ α} {selects : κ × α → Bool} {key : κ} {row : α}
    (found : table.lookup key = some row) (selected : selects (key, row) = true)
    (only : ∀ other stored, table.lookup other = some stored →
      selects (other, stored) = true → other = key) :
    table.rows.filter selects = [(key, row)] := by
  have member : (key, row) ∈ table.rows.filter selects :=
    List.mem_filter.mpr ⟨(mem_rows table key row).mpr found, selected⟩
  have keys : ∀ other ∈ table.rows.filter selects, other.1 = key := by
    intro other isSelected
    obtain ⟨listed, holds⟩ := List.mem_filter.mp isSelected
    exact only other.1 other.2 ((mem_rows table _ _).mp listed) holds
  have distinct := table.pairwise_keys.sublist (List.filter_sublist (p := selects))
  generalize table.rows.filter selects = selection at member keys distinct
  cases selection with
  | nil => cases member
  | cons first rest =>
    cases rest with
    | nil => rw [List.mem_singleton.mp member]
    | cons second =>
      have different := List.rel_of_pairwise_cons distinct (List.mem_cons_self ..)
      have same : first.1 = second.1 := by
        rw [keys first (List.mem_cons_self ..),
          keys second (List.mem_cons_of_mem _ (List.mem_cons_self ..))]
      exact absurd same different

/-! ## Rows that exclude each other -/

/-- No two rows of the table clash. -/
def Apart (Clash : α → α → Prop) (table : Table κ α) : Prop :=
  ∀ key other row same, table.lookup key = some row → table.lookup other = some same →
    Clash row same → key = other

theorem apart_empty (Clash : α → α → Prop) : (∅ : Table κ α).Apart Clash := by
  intro key other row same stored
  simp at stored

theorem Apart.insert {Clash : α → α → Prop} (apart : table.Apart Clash)
    (symmetric : ∀ left right, Clash left right → Clash right left) (key : κ) (row : α)
    (clear : ∀ other stored, table.lookup other = some stored → Clash row stored → other = key) :
    Apart Clash (AList.insert key row table) := by
  intro left right first second foundFirst foundSecond clash
  rw [lookup_insert_eq] at foundFirst foundSecond
  by_cases isLeft : left = key
  · by_cases isRight : right = key
    · rw [isLeft, isRight]
    · rw [if_pos isLeft] at foundFirst
      rw [if_neg isRight] at foundSecond
      cases foundFirst
      rw [isLeft, clear right second foundSecond clash]
  · rw [if_neg isLeft] at foundFirst
    by_cases isRight : right = key
    · rw [if_pos isRight] at foundSecond
      cases foundSecond
      rw [isRight, clear left first foundFirst (symmetric first row clash)]
    · rw [if_neg isRight] at foundSecond
      exact apart left right first second foundFirst foundSecond clash

/-- The number the next row of a numbered table gets. -/
def nextNumber (table : Table Nat α) : Nat :=
  (table.entries.map Sigma.fst).foldr max 0 + 1

omit [DecidableEq κ] in
theorem member_le_largest (numbers : List Nat) (number : Nat) (member : number ∈ numbers) :
    number ≤ numbers.foldr max 0 := by
  induction numbers with
  | nil => simp at member
  | cons _ _ ih =>
    simp only [List.foldr_cons]
    rcases List.mem_cons.mp member with _ | later
    · omega
    · have bound := ih later
      omega

theorem lt_nextNumber {table : Table Nat α} {number : Nat} {row : α}
    (found : table.lookup number = some row) :
    number < table.nextNumber := by
  have stored : (⟨number, row⟩ : Sigma fun _ : Nat => α) ∈ table.entries :=
    AList.mem_lookup_iff.mp found
  have listed : number ∈ table.entries.map Sigma.fst :=
    List.mem_map.mpr ⟨_, stored, rfl⟩
  have bound := member_le_largest _ number listed
  simp only [nextNumber]
  omega

@[simp] theorem lookup_nextNumber (table : Table Nat α) :
    table.lookup table.nextNumber = none := by
  cases found : table.lookup table.nextNumber with
  | none => rfl
  | some row =>
    have bound := lt_nextNumber found
    omega

end Table
