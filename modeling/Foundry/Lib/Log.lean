import Mathlib.Data.List.Basic

/-!
# Append-only logs

A log is a list that grows at its end.  `Extends` says that a later log adds
entries whose keys ascend above all earlier keys; `Sealed` says that nothing
follows a final entry; `Amends` allows the entries themselves to change, each in
its place.  `Justified` is a law every entry meets with respect to the entries before it.
`Numbered` says that the keys are 1, 2 and so on, in order.
-/

set_option autoImplicit false

namespace Log

universe u

variable {α : Type u}

section Keys

variable (key : α → Nat)

/-- The later log is the earlier one with added entries, each of a larger key than
every entry before it. -/
def Extends (earlier later : List α) : Prop :=
  ∃ added, later = earlier ++ added ∧
    (∀ old ∈ earlier, ∀ new ∈ added, key old < key new) ∧
    added.Pairwise fun left right => key left < key right

variable {key}

theorem Extends.refl (log : List α) : Extends key log log :=
  ⟨[], (List.append_nil log).symm, by simp, List.Pairwise.nil⟩

theorem Extends.trans {first second third : List α}
    (earlier : Extends key first second) (later : Extends key second third) :
    Extends key first third := by
  obtain ⟨former, rfl, aboveFirst, formerAscends⟩ := earlier
  obtain ⟨latter, rfl, aboveSecond, latterAscends⟩ := later
  refine ⟨former ++ latter, List.append_assoc _ _ _, ?_, ?_⟩
  · intro old isOld new isNew
    rcases List.mem_append.mp isNew with inFormer | inLatter
    · exact aboveFirst old isOld new inFormer
    · exact aboveSecond old (List.mem_append_left _ isOld) new inLatter
  · rw [List.pairwise_append]
    refine ⟨formerAscends, latterAscends, ?_⟩
    intro left isLeft right isRight
    exact aboveSecond left (List.mem_append_right _ isLeft) right isRight

/-- One entry above all others. -/
theorem Extends.snoc (log : List α) (entry : α) (above : ∀ old ∈ log, key old < key entry) :
    Extends key log (log ++ [entry]) := by
  refine ⟨[entry], rfl, ?_, List.pairwise_singleton _ _⟩
  intro old isOld new isNew
  rw [List.mem_singleton.mp isNew]
  exact above old isOld

end Keys

variable {log : List α} {entry : α}

section Finality

variable {final : α → Bool}

/-- No entry but the last is final. -/
def Sealed (final : α → Bool) (log : List α) : Prop :=
  ∀ entry ∈ log.dropLast, final entry = false

theorem Sealed.snoc (log : List α) (entry : α) (unsealed : ∀ old ∈ log, final old = false) :
    Sealed final (log ++ [entry]) := by
  intro old isOld
  rw [List.dropLast_concat] at isOld
  exact unsealed old isOld

/-- A final entry is the last one. -/
theorem Sealed.getLast?_eq (sealed : Sealed final log)
    (member : entry ∈ log) (isFinal : final entry = true) : log.getLast? = some entry := by
  rcases List.eq_nil_or_concat log with rfl | ⟨_, _, rfl⟩
  · cases member
  · rw [List.concat_eq_append] at sealed member ⊢
    rw [List.mem_append, List.mem_singleton] at member
    rcases member with inFront | rfl
    · have plain := sealed entry (by rw [List.dropLast_concat]; exact inFront)
      rw [isFinal] at plain
      cases plain
    · simp

theorem Sealed.countP_le_one (sealed : Sealed final log) :
    log.countP final ≤ 1 := by
  rcases List.eq_nil_or_concat log with rfl | ⟨front, _, rfl⟩
  · exact Nat.zero_le 1
  · rw [List.concat_eq_append] at sealed ⊢
    have none : front.countP final = 0 := by
      rw [List.countP_eq_zero]
      intro entry member
      have plain := sealed entry (by rw [List.dropLast_concat]; exact member)
      simp [plain]
    rw [List.countP_append, none, Nat.zero_add]
    exact List.countP_le_length

end Finality

section Amendments

variable {Related : α → α → Prop}

/-- Every entry is still in its place, related to what it was. -/
def Amends (Related : α → α → Prop) (earlier later : List α) : Prop :=
  ∀ (place : Nat) (entry : α), earlier[place]? = some entry →
    ∃ amended, later[place]? = some amended ∧ Related entry amended

theorem Amends.refl (reflexive : ∀ entry, Related entry entry) (log : List α) :
    Amends Related log log :=
  fun _ entry found => ⟨entry, found, reflexive entry⟩

theorem Amends.trans (transitive : ∀ {first second third},
      Related first second → Related second third → Related first third)
    {first second third : List α}
    (earlier : Amends Related first second) (later : Amends Related second third) :
    Amends Related first third := by
  intro place entry found
  obtain ⟨middle, isMiddle, before⟩ := earlier place entry found
  obtain ⟨last, isLast, after⟩ := later place middle isMiddle
  exact ⟨last, isLast, transitive before after⟩

theorem Amends.map (amend : α → α) (log : List α)
    (related : ∀ entry ∈ log, Related entry (amend entry)) :
    Amends Related log (log.map amend) := by
  intro place entry found
  refine ⟨amend entry, ?_, related entry (List.mem_of_getElem? found)⟩
  rw [List.getElem?_map, found]
  rfl

theorem Amends.append (reflexive : ∀ entry, Related entry entry) (log added : List α) :
    Amends Related log (log ++ added) := by
  intro place entry found
  refine ⟨entry, ?_, reflexive entry⟩
  obtain ⟨inside, _⟩ := List.getElem?_eq_some_iff.mp found
  rw [List.getElem?_append_left inside]
  exact found

/-- Where the log did not grow, every entry comes from one before. -/
theorem Amends.source {earlier later : List α} (amends : Amends Related earlier later)
    (length : later.length = earlier.length) (place : Nat) (amended : α)
    (found : later[place]? = some amended) :
    ∃ entry, earlier[place]? = some entry ∧ Related entry amended := by
  obtain ⟨inside, _⟩ := List.getElem?_eq_some_iff.mp found
  rw [length] at inside
  obtain ⟨_, isOther, related⟩ :=
    amends place earlier[place] (List.getElem?_eq_getElem inside)
  rw [found, Option.some.injEq] at isOther
  exact ⟨earlier[place], List.getElem?_eq_getElem inside, isOther ▸ related⟩

/-- Where the log did not grow, what no amendment changes reads the same. -/
theorem Amends.map_eq {β : Type u} (key : α → β)
    (same : ∀ entry amended, Related entry amended → key amended = key entry)
    {earlier later : List α} (amends : Amends Related earlier later)
    (length : later.length = earlier.length) : later.map key = earlier.map key := by
  refine List.ext_getElem? fun place => ?_
  rw [List.getElem?_map, List.getElem?_map]
  cases found : earlier[place]? with
  | none =>
    rw [List.getElem?_eq_none_iff, ← length, ← List.getElem?_eq_none_iff] at found
    rw [found]
  | some entry =>
    obtain ⟨amended, isAmended, related⟩ := amends place entry found
    rw [isAmended, Option.map_some, Option.map_some, same entry amended related]

end Amendments

section Justification

/-- Every entry meets the law with respect to what the log was when it was added. -/
def Justified (Law : List α → α → Prop) (log : List α) : Prop :=
  ∀ before entry after, log = before ++ entry :: after → Law before entry

variable {Law : List α → α → Prop}

theorem Justified.nil : Justified Law [] := by
  intro before entry after split
  simp at split

theorem Justified.snoc (justified : Justified Law log)
    (law : Law log entry) : Justified Law (log ++ [entry]) := by
  intro before found after split
  rcases List.eq_nil_or_concat after with none | ⟨others, last, some⟩
  · subst none
    obtain ⟨rfl, same⟩ := List.append_inj' split rfl
    simp only [List.cons.injEq, and_true] at same
    rw [← same]
    exact law
  · subst some
    have same : log ++ [entry] = (before ++ found :: others) ++ [last] := by
      simpa using split
    exact justified before found others (List.append_inj' same rfl).1

end Justification

section Numbers

variable (key : α → Nat)

/-- The entries are numbered from 1, without a gap. -/
def Numbered (log : List α) : Prop :=
  log.map key = List.range' 1 log.length

variable {key}

theorem Numbered.nil : Numbered key [] := rfl

section

variable (numbered : Numbered key log)

include numbered

theorem Numbered.snoc
    (next : key entry = log.length + 1) : Numbered key (log ++ [entry]) := by
  unfold Numbered at *
  rw [List.map_append, numbered, List.length_append, List.length_singleton, List.range'_concat]
  simp [next, Nat.add_comm]

theorem Numbered.mem
    (member : entry ∈ log) : 1 ≤ key entry ∧ key entry ≤ log.length := by
  have listed : key entry ∈ List.range' 1 log.length :=
    numbered ▸ List.mem_map_of_mem member
  rw [List.mem_range'_1] at listed
  omega

/-- The largest number is the length. -/
theorem Numbered.foldr_max :
    (log.map key).foldr max 0 = log.length := by
  rw [numbered]
  clear numbered
  generalize log.length = length
  induction length with
  | zero => rfl
  | succ =>
    rw [List.range'_concat, List.foldr_append]
    have absorbs : ∀ (numbers : List Nat) (start : Nat), (∀ number ∈ numbers, number ≤ start) →
        numbers.foldr max start = start := by
      intro numbers start below
      induction numbers with
      | nil => rfl
      | cons head _ tailIh =>
        rw [List.foldr_cons, tailIh fun number member => below number (.tail _ member)]
        exact Nat.max_eq_right (below head (.head _))
    rw [absorbs]
    · simp [Nat.add_comm]
    · intro number member
      rw [List.mem_range'_1] at member
      simp only [List.foldr_cons, List.foldr_nil]
      omega

end

end Numbers

end Log
