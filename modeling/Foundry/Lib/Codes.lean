import Mathlib.Data.List.Basic

/-!
# Delimiting codes

A code spells values as words over an alphabet.  It is delimiting when the word of a value, with
anything of a kind after it, tells the value and where the word ends.
-/

set_option autoImplicit false

namespace Code

variable {α β σ : Type}

/-- A word tells its value and its end, whatever follows that satisfies `follows`. -/
def Delimits (follows : List σ → Prop) (code : α → List σ) : Prop :=
  ∀ ⦃left right : α⦄ ⦃after later : List σ⦄, follows after → follows later →
    code left ++ after = code right ++ later → left = right ∧ after = later

/-- The rest does not go on with a letter of this kind. -/
def Closes (letters : σ → Bool) (rest : List σ) : Prop :=
  ∀ letter ∈ rest.head?, letters letter = false

variable {follows : List σ → Prop} {code : α → List σ} {letters : σ → Bool}

theorem closes_nil : Closes letters [] := by
  rintro _ ⟨⟩

theorem closes_cons {letter : σ} (rest : List σ) (closed : letters letter = false) :
    Closes letters (letter :: rest) := by
  rintro _ ⟨⟩
  exact closed

/-- A code that can be read back delimits. -/
theorem Delimits.of_reader (read : List σ → Option (α × List σ))
    (reads : ∀ value rest, read (code value ++ rest) = some (value, rest)) :
    Delimits (fun _ => True) code := by
  intro left right after later _ _ same
  have both := reads left after
  rw [same, reads right later, Option.some.injEq, Prod.mk.injEq] at both
  exact ⟨both.1.symm, both.2.symm⟩

/-- Words of letters of one kind end where the next letter is of another. -/
theorem append_inj_of_closes {left right after later : List σ}
    (lefts : ∀ letter ∈ left, letters letter = true)
    (rights : ∀ letter ∈ right, letters letter = true) (ended : Closes letters after)
    (closed : Closes letters later) (same : left ++ after = right ++ later) :
    left = right ∧ after = later := by
  induction left generalizing right with
  | nil =>
    cases right with
    | nil => exact ⟨rfl, same⟩
    | cons head =>
      rw [List.nil_append, List.cons_append] at same
      have letter := ended head (by rw [same]; rfl)
      rw [rights head List.mem_cons_self] at letter
      cases letter
  | cons head _ ih =>
    cases right with
    | nil =>
      rw [List.nil_append, List.cons_append] at same
      have letter := closed head (by rw [← same]; rfl)
      rw [lefts head List.mem_cons_self] at letter
      cases letter
    | cons =>
      rw [List.cons_append, List.cons_append, List.cons.injEq] at same
      obtain ⟨rfl, tails⟩ := ih (fun letter member => lefts letter (List.mem_cons_of_mem _ member))
        (fun letter member => rights letter (List.mem_cons_of_mem _ member)) same.2
      exact ⟨by rw [same.1], tails⟩

/-- The word of a list between the words of its values and a letter that begins none of them. -/
theorem Delimits.flatMap_stop {stop : σ} (delimits : Delimits (fun _ => True) code)
    (starts : ∀ value, ∃ head rest, code value = head :: rest ∧ head ≠ stop) :
    Delimits (fun _ => True) (fun values : List α => values.flatMap code ++ [stop]) := by
  intro left right after later _ _ same
  induction left generalizing right with
  | nil =>
    cases right with
    | nil => simpa using same
    | cons value =>
      obtain ⟨_, _, word, other⟩ := starts value
      simp only [List.flatMap_nil, List.flatMap_cons, word, List.nil_append, List.cons_append,
        List.cons.injEq] at same
      exact absurd same.1.symm other
  | cons value _ ih =>
    cases right with
    | nil =>
      obtain ⟨_, _, word, other⟩ := starts value
      simp only [List.flatMap_nil, List.flatMap_cons, word, List.nil_append, List.cons_append,
        List.cons.injEq] at same
      exact absurd same.1 other
    | cons =>
      simp only [List.flatMap_cons, List.append_assoc] at same
      obtain ⟨rfl, tails⟩ := delimits trivial trivial same
      obtain ⟨rfl, ends⟩ := ih (by simpa only [List.append_assoc] using tails)
      exact ⟨rfl, ends⟩

end Code
