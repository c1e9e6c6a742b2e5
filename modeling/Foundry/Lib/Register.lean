import Mathlib.Logic.Basic

/-!
# Compare-and-set registers

A register holds a value or nothing.  An update names the value it expects and the
value it writes.  `Chain` says of the accepted updates of a register that they form
one line: each one was made on what the one before it left, or wrote the value that
was there already.
-/

set_option autoImplicit false

universe u

namespace Register

variable {α : Type u}

structure Update (α : Type u) where
  expected : Option α
  new : α
deriving DecidableEq, Repr

/-- The updates, in this order, lead from one content of the register to another. -/
def Chain : Option α → List (Update α) → Option α → Prop
  | content, [], final => final = content
  | content, update :: rest, final =>
    (update.expected = content ∨ content = some update.new) ∧
      Chain (some update.new) rest final

@[simp] theorem chain_nil (content final : Option α) :
    Chain content [] final ↔ final = content :=
  Iff.rfl

theorem Chain.append {first second third : Option α} {before after : List (Update α)}
    (earlier : Chain first before second) (later : Chain second after third) :
    Chain first (before ++ after) third := by
  induction before generalizing first with
  | nil =>
    cases earlier
    exact later
  | cons _ _ ih => exact ⟨earlier.1, ih earlier.2⟩

/-- A content that changed was changed by an update that expected it. -/
theorem Chain.of_changed {content final : Option α} {update : Option (Update α)}
    (chain : Chain content update.toList final) (changed : final ≠ content) :
    ∃ new, update = some ⟨content, new⟩ ∧ final = some new := by
  cases update with
  | none => exact absurd chain changed
  | some update =>
    obtain ⟨current, isNew⟩ := chain
    rcases current with rfl | present
    · exact ⟨update.new, rfl, isNew⟩
    · exact absurd (isNew.trans present.symm) changed

end Register
