import Mathlib.Logic.Basic

/-!
# Records

A record is found in a state by its key.  It changes, and it may be removed; once
removed it does not come back.  `Continues` compares the records of two moments:
each is still there, related to what it was, or is gone for good.
-/

set_option autoImplicit false

universe u v w

structure Records (State : Type u) (Key : Type v) (Row : Type w) where
  find : State → Key → Option Row
  /-- The record was removed, and nothing is found under its key again. -/
  Gone : State → Key → Prop

namespace Records

variable {State : Type u} {Key : Type v} {Row : Type w}

structure Continues (records : Records State Key Row) (Related : Row → Row → Prop)
    (before after : State) : Prop where
  kept : ∀ key row, records.find before key = some row →
    (∃ later, records.find after key = some later ∧ Related row later) ∨ records.Gone after key
  gone : ∀ key, records.Gone before key → records.Gone after key

namespace Continues

variable {records : Records State Key Row} {Related : Row → Row → Prop}

theorem refl (reflexive : ∀ row, Related row row) (state : State) :
    records.Continues Related state state where
  kept := fun _ row found => .inl ⟨row, found, reflexive row⟩
  gone := fun _ removed => removed

theorem trans (Related : Row → Row → Prop) (transitive : ∀ {first second third},
      Related first second → Related second third → Related first third)
    {first second third : State} (earlier : records.Continues Related first second)
    (later : records.Continues Related second third) :
    records.Continues Related first third where
  kept := by
    intro key row found
    rcases earlier.kept key row found with ⟨middle, present, before⟩ | removed
    · rcases later.kept key middle present with ⟨last, stored, after⟩ | removed
      · exact .inl ⟨last, stored, transitive before after⟩
      · exact .inr removed
    · exact .inr (later.gone key removed)
  gone := fun key removed => later.gone key (earlier.gone key removed)

end Continues

end Records
