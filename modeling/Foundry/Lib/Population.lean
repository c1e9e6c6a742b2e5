import Mathlib.Logic.Relation
import Foundry.Lib.Table

/-!
# Populations

A population is a table of units whose keys are drawn from a counter.  Units are
born under fresh keys, change, and may be removed; a key is never drawn twice.
`Evolves` says this of two moments of one population: every unit of the later
moment descends, by a chain of changes, from the unit that had its key before or
from one born in between.
-/

set_option autoImplicit false

universe u

structure Population (U : Type u) where
  supply : Nat
  units : Table Nat U

namespace Population

open Relation (ReflTransGen)

variable {U : Type u} {Born : U → Prop} {Change : Nat → U → U → Prop}

/-- Every key was drawn before. -/
def Numbered (population : Population U) : Prop :=
  ∀ key unit, population.units.lookup key = some unit → key < population.supply

def All (Holds : Nat → U → Prop) (population : Population U) : Prop :=
  ∀ key unit, population.units.lookup key = some unit → Holds key unit

/-- Where a unit of the later moment comes from. -/
inductive Origin (Born : U → Prop) (Change : Nat → U → U → Prop) (before : Population U)
    (key : Nat) (unit : U) : Prop
  | grown (former : U) (stored : before.units.lookup key = some former)
      (chain : ReflTransGen (Change key) former unit)
  | born (first : U) (fresh : before.supply ≤ key) (birth : Born first)
      (chain : ReflTransGen (Change key) first unit)

structure Evolves (Born : U → Prop) (Change : Nat → U → U → Prop)
    (before after : Population U) : Prop where
  supply : before.supply ≤ after.supply
  numbered : before.Numbered → after.Numbered
  origin : ∀ key unit, after.units.lookup key = some unit →
    Origin Born Change before key unit

namespace Evolves

/-- Nothing happened to the units; keys may have been drawn. -/
theorem frame {before after : Population U}
    (same : after.units = before.units) (supply : before.supply ≤ after.supply) :
    Evolves Born Change before after where
  supply := supply
  numbered := by
    intro numbered key unit stored
    rw [same] at stored
    exact Nat.lt_of_lt_of_le (numbered key unit stored) supply
  origin := by
    intro key unit stored
    rw [same] at stored
    exact .grown unit stored .refl

theorem refl (population : Population U) : Evolves Born Change population population :=
  frame rfl (Nat.le_refl _)

theorem trans {first second third : Population U}
    (earlier : Evolves Born Change first second) (later : Evolves Born Change second third) :
    Evolves Born Change first third where
  supply := Nat.le_trans earlier.supply later.supply
  numbered := fun numbered => later.numbered (earlier.numbered numbered)
  origin := by
    intro key unit stored
    cases later.origin key unit stored with
    | born unborn fresh birth chain =>
      exact .born unborn (Nat.le_trans earlier.supply fresh) birth chain
    | grown former found chain =>
      cases earlier.origin key former found with
      | grown initial held before => exact .grown initial held (before.trans chain)
      | born unborn fresh birth before => exact .born unborn fresh birth (before.trans chain)

section

variable {before after : Population U}

/-- One unit changed. -/
theorem write (key : Nat) (former unit : U) (stored : before.units.lookup key = some former)
    (change : Change key former unit) (same : after.units = before.units.insert key unit)
    (supply : before.supply ≤ after.supply) :
    Evolves Born Change before after where
  supply := supply
  numbered := by
    intro numbered other row found
    rw [same] at found
    obtain ⟨rfl, _⟩ | ⟨_, found⟩ := Table.cases_insert found
    · exact Nat.lt_of_lt_of_le (numbered other former stored) supply
    · exact Nat.lt_of_lt_of_le (numbered other row found) supply
  origin := by
    intro other row found
    rw [same] at found
    obtain ⟨rfl, rfl⟩ | ⟨_, found⟩ := Table.cases_insert found
    · exact .grown former stored (.single change)
    · exact .grown row found .refl

/-- One unit was born under the next key. -/
theorem create (unit : U) (birth : Born unit)
    (same : after.units = before.units.insert before.supply unit)
    (supply : before.supply < after.supply) :
    Evolves Born Change before after where
  supply := Nat.le_of_lt supply
  numbered := by
    intro numbered key row found
    rw [same] at found
    obtain ⟨isKey, _⟩ | ⟨_, found⟩ := Table.cases_insert found
    · rw [isKey]
      exact supply
    · exact Nat.lt_trans (numbered key row found) supply
  origin := by
    intro key row found
    rw [same, Table.lookup_insert_eq] at found
    split at found
    · next isKey =>
      cases found
      exact .born unit (Nat.le_of_eq isKey.symm) birth .refl
    · exact .grown row found .refl

/-- A bulk update changed the units. -/
theorem sweep {rewrite : Nat → U → U} (change : ∀ key unit, Change key unit (rewrite key unit))
    (same : after.units = before.units.updateAll rewrite) (supply : before.supply ≤ after.supply) :
    Evolves Born Change before after where
  supply := supply
  numbered := by
    intro numbered key row found
    rw [same, Table.lookup_updateAll, Option.map_eq_some_iff] at found
    obtain ⟨unit, stored, _⟩ := found
    exact Nat.lt_of_lt_of_le (numbered key unit stored) supply
  origin := by
    intro key row found
    rw [same, Table.lookup_updateAll, Option.map_eq_some_iff] at found
    obtain ⟨unit, stored, rfl⟩ := found
    exact .grown unit stored (.single (change key unit))

/-- A bulk deletion removed units. -/
theorem remove (stays : Nat → U → Bool) (same : after.units = before.units.keep stays)
    (supply : before.supply ≤ after.supply) :
    Evolves Born Change before after where
  supply := supply
  numbered := by
    intro numbered key row found
    rw [same, Table.lookup_keep_eq_some] at found
    exact Nat.lt_of_lt_of_le (numbered key row found.1) supply
  origin := by
    intro key row found
    rw [same, Table.lookup_keep_eq_some] at found
    exact .grown row found.1 .refl

/-- What a birth gives and every change keeps, every unit has. -/
theorem all (Holds : Nat → U → Prop) (evolves : Evolves Born Change before after)
    (birth : ∀ key unit, Born unit → Holds key unit)
    (change : ∀ key unit next, Holds key unit → Change key unit next → Holds key next)
    (start : before.All Holds) :
    after.All Holds := by
  have carried : ∀ key former unit, Holds key former →
      ReflTransGen (Change key) former unit → Holds key unit := by
    intro key former unit holds chain
    induction chain with
    | refl => exact holds
    | tail _ last ih => exact change key _ _ ih last
  intro key unit stored
  cases evolves.origin key unit stored with
  | grown former found chain => exact carried key former unit (start key former found) chain
  | born first _ born chain => exact carried key first unit (birth key first born) chain

/-- A relation that every change establishes holds between what a unit was and
what it became. -/
theorem relates (Holds : Nat → U → Prop) (Related : Nat → U → U → Prop)
    (reflexive : ∀ key unit, Related key unit unit) (transitive : ∀ {key first second third},
      Related key first second → Related key second third → Related key first third)
    (evolves : Evolves Born Change before after)
    (change : ∀ key unit next, Holds key unit → Change key unit next →
      Holds key next ∧ Related key unit next)
    (start : before.All Holds) (key : Nat) (unit : U) (drawn : key < before.supply)
    (stored : after.units.lookup key = some unit) :
    ∃ former, before.units.lookup key = some former ∧ Related key former unit := by
  have carried : ∀ former unit, Holds key former → ReflTransGen (Change key) former unit →
      Holds key unit ∧ Related key former unit := by
    intro former unit holds chain
    induction chain with
    | refl => exact ⟨holds, reflexive key former⟩
    | tail _ last ih =>
      have next := change key _ _ ih.1 last
      exact ⟨next.1, transitive ih.2 next.2⟩
  cases evolves.origin key unit stored with
  | grown former found chain =>
    exact ⟨former, found, (carried former unit (start key former found) chain).2⟩
  | born => omega

/-- The unit with a drawn key was removed. -/
theorem removed (evolves : Evolves Born Change before after)
    (key : Nat) (drawn : key < before.supply) (gone : before.units.lookup key = none) :
    key < after.supply ∧ after.units.lookup key = none := by
  refine ⟨Nat.lt_of_lt_of_le drawn evolves.supply, ?_⟩
  cases present : after.units.lookup key with
  | none => rfl
  | some unit =>
    cases evolves.origin key unit present with
    | grown _ stored =>
      rw [gone] at stored
      cases stored
    | born => omega

end

end Evolves

end Population
