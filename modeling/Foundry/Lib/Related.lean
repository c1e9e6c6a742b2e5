import Mathlib.Data.List.Forall2
import Foundry.Lib.Raise

/-!
# Lists that are related item by item

What a traversal gives is related to its list item by item; the rules here carry that relation
through membership, filters and concatenation.
-/

set_option autoImplicit false

namespace Related

open Raise

variable {α β γ ε : Type} {related : α → β → Prop} {left : List α} {right : List β}

theorem exists_left (pairs : List.Forall₂ related left right) (item : β) (member : item ∈ right) :
    ∃ partner ∈ left, related partner item := by
  induction pairs with
  | nil => cases member
  | @cons partner other _ _ first _ ih =>
    rcases List.mem_cons.mp member with rfl | member
    · exact ⟨partner, List.mem_cons_self, first⟩
    · obtain ⟨found, listed, holds⟩ := ih member
      exact ⟨found, List.mem_cons_of_mem _ listed, holds⟩

theorem exists_right (pairs : List.Forall₂ related left right) (item : α) (member : item ∈ left) :
    ∃ partner ∈ right, related item partner :=
  exists_left pairs.flip item member

theorem exists_related (each : ∀ item ∈ left, ∃ partner, related item partner) :
    ∃ right, List.Forall₂ related left right := by
  induction left with
  | nil => exact ⟨[], .nil⟩
  | cons item _ ih =>
    obtain ⟨partner, first⟩ := each item List.mem_cons_self
    obtain ⟨partners, others⟩ := ih fun item member => each item (List.mem_cons_of_mem _ member)
    exact ⟨partner :: partners, .cons first others⟩

section

variable {test : α → Bool} {check : β → Bool} (pairs : List.Forall₂ related left right)

include pairs

theorem all_eq
    (agree : ∀ item ∈ left, ∀ partner, related item partner → check partner = test item) :
    right.all check = left.all test := by
  induction pairs with
  | nil => rfl
  | @cons item partner _ _ first _ ih =>
    rw [List.all_cons, List.all_cons, agree item List.mem_cons_self partner first,
      ih fun item member => agree item (List.mem_cons_of_mem _ member)]

theorem filter (agree : ∀ item partner, related item partner → test item = check partner) :
    List.Forall₂ related (left.filter test) (right.filter check) := by
  induction pairs with
  | nil => exact .nil
  | @cons item partner _ _ first _ ih =>
    rw [List.filter_cons, List.filter_cons, agree item partner first]
    split
    · exact .cons first ih
    · exact ih

end

theorem getLast? (pairs : List.Forall₂ related left right) (item : β)
    (last : right.getLast? = some item) :
    ∃ partner, left.getLast? = some partner ∧ related partner item := by
  induction pairs with
  | nil => cases last
  | @cons partner other rest others first tail ih =>
    cases tail with
    | nil =>
      rw [List.getLast?_singleton, Option.some.injEq] at last
      exact ⟨partner, List.getLast?_singleton, last ▸ first⟩
    | cons =>
      rw [List.getLast?_cons_cons] at last ⊢
      exact ih last

theorem flatMap {spread : γ → List α} {items : List γ} {lists : List (List β)}
    (pairs : List.Forall₂ (fun item list => List.Forall₂ related (spread item) list) items lists) :
    List.Forall₂ related (items.flatMap spread) lists.flatten := by
  induction pairs with
  | nil => exact .nil
  | cons first _ ih =>
    rw [List.flatMap_cons, List.flatten_cons]
    exact List.rel_append first ih

/-- What a traversal whose body may raise gives. -/
theorem mapM_eq_ok (body : α → Except ε β) (items : List α) (values : List β) :
    items.mapM body = .ok values ↔
      List.Forall₂ (fun item value => body item = .ok value) items values := by
  induction items generalizing values with
  | nil =>
    rw [List.mapM_nil, pure_eq_ok, List.forall₂_nil_left_iff]
    exact eq_comm
  | cons _ _ ih =>
    simp only [List.mapM_cons, bind_eq_ok, pure_eq_ok, List.forall₂_cons_left_iff]
    constructor
    · rintro ⟨value, first, values, others, rfl⟩
      exact ⟨value, values, first, (ih values).mp others, rfl⟩
    · rintro ⟨value, values, first, others, rfl⟩
      exact ⟨value, first, values, (ih values).mpr others, rfl⟩

end Related
