import Mathlib.Data.List.Perm.Basic
import Foundry.Lib.Related
import Foundry.Model.CanonicalJson
import Foundry.Services.Contracts

/-!
# Fingerprints

`canonical_json_bytes` gives one text to the values that are equal once their strings and keys are
normalized, and no text to a value whose keys collide then.
-/

set_option autoImplicit false

namespace Foundry

open Raise

/-! ## Canonical bytes -/

/-- `canonical_json_bytes` of `contracts.py`. -/
def canonicalJsonBytes (nfc : String → String) (value : Json) :
    Except RuntimeError ByteArray := do
  let normalized ← normalizeJson nfc value
  require (normalized.isPrintable = true) (validationError "contract contains invalid JSON")
  return (String.ofList normalized.spell).toUTF8

/-! ## Equality after normalization -/

namespace Json

section Same

variable (nfc : String → String)

mutual

/-- The values are equal once every string and key is normalized; the members of an object may
stand in any order. -/
inductive Same : Json → Json → Prop
  | null : Same .null .null
  | bool (value : Bool) : Same (.bool value) (.bool value)
  | int (value : Int) : Same (.int value) (.int value)
  | float (literal : String) : Same (.float literal) (.float literal)
  | str {left right : String} (texts : nfc left = nfc right) : Same (.str left) (.str right)
  | arr {left right : List Json} (items : SameItems left right) : Same (.arr left) (.arr right)
  | obj {left middle right : List (String × Json)} (reordered : left.Perm middle)
      (members : SameMembers middle right) : Same (.obj left) (.obj right)

inductive SameItems : List Json → List Json → Prop
  | nil : SameItems [] []
  | cons {left right : Json} {lefts rights : List Json} (head : Same left right)
      (tail : SameItems lefts rights) : SameItems (left :: lefts) (right :: rights)

inductive SameMembers : List (String × Json) → List (String × Json) → Prop
  | nil : SameMembers [] []
  | cons {left right : String × Json} {lefts rights : List (String × Json)}
      (names : nfc left.1 = nfc right.1) (values : Same left.2 right.2)
      (tail : SameMembers lefts rights) : SameMembers (left :: lefts) (right :: rights)

end

mutual

def isUnambiguous : Json → Bool
  | .null | .bool _ | .int _ | .float _ | .str _ => true
  | .arr items => itemsUnambiguous items
  | .obj members =>
    decide (members.map fun member => nfc member.1).Nodup && membersUnambiguous members

def itemsUnambiguous : List Json → Bool
  | [] => true
  | item :: rest => isUnambiguous item && itemsUnambiguous rest

def membersUnambiguous : List (String × Json) → Bool
  | [] => true
  | (_, value) :: rest => isUnambiguous value && membersUnambiguous rest

end

end Same

/-! ## Induction -/

theorem nested_induction {motive : Json → Prop} (null : motive .null)
    (bool : ∀ value, motive (.bool value)) (int : ∀ value, motive (.int value))
    (float : ∀ literal, motive (.float literal)) (str : ∀ text, motive (.str text))
    (arr : ∀ items, (∀ item ∈ items, motive item) → motive (.arr items))
    (obj : ∀ members, (∀ member ∈ members, motive member.2) → motive (.obj members))
    (value : Json) : motive value := by
  refine @Json.rec motive (fun items => ∀ item ∈ items, motive item)
    (fun members => ∀ member ∈ members, motive member.2) (fun member => motive member.2) null bool
    int float str arr obj ?_ ?_ ?_ ?_ ?_ value
  · rintro _ ⟨⟩
  · intro head tail first rest
    exact List.forall_mem_cons.mpr ⟨first, rest⟩
  · rintro _ ⟨⟩
  · intro head tail first rest
    exact List.forall_mem_cons.mpr ⟨first, rest⟩
  · intro name value holds
    exact holds

theorem itemsPrintable_eq (items : List Json) : itemsPrintable items = items.all isPrintable := by
  induction items with
  | nil => rfl
  | cons _ _ ih => rw [itemsPrintable, ih, List.all_cons]

theorem membersPrintable_eq (members : List (String × Json)) :
    membersPrintable members = members.all fun member => isPrintable member.2 := by
  induction members with
  | nil => rfl
  | cons _ _ ih => rw [membersPrintable, ih, List.all_cons]

theorem itemsUnambiguous_eq (nfc : String → String) (items : List Json) :
    itemsUnambiguous nfc items = items.all (isUnambiguous nfc) := by
  induction items with
  | nil => rfl
  | cons _ _ ih => rw [itemsUnambiguous, ih, List.all_cons]

theorem membersUnambiguous_eq (nfc : String → String) (members : List (String × Json)) :
    membersUnambiguous nfc members = members.all fun member => isUnambiguous nfc member.2 := by
  induction members with
  | nil => rfl
  | cons _ _ ih => rw [membersUnambiguous, ih, List.all_cons]

end Json

/-! ## What a normalization gives -/

variable {right left : Json}

section Normalize

variable {nfc : String → String}

def Normalizes (nfc : String → String) (member normalized : String × Json) : Prop :=
  normalized.1 = nfc member.1 ∧ normalizeJson nfc member.2 = .ok normalized.2

theorem normalizeItems_eq_ok (items normalized : List Json) :
    normalizeItems nfc items = .ok normalized ↔
      List.Forall₂ (fun item value => normalizeJson nfc item = .ok value) items normalized := by
  induction items generalizing normalized with
  | nil =>
    rw [normalizeItems, pure_eq_ok, List.forall₂_nil_left_iff]
    exact eq_comm
  | cons _ _ ih =>
    simp only [normalizeItems, bind_eq_ok, pure_eq_ok, List.forall₂_cons_left_iff]
    constructor
    · rintro ⟨value, first, values, others, rfl⟩
      exact ⟨value, values, first, (ih values).mp others, rfl⟩
    · rintro ⟨value, values, first, others, rfl⟩
      exact ⟨value, first, values, (ih values).mpr others, rfl⟩

variable {members : List (String × Json)}

theorem Normalizes.keys_eq {normalized : List (String × Json)}
    (normalizes : List.Forall₂ (Normalizes nfc) members normalized) :
    normalized.map Prod.fst = members.map fun member => nfc member.1 := by
  induction normalizes with
  | nil => rfl
  | cons first _ ih => rw [List.map_cons, List.map_cons, ih, first.1]

theorem normalizeMembers_eq_ok (members normalized : List (String × Json)) (seen : List String) :
    normalizeMembers nfc seen members = .ok normalized ↔
      List.Forall₂ (Normalizes nfc) members normalized ∧ (normalized.map Prod.fst).Nodup ∧
        ∀ key ∈ normalized.map Prod.fst, key ∉ seen := by
  induction members generalizing normalized seen with
  | nil =>
    rw [normalizeMembers, pure_eq_ok, List.forall₂_nil_left_iff]
    constructor
    · rintro rfl
      exact ⟨rfl, List.nodup_nil, by rintro key ⟨⟩⟩
    · rintro ⟨rfl, _⟩
      rfl
  | cons member _ ih =>
    simp only [normalizeMembers, bind_eq_ok, pure_eq_ok, require_eq_ok, List.forall₂_cons_left_iff]
    constructor
    · rintro ⟨_, fresh, value, first, values, others, rfl⟩
      obtain ⟨normalizes, distinct, unseen⟩ := (ih values _).mp others
      refine ⟨⟨(nfc member.1, value), values, ⟨rfl, first⟩, normalizes, rfl⟩, ?_, ?_⟩
      · rw [List.map_cons, List.nodup_cons]
        refine ⟨?_, distinct⟩
        intro repeated
        exact unseen _ repeated List.mem_cons_self
      · rw [List.map_cons, List.forall_mem_cons]
        exact ⟨fresh, fun key listed old => unseen key listed (List.mem_cons_of_mem _ old)⟩
    · rintro ⟨⟨⟨key, value⟩, values, ⟨named, first⟩, normalizes, rfl⟩, distinct, unseen⟩
      dsimp only at named first
      subst named
      rw [List.map_cons, List.nodup_cons] at distinct
      rw [List.map_cons, List.forall_mem_cons] at unseen
      refine ⟨(), unseen.1, value, first, values, (ih values _).mpr ⟨normalizes, distinct.2, ?_⟩,
        rfl⟩
      intro key listed old
      rcases List.mem_cons.mp old with rfl | old
      · exact distinct.1 listed
      · exact unseen.2 key listed old

variable {value : Json}

theorem normalizeJson_obj (normalized : normalizeJson nfc (.obj members) = .ok value) :
    ∃ values, List.Forall₂ (Normalizes nfc) members values ∧ (values.map Prod.fst).Nodup ∧
      value = .obj (values.insertionSort memberOrder) := by
  simp only [normalizeJson, bind_eq_ok, pure_eq_ok] at normalized
  obtain ⟨values, listed, rfl⟩ := normalized
  obtain ⟨normalizes, distinct, _⟩ := (normalizeMembers_eq_ok members values []).mp listed
  exact ⟨values, normalizes, distinct, rfl⟩

theorem normalizeJson_arr {items : List Json}
    (normalized : normalizeJson nfc (.arr items) = .ok value) :
    ∃ values, List.Forall₂ (fun item value => normalizeJson nfc item = .ok value) items values ∧
      value = .arr values := by
  simp only [normalizeJson, bind_eq_ok, pure_eq_ok] at normalized
  obtain ⟨values, listed, rfl⟩ := normalized
  exact ⟨values, (normalizeItems_eq_ok items values).mp listed, rfl⟩

/-! ## Key order -/

instance : Std.Total memberOrder := ⟨fun left right => String.le_total left.1 right.1⟩

instance : IsTrans (String × Json) memberOrder :=
  ⟨fun _ _ _ first second => String.le_trans first second⟩

theorem sorted_eq_of_perm {left right : List (String × Json)} (perm : left.Perm right)
    (distinct : (left.map Prod.fst).Nodup) :
    left.insertionSort memberOrder = right.insertionSort memberOrder := by
  refine List.Perm.eq_of_pairwise ?_ (List.pairwise_insertionSort _ left)
    (List.pairwise_insertionSort _ right)
    (((List.perm_insertionSort _ left).trans perm).trans (List.perm_insertionSort _ right).symm)
  intro member other listed among below above
  rw [List.mem_insertionSort] at listed among
  exact List.inj_on_of_nodup_map distinct listed (perm.mem_iff.mpr among)
    (String.le_antisymm below above)

/-! ## One normal form -/

theorem sameMembers_of_normalizes {left right values : List (String × Json)}
    (lefts : List.Forall₂ (Normalizes nfc) left values)
    (rights : List.Forall₂ (Normalizes nfc) right values)
    (same : ∀ member ∈ left, ∀ (other value : Json), normalizeJson nfc member.2 = .ok value →
      normalizeJson nfc other = .ok value → member.2.Same nfc other) :
    Json.SameMembers nfc left right := by
  induction lefts generalizing right with
  | nil =>
    cases rights
    exact .nil
  | @cons member value members values first _ ih =>
    cases rights with
    | @cons other _ others _ second rest =>
      refine .cons (first.1.symm.trans second.1) ?_ (ih rest ?_)
      · exact same member List.mem_cons_self other.2 value.2 first.2 second.2
      · exact fun member listed => same member (List.mem_cons_of_mem _ listed)

theorem sameItems_of_normalizes {left right values : List Json}
    (lefts : List.Forall₂ (fun item value => normalizeJson nfc item = .ok value) left values)
    (rights : List.Forall₂ (fun item value => normalizeJson nfc item = .ok value) right values)
    (same : ∀ item ∈ left, ∀ (other value : Json), normalizeJson nfc item = .ok value →
      normalizeJson nfc other = .ok value → item.Same nfc other) :
    Json.SameItems nfc left right := by
  induction lefts generalizing right with
  | nil =>
    cases rights
    exact .nil
  | @cons item value items values first _ ih =>
    cases rights with
    | @cons other _ others _ second rest =>
      refine .cons ?_ (ih rest ?_)
      · exact same item List.mem_cons_self other value first second
      · exact fun item listed => same item (List.mem_cons_of_mem _ listed)

theorem lead_normalized {normalized : Json}
    (success : normalizeJson nfc value = .ok normalized) : normalized.lead = value.lead := by
  cases value with
  | arr =>
    obtain ⟨_, _, rfl⟩ := normalizeJson_arr success
    rfl
  | obj =>
    obtain ⟨_, _, _, rfl⟩ := normalizeJson_obj success
    rfl
  | null | bool | int | float | str =>
    rw [normalizeJson, pure_eq_ok] at success
    subst success
    rfl

theorem same_of_normalized (left right value : Json)
    (first : normalizeJson nfc left = .ok value) (second : normalizeJson nfc right = .ok value) :
    left.Same nfc right := by
  have leads : right.lead = left.lead :=
    (lead_normalized second).symm.trans (lead_normalized first)
  induction left using Json.nested_induction generalizing right value with
  | null =>
    cases right with
    | null => exact .null
    | bool flag => cases flag <;> cases leads
    | _ => cases leads
  | bool flag =>
    cases right with
    | bool =>
      rw [normalizeJson, pure_eq_ok] at first second
      rw [← first, Json.bool.injEq] at second
      rw [second]
      exact .bool flag
    | _ => cases flag <;> cases leads
  | int number =>
    rw [normalizeJson, pure_eq_ok] at first
    subst first
    cases right with
    | int =>
      rw [normalizeJson, pure_eq_ok, Json.int.injEq] at second
      rw [second]
      exact .int number
    | float =>
      rw [normalizeJson, pure_eq_ok] at second
      cases second
    | bool flag => cases flag <;> cases leads
    | _ => cases leads
  | float literal =>
    rw [normalizeJson, pure_eq_ok] at first
    subst first
    cases right with
    | float =>
      rw [normalizeJson, pure_eq_ok, Json.float.injEq] at second
      rw [second]
      exact .float literal
    | int =>
      rw [normalizeJson, pure_eq_ok] at second
      cases second
    | bool flag => cases flag <;> cases leads
    | _ => cases leads
  | str =>
    cases right with
    | str =>
      rw [normalizeJson, pure_eq_ok] at first second
      rw [← first, Json.str.injEq] at second
      exact .str second.symm
    | bool flag => cases flag <;> cases leads
    | _ => cases leads
  | arr _ ih =>
    obtain ⟨_, normalizes, rfl⟩ := normalizeJson_arr first
    cases right with
    | arr =>
      obtain ⟨_, normalized, listed⟩ := normalizeJson_arr second
      cases listed
      refine .arr (sameItems_of_normalizes normalizes normalized ?_)
      intro item member other value alone too
      exact ih item member other value alone too
        ((lead_normalized too).symm.trans (lead_normalized alone))
    | bool flag => cases flag <;> cases leads
    | _ => cases leads
  | obj members ih =>
    obtain ⟨values, normalizes, _, rfl⟩ := normalizeJson_obj first
    cases right with
    | obj =>
      obtain ⟨shown, normalized, _, sorted⟩ := normalizeJson_obj second
      have perm : values.Perm shown :=
        ((List.perm_insertionSort memberOrder values).symm.trans
          (List.Perm.of_eq (Json.obj.inj sorted))).trans (List.perm_insertionSort _ shown)
      have moved : Relation.Comp (List.Forall₂ (Normalizes nfc)) List.Perm members shown :=
        ⟨values, normalizes, perm⟩
      rw [List.forall₂_comp_perm_eq_perm_comp_forall₂] at moved
      obtain ⟨_, reordered, matched⟩ := moved
      refine .obj reordered (sameMembers_of_normalizes matched normalized ?_)
      intro member listed other value alone too
      exact ih member (reordered.mem_iff.mpr listed) other value alone too
        ((lead_normalized too).symm.trans (lead_normalized alone))
    | bool flag => cases flag <;> cases leads
    | _ => cases leads

theorem items_eq_of_same {left right first second : List Json}
    (same : Json.SameItems nfc left right)
    (lefts : List.Forall₂ (fun item value => normalizeJson nfc item = .ok value) left first)
    (rights : List.Forall₂ (fun item value => normalizeJson nfc item = .ok value) right second)
    (unique : ∀ item ∈ left, ∀ other value shown : Json, item.Same nfc other →
      normalizeJson nfc item = .ok value → normalizeJson nfc other = .ok shown → value = shown) :
    first = second := by
  induction left generalizing right first second with
  | nil =>
    cases same
    cases lefts
    cases rights
    rfl
  | cons item _ ih =>
    cases same with
    | cons head tail =>
      cases lefts with
      | cons alone others =>
        cases rights with
        | cons too more =>
          rw [unique item List.mem_cons_self _ _ _ head alone too, ih tail others more
            fun item listed => unique item (List.mem_cons_of_mem _ listed)]

theorem members_eq_of_same {left right first second : List (String × Json)}
    (same : Json.SameMembers nfc left right) (lefts : List.Forall₂ (Normalizes nfc) left first)
    (rights : List.Forall₂ (Normalizes nfc) right second)
    (unique : ∀ member ∈ left, ∀ other value shown : Json, member.2.Same nfc other →
      normalizeJson nfc member.2 = .ok value → normalizeJson nfc other = .ok shown →
      value = shown) : first = second := by
  induction left generalizing right first second with
  | nil =>
    cases same
    cases lefts
    cases rights
    rfl
  | cons member _ ih =>
    cases same with
    | cons names values tail =>
      cases lefts with
      | cons alone others =>
        cases rights with
        | cons too more =>
          have named := (alone.1.trans names).trans too.1.symm
          have valued := unique member List.mem_cons_self _ _ _ values alone.2 too.2
          rw [Prod.ext named valued, ih tail others more
            fun member listed => unique member (List.mem_cons_of_mem _ listed)]

theorem normalized_eq_of_same (left right value shown : Json) (same : left.Same nfc right)
    (first : normalizeJson nfc left = .ok value) (second : normalizeJson nfc right = .ok shown) :
    value = shown := by
  induction left using Json.nested_induction generalizing right value shown with
  | arr _ ih =>
    cases same with
    | arr listed =>
      obtain ⟨_, normalizes, rfl⟩ := normalizeJson_arr first
      obtain ⟨_, normalized, rfl⟩ := normalizeJson_arr second
      rw [items_eq_of_same listed normalizes normalized ih]
  | obj _ ih =>
    cases same with
    | @obj _ middle others reordered listed =>
      obtain ⟨_, normalizes, distinct, rfl⟩ := normalizeJson_obj first
      obtain ⟨_, normalized, _, rfl⟩ := normalizeJson_obj second
      obtain ⟨_, matched, perm⟩ := List.perm_comp_forall₂ reordered.symm normalizes
      have equal := members_eq_of_same listed matched normalized fun member inside =>
        ih member (reordered.mem_iff.mpr inside)
      rw [sorted_eq_of_perm perm.symm distinct, equal]
  | str =>
    cases same with
    | str texts =>
      rw [normalizeJson, pure_eq_ok] at first second
      rw [← first, ← second, texts]
  | null | bool | int | float =>
    cases same
    rw [first] at second
    exact Except.ok.inj second

/-! ## What is accepted -/

section

variable (value normalized : Json) (success : normalizeJson nfc value = .ok normalized)

include normalized success

theorem printable_normalized :
    normalized.isPrintable = value.isPrintable := by
  induction value using Json.nested_induction generalizing normalized with
  | arr _ ih =>
    obtain ⟨_, normalizes, rfl⟩ := normalizeJson_arr success
    rw [Json.isPrintable, Json.isPrintable, Json.itemsPrintable_eq, Json.itemsPrintable_eq]
    exact Related.all_eq normalizes ih
  | obj _ ih =>
    obtain ⟨values, normalizes, _, rfl⟩ := normalizeJson_obj success
    rw [Json.isPrintable, Json.isPrintable, Json.membersPrintable_eq, Json.membersPrintable_eq,
      (List.perm_insertionSort memberOrder values).all_eq]
    exact Related.all_eq normalizes fun member listed value both => ih member listed _ both.2
  | null | bool | int | float | str =>
    rw [normalizeJson, pure_eq_ok] at success
    subst success
    rfl

theorem unambiguous_of_normalized : value.isUnambiguous nfc = true := by
  induction value using Json.nested_induction generalizing normalized with
  | arr _ ih =>
    obtain ⟨_, normalizes, rfl⟩ := normalizeJson_arr success
    rw [Json.isUnambiguous, Json.itemsUnambiguous_eq, List.all_eq_true]
    intro item member
    obtain ⟨value, _, first⟩ := Related.exists_right normalizes item member
    exact ih item member value first
  | obj _ ih =>
    obtain ⟨_, normalizes, distinct, rfl⟩ := normalizeJson_obj success
    rw [Json.isUnambiguous, Json.membersUnambiguous_eq, Bool.and_eq_true, List.all_eq_true,
      decide_eq_true_eq, ← Normalizes.keys_eq normalizes]
    refine ⟨distinct, ?_⟩
    intro member listed
    obtain ⟨value, _, both⟩ := Related.exists_right normalizes member listed
    exact ih member listed value.2 both.2
  | null | bool | int | float | str => rfl

end

theorem normalized_of_unambiguous (value : Json) (unambiguous : value.isUnambiguous nfc = true) :
    ∃ normalized, normalizeJson nfc value = .ok normalized := by
  induction value using Json.nested_induction with
  | arr items ih =>
    rw [Json.isUnambiguous, Json.itemsUnambiguous_eq, List.all_eq_true] at unambiguous
    obtain ⟨values, normalizes⟩ := Related.exists_related fun item member =>
      ih item member (unambiguous item member)
    exact ⟨.arr values, by
      rw [normalizeJson, (normalizeItems_eq_ok items values).mpr normalizes]
      rfl⟩
  | obj members ih =>
    rw [Json.isUnambiguous, Json.membersUnambiguous_eq, Bool.and_eq_true, List.all_eq_true,
      decide_eq_true_eq] at unambiguous
    obtain ⟨distinct, each⟩ := unambiguous
    have every : ∀ member ∈ members, ∃ normalized, Normalizes nfc member normalized := by
      intro member listed
      obtain ⟨value, first⟩ := ih member listed (each member listed)
      exact ⟨(nfc member.1, value), rfl, first⟩
    obtain ⟨values, normalizes⟩ := Related.exists_related every
    have listed : normalizeMembers nfc [] members = .ok values := by
      refine (normalizeMembers_eq_ok members values []).mpr ⟨normalizes, ?_, ?_⟩
      · rw [Normalizes.keys_eq normalizes]
        exact distinct
      · rintro _ _ ⟨⟩
    exact ⟨.obj (values.insertionSort memberOrder), by
      rw [normalizeJson, listed]
      rfl⟩
  | null | bool | int | float | str => exact ⟨_, rfl⟩

def isAmbiguousError (error : RuntimeError) : Prop :=
  error = validationError "contract object keys are ambiguous"

theorem normalizeItems_raises (items : List Json)
    (each : ∀ item ∈ items, RaisesOnly isAmbiguousError (normalizeJson nfc item)) :
    RaisesOnly isAmbiguousError (normalizeItems nfc items) := by
  induction items with
  | nil => exact raisesOnly_pure _
  | cons _ _ ih =>
    rw [List.forall_mem_cons] at each
    simp only [normalizeItems, raisesOnly_bind, raisesOnly_pure]
    exact ⟨each.1, fun _ _ => ⟨ih each.2, fun _ _ => trivial⟩⟩

theorem normalizeMembers_raises (members : List (String × Json)) (seen : List String)
    (each : ∀ member ∈ members, RaisesOnly isAmbiguousError (normalizeJson nfc member.2)) :
    RaisesOnly isAmbiguousError (normalizeMembers nfc seen members) := by
  induction members generalizing seen with
  | nil => exact raisesOnly_pure _
  | cons _ _ ih =>
    rw [List.forall_mem_cons] at each
    simp only [normalizeMembers, raisesOnly_bind, raisesOnly_require, raisesOnly_pure]
    exact ⟨fun _ => rfl, fun _ _ => ⟨each.1, fun _ _ => ⟨ih _ each.2, fun _ _ => trivial⟩⟩⟩

theorem normalizeJson_raises (value : Json) :
    RaisesOnly isAmbiguousError (normalizeJson nfc value) := by
  induction value using Json.nested_induction with
  | arr items ih =>
    simp only [normalizeJson, raisesOnly_bind, raisesOnly_pure]
    exact ⟨normalizeItems_raises items ih, fun _ _ => trivial⟩
  | obj members ih =>
    simp only [normalizeJson, raisesOnly_bind, raisesOnly_pure]
    exact ⟨normalizeMembers_raises members [] ih, fun _ _ => trivial⟩
  | null | bool | int | float | str => exact raisesOnly_pure _

theorem normalized_idempotent (stable : ∀ text, nfc (nfc text) = nfc text)
    (value normalized : Json) (success : normalizeJson nfc value = .ok normalized) :
    normalizeJson nfc normalized = .ok normalized := by
  induction value using Json.nested_induction generalizing normalized with
  | str =>
    rw [normalizeJson, pure_eq_ok] at success
    rw [← success, normalizeJson, stable]
    rfl
  | arr _ ih =>
    obtain ⟨values, normalizes, rfl⟩ := normalizeJson_arr success
    have fixed : normalizeItems nfc values = .ok values := by
      refine (normalizeItems_eq_ok values values).mpr (List.forall₂_same.mpr ?_)
      intro value member
      obtain ⟨item, listed, first⟩ := Related.exists_left normalizes value member
      exact ih item listed value first
    rw [normalizeJson, fixed]
    rfl
  | obj _ ih =>
    obtain ⟨values, normalizes, distinct, rfl⟩ := normalizeJson_obj success
    have order := List.perm_insertionSort memberOrder values
    have fixed : normalizeMembers nfc [] (values.insertionSort memberOrder) =
        .ok (values.insertionSort memberOrder) := by
      refine (normalizeMembers_eq_ok _ _ []).mpr ⟨List.forall₂_same.mpr ?_, ?_, ?_⟩
      · intro value member
        obtain ⟨source, listed, named, first⟩ :=
          Related.exists_left normalizes value (order.mem_iff.mp member)
        exact ⟨by rw [named, stable], ih source listed value.2 first⟩
      · exact (order.map Prod.fst).nodup_iff.mpr distinct
      · rintro _ _ ⟨⟩
    rw [normalizeJson, fixed]
    change Except.ok _ = _
    rw [(List.pairwise_insertionSort memberOrder values).insertionSort_eq]
  | null | bool | int | float =>
    rw [normalizeJson, pure_eq_ok] at success
    subst success
    rfl

/-! ## Bytes -/

theorem canonicalJsonBytes_eq_ok {bytes : ByteArray} :
    canonicalJsonBytes nfc value = .ok bytes ↔
      ∃ normalized, normalizeJson nfc value = .ok normalized ∧ normalized.isPrintable = true ∧
        (String.ofList normalized.spell).toUTF8 = bytes := by
  simp only [canonicalJsonBytes, bind_eq_ok, require_eq_ok, pure_eq_ok]
  constructor
  · rintro ⟨normalized, success, _, printable, same⟩
    exact ⟨normalized, success, printable, same⟩
  · rintro ⟨normalized, success, printable, same⟩
    exact ⟨normalized, success, (), printable, same⟩

theorem printed_eq_iff (printable : left.isPrintable = true) (printed : right.isPrintable = true) :
    (String.ofList left.spell).toUTF8 = (String.ofList right.spell).toUTF8 ↔ left = right := by
  constructor
  · intro same
    exact Json.spell_injective printable printed (String.ofList_inj.mp (String.toByteArray_inj.mp same))
  · rintro rfl
    rfl

theorem normalized_eq_iff_same {shown : Json}
    (first : normalizeJson nfc left = .ok value) (second : normalizeJson nfc right = .ok shown) :
    value = shown ↔ left.Same nfc right := by
  constructor
  · rintro rfl
    exact same_of_normalized left right value first second
  · intro same
    exact normalized_eq_of_same left right value shown same first second

theorem canonicalJsonBytes_eq_iff {first second : ByteArray}
    (accepted : canonicalJsonBytes nfc left = .ok first)
    (accepts : canonicalJsonBytes nfc right = .ok second) :
    first = second ↔ left.Same nfc right := by
  obtain ⟨_, normalized, printable, rfl⟩ := canonicalJsonBytes_eq_ok.mp accepted
  obtain ⟨_, normalizes, printed, rfl⟩ := canonicalJsonBytes_eq_ok.mp accepts
  exact (printed_eq_iff printable printed).trans (normalized_eq_iff_same normalized normalizes)

theorem canonicalJsonBytes_accepts_iff (value : Json) :
    (∃ bytes, canonicalJsonBytes nfc value = .ok bytes) ↔
      value.isUnambiguous nfc = true ∧ value.isPrintable = true := by
  constructor
  · rintro ⟨_, accepted⟩
    obtain ⟨normalized, success, printable, _⟩ := canonicalJsonBytes_eq_ok.mp accepted
    exact ⟨unambiguous_of_normalized value normalized success,
      printable_normalized value normalized success ▸ printable⟩
  · rintro ⟨unambiguous, printable⟩
    obtain ⟨normalized, success⟩ := normalized_of_unambiguous value unambiguous
    exact ⟨_, canonicalJsonBytes_eq_ok.mpr ⟨normalized, success,
      (printable_normalized value normalized success).trans printable, rfl⟩⟩

theorem canonicalJsonBytes_rejects (ambiguous : value.isUnambiguous nfc = false) :
    canonicalJsonBytes nfc value =
      .error (validationError "contract object keys are ambiguous") := by
  cases normalized : normalizeJson nfc value with
  | ok shown =>
    rw [unambiguous_of_normalized value shown normalized] at ambiguous
    cases ambiguous
  | error raised =>
    rw [canonicalJsonBytes, normalized, normalizeJson_raises value raised normalized]
    rfl

end Normalize

/-! ## Fingerprints of commands -/

def Wire.HashesBytes (wire : Wire) (hash : ByteArray → String) : Prop :=
  ∀ document, wire.sha256 document = hash (String.ofList document.spell).toUTF8

theorem Wire.canonicalFingerprint_eq_iff {wire : Wire} {hash : ByteArray → String}
    (hashes : wire.HashesBytes hash) (collisionFree : Function.Injective hash) {first second : ByteArray} {fingerprint other : String}
    (accepted : canonicalJsonBytes wire.nfc left = .ok first)
    (accepts : canonicalJsonBytes wire.nfc right = .ok second)
    (made : wire.canonicalFingerprint left = .ok fingerprint)
    (makes : wire.canonicalFingerprint right = .ok other) :
    fingerprint = other ↔ left.Same wire.nfc right := by
  obtain ⟨_, normalized, printable, rfl⟩ := canonicalJsonBytes_eq_ok.mp accepted
  obtain ⟨_, normalizes, printed, rfl⟩ := canonicalJsonBytes_eq_ok.mp accepts
  rw [Wire.canonicalFingerprint, normalized, ok_bind, pure_eq_ok] at made
  rw [Wire.canonicalFingerprint, normalizes, ok_bind, pure_eq_ok] at makes
  rw [← made, ← makes, String.append_right_inj, hashes, hashes, collisionFree.eq_iff,
    printed_eq_iff printable printed]
  exact normalized_eq_iff_same normalized normalizes

/-- Canonical JSON is a canonical form of the values that are equal after normalization. -/
theorem canonical_json_is_canonical (nfc : String → String)
    (stable : ∀ text, nfc (nfc text) = nfc text) :
    (∀ left right first second, canonicalJsonBytes nfc left = .ok first →
      canonicalJsonBytes nfc right = .ok second → (first = second ↔ left.Same nfc right)) ∧
    (∀ value normalized, normalizeJson nfc value = .ok normalized →
      normalizeJson nfc normalized = .ok normalized) ∧
    (∀ value, value.isUnambiguous nfc = false → canonicalJsonBytes nfc value =
      .error (validationError "contract object keys are ambiguous")) ∧
    (∀ value, (∃ bytes, canonicalJsonBytes nfc value = .ok bytes) ↔
      value.isUnambiguous nfc = true ∧ value.isPrintable = true) ∧
    ∀ (wire : Wire) (hash : ByteArray → String), wire.nfc = nfc → wire.HashesBytes hash →
      Function.Injective hash → ∀ (command other : ExecutionCommand) first second fingerprint shown,
      canonicalJsonBytes nfc (command.contractValue wire.uuidText) = .ok first →
      canonicalJsonBytes nfc (other.contractValue wire.uuidText) = .ok second →
      wire.commandFingerprint command = .ok fingerprint →
      wire.commandFingerprint other = .ok shown →
      (fingerprint = shown ↔
        (command.contractValue wire.uuidText).Same nfc (other.contractValue wire.uuidText)) := by
  refine ⟨fun _ _ _ _ => canonicalJsonBytes_eq_iff, normalized_idempotent stable,
    fun _ => canonicalJsonBytes_rejects, canonicalJsonBytes_accepts_iff, ?_⟩
  rintro _ _ rfl hashes collisionFree _ _ _ _ _ _
    accepted accepts made makes
  exact Wire.canonicalFingerprint_eq_iff hashes collisionFree accepted accepts made makes

def plainHash (bytes : ByteArray) : String :=
  String.ofList (bytes.data.toList.map fun byte => Char.ofNat byte.toNat)

theorem plainHash_injective : Function.Injective plainHash := by
  intro left right same
  have byte (value : UInt8) : (Char.ofNat value.toNat).toNat = value.toNat := by
    have small := value.toNat_lt
    rw [Char.ofNat, dif_pos (.inl (by omega))]
    rfl
  have letters : Function.Injective fun byte : UInt8 => Char.ofNat byte.toNat := by
    intro one another equal
    have numbers := congrArg Char.toNat equal
    simp only [byte] at numbers
    exact UInt8.toNat_inj.mp numbers
  have lists := List.map_injective_iff.mpr letters (String.ofList_inj.mp same)
  exact ByteArray.ext (Array.toList_inj.mp lists)

/-- A contract layer over texts that are normalized already. -/
def plainWire : Wire where
  nfc := id
  sha256 := fun document => plainHash (String.ofList document.spell).toUTF8
  uuidText := fun id => toString id

def plainCommand (text : String) : ExecutionCommand where
  commandId := 1
  idempotencyKey := 2
  cloudWorkspaceId := 3
  conversationTurnOrdinal := 4
  cloudAllyId := 5
  cloudConversationId := 6
  cloudMessageId := 7
  cloudBindingId := 8
  text := text
  bootstrap := none
  files := none
  issuedAt := ⟨0, true⟩
  deadlineAt := ⟨0, true⟩
  fingerprint := ""

/-- Two commands whose texts differ have two fingerprints. -/
theorem other_text_has_another_fingerprint :
    ∃ fingerprint shown, plainWire.commandFingerprint (plainCommand "a") = .ok fingerprint ∧
      plainWire.commandFingerprint (plainCommand "b") = .ok shown ∧
      (fingerprint = shown ↔ ((plainCommand "a").contractValue plainWire.uuidText).Same id
        ((plainCommand "b").contractValue plainWire.uuidText)) := by
  obtain ⟨_, _, _, accepts, commands⟩ := canonical_json_is_canonical id fun _ => rfl
  obtain ⟨first, accepted⟩ := (accepts ((plainCommand "a").contractValue plainWire.uuidText)).mpr
    (by decide +kernel)
  obtain ⟨second, also⟩ := (accepts ((plainCommand "b").contractValue plainWire.uuidText)).mpr
    (by decide +kernel)
  refine ⟨_, _, rfl, rfl, ?_⟩
  exact commands plainWire plainHash rfl (fun _ => rfl) plainHash_injective _ _ first second _ _
    accepted also rfl rfl

end Foundry
