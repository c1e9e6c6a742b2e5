import Foundry.Evolution.Basic

/-!
# Delivery workers

The calls of the delivery workers and of the operator write outbox rows only.  A
batch writes each of its rows once, so every row is still as the query read it when
its turn comes.
-/

set_option autoImplicit false

namespace Foundry

open Raise

variable {D : Type}

/-! ## Batches -/

theorem save_eq_ok {previous row saved : ExecutionEventDelivery}
    (success : previous.save row = .ok saved) : saved = row := by
  simp only [ExecutionEventDelivery.save, bind_eq_ok, pure_eq_ok] at success
  obtain ⟨_, _, _, _, _, _, _, _, same⟩ := success
  exact same.symm

section

variable (limit : Nat) (test : ExecutionEventDelivery → Bool)
  (deliveries : Table DeliveryId ExecutionEventDelivery)

theorem mem_firstDeliveries {id : DeliveryId} {row : ExecutionEventDelivery}
    (member : (id, row) ∈ firstDeliveries limit test deliveries) :
    deliveries.lookup id = some row ∧ test row = true := by
  have sorted := List.mem_of_mem_take member
  rw [List.mem_insertionSort, List.mem_filter] at sorted
  exact ⟨(Table.mem_rows _ _ _).mp sorted.1, sorted.2⟩

theorem nodup_firstDeliveries :
    (firstDeliveries limit test deliveries).Nodup := by
  have rows : deliveries.rows.Nodup :=
    deliveries.pairwise_keys.imp fun different same => different (congrArg Prod.fst same)
  exact (((List.perm_insertionSort _ _).nodup_iff).mpr (rows.filter _)).sublist
    (List.take_sublist _ _)

end

theorem lookup_insert_other {deliveries : Table DeliveryId ExecutionEventDelivery}
    {found other : DeliveryId × ExecutionEventDelivery} (next : ExecutionEventDelivery)
    (stored : deliveries.lookup found.1 = some found.2) (different : other ≠ found)
    (waiting : deliveries.lookup other.1 = some other.2) :
    (deliveries.insert found.1 next).lookup other.1 = some other.2 := by
  rw [Table.lookup_insert_eq, if_neg]
  · exact waiting
  · intro same
    rw [same, stored, Option.some.injEq] at waiting
    exact different (Prod.ext same waiting.symm)

variable [DecidableEq D] (env : Env D) (call : Call D) (start db next : Db D)

/-! ## Claims -/

theorem repairExpired_evolution (service : call.operation.service = .claimEventDeliveries)
    (deliveries after : Table DeliveryId ExecutionEventDelivery)
    (found : DeliveryId × ExecutionEventDelivery)
    (stored : deliveries.lookup found.1 = some found.2)
    (final : found.2.isExpiredFinal call.now = true)
    (success : repairExpired env call.now start deliveries found = .ok after) :
    ∃ row, after = deliveries.insert found.1 row ∧
      Evolution env call start { db with deliveries := deliveries }
        { db with deliveries := after } := by
  simp only [repairExpired, bind_eq_ok, pure_eq_ok] at success
  obtain ⟨_, repairs, saved, saves, rfl⟩ := success
  obtain rfl := save_eq_ok saves
  exact ⟨saved, rfl, .single (.delivery found.1 found.2 saved stored
    (.expire saved service final repairs saves))⟩

theorem claimDelivery_evolution (service : call.operation.service = .claimEventDeliveries)
    {state after : List EventDeliveryClaim × Table DeliveryId ExecutionEventDelivery}
    {found : DeliveryId × ExecutionEventDelivery} (stored : state.2.lookup found.1 = some found.2)
    (due : found.2.isClaimable call.now = true)
    (success : claimDelivery call.now state found = .ok after) :
    after.2 = state.2.insert found.1 (found.2.claimed call.now) ∧
      Evolution env call start { db with deliveries := state.2 }
        { db with deliveries := after.2 } := by
  simp only [claimDelivery, bind_eq_ok, pure_eq_ok] at success
  obtain ⟨_, saves, rfl⟩ := success
  obtain rfl := save_eq_ok saves
  exact ⟨rfl, .single (.delivery found.1 found.2 _ stored (.claim service due saves))⟩

theorem repairs_evolution {limit : Nat} {repaired : Table DeliveryId ExecutionEventDelivery}
    (service : call.operation.service = .claimEventDeliveries)
    (repairs : (firstDeliveries limit (fun row => row.isExpiredFinal call.now)
      db.deliveries).foldlM (repairExpired env call.now db) db.deliveries = .ok repaired) :
    Evolution env call db db { db with deliveries := repaired } := by
  refine foldlM_relates_waiting
    (fun before after => Evolution env call db { db with deliveries := before }
      { db with deliveries := after })
    (fun found deliveries => deliveries.lookup found.1 = some found.2)
    (fun _ => .refl _) .trans _ _ (nodup_firstDeliveries ..) db.deliveries repaired ?_ ?_ repairs
  · intro found member
    exact (mem_firstDeliveries _ _ _ member).1
  · intro found member state after stored pass
    obtain ⟨row, rfl, evolves⟩ := repairExpired_evolution env call db db service state after found
      stored (mem_firstDeliveries _ _ _ member).2 pass
    exact ⟨evolves, fun other different waiting =>
      lookup_insert_other row stored different waiting⟩

theorem claimEventDeliveries_evolution (limit : Nat) (claims : List EventDeliveryClaim)
    (service : call.operation.service = .claimEventDeliveries)
    (success : claimEventDeliveries env call.now limit db = .ok (claims, next)) :
    Evolution env call db db next := by
  simp only [claimEventDeliveries, bind_eq_ok] at success
  obtain ⟨_, _, repaired, repairs, ⟨issued, deliveries⟩, claimed, success⟩ := success
  cases success
  refine (repairs_evolution env call db service repairs).trans ?_
  refine foldlM_relates_waiting
    (fun before after : List EventDeliveryClaim × Table DeliveryId ExecutionEventDelivery =>
      Evolution env call db { db with deliveries := before.2 } { db with deliveries := after.2 })
    (fun found state => state.2.lookup found.1 = some found.2)
    (fun _ => .refl _) .trans _ _ (nodup_firstDeliveries ..) ([], repaired) (issued, deliveries)
    ?_ ?_ claimed
  · intro found member
    exact (mem_firstDeliveries _ _ _ member).1
  · intro found member state after stored pass
    obtain ⟨written, evolves⟩ := claimDelivery_evolution env call db db service
      stored (mem_firstDeliveries _ _ _ member).2 pass
    refine ⟨evolves, fun other different waiting => ?_⟩
    rw [written]
    exact lookup_insert_other _ stored different waiting

/-! ## Callbacks -/

theorem markEventDelivery_evolution
    (id : DeliveryId) (attempt repairCycle : Nat) (result : DeliveryResult)
    (answer : Option ExecutionEventDelivery)
    (asked : call.operation = .markEventDelivery id attempt repairCycle result)
    (success : markEventDelivery env call.now id attempt repairCycle result db =
      .ok (answer, next)) :
    Evolution env call db db next := by
  simp only [markEventDelivery, bind_eq_ok, orRaise_eq_ok] at success
  obtain ⟨row, stored, success⟩ := success
  split at success
  · simp only [return_eq_ok] at success
    exact success.2 ▸ .refl db
  · next current =>
    simp only [bind_eq_ok, return_eq_ok] at success
    obtain ⟨_, reports, saved, saves, _, rfl⟩ := success
    obtain rfl := save_eq_ok saves
    exact .single (.delivery id row saved stored
      (.report attempt repairCycle result saved asked (by simpa using current) reports saves))

theorem deferForSequenceGap_evolution (claim : EventDeliveryClaim) (deferred : Bool)
    (asked : call.operation = .deferForSequenceGap claim)
    (success : deferForSequenceGap call.now claim db = .ok (deferred, next)) :
    Evolution env call db db next := by
  simp only [deferForSequenceGap] at success
  split at success
  · simp only [return_eq_ok] at success
    exact success.2 ▸ .refl db
  · next row found =>
    rw [Option.filter_eq_some_iff] at found
    split at success
    · simp only [return_eq_ok] at success
      exact success.2 ▸ .refl db
    · simp only [bind_eq_ok, return_eq_ok] at success
      obtain ⟨_, saves, _, rfl⟩ := success
      obtain rfl := save_eq_ok saves
      exact .single (.delivery claim.delivery row _ found.1
        (.defer claim _ asked rfl found.2 rfl saves))

theorem wakeAttemptSuccessors_evolution (id : DeliveryId) (answer : Unit)
    (service : call.operation.service = .wakeAttemptSuccessors)
    (success : wakeAttemptSuccessors call.now id db = .ok (answer, next)) :
    Evolution env call db db next := by
  simp only [wakeAttemptSuccessors, return_eq_ok] at success
  obtain ⟨_, rfl⟩ := success
  refine .single (.sweepDeliveries _ fun other row => ?_)
  split
  · next waits => exact .inr (.wake service waits.2.2.1)
  · exact .inl rfl

/-! ## Redrive -/

omit [DecidableEq D] in
theorem mem_selectDeliveries (deliveryIds : List DeliveryId) (eventIds : List Uuid)
    (deliveries : Table DeliveryId ExecutionEventDelivery)
    (rows : List (DeliveryId × ExecutionEventDelivery))
    (success : selectDeliveries deliveryIds eventIds deliveries = .ok rows)
    (id : DeliveryId) (row : ExecutionEventDelivery) (member : (id, row) ∈ rows) :
    deliveries.lookup id = some row := by
  simp only [selectDeliveries, bind_eq_ok, pure_eq_ok] at success
  obtain ⟨_, isById, _, isByEvent, rfl⟩ := success
  rw [List.mem_reverse, List.mem_dedup, List.mem_reverse, List.mem_append] at member
  rcases member with selected | selected
  · obtain ⟨_, _, found⟩ := mem_of_mapM _ _ _ isById _ selected
    simp only [orRaise_eq_ok, Option.map_eq_some_iff, Prod.mk.injEq] at found
    obtain ⟨_, stored, rfl, rfl⟩ := found
    exact stored
  · obtain ⟨_, _, found⟩ := mem_of_mapM _ _ _ isByEvent _ selected
    rw [orRaise_eq_ok] at found
    exact (Table.mem_rows _ _ _).mp (List.mem_reverse.mp (List.mem_of_find?_eq_some found))

omit [DecidableEq D] in
theorem nodup_selectDeliveries (deliveryIds : List DeliveryId) (eventIds : List Uuid)
    (deliveries : Table DeliveryId ExecutionEventDelivery)
    (rows : List (DeliveryId × ExecutionEventDelivery))
    (success : selectDeliveries deliveryIds eventIds deliveries = .ok rows) : rows.Nodup := by
  simp only [selectDeliveries, bind_eq_ok, pure_eq_ok] at success
  obtain ⟨_, _, _, _, rfl⟩ := success
  exact List.nodup_reverse.mpr (List.nodup_dedup _)

theorem redriveEventDeliveries_evolution
    (deliveryIds : List DeliveryId) (eventIds : List Uuid) (confirm : Bool) (report : RedriveReport)
    (service : call.operation.service = .redriveEventDeliveries)
    (success : redriveEventDeliveries env call.now deliveryIds eventIds confirm db =
      .ok (report, next)) :
    Evolution env call db db next := by
  simp only [redriveEventDeliveries, bind_eq_ok] at success
  obtain ⟨_, _, rows, selects, rebuilt, rebuilds, success⟩ := success
  split at success
  · simp only [bind_eq_ok, return_eq_ok] at success
    obtain ⟨deliveries, redrives, _, rfl⟩ := success
    obtain ⟨labels, values⟩ := mapM_paired _ _ _ rebuilds
    have selected : ∀ found ∈ rebuilt, found.1 ∈ rows := fun found member =>
      labels ▸ List.mem_map.mpr ⟨found, member, rfl⟩
    refine foldlM_relates_waiting
      (fun before after => Evolution env call db { db with deliveries := before }
        { db with deliveries := after })
      (fun found deliveries => deliveries.lookup found.1.1 = some found.1.2 ∧
        rebuildDeliveryEnvelope env found.1.1 found.1.2 db = .ok found.2)
      (fun _ => .refl _) .trans _ _ ?_ db.deliveries deliveries ?_ ?_ redrives
    · have distinct := nodup_selectDeliveries _ _ _ _ selects
      rw [← labels] at distinct
      exact List.Nodup.of_map _ distinct
    · intro found member
      exact ⟨mem_selectDeliveries _ _ _ _ selects _ _ (selected found member),
        values found member⟩
    · rintro found _ _ _ ⟨stored, encodes⟩ pass
      simp only [redriveOne] at pass
      split at pass
      · next exhausted =>
        simp only [bind_eq_ok, pure_eq_ok] at pass
        obtain ⟨_, saves, rfl⟩ := pass
        obtain rfl := save_eq_ok saves
        refine ⟨.single (.delivery found.1.1 found.1.2 _ stored
          (.redrive found.2 service exhausted encodes saves)), ?_⟩
        rintro _ different ⟨waiting, encodesToo⟩
        refine ⟨lookup_insert_other _ stored ?_ waiting, encodesToo⟩
        intro same
        rw [same, encodes, Except.ok.injEq] at encodesToo
        exact different (Prod.ext same encodesToo.symm)
      · cases pass
        exact ⟨.refl _, fun _ _ waiting => waiting⟩
  · simp only [return_eq_ok] at success
    exact success.2 ▸ .refl db

end Foundry
