import Foundry.Properties.Deliveries

/-!
# Delivery workers and their claims

`publish_pending_event_deliveries` claims a batch, posts each envelope, and reports
each claim once: it marks the row, or defers it for a sequence gap and, when that is
refused, marks it.  A claim is outstanding until a report of it is accepted.

The attempt counter of a row goes up with a claim and down with a deferral, so a value
comes back.  Among outstanding claims it does not: the claims of one row are pairwise
different and none is ahead of the row.
-/

set_option autoImplicit false

namespace Foundry

open Raise

variable {D : Type}

structure Workers (D : Type) where
  db : Db D
  outstanding : List EventDeliveryClaim

/-- What happens next: a worker claims, marks or defers, or any other call is made. -/
inductive WorkerAction (D : Type) where
  | claim (limit : Nat)
  | mark (claim : EventDeliveryClaim) (result : DeliveryResult)
  | defer (claim : EventDeliveryClaim)
  | other (operation : Operation D)

def Operation.isWorkers : Operation D → Bool
  | .claimEventDeliveries _ | .markEventDelivery .. | .deferForSequenceGap _ => true
  | _ => false

variable [DecidableEq D]

/-- A report needs a claim that is held, and ends it if the row was still under it. -/
def Workers.act (env : Env D) (action : Instant × WorkerAction D) (workers : Workers D) :
    Except RuntimeError (Unit × Workers D) :=
  match action.2 with
  | .claim limit => do
      let (claims, db) ← claimEventDeliveries env action.1 limit workers.db
      return ((), ⟨db, workers.outstanding ++ claims⟩)
  | .mark claim result =>
    if claim ∈ workers.outstanding then do
      let (row, db) ← markEventDelivery env action.1 claim.delivery claim.attempt
        claim.repairCycle result workers.db
      return ((), ⟨db, if row.isSome then workers.outstanding.erase claim
        else workers.outstanding⟩)
    else return ((), workers)
  | .defer claim =>
    if claim ∈ workers.outstanding then do
      let (deferred, db) ← deferForSequenceGap action.1 claim workers.db
      return ((), ⟨db, if deferred then workers.outstanding.erase claim
        else workers.outstanding⟩)
    else return ((), workers)
  | .other operation =>
    if operation.isWorkers then return ((), workers)
    else do
      let (_, db) ← apply env ⟨action.1, operation⟩ workers.db
      return ((), ⟨db, workers.outstanding⟩)

def Workers.run (env : Env D) (actions : List (Instant × WorkerAction D)) : Workers D :=
  Run.run (Workers.act env) ⟨Db.empty, []⟩ actions

/-! ## Claims and rows -/

def EventDeliveryClaim.key (claim : EventDeliveryClaim) : DeliveryId × Nat × Nat :=
  (claim.delivery, claim.repairCycle, claim.attempt)

def EventDeliveryClaim.Behind (claim : EventDeliveryClaim) (row : ExecutionEventDelivery) : Prop :=
  claim.repairCycle < row.repairCycle ∨
    claim.repairCycle = row.repairCycle ∧ claim.attempt ≤ row.deliveryAttempts

def ExecutionEventDelivery.Advances (row next : ExecutionEventDelivery) : Prop :=
  row.repairCycle < next.repairCycle ∨
    row.repairCycle = next.repairCycle ∧ row.deliveryAttempts ≤ next.deliveryAttempts

theorem EventDeliveryClaim.Behind.advance {claim : EventDeliveryClaim}
    {row next : ExecutionEventDelivery} (behind : claim.Behind row) (advances : row.Advances next) :
    claim.Behind next := by
  simp only [EventDeliveryClaim.Behind] at behind ⊢
  simp only [ExecutionEventDelivery.Advances] at advances
  omega

namespace ExecutionEventDelivery.Advances

theorem refl (row : ExecutionEventDelivery) : row.Advances row :=
  .inr ⟨rfl, Nat.le_refl _⟩

theorem trans {first second third : ExecutionEventDelivery}
    (earlier : first.Advances second) (later : second.Advances third) : first.Advances third := by
  simp only [ExecutionEventDelivery.Advances] at earlier later ⊢
  omega

end ExecutionEventDelivery.Advances

omit [DecidableEq D] in
theorem DeliveryOutcome.advances {service : Service} {row next : ExecutionEventDelivery}
    (outcome : DeliveryOutcome service row next) (other : service ≠ .deferForSequenceGap) :
    row.Advances next := by
  cases outcome with
  | waits _ stays | retried _ stays | ended _ _ _ stays =>
    exact .inr ⟨stays.cycle.symm, Nat.le_of_eq stays.attempts.symm⟩
  | claimed _ _ stays =>
    refine .inr ⟨stays.cycle.symm, ?_⟩
    rw [stays.attempts]
    exact Nat.le_succ _
  | deferred asked => exact absurd asked other
  | repaired _ _ begins | redriven _ _ begins =>
    refine .inl ?_
    rw [begins.cycle]
    exact Nat.lt_succ_self _

/-! ## The fence -/

structure Workers.Fenced (workers : Workers D) : Prop where
  intact : workers.db.Intact
  behind : ∀ claim ∈ workers.outstanding,
    (∃ row, workers.db.deliveries.lookup claim.delivery = some row ∧ claim.Behind row) ∨
      workers.db.Removed claim.delivery.1.execution
  distinct : (workers.outstanding.map EventDeliveryClaim.key).Nodup

namespace Workers.Fenced

variable {db next : Db D} {outstanding : List EventDeliveryClaim}

omit [DecidableEq D] in
theorem advance (fenced : Workers.Fenced ⟨db, outstanding⟩) (intact : next.Intact)
    (continues : deliveryRecords.Continues ExecutionEventDelivery.Advances db next) :
    Workers.Fenced ⟨next, outstanding⟩ where
  intact := intact
  behind := by
    intro claim member
    rcases fenced.behind claim member with ⟨row, stored, behind⟩ | gone
    · rcases continues.kept claim.delivery row stored with ⟨later, found, advances⟩ | gone
      · exact .inl ⟨later, found, behind.advance advances⟩
      · exact .inr gone
    · exact .inr (continues.gone claim.delivery gone)
  distinct := fenced.distinct

omit [DecidableEq D] in
theorem drop (fenced : Workers.Fenced ⟨db, outstanding⟩) (claim : EventDeliveryClaim) :
    Workers.Fenced ⟨db, outstanding.erase claim⟩ where
  intact := fenced.intact
  behind := fun other member => fenced.behind other (List.mem_of_mem_erase member)
  distinct := fenced.distinct.sublist (List.erase_sublist.map _)

omit [DecidableEq D] in
theorem issue (fenced : Workers.Fenced ⟨db, outstanding⟩) (claim : EventDeliveryClaim)
    (row : ExecutionEventDelivery) (stored : db.deliveries.lookup claim.delivery = some row)
    (behind : claim.Behind row) (ahead : ∀ other ∈ outstanding, other.key ≠ claim.key) :
    Workers.Fenced ⟨db, outstanding ++ [claim]⟩ where
  intact := fenced.intact
  behind := by
    intro other member
    rcases List.mem_append.mp member with member | member
    · exact fenced.behind other member
    · rw [List.mem_singleton.mp member]
      exact .inl ⟨row, stored, behind⟩
  distinct := by
    rw [List.map_append, List.map_singleton, List.nodup_append]
    refine ⟨fenced.distinct, List.nodup_singleton _, ?_⟩
    intro left isLeft right isRight
    obtain ⟨other, member, rfl⟩ := List.mem_map.mp isLeft
    rw [List.mem_singleton.mp isRight]
    exact ahead other member

omit [DecidableEq D] in
theorem behind_row (fenced : Workers.Fenced ⟨db, outstanding⟩) (claim : EventDeliveryClaim)
    (member : claim ∈ outstanding) (row : ExecutionEventDelivery)
    (stored : db.deliveries.lookup claim.delivery = some row) : claim.Behind row := by
  rcases fenced.behind claim member with ⟨_, present, behind⟩ | gone
  · rw [stored, Option.some.injEq] at present
    exact present ▸ behind
  · exact absurd ((fenced.intact.find_gone claim.delivery gone).symm.trans stored) nofun

/-! ### The actions -/

section

variable (env : Env D)

include env

theorem call (call : Call D) (answer : Reply D)
    (other : call.operation.service ≠ .deferForSequenceGap)
    (fenced : Workers.Fenced ⟨db, outstanding⟩) (success : apply env call db = .ok (answer, next)) :
    Workers.Fenced ⟨next, outstanding⟩ := by
  have continues := apply_deliveriesContinue ExecutionEventDelivery.Advances
    ExecutionEventDelivery.Advances.refl ExecutionEventDelivery.Advances.trans
    (fun _ _ _ step => step.outcome.advances other) answer fenced.intact success
  exact fenced.advance continues.1 continues.2

theorem claimDelivery (call : Call D) (service : call.operation.service = .claimEventDeliveries)
    (state after : List EventDeliveryClaim × Table DeliveryId ExecutionEventDelivery)
    (found : DeliveryId × ExecutionEventDelivery) (stored : state.2.lookup found.1 = some found.2)
    (due : found.2.isClaimable call.now = true)
    (success : Foundry.claimDelivery call.now state found = .ok after)
    (fenced : Workers.Fenced ⟨{ db with deliveries := state.2 }, outstanding ++ state.1⟩) :
    Workers.Fenced ⟨{ db with deliveries := after.2 }, outstanding ++ after.1⟩ := by
  have before := fenced.behind_row
  simp only [Foundry.claimDelivery, bind_eq_ok, pure_eq_ok] at success
  obtain ⟨_, saves, rfl⟩ := success
  obtain rfl := save_eq_ok saves
  have write : Write env call db { db with deliveries := state.2 }
      { db with deliveries := state.2.insert found.1 (found.2.claimed call.now) } :=
    .delivery found.1 found.2 _ stored (.claim service due saves)
  have advanced := fenced.advance (write.intact fenced.intact)
    (write.deliveriesContinue ExecutionEventDelivery.Advances
      ExecutionEventDelivery.Advances.refl
      (fun _ _ _ step => step.outcome.advances (by simp [service])) fenced.intact)
  rw [← List.append_assoc]
  refine advanced.issue _ (found.2.claimed call.now) (AList.lookup_insert _)
    (.inr ⟨rfl, Nat.le_refl _⟩) ?_
  intro other member same
  simp only [EventDeliveryClaim.key, Prod.mk.injEq] at same
  obtain ⟨delivery, cycle, attempt⟩ := same
  have behind := before other member found.2 (by rw [delivery]; exact stored)
  simp only [EventDeliveryClaim.Behind] at behind
  simp only [ExecutionEventDelivery.claimed] at cycle attempt
  omega

theorem claim (now : Instant) (limit : Nat) (claims : List EventDeliveryClaim)
    (fenced : Workers.Fenced ⟨db, outstanding⟩)
    (success : claimEventDeliveries env now limit db = .ok (claims, next)) :
    Workers.Fenced ⟨next, outstanding ++ claims⟩ := by
  simp only [claimEventDeliveries, bind_eq_ok] at success
  obtain ⟨_, _, repaired, repairs, ⟨issued, deliveries⟩, claimed, success⟩ := success
  cases success
  have first := (repairs_evolution env ⟨now, .claimEventDeliveries limit⟩ db rfl
    repairs).carries Db.Intact (deliveryRecords.Continues ExecutionEventDelivery.Advances)
    (Records.Continues.refl ExecutionEventDelivery.Advances.refl)
    (Records.Continues.trans ExecutionEventDelivery.Advances ExecutionEventDelivery.Advances.trans)
    (fun _ _ write intact => ⟨write.intact intact, write.deliveriesContinue _
      ExecutionEventDelivery.Advances.refl
      (fun _ _ _ step => step.outcome.advances (by simp [Operation.service])) intact⟩) fenced.intact
  refine foldlM_relates_waiting
    (fun before after : List EventDeliveryClaim × Table DeliveryId ExecutionEventDelivery =>
      Workers.Fenced ⟨{ db with deliveries := before.2 }, outstanding ++ before.1⟩ →
        Workers.Fenced ⟨{ db with deliveries := after.2 }, outstanding ++ after.1⟩)
    (fun found state => state.2.lookup found.1 = some found.2)
    (fun _ holds => holds) (fun earlier later holds => later (earlier holds)) _ _
    (nodup_firstDeliveries ..) ([], repaired) (issued, deliveries) ?_ ?_ claimed ?_
  · intro found member
    exact (mem_firstDeliveries _ _ _ member).1
  · intro found member state after stored pass
    refine ⟨claimDelivery env ⟨now, .claimEventDeliveries limit⟩ rfl state after found stored
      (mem_firstDeliveries _ _ _ member).2 pass, fun other different waiting => ?_⟩
    obtain ⟨written, _⟩ := claimDelivery_evolution env ⟨now, .claimEventDeliveries limit⟩ db db rfl stored (mem_firstDeliveries _ _ _ member).2 pass
    rw [written]
    exact lookup_insert_other _ stored different waiting
  · simpa using fenced.advance first.1 first.2

theorem defer (now : Instant) (claim : EventDeliveryClaim) (deferred : Bool)
    (held : claim ∈ outstanding) (fenced : Workers.Fenced ⟨db, outstanding⟩)
    (success : deferForSequenceGap now claim db = .ok (deferred, next)) :
    Workers.Fenced ⟨next, if deferred then outstanding.erase claim else outstanding⟩ := by
  have intact := ((deferForSequenceGap_evolution env ⟨now, .deferForSequenceGap claim⟩ db next claim
    deferred rfl success).keeps Db.Intact (fun _ _ write => write.intact) fenced.intact)
  simp only [deferForSequenceGap] at success
  split at success
  · cases success
    exact fenced
  · next row found =>
    rw [Option.filter_eq_some_iff] at found
    obtain ⟨stored, current⟩ := found
    split at success
    · cases success
      exact fenced
    · simp only [bind_eq_ok, return_eq_ok] at success
      obtain ⟨_, saves, rfl, rfl⟩ := success
      obtain rfl := save_eq_ok saves
      simp only [ExecutionEventDelivery.isClaimedBy, decide_eq_true_eq] at current
      obtain ⟨_, _⟩ := current
      refine ⟨intact, ?_, (fenced.drop claim).distinct⟩
      intro other member
      have listed : other ∈ outstanding := List.mem_of_mem_erase member
      by_cases same : other.delivery = claim.delivery
      · have behind := fenced.behind_row other listed row (by rw [same]; exact stored)
        have different : other.key ≠ claim.key := by
          intro sameKey
          have isClaim := List.inj_on_of_nodup_map fenced.distinct listed held sameKey
          exact ((List.Nodup.of_map _ fenced.distinct).mem_erase_iff.mp member).1 isClaim
        refine .inl ⟨_, by rw [same]; exact AList.lookup_insert _, ?_⟩
        simp only [EventDeliveryClaim.key, same, ne_eq, Prod.mk.injEq, true_and, not_and]
          at different
        simp only [EventDeliveryClaim.Behind, ExecutionEventDelivery.deferred] at behind ⊢
        omega
      · rcases fenced.behind other listed with ⟨others, found, behind⟩ | gone
        · exact .inl ⟨others, by rw [AList.lookup_insert_ne same]; exact found, behind⟩
        · exact .inr gone

theorem act (action : Instant × WorkerAction D) (answer : Unit)
    (workers after : Workers D) (fenced : workers.Fenced)
    (success : Workers.act env action workers = .ok (answer, after)) : after.Fenced := by
  obtain ⟨now, action⟩ := action
  cases action with
  | claim limit =>
    simp only [Workers.act, bind_eq_ok, return_eq_ok] at success
    obtain ⟨⟨claims, _⟩, claimed, _, rfl⟩ := success
    exact fenced.claim env now limit claims claimed
  | mark claim result =>
    simp only [Workers.act] at success
    split at success
    · simp only [bind_eq_ok, return_eq_ok] at success
      obtain ⟨⟨row, db⟩, marked, _, rfl⟩ := success
      have called : apply env ⟨now, .markEventDelivery claim.delivery claim.attempt
          claim.repairCycle result⟩ workers.db = .ok (.delivery row, db) := by
        simp only [apply]
        rw [marked]
        rfl
      have kept := fenced.call env _ _ (by simp [Operation.service]) called
      split
      · exact kept.drop claim
      · exact kept
    · simp only [return_eq_ok] at success
      exact success.2 ▸ fenced
  | defer claim =>
    simp only [Workers.act] at success
    split at success
    · next held =>
      simp only [bind_eq_ok, return_eq_ok] at success
      obtain ⟨⟨deferred, _⟩, defers, _, rfl⟩ := success
      exact fenced.defer env now claim deferred held defers
    · simp only [return_eq_ok] at success
      exact success.2 ▸ fenced
  | other operation =>
    simp only [Workers.act] at success
    split at success
    · simp only [return_eq_ok] at success
      exact success.2 ▸ fenced
    · simp only [bind_eq_ok, return_eq_ok] at success
      obtain ⟨⟨answer, _⟩, called, _, rfl⟩ := success
      refine fenced.call env ⟨now, operation⟩ answer ?_ called
      cases operation <;> simp_all [Operation.isWorkers, Operation.service]

theorem run (actions : List (Instant × WorkerAction D)) :
    (Workers.run env actions).Fenced :=
  Run.invariant Workers.Fenced (fun workers action answer after fenced success =>
    fenced.act env action answer workers after success) _ actions
    ⟨Db.intact_empty, by simp, by simp⟩

end

end Workers.Fenced

/-! ## No claim matches twice -/

def EventDeliveryClaim.matchesRow (claim : EventDeliveryClaim) (id : DeliveryId)
    (row : ExecutionEventDelivery) : Bool :=
  claim.delivery = id ∧ row.isClaimedBy claim.attempt claim.repairCycle

variable {workers : Workers D}

omit [DecidableEq D] in
theorem Workers.Fenced.countP_le_one (fenced : workers.Fenced)
    (id : DeliveryId) (row : ExecutionEventDelivery) :
    workers.outstanding.countP (fun claim => claim.matchesRow id row) ≤ 1 := by
  have matching : ∀ claim : EventDeliveryClaim, claim.matchesRow id row = true →
      claim.key = (id, row.repairCycle, row.deliveryAttempts) := by
    intro claim isMatch
    simp only [EventDeliveryClaim.matchesRow, ExecutionEventDelivery.isClaimedBy, decide_eq_true_eq,
      Bool.decide_and, Bool.and_eq_true] at isMatch
    simp only [EventDeliveryClaim.key, isMatch.1, ← isMatch.2.2.1, ← isMatch.2.2.2]
  calc workers.outstanding.countP (fun claim => claim.matchesRow id row)
      ≤ workers.outstanding.countP
          ((· == (id, row.repairCycle, row.deliveryAttempts)) ∘ EventDeliveryClaim.key) :=
        List.countP_mono_left fun claim _ isMatch => by simp [matching claim isMatch]
    _ = (workers.outstanding.map EventDeliveryClaim.key).count
          (id, row.repairCycle, row.deliveryAttempts) := by
        rw [List.count, List.countP_map]
    _ ≤ 1 := List.nodup_iff_count_le_one.mp fenced.distinct _

omit [DecidableEq D] in
theorem Workers.Fenced.others (fenced : workers.Fenced) (id : DeliveryId)
    (row : ExecutionEventDelivery) (current other : EventDeliveryClaim)
    (held : current ∈ workers.outstanding) (isMatch : current.matchesRow id row = true)
    (listed : other ∈ workers.outstanding.erase current) : other.matchesRow id row = false := by
  rw [Bool.eq_false_iff]
  intro isMatchToo
  have bound := fenced.countP_le_one id row
  rw [(List.perm_cons_erase held).countP_eq, List.countP_cons, if_pos isMatch] at bound
  have another : 0 < (workers.outstanding.erase current).countP
      (fun claim => claim.matchesRow id row) :=
    List.countP_pos_iff.mpr ⟨other, listed, isMatchToo⟩
  omega

def EventDeliveryClaim.Ignored (env : Env D) (db : Db D) (claim : EventDeliveryClaim) : Prop :=
  ∀ now, (∀ result, step env db
      ⟨now, .markEventDelivery claim.delivery claim.attempt claim.repairCycle result⟩ = db) ∧
    step env db ⟨now, .deferForSequenceGap claim⟩ = db

theorem EventDeliveryClaim.ignored (env : Env D) (db : Db D) (claim : EventDeliveryClaim)
    (row : ExecutionEventDelivery) (stored : db.deliveries.lookup claim.delivery = some row)
    (stale : claim.matchesRow claim.delivery row = false) : claim.Ignored env db := by
  have fenced : row.isClaimedBy claim.attempt claim.repairCycle = false := by
    simpa [EventDeliveryClaim.matchesRow] using stale
  intro now
  constructor
  · intro result
    have refused : apply env
        ⟨now, .markEventDelivery claim.delivery claim.attempt claim.repairCycle result⟩ db =
        .ok (.delivery none, db) := by
      simp only [apply, markEventDelivery, stored, orRaise_some, ok_bind, fenced, if_true]
      rfl
    exact Run.step_of_ok db db _ _ refused
  · have refused : apply env ⟨now, .deferForSequenceGap claim⟩ db = .ok (.flag false, db) := by
      simp only [apply, deferForSequenceGap, stored, Option.filter_some, fenced]
      rfl
    exact Run.step_of_ok db db _ _ refused

/-- At any time at most one outstanding claim matches a row, and the callbacks of every
other outstanding claim of that row change nothing. -/
theorem delivery_claims_have_no_aba (env : Env D) (actions : List (Instant × WorkerAction D))
    (id : DeliveryId) (row : ExecutionEventDelivery)
    (stored : (Workers.run env actions).db.deliveries.lookup id = some row) :
    (Workers.run env actions).outstanding.countP (fun claim => claim.matchesRow id row) ≤ 1 ∧
    (∀ current ∈ (Workers.run env actions).outstanding, current.matchesRow id row = true →
      ∀ other ∈ (Workers.run env actions).outstanding.erase current, other.delivery = id →
        other.Ignored env (Workers.run env actions).db) ∧
    (∀ claim ∈ (Workers.run env actions).outstanding, claim.delivery = id →
      claim.matchesRow id row = false → claim.Ignored env (Workers.run env actions).db) := by
  have fenced := Workers.Fenced.run env actions
  refine ⟨fenced.countP_le_one id row, ?_, ?_⟩
  · intro current held isMatch other listed named
    subst named
    exact other.ignored env _ row stored
      (fenced.others other.delivery row current other held isMatch listed)
  · intro claim _ named stale
    subst named
    exact claim.ignored env _ row stored stale

/-- Two batches an hour apart claim the event of a running attempt; the first worker is
still at it. -/
def slowWorker : List (Instant × WorkerAction PlainDigest) :=
  ((bringUp ++ ordinaryWork).map fun call : Call PlainDigest => (call.now, .other call.operation)) ++
    [(0, .other (.appendRuntimeEvent ⟨0, 1⟩ ⟨7, 1⟩ leaseToken ⟨70, "stream", 1, .dispatched⟩)),
      (0, .claim 20), (seconds 3600, .claim 20)]

def Env.publishing : Env PlainDigest :=
  { Env.plain with buildEventEnvelope := fun _ _ _ _ => .ok (some ⟨"fingerprint", .null⟩) }

theorem slow_worker_is_fenced :
    ∃ row, (Workers.run Env.publishing slowWorker).db.deliveries.lookup (⟨7, 1⟩, 70) = some row ∧
      (Workers.run Env.publishing slowWorker).outstanding.length = 2 ∧
      (Workers.run Env.publishing slowWorker).outstanding.countP
        (fun claim => claim.matchesRow (⟨7, 1⟩, 70) row) ≤ 1 := by
  obtain ⟨row, stored⟩ := Option.isSome_iff_exists.mp (show
    ((Workers.run Env.publishing slowWorker).db.deliveries.lookup (⟨7, 1⟩, 70)).isSome = true by
      decide +kernel)
  exact ⟨row, stored, by decide +kernel,
    (delivery_claims_have_no_aba Env.publishing slowWorker _ row stored).1⟩

end Foundry
