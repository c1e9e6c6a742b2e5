import Foundry.Evolution.Integrity

/-!
# The life of an outbox row

A row waits, is claimed, and ends, with repair cycles in between.  `DeliveryOutcome`
is the life cycle on its own: the states, the two counters and the bytes, and which
service gives an attempt back or starts a cycle by hand.  Every step of a call is one of
its outcomes.
-/

set_option autoImplicit false

namespace Foundry

open Raise
open Relation (ReflTransGen)

variable {D : Type}

structure ExecutionEventDelivery.BeginsCycle (row next : ExecutionEventDelivery) : Prop where
  state : next.state = .pending
  cycle : next.repairCycle = row.repairCycle + 1
  attempts : next.deliveryAttempts = 0
  bytes : next.envelopeBytes.isSome = true

structure ExecutionEventDelivery.StaysInCycle (row next : ExecutionEventDelivery)
    (state : EventDeliveryState) (attempts : Nat) : Prop where
  state : next.state = state
  cycle : next.repairCycle = row.repairCycle
  attempts : next.deliveryAttempts = attempts

inductive DeliveryOutcome (service : Service) (row next : ExecutionEventDelivery) : Prop
  | waits (pending : row.state = .pending)
      (stays : row.StaysInCycle next .pending row.deliveryAttempts)
      (bytes : next.envelopeBytes = row.envelopeBytes)
  | claimed (due : row.state = .pending ∨ row.state = .delivering)
      (left : row.deliveryAttempts < maxDeliveryAttempts)
      (stays : row.StaysInCycle next .delivering (row.deliveryAttempts + 1))
      (bytes : next.envelopeBytes = row.envelopeBytes)
  /-- A failed attempt that is tried again. -/
  | retried (held : row.state = .delivering)
      (stays : row.StaysInCycle next .pending row.deliveryAttempts)
      (bytes : next.envelopeBytes = row.envelopeBytes)
  | deferred (asked : service = .deferForSequenceGap) (held : row.state = .delivering)
      (stays : row.StaysInCycle next .pending (row.deliveryAttempts - 1))
      (bytes : next.envelopeBytes = row.envelopeBytes)
  | ended (state : EventDeliveryState) (held : row.state = .delivering)
      (terminal : state.isTerminal = true)
      (stays : row.StaysInCycle next state row.deliveryAttempts)
      (bytes : next.envelopeBytes = none)
  /-- Automatic repair. -/
  | repaired (held : row.state = .delivering) (allowed : row.repairCycle < maxAutomaticRepairCycles)
      (begins : row.BeginsCycle next)
  | redriven (asked : service = .redriveEventDeliveries) (exhausted : row.state = .exhausted)
      (begins : row.BeginsCycle next)

/-! ## Steps -/

section Steps

variable (env : Env D) (now : Instant) (id : DeliveryId) (row next : ExecutionEventDelivery)
  (db : Db D) (service : Service)

theorem transitionToRepair_outcome (given : ExecutionEventDelivery) (code : String)
    (held : row.state = .delivering) (cycle : given.repairCycle = row.repairCycle)
    (attempts : given.deliveryAttempts = row.deliveryAttempts)
    (success : transitionToRepair env now id given code db = .ok next) :
    DeliveryOutcome service row next := by
  simp only [transitionToRepair] at success
  split at success
  · split at success
    · cases success
      exact .ended .exhausted held rfl ⟨rfl, cycle, attempts⟩ rfl
    · cases success
  · split at success
    · cases success
      exact .ended .exhausted held rfl ⟨rfl, cycle, attempts⟩ rfl
    · next below =>
      cases success
      rw [cycle] at below
      refine .repaired held (Nat.lt_of_not_le below) ⟨rfl, ?_, rfl, rfl⟩
      rw [← cycle]
      rfl

theorem reportedDelivery_outcome (result : DeliveryResult) (held : row.state = .delivering)
    (success : reportedDelivery env now id row result db = .ok next) :
    DeliveryOutcome service row next := by
  simp only [reportedDelivery] at success
  split at success
  · cases success
    exact .ended .delivered held rfl ⟨rfl, rfl, rfl⟩ rfl
  · simp only [bind_eq_ok] at success
    obtain ⟨_, _, success⟩ := success
    generalize (if result.safeErrorCode = "" then "delivery_failed" else result.safeErrorCode) =
      code at success
    split at success
    · cases success
      exact .ended .exhausted held rfl ⟨rfl, rfl, rfl⟩ rfl
    · split at success
      · exact transitionToRepair_outcome env now id row next db service (row.failed code) code held rfl rfl
          success
      · cases success
        exact .retried held ⟨rfl, rfl, rfl⟩ rfl

end Steps

section

variable {env : Env D} {call : Call D} {start : Db D} {id : DeliveryId}
  {row next : ExecutionEventDelivery}

theorem DeliveryStep.outcome (step : DeliveryStep env call start id row next) :
    DeliveryOutcome call.operation.service row next := by
  cases step with
  | expire next _ final repairs =>
    simp only [ExecutionEventDelivery.isExpiredFinal, decide_eq_true_eq] at final
    exact transitionToRepair_outcome env call.now id row next start _ row _ final.1 rfl rfl repairs
  | claim _ due =>
    simp only [ExecutionEventDelivery.isClaimable, decide_eq_true_eq] at due
    exact .claimed (due.2.2.imp_right And.left) due.2.1 ⟨rfl, rfl, rfl⟩ rfl
  | report _ _ result next _ current reports =>
    simp only [ExecutionEventDelivery.isClaimedBy, decide_eq_true_eq] at current
    exact reportedDelivery_outcome env call.now id row next start _ result current.1 reports
  | defer _ _ asked _ current isDeferred =>
    simp only [ExecutionEventDelivery.isClaimedBy, decide_eq_true_eq] at current
    subst isDeferred
    refine .deferred (by rw [asked]; rfl) current.1 ⟨rfl, rfl, ?_⟩ rfl
    rw [current.2.1]
    rfl
  | wake _ pending => exact .waits pending ⟨pending, rfl, rfl⟩ rfl
  | redrive _ service exhausted => exact .redriven service exhausted ⟨rfl, rfl, rfl, rfl⟩

end

/-! ## Rows along a run -/

def deliveryRecords : Records (Db D) DeliveryId ExecutionEventDelivery where
  find := fun db id => db.deliveries.lookup id
  Gone := fun db id => db.Removed id.1.execution

theorem Db.Intact.find_gone {db : Db D} (intact : db.Intact) (id : DeliveryId)
    (gone : deliveryRecords.Gone db id) : deliveryRecords.find db id = none := by
  cases stored : db.deliveries.lookup id with
  | none => exact stored
  | some row =>
    obtain ⟨_, owner⟩ := intact.posted id row stored
    exact absurd (gone.2.symm.trans owner) nofun

section Runs

variable [DecidableEq D] {env : Env D} {call : Call D} {start db next : Db D}

section

variable (Related : ExecutionEventDelivery → ExecutionEventDelivery → Prop)
  (reflexive : ∀ row, Related row row)

include reflexive

theorem Write.deliveriesContinue
    (step : ∀ id row later, DeliveryStep env call start id row later → Related row later)
    (write : Write env call start db next) (intact : db.Intact) :
    deliveryRecords.Continues Related db next where
  kept := by
    intro id row stored
    rcases write.deliverySurvives stored with
      ⟨later, present, same | moved⟩ | ⟨execution, owner, removed⟩
    · exact .inl ⟨later, present, same ▸ reflexive row⟩
    · exact .inl ⟨later, present, step id row later moved⟩
    · exact .inr ⟨Nat.lt_of_lt_of_le (intact.numbered _ execution owner) write.units.supply,
        removed⟩
  gone := fun id gone => write.removed id.1.execution gone

theorem apply_deliveriesContinue (transitive : ∀ {first second third},
      Related first second → Related second third → Related first third)
    (step : ∀ id row later, DeliveryStep env call db id row later → Related row later)
    (answer : Reply D) (intact : db.Intact) (success : apply env call db = .ok (answer, next)) :
    next.Intact ∧ deliveryRecords.Continues Related db next :=
  (apply_evolution env call db next answer success).carries Db.Intact
    (deliveryRecords.Continues Related) (Records.Continues.refl reflexive)
    (Records.Continues.trans Related transitive)
    (fun _ _ write intact => ⟨write.intact intact,
      write.deliveriesContinue Related reflexive step intact⟩) intact

end

end Runs

end Foundry
