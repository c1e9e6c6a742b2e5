import Foundry.Evolution.Outbox

/-!
# The outbox

The life cycle of a row, in every run, and the fence that keeps a slow worker from
completing the claim of a later one.
-/

set_option autoImplicit false

namespace Foundry

open Raise

variable {D : Type}

/-! ## The life cycle -/

/-- The bounds on a row, together: a claimed row has used an attempt, so giving one
back never goes below zero. -/
structure ExecutionEventDelivery.Sound (row : ExecutionEventDelivery) : Prop where
  attempts : row.deliveryAttempts ≤ maxDeliveryAttempts
  claimed : row.state = .delivering → 0 < row.deliveryAttempts
  bytes : row.envelopeBytes.isSome = true ↔ row.state.isTerminal = false

theorem ExecutionEventDelivery.sound_enqueued (envelope : EventEnvelope) (createdAt : Instant) :
    (ExecutionEventDelivery.enqueued envelope createdAt).Sound :=
  ⟨Nat.zero_le _, nofun, by simp [ExecutionEventDelivery.enqueued, EventDeliveryState.isTerminal]⟩

variable {next row : ExecutionEventDelivery}

theorem ExecutionEventDelivery.BeginsCycle.sound (begins : row.BeginsCycle next) : next.Sound := by
  refine ⟨?_, ?_, ?_⟩
  · rw [begins.attempts]
    exact Nat.zero_le _
  · rw [begins.state]
    nofun
  · simp [begins.bytes, begins.state, EventDeliveryState.isTerminal]

theorem ExecutionEventDelivery.StaysInCycle.sound_pending
    {attempts : Nat} (stays : row.StaysInCycle next .pending attempts)
    (bound : attempts ≤ maxDeliveryAttempts) (held : row.state.isTerminal = false)
    (bytes : next.envelopeBytes = row.envelopeBytes) (sound : row.Sound) : next.Sound := by
  refine ⟨?_, ?_, ?_⟩
  · rw [stays.attempts]
    exact bound
  · rw [stays.state]
    nofun
  · simp [bytes, sound.bytes.mpr held, stays.state, EventDeliveryState.isTerminal]

theorem DeliveryOutcome.sound {service : Service}
    (outcome : DeliveryOutcome service row next) (sound : row.Sound) : next.Sound := by
  have bound := sound.attempts
  cases outcome with
  | waits pending stays bytes | retried pending stays bytes =>
    exact stays.sound_pending bound (by rw [pending]; rfl) bytes sound
  | claimed due left stays bytes =>
    have held : row.state.isTerminal = false := by
      rcases due with pending | delivering
      · rw [pending]
        rfl
      · rw [delivering]
        rfl
    refine ⟨?_, ?_, ?_⟩
    · rw [stays.attempts]
      exact left
    · intro _
      rw [stays.attempts]
      exact Nat.succ_pos _
    · simp [bytes, sound.bytes.mpr held, stays.state, EventDeliveryState.isTerminal]
  | deferred _ held stays bytes =>
    exact stays.sound_pending (Nat.le_trans (Nat.sub_le _ _) bound) (by rw [held]; rfl) bytes sound
  | ended _ _ terminal stays erased =>
    refine ⟨?_, ?_, ?_⟩
    · rw [stays.attempts]
      exact bound
    · rw [stays.state]
      rintro rfl
      cases terminal
    · simp [erased, stays.state, terminal]
  | repaired _ _ begins | redriven _ _ begins => exact begins.sound

structure ExecutionEventDelivery.Lives (call : Call D) (row next : ExecutionEventDelivery) :
    Prop where
  delivered : row.state = .delivered → next = row
  exhausted : row.state = .exhausted → next = row ∨
    (call.operation.service = .redriveEventDeliveries ∧ next.state = .pending ∧
      next.repairCycle = row.repairCycle + 1 ∧ next.deliveryAttempts = 0)
  automatic : call.operation.service ≠ .redriveEventDeliveries →
    next.repairCycle = row.repairCycle ∨ next.repairCycle ≤ maxAutomaticRepairCycles
  /-- A redrive rewrites exhausted rows only. -/
  redriven : call.operation.service = .redriveEventDeliveries → row.state ≠ .exhausted → next = row

namespace ExecutionEventDelivery.Lives

variable {call : Call D}

theorem refl (row : ExecutionEventDelivery) : row.Lives call row :=
  ⟨fun _ => rfl, fun _ => .inl rfl, fun _ => .inl rfl, fun _ _ => rfl⟩

theorem trans {first second third : ExecutionEventDelivery}
    (earlier : first.Lives call second) (later : second.Lives call third) :
    first.Lives call third where
  delivered := by
    intro state
    have same := earlier.delivered state
    exact (later.delivered (by rw [same]; exact state)).trans same
  exhausted := by
    intro state
    rcases earlier.exhausted state with same | ⟨service, pending, cycle, attempts⟩
    · rw [← same]
      exact later.exhausted (by rw [same]; exact state)
    · have same := later.redriven service (by rw [pending]; nofun)
      rw [same]
      exact .inr ⟨service, pending, cycle, attempts⟩
  automatic := by
    intro other
    rcases later.automatic other with same | bounded
    · rw [same]
      exact earlier.automatic other
    · exact .inr bounded
  redriven := by
    intro service state
    have same := earlier.redriven service state
    exact (later.redriven service (by rw [same]; exact state)).trans same

end ExecutionEventDelivery.Lives

section Steps

variable {env : Env D} {call : Call D} {start : Db D} {id : DeliveryId}
  {row next : ExecutionEventDelivery} {service : Service}

theorem DeliveryStep.takes (step : DeliveryStep env call start id row next) :
    (call.operation.service = .redriveEventDeliveries ∧ row.state = .exhausted) ∨
      (call.operation.service ≠ .redriveEventDeliveries ∧
        (row.state = .pending ∨ row.state = .delivering)) := by
  cases step with
  | expire _ service final =>
    simp only [ExecutionEventDelivery.isExpiredFinal, decide_eq_true_eq] at final
    exact .inr ⟨by simp [service], .inr final.1⟩
  | claim service due =>
    simp only [ExecutionEventDelivery.isClaimable, decide_eq_true_eq] at due
    exact .inr ⟨by simp [service], due.2.2.imp_right And.left⟩
  | report _ _ _ _ asked current | defer _ _ asked _ current =>
    simp only [ExecutionEventDelivery.isClaimedBy, decide_eq_true_eq] at current
    exact .inr ⟨by simp [asked, Operation.service], .inr current.1⟩
  | wake service pending => exact .inr ⟨by simp [service], .inl pending⟩
  | redrive _ service exhausted => exact .inl ⟨service, exhausted⟩

theorem DeliveryOutcome.of_exhausted (outcome : DeliveryOutcome service row next)
    (exhausted : row.state = .exhausted) : row.BeginsCycle next := by
  cases outcome with
  | waits pending => exact absurd (exhausted.symm.trans pending) nofun
  | claimed due =>
    rcases due with pending | held
    · exact absurd (exhausted.symm.trans pending) nofun
    · exact absurd (exhausted.symm.trans held) nofun
  | retried held | deferred _ held | ended _ held | repaired held =>
    exact absurd (exhausted.symm.trans held) nofun
  | redriven _ _ begins => exact begins

theorem DeliveryOutcome.of_open (outcome : DeliveryOutcome service row next)
    (unended : row.state = .pending ∨ row.state = .delivering) :
    next.repairCycle = row.repairCycle ∨ next.repairCycle ≤ maxAutomaticRepairCycles := by
  cases outcome with
  | waits _ stays | claimed _ _ stays | retried _ stays | deferred _ _ stays | ended _ _ _ stays =>
    exact .inl stays.cycle
  | repaired _ allowed begins =>
    rw [begins.cycle]
    exact .inr allowed
  | redriven _ exhausted =>
    rcases unended with pending | held
    · exact absurd (exhausted.symm.trans pending) nofun
    · exact absurd (exhausted.symm.trans held) nofun

theorem DeliveryStep.lives (step : DeliveryStep env call start id row next) :
    row.Lives call next := by
  rcases step.takes with ⟨service, exhausted⟩ | ⟨service, unended⟩
  · have begins := step.outcome.of_exhausted exhausted
    refine ⟨?_, ?_, ?_, ?_⟩
    · intro delivered
      exact absurd (exhausted.symm.trans delivered) nofun
    · intro _
      exact .inr ⟨service, begins.state, begins.cycle, begins.attempts⟩
    · intro other
      exact absurd service other
    · intro _ other
      exact absurd exhausted other
  · refine ⟨?_, ?_, ?_, ?_⟩
    · intro delivered
      rw [delivered] at unended
      exact absurd unended (by simp)
    · intro exhausted
      rw [exhausted] at unended
      exact absurd unended (by simp)
    · intro _
      exact step.outcome.of_open unended
    · intro redrive
      exact absurd redrive service

end Steps

section Runs

variable [DecidableEq D] (env : Env D)

theorem Write.deliveriesSound {env : Env D} {call : Call D} {start db next : Db D}
    (write : Write env call start db next)
    (sound : ∀ id row, db.deliveries.lookup id = some row → row.Sound)
    (id : DeliveryId) (later : ExecutionEventDelivery)
    (present : next.deliveries.lookup id = some later) : later.Sound := by
  rcases write.deliverySource present with
    ⟨row, stored, same | step⟩ | ⟨_, _, _, _, _, event, envelope, _, _, _, _, _, _, enqueued⟩
  · exact same ▸ sound id row stored
  · exact step.outcome.sound (sound id row stored)
  · rw [enqueued]
    exact ExecutionEventDelivery.sound_enqueued envelope event.createdAt

theorem run_deliveriesSound (calls : List (Call D)) (id : DeliveryId) (row : ExecutionEventDelivery)
    (stored : (run env Db.empty calls).deliveries.lookup id = some row) : row.Sound := by
  refine run_keeps env (fun db => ∀ id row, db.deliveries.lookup id = some row → row.Sound)
    (fun _ _ _ _ write => write.deliveriesSound) Db.empty calls ?_ id row stored
  intro id row stored
  simp [Db.empty] at stored

theorem step_lives (db : Db D) (call : Call D) (intact : db.Intact) (id : DeliveryId)
    (row next : ExecutionEventDelivery) (stored : db.deliveries.lookup id = some row)
    (present : (step env db call).deliveries.lookup id = some next) : row.Lives call next := by
  rcases Run.step_cases (apply env) db call with ⟨answer, _, success, same⟩ | same
  · rw [step, same] at present
    have continues := apply_deliveriesContinue (ExecutionEventDelivery.Lives call)
      ExecutionEventDelivery.Lives.refl ExecutionEventDelivery.Lives.trans
      (fun _ _ _ => DeliveryStep.lives) answer intact success
    rcases continues.2.kept id row stored with ⟨later, found, lives⟩ | gone
    · have isNext : later = next := Option.some.inj (found.symm.trans present)
      exact isNext ▸ lives
    · exact absurd ((continues.1.find_gone id gone).symm.trans present) (by rintro ⟨⟩)
  · rw [step, same, stored, Option.some.injEq] at present
    exact present ▸ .refl row

theorem run_delivered (db : Db D) (calls : List (Call D)) (intact : db.Intact) (id : DeliveryId)
    (row : ExecutionEventDelivery) (stored : db.deliveries.lookup id = some row)
    (delivered : row.state = .delivered) :
    (run env db calls).deliveries.lookup id = some row ∨
      (run env db calls).Removed id.1.execution := by
  have continues := (run_carries env (fun _ _ => True) Db.Intact (fun _ _ db => db.Intact)
    (deliveryRecords.Continues fun row next : ExecutionEventDelivery =>
      row.state = .delivered → next = row)
    (Records.Continues.refl fun _ _ => rfl)
    (Records.Continues.trans _ fun earlier later state =>
      (later (by rw [earlier state]; exact state)).trans (earlier state))
    (fun _ _ holds _ => holds)
    (fun _ _ _ _ write intact => ⟨write.intact intact, write.deliveriesContinue _
      (fun _ _ => rfl) (fun _ _ _ step => step.lives.delivered) intact⟩)
    (fun _ _ _ holds => holds) db calls intact (Run.meets_of_forall _ (fun _ _ => trivial) _ _)).2
  rcases continues.kept id row stored with ⟨_, found, same⟩ | gone
  · rw [same delivered] at found
    exact .inl found
  · exact .inr gone

theorem step_dryRun (db : Db D) (now : Instant) (deliveryIds : List DeliveryId)
    (eventIds : List Uuid) :
    step env db ⟨now, .redriveEventDeliveries deliveryIds eventIds false⟩ = db := by
  rcases Run.step_cases (apply env) db ⟨now, .redriveEventDeliveries deliveryIds eventIds false⟩
    with ⟨_, _, success, same⟩ | same
  · rw [step, same]
    simp only [apply] at success
    obtain ⟨_, success, _⟩ := (reply_eq_ok _ _ _ _).mp success
    simp only [redriveEventDeliveries, bind_eq_ok, Bool.false_eq_true, if_false, return_eq_ok] at success
    obtain ⟨_, _, _, _, _, _, _, unchanged⟩ := success
    exact unchanged.symm
  · exact same

/-- In every reached state the rows are sound; a delivered row stays so; an exhausted
row is left by a redrive only, into a new cycle without attempts; no other call raises
the cycle above its cap; and a dry run changes nothing. -/
theorem delivery_rows_keep_their_life_cycle (calls : List (Call D)) :
    (∀ id row, (run env Db.empty calls).deliveries.lookup id = some row → row.Sound) ∧
    (∀ rest id row, (run env Db.empty calls).deliveries.lookup id = some row →
      row.state = .delivered →
      (run env Db.empty (calls ++ rest)).deliveries.lookup id = some row ∨
        (run env Db.empty (calls ++ rest)).Removed id.1.execution) ∧
    (∀ call id row next, (run env Db.empty calls).deliveries.lookup id = some row →
      (step env (run env Db.empty calls) call).deliveries.lookup id = some next →
      row.Lives call next) ∧
    (∀ now deliveryIds eventIds,
      step env (run env Db.empty calls)
        ⟨now, .redriveEventDeliveries deliveryIds eventIds false⟩ = run env Db.empty calls) := by
  have intact := run_intact env calls Db.intact_empty
  refine ⟨run_deliveriesSound env calls, ?_, ?_, ?_⟩
  · intro rest id row stored delivered
    rw [run, Run.run_append]
    exact run_delivered env _ rest intact id row stored delivered
  · intro call id row next stored present
    exact step_lives env _ call intact id row next stored present
  · intro now deliveryIds eventIds
    exact step_dryRun env _ now deliveryIds eventIds

end Runs

end Foundry
