import Mathlib.Data.List.Dedup
import Mathlib.Data.List.Sort
import Foundry.Services.Events

/-!
# Event delivery

`event_delivery.py`: the workers that post outbox rows to Cloud, the automatic
repair of rows that ran out of attempts, and the operator's redrive.  Every function
here is one transaction.
-/

set_option autoImplicit false

namespace Foundry

open Raise

variable {D : Type}

/-! ## Rows -/

/-- `ExecutionEventDelivery.save` of an existing row: the bytes may only be erased,
or restored by a repair, and the bounded columns are checked. -/
def ExecutionEventDelivery.save (previous row : ExecutionEventDelivery) :
    Except RuntimeError ExecutionEventDelivery := do
  let erased := row.state.isTerminal = true ∧ row.envelopeBytes = none
  let rehydrated := previous.state = .exhausted ∧ row.state = .pending ∧
    previous.envelopeBytes = none ∧ row.envelopeBytes.isSome = true ∧
    previous.repairCycle < row.repairCycle
  require (previous.fingerprint = row.fingerprint ∧
      (previous.envelopeBytes = row.envelopeBytes ∨ erased ∨ rehydrated))
    (conflictError "event delivery envelope is immutable")
  require (erased ∨ row.envelopeBytes.isSome = true)
    (validationError "delivery envelope is too large")
  require (row.deliveryAttempts ≤ maxDeliveryAttempts)
    (validationError "delivery attempts exceed the bounded budget")
  require (row.safeErrorCode = "" ∨ isSafeCode row.safeErrorCode)
    (validationError "delivery error code is invalid")
  return row

/-- `_park_exhausted`. -/
def ExecutionEventDelivery.parkExhausted (row : ExecutionEventDelivery) (safeErrorCode : String) :
    ExecutionEventDelivery :=
  { row with
    state := .exhausted
    leaseExpiresAt := none
    safeErrorCode := safeErrorCode
    envelopeBytes := none }

def ExecutionEventDelivery.repaired (row : ExecutionEventDelivery) (encoded : Json)
    (nextAttemptAt : Instant) (safeErrorCode : String) : ExecutionEventDelivery :=
  { row with
    repairCycle := row.repairCycle + 1
    deliveryAttempts := 0
    state := .pending
    envelopeBytes := some encoded
    leaseExpiresAt := none
    nextAttemptAt := nextAttemptAt
    safeErrorCode := safeErrorCode
    deliveredAt := none }

def ExecutionEventDelivery.claimed (row : ExecutionEventDelivery) (now : Instant) :
    ExecutionEventDelivery :=
  { row with
    state := .delivering
    deliveryAttempts := row.deliveryAttempts + 1
    leaseExpiresAt := some (now + seconds deliveryLeaseSeconds) }

def ExecutionEventDelivery.delivered (row : ExecutionEventDelivery) (now : Instant) :
    ExecutionEventDelivery :=
  { row with
    state := .delivered
    deliveredAt := some now
    sequenceGapSince := none
    leaseExpiresAt := none
    safeErrorCode := ""
    envelopeBytes := none }

def ExecutionEventDelivery.failed (row : ExecutionEventDelivery) (safeErrorCode : String) :
    ExecutionEventDelivery :=
  { row with safeErrorCode := safeErrorCode, leaseExpiresAt := none }

/-- `_backoff_seconds`; `jitter` is the random part, in millionths of the base, of
which at most a quarter is added. -/
def backoff (deliveryAttempts jitter : Nat) : Instant :=
  min maxDeliveryBackoffSeconds (2 ^ (deliveryAttempts - 1)) * (1000000 + min jitter 250000)

/-! ## Repair -/

def Db.deliveryEvent (db : Db D) (id : DeliveryId) :
    Option (Execution D × Attempt D × ExecutionEvent D) :=
  (db.attempt? id.1).bind fun found =>
    (found.2.findEvent id.2).map fun event => (found.1, found.2, event)

/-- `_rebuild_delivery_envelope`: the row's payload, rebuilt and verified. -/
def rebuildDeliveryEnvelope (env : Env D) (id : DeliveryId) (row : ExecutionEventDelivery)
    (db : Db D) : Except RuntimeError Json := do
  let (execution, attempt, event) ← orRaise (db.deliveryEvent id)
    (conflictError "event delivery source event is unavailable")
  let built ← env.buildEventEnvelope id.1 execution attempt event
  let envelope ← orRaise built
    (conflictError "event delivery source event is not publishable")
  require (envelope.fingerprint = row.fingerprint)
    (conflictError "event delivery fingerprint does not match retained event")
  require (row.envelopeBytes.isSome = true ∨ row.state.isTerminal = true)
    (conflictError "event delivery envelope is missing")
  require (row.envelopeBytes.all fun bytes => bytes = envelope.bytes)
    (conflictError "event delivery envelope differs from retained event")
  return envelope.bytes

/-- `_transition_to_repair`: a final retryable delivery goes to a delayed repair
cycle, or is parked. -/
def transitionToRepair (env : Env D) (now : Instant) (id : DeliveryId)
    (row : ExecutionEventDelivery) (safeErrorCode : String) (db : Db D) :
    Except RuntimeError ExecutionEventDelivery :=
  let code := if safeErrorCode = "" ∨ env.isSafeErrorCode safeErrorCode = false then
    "delivery_failed" else safeErrorCode
  match rebuildDeliveryEnvelope env id row db with
  | .error error =>
    if error.kind.isConflict = true ∨ error.kind = .validation then
      return row.parkExhausted "delivery_source_invalid"
    else .error error
  | .ok encoded =>
    if maxAutomaticRepairCycles ≤ row.repairCycle then
      return row.parkExhausted "delivery_repair_exhausted"
    else
      return row.repaired encoded (now + seconds repairDelaySeconds) code

/-! ## Claims -/

structure EventDeliveryClaim where
  delivery : DeliveryId
  envelopeBytes : Option Json
  attempt : Nat
  repairCycle : Nat
deriving DecidableEq, Repr

/-- Earliest attempt first, then the oldest row, then the identifier. -/
def deliveryOrder (left right : DeliveryId × ExecutionEventDelivery) : Prop :=
  left.2.nextAttemptAt < right.2.nextAttemptAt ∨
    left.2.nextAttemptAt = right.2.nextAttemptAt ∧
      (left.2.createdAt < right.2.createdAt ∨
        left.2.createdAt = right.2.createdAt ∧
          (left.1.1.execution < right.1.1.execution ∨
            left.1.1.execution = right.1.1.execution ∧
              (left.1.1.number < right.1.1.number ∨
                left.1.1.number = right.1.1.number ∧ left.1.2 ≤ right.1.2)))

instance (left right : DeliveryId × ExecutionEventDelivery) :
    Decidable (deliveryOrder left right) :=
  inferInstanceAs (Decidable (_ ∨ _ ∧ (_ ∨ _ ∧ (_ ∨ _ ∧ (_ ∨ _ ∧ _)))))

def firstDeliveries (limit : Nat) (test : ExecutionEventDelivery → Bool)
    (deliveries : Table DeliveryId ExecutionEventDelivery) :
    List (DeliveryId × ExecutionEventDelivery) :=
  ((deliveries.rows.filter fun row : DeliveryId × ExecutionEventDelivery =>
    test row.2).insertionSort deliveryOrder).take limit

/-- An expired claim without an attempt left in its repair cycle. -/
def ExecutionEventDelivery.isExpiredFinal (row : ExecutionEventDelivery) (now : Instant) : Bool :=
  row.state = .delivering ∧ row.deliveryAttempts = maxDeliveryAttempts ∧
    row.leaseExpiresAt.any fun expiry => expiry ≤ now

def ExecutionEventDelivery.isClaimable (row : ExecutionEventDelivery) (now : Instant) : Bool :=
  row.nextAttemptAt ≤ now ∧ row.deliveryAttempts < maxDeliveryAttempts ∧
    (row.state = .pending ∨
      row.state = .delivering ∧ row.leaseExpiresAt.any fun expiry => expiry ≤ now)

def repairExpired (env : Env D) (now : Instant) (db : Db D)
    (deliveries : Table DeliveryId ExecutionEventDelivery)
    (found : DeliveryId × ExecutionEventDelivery) :
    Except RuntimeError (Table DeliveryId ExecutionEventDelivery) := do
  let row ← transitionToRepair env now found.1 found.2 "delivery_lease_expired" db
  let saved ← found.2.save row
  return deliveries.insert found.1 saved

def claimDelivery (now : Instant)
    (state : List EventDeliveryClaim × Table DeliveryId ExecutionEventDelivery)
    (found : DeliveryId × ExecutionEventDelivery) :
    Except RuntimeError (List EventDeliveryClaim × Table DeliveryId ExecutionEventDelivery) := do
  let saved ← found.2.save (found.2.claimed now)
  return (state.1 ++
      [⟨found.1, saved.envelopeBytes, saved.deliveryAttempts, saved.repairCycle⟩],
    state.2.insert found.1 saved)

def claimEventDeliveries (env : Env D) (now : Instant) (limit : Nat) (db : Db D) :
    Except RuntimeError (List EventDeliveryClaim × Db D) := do
  require (1 ≤ limit ∧ limit ≤ maxDeliveryBatch)
    (validationError "delivery limit must be between 1 and 20")
  let finals := firstDeliveries limit (fun row => row.isExpiredFinal now) db.deliveries
  let repaired ← finals.foldlM (repairExpired env now db) db.deliveries
  let due := firstDeliveries limit (fun row => row.isClaimable now) repaired
  let (claims, deliveries) ← due.foldlM (claimDelivery now) ([], repaired)
  return (claims, { db with deliveries := deliveries })

/-! ## Callbacks -/

/-- The fence of every callback: the row is still under this claim. -/
def ExecutionEventDelivery.isClaimedBy (row : ExecutionEventDelivery)
    (attempt repairCycle : Nat) : Bool :=
  row.state = .delivering ∧ row.deliveryAttempts = attempt ∧ row.repairCycle = repairCycle

structure DeliveryResult where
  success : Bool
  safeErrorCode : String
  terminal : Bool
  jitter : Nat
deriving DecidableEq, Repr

def reportedDelivery (env : Env D) (now : Instant) (id : DeliveryId)
    (row : ExecutionEventDelivery) (result : DeliveryResult) (db : Db D) :
    Except RuntimeError ExecutionEventDelivery := do
  if result.success then
    return row.delivered now
  else
    require (result.safeErrorCode = "" ∨ env.isSafeErrorCode result.safeErrorCode = true)
      (validationError "delivery error code is invalid")
    let code := if result.safeErrorCode = "" then "delivery_failed" else result.safeErrorCode
    let failed := row.failed code
    if result.terminal then
      return { failed with state := .exhausted, envelopeBytes := none }
    else if maxDeliveryAttempts ≤ failed.deliveryAttempts then
      transitionToRepair env now id failed code db
    else
      return { failed with
        state := .pending
        nextAttemptAt := now + backoff failed.deliveryAttempts result.jitter }

/-- `mark_event_delivery`: the row, or nothing when the claim is not current. -/
def markEventDelivery (env : Env D) (now : Instant) (id : DeliveryId)
    (attempt repairCycle : Nat) (result : DeliveryResult) (db : Db D) :
    Except RuntimeError (Option ExecutionEventDelivery × Db D) := do
  let row ← orRaise (db.deliveries.lookup id) (doesNotExist "ExecutionEventDelivery")
  if row.isClaimedBy attempt repairCycle = false then
    return (none, db)
  else
    let reported ← reportedDelivery env now id row result db
    let saved ← row.save reported
    return (some saved, { db with deliveries := db.deliveries.insert id saved })

/-- A claimed row goes back to wait for a predecessor, since the first gap Cloud
reported for it. -/
def ExecutionEventDelivery.deferred (row : ExecutionEventDelivery) (now : Instant)
    (attempt : Nat) : ExecutionEventDelivery :=
  { row with
    state := .pending
    deliveryAttempts := attempt - 1
    leaseExpiresAt := none
    nextAttemptAt := now + seconds sequenceGapRetrySeconds
    safeErrorCode := "sequence_gap"
    sequenceGapSince := some (row.sequenceGapSince.getD now) }

/-- `_defer_for_sequence_gap`: wait for the missing predecessor without consuming a
delivery attempt; `false` once the gap has outlived its patience. -/
def deferForSequenceGap (now : Instant) (claim : EventDeliveryClaim) (db : Db D) :
    Except RuntimeError (Bool × Db D) :=
  match (db.deliveries.lookup claim.delivery).filter
      (fun row => row.isClaimedBy claim.attempt claim.repairCycle) with
  | none => return (false, db)
  | some row =>
    let gapSince := row.sequenceGapSince.getD now
    if gapSince + seconds sequenceGapPatienceSeconds < now then return (false, db)
    else do
      let saved ← row.save (row.deferred now claim.attempt)
      return (true, { db with deliveries := db.deliveries.insert claim.delivery saved })

def Db.deliverySequence (db : Db D) (id : DeliveryId) : Option Nat :=
  (db.deliveryEvent id).map fun found => found.2.2.sequence

/-- `_wake_attempt_successors`: later events of the attempt that backed off behind
this one are due at once. -/
def wakeAttemptSuccessors (now : Instant) (id : DeliveryId) (db : Db D) :
    Except RuntimeError (Unit × Db D) :=
  return ((), { db with
    deliveries := db.deliveries.updateAll fun other row =>
      if other.1 = id.1 ∧
          ((db.deliverySequence id).any fun sequence =>
            (db.deliverySequence other).any fun later => sequence < later) ∧
          row.state = .pending ∧ row.safeErrorCode = "sequence_gap" ∧ now < row.nextAttemptAt then
        { row with nextAttemptAt := now }
      else row })

/-! ## Redrive -/

structure RedriveReport where
  requested : Nat
  validated : Nat
  redriven : Nat
  skipped : Nat
deriving DecidableEq, Repr

/-- The selected rows, each by its own identifier or as the last row of an event id. -/
def selectDeliveries (deliveryIds : List DeliveryId) (eventIds : List Uuid)
    (deliveries : Table DeliveryId ExecutionEventDelivery) :
    Except RuntimeError (List (DeliveryId × ExecutionEventDelivery)) := do
  let byId ← deliveryIds.mapM fun id =>
    orRaise ((deliveries.lookup id).map fun row => (id, row))
      (validationError "selected delivery was not found")
  let byEvent ← eventIds.mapM fun eventId =>
    orRaise (deliveries.rows.reverse.find? fun row => row.1.2 = eventId)
      (validationError "selected delivery was not found")
  -- A row selected twice counts once, where it is selected first.
  return (byId ++ byEvent).reverse.dedup.reverse

def ExecutionEventDelivery.redriven (row : ExecutionEventDelivery) (encoded : Json)
    (now : Instant) : ExecutionEventDelivery :=
  { row.repaired encoded now "manual_redrive" with sequenceGapSince := none }

def redriveOne (now : Instant) (deliveries : Table DeliveryId ExecutionEventDelivery)
    (found : (DeliveryId × ExecutionEventDelivery) × Json) :
    Except RuntimeError (Table DeliveryId ExecutionEventDelivery) :=
  if found.1.2.state = .exhausted then do
    let saved ← found.1.2.save (found.1.2.redriven found.2 now)
    return deliveries.insert found.1.1 saved
  else return deliveries

/-- Validate selected retained events and, when confirmed, redrive the exhausted
rows. -/
def redriveEventDeliveries (env : Env D) (now : Instant) (deliveryIds : List DeliveryId)
    (eventIds : List Uuid) (confirm : Bool) (db : Db D) :
    Except RuntimeError (RedriveReport × Db D) := do
  require (deliveryIds ≠ [] ∨ eventIds ≠ [])
    (validationError "at least one delivery_id or event_id is required")
  let rows ← selectDeliveries deliveryIds eventIds db.deliveries
  let rebuilt ← rows.mapM fun row => do
    let encoded ← rebuildDeliveryEnvelope env row.1 row.2 db
    return (row, encoded)
  let exhausted := rows.filter fun row => row.2.state = .exhausted
  if confirm then
    let deliveries ← rebuilt.foldlM (redriveOne now) db.deliveries
    return (⟨rows.length, rows.length, exhausted.length, rows.length - exhausted.length⟩,
      { db with deliveries := deliveries })
  else
    return (⟨rows.length, rows.length, 0, 0⟩, db)

end Foundry
