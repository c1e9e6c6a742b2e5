import Foundry.Evolution.Expiry
import Foundry.Properties.Events

/-!
# The event budget of a retirement

An expired lease is retired with up to two events: the server's own failure, and the result of a
routine.  Each takes the next number, and one number is reserved above the ordinary ones.
-/

set_option autoImplicit false

namespace Foundry

open Raise

variable {D : Type}

/-! ## The budget -/

variable {attempt : Attempt D}

theorem Attempt.latestSequence_le {bound : Nat}
    (below : ∀ event ∈ attempt.events, event.sequence ≤ bound) :
    attempt.latestSequence ≤ bound := by
  unfold Attempt.latestSequence
  revert below
  induction attempt.events with
  | nil =>
    intro _
    exact Nat.zero_le bound
  | cons event _ ih =>
    intro below
    rw [List.map_cons, List.foldr_cons]
    exact Nat.max_le.mpr ⟨below event (List.mem_cons_self ..),
      ih fun later member => below later (List.mem_cons_of_mem _ member)⟩

variable {event : ExecutionEvent D}

theorem Attempt.latestSequence_store (next : event.sequence = attempt.latestSequence + 1) :
    (attempt.store event).latestSequence = attempt.latestSequence + 1 := by
  refine Nat.le_antisymm (Attempt.latestSequence_le ?_) ?_
  · intro other member
    rcases List.mem_append.mp member with old | new
    · exact Nat.le_succ_of_le (attempt.sequence_le_latest old)
    · rw [List.mem_singleton.mp new, next]
  · rw [← next]
    exact (attempt.store event).sequence_le_latest
      (List.mem_append_right _ (List.mem_singleton_self event))

def Attempt.WithinBudget (attempt : Attempt D) : Prop :=
  ∀ event ∈ attempt.events, event.sequence ≤ maxTerminalSequence

theorem Attempt.WithinBudget.store
    (within : attempt.WithinBudget) (bounded : event.sequence ≤ maxTerminalSequence) :
    (attempt.store event).WithinBudget := by
  intro other member
  rcases List.mem_append.mp member with old | new
  · exact within other old
  · rw [List.mem_singleton.mp new]
    exact bounded

theorem Attempt.WithinBudget.of_events {later : Attempt D} (within : attempt.WithinBudget)
    (same : later.events = attempt.events) : later.WithinBudget := by
  intro event member
  rw [same] at member
  exact within event member

theorem Attempt.WithinBudget.applyOption {failure : Option (Append D)}
    (within : attempt.WithinBudget) (appends : ∀ event, failure = some (.appended event) →
      event.sequence ≤ maxTerminalSequence) :
    (Append.applyOption attempt failure).WithinBudget := by
  rcases failure with _ | _ | event
  · exact within
  · exact within
  · exact within.store (appends event rfl)

section Budget

variable [DecidableEq D] {env : Env D} {call : Call D} {db : Db D} {id : Uuid}
  {execution : Execution D}

theorem Move.withinBudget {number : Nat} {later : Attempt D} {status : ExecutionStatus}
    {routine : Option RoutineExecution}
    (move : Move env call db id execution number attempt later status routine)
    (within : attempt.WithinBudget) : later.WithinBudget := by
  cases move with
  | append _ _ _ _ _ _ _ _ bounded =>
    exact within.store (Nat.le_trans bounded (by decide))
  | requestApproval _ _ _ _ _ _ _ _ _ _ _ _ _ bounded =>
    exact (within.store (Nat.le_trans bounded (by decide))).of_events rfl
  | finish _ _ _ _ _ outcome _ _ _ _ _ _ _ _ appends =>
    have stored : (Append.applyOption attempt outcome).WithinBudget :=
      within.applyOption fun event appended => (appends event appended).2.2.1
    exact stored.of_events rfl
  | retire _ _ _ failure _ _ _ _ _ _ appends =>
    have stored : (Append.applyOption attempt failure).WithinBudget :=
      within.applyOption fun event appended => (appends event appended).bounded
    exact stored.of_events rfl
  | retireRoutine _ _ _ failure event _ _ _ _ _ _ appends result =>
    have stored : (Append.applyOption attempt failure).WithinBudget :=
      within.applyOption fun event appended => (appends event appended).bounded
    exact (stored.store result.bounded).of_events rfl
  | stopRoutine _ _ _ _ _ _ _ _ _ _ _ _ _ _ _ result | record _ _ _ _ _ _ result
  | recordSealed _ _ _ _ _ _ _ _ _ _ _ result | cleanupRoutine _ _ _ _ _ _ _ _ _ result =>
    exact (within.store result.bounded).of_events rfl
  | endWait _ _ waitEnd event _ _ _ _ _ result =>
    exact (within.store result.bounded).of_events
      (endWait_events attempt call.now waitEnd event)
  | renew | mutate | bindSession | bindRoutineSession | stop | sealReplay | approve | fence
  | requeue | requeueRoutine | close | cleanup | resume | abandon => exact within.of_events rfl

def budgetRule (env : Env D) : UnitRule env where
  Condition := fun _ _ _ _ => True
  Holds := fun _ execution => execution.AllAttempts Attempt.WithinBudget
  Related := fun _ _ => True
  reflexive := fun _ => trivial
  transitive := fun _ _ => trivial
  birth := fun _ _ _ _ born => by
    refine ⟨born.allAttempts _ fun attempt new => ?_, trivial⟩
    intro event member
    rw [new.events] at member
    cases member
  change := by
    intro call db id execution next holds _ change
    refine ⟨⟨?_, trivial⟩, trivial⟩
    refine change.allAttempts _ ?_ ?_ ?_ holds
    · intro attempt new event member
      rw [new.events] at member
      cases member
    · intro attempt profile within
      exact within.of_events rfl
    · intro number attempt later status routine _ move within
      exact move.withinBudget within

section

variable (calls : List (Call D)) (number : Nat) {attempt : Attempt D}
  (stored : (run env Db.empty calls).executions.lookup id = some execution)

include calls stored

theorem run_withinBudget
    (found : execution.attempt? number = some attempt) : attempt.WithinBudget :=
  (budgetRule env).holds calls (runMeets_of_forall env _ (fun _ _ _ _ => trivial) _ _) id execution
    stored number attempt found

theorem run_reserved
    (ordinary : execution.routine = none) (found : execution.attempt? number = some attempt)
    (isOpen : attempt.status.isOpen = true) :
    attempt.latestSequence + 1 ≤ maxTerminalSequence := by
  have finality := (finalityRule env).holds calls (runMeets_of_forall env _
    (fun _ _ _ _ => trivial) _ _) id execution stored ordinary number attempt found
  have below : ∀ event ∈ attempt.events, event.sequence < maxTerminalSequence := by
    intro event member
    refine Nat.lt_of_le_of_ne (run_withinBudget calls number stored found event member) ?_
    intro last
    have ending := finality.reserved event member last
    rw [finality.unended isOpen event member] at ending
    cases ending
  have latest : attempt.latestSequence ≤ maxTerminalSequence - 1 :=
    Attempt.latestSequence_le fun event member => Nat.le_pred_of_lt (below event member)
  have positive : 0 < maxTerminalSequence := by decide
  omega

end

end Budget

/-! ## What a retirement appends -/

section Retirement

variable (env : Env D) (now : Instant) (id : AttemptId) (drawn : Uuid) (cleanupPending : Bool)
  (attempt : Attempt D)

def expiryFailureEvent : ExecutionEvent D where
  eventId := env.leaseExpiryEventId id
  streamId := env.attemptStream id
  sequence := attempt.latestSequence + 1
  payload := .failed leaseExpiryFailureCode false
  payloadDigest := env.digestPayload (.event (.failed leaseExpiryFailureCode false))
  createdAt := now

def knownFailure : Append D :=
  match attempt.findEvent (env.leaseExpiryEventId id) with
  | some existing => .replayed existing
  | none => .appended (expiryFailureEvent env now id attempt)

/-- A stored failure is the server's own, and a new one has a number left. -/
def FailureFits : Prop :=
  match attempt.findEvent (env.leaseExpiryEventId id) with
  | some existing => existing.eventType = .failed ∧ existing.streamId = env.attemptStream id ∧
      existing.payloadDigest = env.digestPayload (.event (.failed leaseExpiryFailureCode false))
  | none => attempt.latestSequence + 1 ≤ maxTerminalSequence

def failureSlots : Nat :=
  if cleanupPending || (attempt.findEvent (env.leaseExpiryEventId id)).isSome then 0 else 1

def afterFailure : Attempt D :=
  if cleanupPending then attempt else (knownFailure env now id attempt).applyTo attempt

theorem latestSequence_afterFailure :
    (afterFailure env now id cleanupPending attempt).latestSequence =
      attempt.latestSequence + failureSlots env id cleanupPending attempt := by
  unfold afterFailure failureSlots knownFailure
  cases cleanupPending with
  | true => rfl
  | false =>
    cases attempt.findEvent (env.leaseExpiryEventId id) with
    | some => rfl
    | none => exact Attempt.latestSequence_store rfl

def expiryText : String := "Routine lease expired before completion."

def expiryResultEvent (routine : RoutineExecution) : ExecutionEvent D where
  eventId := drawn
  streamId := env.routineStream routine.runId
  sequence := attempt.latestSequence + failureSlots env id cleanupPending attempt + 1
  payload := .routineResult (resultPayload id routine .failed expiryText [] none)
  payloadDigest :=
    env.digestPayload (.event (.routineResult (resultPayload id routine .failed expiryText [] none)))
  createdAt := now

/-- The result has a number left, its contract holds, and its identifier is new. -/
structure ResultFits (routine : RoutineExecution) : Prop where
  numbered : attempt.latestSequence + failureSlots env id cleanupPending attempt + 1 ≤
    maxRoutineTerminalSequence
  valid : env.routineResultIsValid (resultPayload id routine .failed expiryText [] none) drawn
    (attempt.latestSequence + failureSlots env id cleanupPending attempt + 1) now = true
  fresh : (afterFailure env now id cleanupPending attempt).findEvent drawn = none

def expiryEvents (execution : Execution D) : List (ExecutionEvent D) :=
  (if cleanupPending then [] else [(knownFailure env now id attempt).event]) ++
    match execution.routineAt id.number with
    | some routine =>
      if routine.status.isTerminal then []
      else [expiryResultEvent env now id drawn cleanupPending attempt routine]
    | none => []

/-- The outbox takes the event: its envelope is built, and agrees with a row that is there. -/
def OutboxTakes (execution : Execution D)
    (deliveries : Table DeliveryId ExecutionEventDelivery) (event : ExecutionEvent D) : Prop :=
  match env.buildEventEnvelope id execution attempt event with
  | .error _ => False
  | .ok none => True
  | .ok (some envelope) => ∀ existing, deliveries.lookup (id, event.eventId) = some existing →
      existing.fingerprint = envelope.fingerprint

structure RetirementFits (execution : Execution D)
    (deliveries : Table DeliveryId ExecutionEventDelivery) : Prop where
  failure : cleanupPending = false → FailureFits env id attempt
  result : ∀ routine, execution.routineAt id.number = some routine →
    routine.status.isTerminal = false → ResultFits env now id drawn cleanupPending attempt routine
  published : ∀ event ∈ expiryEvents env now id drawn cleanupPending attempt execution,
    OutboxTakes env id attempt execution deliveries event

theorem unstored_next : ∀ stored ∈ attempt.events,
    stored.sequence ≠ attempt.latestSequence + 1 := by
  intro stored member same
  have bound := attempt.sequence_le_latest member
  omega

variable {execution : Execution D}

theorem expiryEvents_distinct (result : ∀ routine, execution.routineAt id.number = some routine →
      routine.status.isTerminal = false →
      ResultFits env now id drawn cleanupPending attempt routine) :
    ((expiryEvents env now id drawn cleanupPending attempt execution).map
      ExecutionEvent.eventId).Nodup := by
  unfold expiryEvents
  cases current : execution.routineAt id.number with
  | none => cases cleanupPending <;> simp
  | some routine =>
    cases terminal : routine.status.isTerminal with
    | true => cases cleanupPending <;> simp [terminal]
    | false =>
      cases cleanupPending with
      | true => simp [terminal]
      | false =>
        have fresh := (result routine current terminal).fresh
        have stored : (knownFailure env now id attempt).event ∈
            (afterFailure env now id false attempt).events := by
          unfold afterFailure knownFailure
          cases known : attempt.findEvent (env.leaseExpiryEventId id) with
          | some existing => exact (attempt.findEvent_eq_some known).1
          | none => exact List.mem_append_right _ (List.mem_singleton_self _)
        have different := (Attempt.findEvent_eq_none _ drawn).mp fresh _ stored
        simp [terminal, different, expiryResultEvent]

variable [DecidableEq D]

theorem leaseExpiredFailure_eq_ok_iff (outcome : Append D) :
    leaseExpiredFailure env now id attempt = .ok outcome ↔
      FailureFits env id attempt ∧ outcome = knownFailure env now id attempt := by
  unfold leaseExpiredFailure FailureFits knownFailure
  cases attempt.findEvent (env.leaseExpiryEventId id) with
  | some =>
    simp only [ensureExactReplay, bind_eq_ok, require_eq_ok, pure_eq_ok, true_and]
    constructor
    · rintro ⟨_, same, rfl⟩
      exact ⟨same, rfl⟩
    · rintro ⟨same, rfl⟩
      exact ⟨(), same, rfl⟩
  | none =>
    simp only [bind_eq_ok, require_eq_ok, pure_eq_ok]
    constructor
    · rintro ⟨_, bounded, rfl⟩
      exact ⟨bounded, rfl⟩
    · rintro ⟨bounded, rfl⟩
      exact ⟨(), bounded, rfl⟩

theorem expiryFailure_eq_ok_iff (failures : List (Append D)) (failed : Attempt D) :
    expiryFailure env now id cleanupPending attempt = .ok (failures, failed) ↔
      (cleanupPending = false → FailureFits env id attempt) ∧
        failures = (if cleanupPending then [] else [knownFailure env now id attempt]) ∧
        failed = afterFailure env now id cleanupPending attempt := by
  unfold expiryFailure afterFailure
  cases cleanupPending with
  | true =>
    simp only [if_true, return_eq_ok, Bool.true_eq_false, false_imp_iff, true_and]
    exact and_congr eq_comm eq_comm
  | false =>
    simp only [Bool.false_eq_true, if_false, bind_eq_ok, leaseExpiredFailure_eq_ok_iff,
      return_eq_ok, true_imp_iff]
    constructor
    · rintro ⟨_, ⟨fits, rfl⟩, rfl, rfl⟩
      exact ⟨fits, rfl, rfl⟩
    · rintro ⟨fits, rfl, rfl⟩
      exact ⟨_, ⟨fits, rfl⟩, rfl, rfl⟩

variable {routine : RoutineExecution}

theorem recordTerminalFailureResult_succeeds_iff (current : execution.routineAt id.number = some routine)
    (unfinished : routine.status.isTerminal = false) :
    (∃ recorded, recordTerminalFailureResult env now id.execution drawn expiryText
      (execution.setAttempt id.number (afterFailure env now id cleanupPending attempt)) =
      .ok (.appended (expiryResultEvent env now id drawn cleanupPending attempt routine),
        recorded)) ↔ ResultFits env now id drawn cleanupPending attempt routine := by
  obtain ⟨isRoutine, isCurrent⟩ := Option.filter_eq_some_iff.mp current
  have stays : (execution.setAttempt id.number
      (afterFailure env now id cleanupPending attempt)).routine = some routine := isRoutine
  have numbered := latestSequence_afterFailure env now id cleanupPending attempt
  have free := unstored_next (afterFailure env now id cleanupPending attempt)
  unfold recordTerminalFailureResult recordRoutineResultOnce
  simp only [stays, orRaise_some, ok_bind, of_decide_eq_true isCurrent, attempt?_setAttempt_same,
    Option.getD_none, numbered] at free ⊢
  constructor
  · rintro ⟨_, success⟩
    simp only [bind_eq_ok, require_eq_ok] at success
    obtain ⟨_, bounds, _, valid, success⟩ := success
    refine ⟨bounds.2, valid, ?_⟩
    split at success
    · simp only [bind_eq_ok, require_eq_ok, return_eq_ok] at success
      obtain ⟨_, _, impossible, _⟩ := success
      cases impossible
    · next unknown => exact unknown
  · intro fits
    refine ⟨applyRoutineResult now .failed id.number
      (expiryResultEvent env now id drawn cleanupPending attempt routine) routine
      (afterFailure env now id cleanupPending attempt)
      (execution.setAttempt id.number (afterFailure env now id cleanupPending attempt)), ?_⟩
    rw [require_of _ _ ⟨Nat.le_add_left .., fits.numbered⟩, ok_bind, require_of _ _ fits.valid,
      ok_bind]
    rw [fits.fresh]
    dsimp only
    rw [require_of _ _ unfinished, ok_bind,
      require_of _ _ (by simpa using free), ok_bind]
    rfl

theorem recordTerminalFailureResult_appends {recorded : Execution D} {outcome : Append D}
    (current : execution.routineAt id.number = some routine)
    (success : recordTerminalFailureResult env now id.execution drawn expiryText
      (execution.setAttempt id.number (afterFailure env now id cleanupPending attempt)) =
      .ok (outcome, recorded)) :
    outcome = .appended (expiryResultEvent env now id drawn cleanupPending attempt routine) := by
  obtain ⟨isRoutine, isCurrent⟩ := Option.filter_eq_some_iff.mp current
  have stays : (execution.setAttempt id.number
      (afterFailure env now id cleanupPending attempt)).routine = some routine := isRoutine
  have numbered := latestSequence_afterFailure env now id cleanupPending attempt
  have free := unstored_next (afterFailure env now id cleanupPending attempt)
  unfold recordTerminalFailureResult recordRoutineResultOnce at success
  simp only [stays, orRaise_some, ok_bind, of_decide_eq_true isCurrent, attempt?_setAttempt_same,
    Option.getD_none, numbered, bind_eq_ok, require_eq_ok] at free success
  obtain ⟨_, _, _, _, success⟩ := success
  split at success
  · next existing known =>
    simp only [bind_eq_ok, require_eq_ok, return_eq_ok] at success
    obtain ⟨_, same, _⟩ := success
    exact absurd same.1 (free existing (Attempt.findEvent_eq_some _ known).1)
  · simp only [bind_eq_ok, require_eq_ok, return_eq_ok] at success
    obtain ⟨_, _, _, _, rfl, _⟩ := success
    rfl

section

variable {state : LeaseState} {execution : Execution D}

theorem retireExpired_closed (notOpen : attempt.status.isOpen = false) :
    retireExpired env now id drawn cleanupPending state attempt execution =
      .ok ⟨execution.setAttempt id.number
        (attempt.expireLease now (execution.routineAt id.number).isSome state), []⟩ := by
  unfold retireExpired
  rw [notOpen]
  rfl

theorem retireExpired_appends {reconciled : Reconciled D} (isOpen : attempt.status.isOpen = true)
    (success : retireExpired env now id drawn cleanupPending state attempt execution =
      .ok reconciled) :
    (cleanupPending = false → FailureFits env id attempt) ∧
      (∀ routine, execution.routineAt id.number = some routine →
        routine.status.isTerminal = false →
        ResultFits env now id drawn cleanupPending attempt routine) ∧
      reconciled.events.map Append.event =
        expiryEvents env now id drawn cleanupPending attempt execution := by
  unfold retireExpired at success
  simp only [isOpen, if_true, bind_eq_ok] at success
  obtain ⟨⟨_, _⟩, decided, ⟨_, _⟩, ended, success⟩ := success
  obtain ⟨fits, rfl, rfl⟩ := (expiryFailure_eq_ok_iff env now id cleanupPending attempt _ _).mp decided
  refine ⟨fits, ?_⟩
  unfold expiryResult at ended
  unfold expiryEvents
  cases current : execution.routineAt id.number with
  | none =>
    simp only [current, Option.all_none, if_true, return_eq_ok] at ended
    obtain ⟨rfl, rfl⟩ := ended
    simp only [current, attempt?_setAttempt_same, orRaise_some, Except.ok.injEq,
      exists_eq_left', pure_eq_ok] at success
    subst success
    refine ⟨by simp, ?_⟩
    cases cleanupPending <;> rfl
  | some routine =>
    simp only [current, Option.all_some] at ended
    cases terminal : routine.status.isTerminal with
    | true =>
      simp only [terminal, if_true, return_eq_ok] at ended
      obtain ⟨rfl, rfl⟩ := ended
      simp only [current, attempt?_setAttempt_same, orRaise_some, Except.ok.injEq,
        exists_eq_left', pure_eq_ok] at success
      subst success
      refine ⟨?_, ?_⟩
      · intro other same unfinished
        rw [Option.some.injEq] at same
        rw [← same, terminal] at unfinished
        cases unfinished
      · simp only [terminal, if_true]
        cases cleanupPending <;> rfl
    | false =>
      simp only [terminal, Bool.false_eq_true, if_false, bind_eq_ok, return_eq_ok] at ended
      obtain ⟨⟨_, _⟩, records, rfl, rfl⟩ := ended
      obtain rfl := recordTerminalFailureResult_appends env now id drawn cleanupPending attempt
        current records
      have fitted := (recordTerminalFailureResult_succeeds_iff env now id drawn cleanupPending
        attempt current terminal).mp ⟨_, records⟩
      simp only [current, orRaise_eq_ok, pure_eq_ok] at success
      obtain ⟨_, _, rfl⟩ := success
      refine ⟨?_, ?_⟩
      · intro other same _
        rw [Option.some.injEq] at same
        exact same ▸ fitted
      · simp only [terminal, Bool.false_eq_true, if_false]
        cases cleanupPending <;> rfl

theorem retireExpired_succeeds (isOpen : attempt.status.isOpen = true)
    (failure : cleanupPending = false → FailureFits env id attempt)
    (result : ∀ routine, execution.routineAt id.number = some routine →
      routine.status.isTerminal = false →
      ResultFits env now id drawn cleanupPending attempt routine) :
    Succeeds (retireExpired env now id drawn cleanupPending state attempt execution) := by
  have decided := (expiryFailure_eq_ok_iff env now id cleanupPending attempt _ _).mpr
    ⟨failure, rfl, rfl⟩
  unfold retireExpired
  rw [if_pos isOpen, decided, ok_bind]
  unfold expiryResult
  cases current : execution.routineAt id.number with
  | none => simp [Succeeds]
  | some routine =>
    cases terminal : routine.status.isTerminal with
    | true => simp [Succeeds, terminal]
    | false =>
      obtain ⟨_, records⟩ := (recordTerminalFailureResult_succeeds_iff env now id drawn
        cleanupPending attempt current terminal).mpr (result routine current terminal)
      obtain ⟨other, number, _, _, isCurrent, _, _, _, written⟩ :=
        recordTerminalFailureResult_cases records
      have isCurrent : execution.routineAt number = some other := isCurrent
      obtain ⟨rfl, rfl⟩ := execution.routineAt_unique current isCurrent
      have records' := records
      rw [written] at records'
      unfold expiryText at records'
      simp [Succeeds, terminal, records']

end

end Retirement

/-! ## The outbox -/

section Outbox

variable {env : Env D} {id : AttemptId} {attempt : Attempt D} {execution : Execution D}
  {deliveries later : Table DeliveryId ExecutionEventDelivery} {event other : ExecutionEvent D}

theorem enqueueEventDelivery_succeeds_iff :
    Succeeds (enqueueEventDelivery env id execution attempt event deliveries) ↔
      OutboxTakes env id attempt execution deliveries event := by
  unfold enqueueEventDelivery OutboxTakes
  cases env.buildEventEnvelope id execution attempt event with
  | error => simp [Succeeds]
  | ok built =>
    cases built with
    | none => simp [Succeeds]
    | some =>
      simp only [ok_bind]
      cases deliveries.lookup (id, event.eventId) with
      | none | some => simp [Succeeds]

theorem enqueueEventDelivery_takes (different : other.eventId ≠ event.eventId)
    (enqueued : enqueueEventDelivery env id execution attempt event deliveries = .ok later) :
    OutboxTakes env id attempt execution later other ↔
      OutboxTakes env id attempt execution deliveries other := by
  have same : later.lookup (id, other.eventId) = deliveries.lookup (id, other.eventId) := by
    simp only [enqueueEventDelivery, bind_eq_ok] at enqueued
    obtain ⟨_, _, enqueued⟩ := enqueued
    split at enqueued
    · cases enqueued
      rfl
    · split at enqueued
      · simp only [bind_eq_ok, pure_eq_ok] at enqueued
        obtain ⟨_, _, rfl⟩ := enqueued
        rfl
      · cases enqueued
        refine AList.lookup_insert_ne ?_
        intro same
        exact different (congrArg Prod.snd same)
  unfold OutboxTakes
  rw [same]

theorem enqueueAll_succeeds_iff (outcomes : List (Append D))
    (distinct : ((outcomes.map Append.event).map ExecutionEvent.eventId).Nodup) :
    Succeeds (outcomes.foldlM (fun deliveries outcome =>
      enqueueEventDelivery env id execution attempt outcome.event deliveries) deliveries) ↔
      ∀ event ∈ outcomes.map Append.event,
        OutboxTakes env id attempt execution deliveries event := by
  induction outcomes generalizing deliveries with
  | nil => simp [Succeeds]
  | cons outcome rest ih =>
    obtain ⟨apart, distinct⟩ := List.nodup_cons.mp distinct
    rw [List.foldlM_cons, List.map_cons, List.forall_mem_cons,
      ← enqueueEventDelivery_succeeds_iff]
    cases enqueued : enqueueEventDelivery env id execution attempt outcome.event deliveries with
    | error => simp [Succeeds]
    | ok later =>
      rw [ok_bind, ih distinct]
      have others : (∀ event ∈ rest.map Append.event,
          OutboxTakes env id attempt execution later event) ↔
          ∀ event ∈ rest.map Append.event,
            OutboxTakes env id attempt execution deliveries event := by
        refine forall₂_congr fun event member => enqueueEventDelivery_takes ?_ enqueued
        intro same
        exact apart (same ▸ List.mem_map_of_mem member)
      rw [others]
      exact (and_iff_right ⟨later, rfl⟩).symm

end Outbox

/-! ## Expired leases -/

section Leases

variable [DecidableEq D] {env : Env D} {now : Instant} {id : AttemptId} {db : Db D}
  {execution : Execution D} {attempt : Attempt D} {profile : RuntimeProfile D} {lease : Lease D}
  {workspaceId : Uuid} {workspace : Workspace}

/-- The lease is replayed, or its attempt is closed, or what its retirement appends fits. -/
def ReconcilesWithin (env : Env D) (now : Instant) (workspace : Workspace)
    (profile : RuntimeProfile D) (id : AttemptId) (attempt : Attempt D) (lease : Lease D)
    (execution : Execution D) (db : Db D) : Prop :=
  (expiryVerdict env now workspace profile id.number execution attempt lease).replayable = true ∨
    attempt.status.isOpen = false ∨
    RetirementFits env now id db.supply (profile.lifecycleState = .cleanupPending) attempt execution
      db.deliveries

theorem reconcileExpiredLease_succeeds_iff (drawn : Uuid)
    (deliveries : Table DeliveryId ExecutionEventDelivery) :
    (∃ reconciled, reconcileExpiredLease env now workspace profile id drawn attempt lease
        execution = .ok reconciled ∧
      Succeeds (reconciled.events.foldlM (fun deliveries outcome =>
        enqueueEventDelivery env id execution attempt outcome.event deliveries) deliveries)) ↔
      (expiryVerdict env now workspace profile id.number execution attempt lease).replayable =
          true ∨
        attempt.status.isOpen = false ∨
        RetirementFits env now id drawn (profile.lifecycleState = .cleanupPending) attempt
          execution deliveries := by
  unfold reconcileExpiredLease
  dsimp only
  generalize expiryVerdict env now workspace profile id.number execution attempt lease = verdict
  cases replayable : verdict.replayable with
  | true =>
    simp only [if_true, true_or, iff_true]
    exact ⟨_, rfl, deliveries, rfl⟩
  | false =>
    simp only [Bool.false_eq_true, if_false, false_or]
    cases isOpen : attempt.status.isOpen with
    | false =>
      simp only [true_or, iff_true]
      exact ⟨_, retireExpired_closed env now id drawn _ attempt isOpen, deliveries, rfl⟩
    | true =>
      simp only [Bool.true_eq_false, false_or]
      constructor
      · rintro ⟨_, retires, published⟩
        obtain ⟨failure, result, events⟩ := retireExpired_appends env now id drawn _ attempt
          isOpen retires
        refine ⟨failure, result, ?_⟩
        rw [← events]
        refine (enqueueAll_succeeds_iff _ ?_).mp published
        rw [events]
        exact expiryEvents_distinct env now id drawn _ attempt result
      · rintro ⟨failure, result, published⟩
        obtain ⟨reconciled, retires⟩ := retireExpired_succeeds env now id drawn _ attempt
          isOpen failure result
        obtain ⟨_, _, events⟩ := retireExpired_appends env now id drawn _ attempt isOpen retires
        refine ⟨reconciled, retires, (enqueueAll_succeeds_iff _ ?_).mpr ?_⟩
        · rw [events]
          exact expiryEvents_distinct env now id drawn _ attempt result
        · rw [events]
          exact published

/-- The pass over an expired lease gets through, and stays within the budget, exactly where its
events fit; the failure of ordinary work always has a number left. -/
theorem expired_leases_reconcile_iff_events_fit (env : Env D) (calls : List (Call D))
    (now : Instant) (workspaceId : Uuid) (workspace : Workspace) (id : AttemptId)
    (execution : Execution D) (attempt : Attempt D) (profile : RuntimeProfile D) (lease : Lease D)
    (found : (run env Db.empty calls).attemptIn workspaceId id = some (execution, attempt))
    (owner : (run env Db.empty calls).profiles.lookup execution.profile = some profile)
    (home : profile.workspace = workspaceId) (held : attempt.lease = some lease)
    (stale : lease.isStale now = true) :
    ((∃ next, reconcileOne env now workspaceId workspace (run env Db.empty calls) id = .ok next ∧
        ∀ later row, next.attempt? id = some (later, row) → row.WithinBudget) ↔
      ReconcilesWithin env now workspace profile id attempt lease execution
        (run env Db.empty calls)) ∧
    (execution.routine = none → attempt.status.isOpen = true →
      attempt.latestSequence + 1 ≤ maxTerminalSequence) := by
  obtain ⟨stored, isAttempt, _⟩ := (Db.attemptIn_eq_some _ _ _ _ _).mp found
  refine ⟨?_, fun ordinary isOpen => run_reserved calls id.number stored ordinary isAttempt isOpen⟩
  have within : attempt.WithinBudget := run_withinBudget calls id.number stored isAttempt
  generalize run env Db.empty calls = db at found owner stored ⊢
  have isOwner : (db.profiles.lookup execution.profile).filter
      (fun profile => profile.workspace = workspaceId) = some profile := by
    rw [owner, Option.filter_some, if_pos (decide_eq_true home)]
  have isStale : attempt.lease.filter (fun lease => lease.isStale now) = some lease := by
    rw [held, Option.filter_some, if_pos stale]
  have unresolved : lease.state.isUnresolved = true := by
    simp only [Lease.isStale, decide_eq_true_eq] at stale
    exact stale.1
  rw [ReconcilesWithin, ← reconcileExpiredLease_succeeds_iff db.supply db.deliveries]
  constructor
  · rintro ⟨_, reconciles, _⟩
    unfold reconcileOne at reconciles
    rw [found] at reconciles
    dsimp only at reconciles
    rw [isOwner, isStale] at reconciles
    simp only [bind_eq_ok, pure_eq_ok] at reconciles
    obtain ⟨reconciled, success, deliveries, published, _⟩ := reconciles
    exact ⟨reconciled, success, deliveries, published⟩
  · rintro ⟨reconciled, success, deliveries, published⟩
    obtain ⟨_, _, _, move, same, _⟩ :=
      reconcileExpiredLease_move env ⟨now, .claimNextExecution ⟨0, 0⟩ 0 0⟩ db rfl held unresolved success
    refine ⟨{ db.draw.putExecution id.execution reconciled.execution with
      approvals := cancelLiveApprovalRequests now id db.approvals
      deliveries := deliveries }, ?_, ?_⟩
    · unfold reconcileOne
      rw [found]
      dsimp only
      rw [isOwner, isStale]
      simp only [success, published, ok_bind]
      rfl
    · intro later row isRow
      rw [Db.attempt?_eq_some] at isRow
      obtain ⟨isLater, isRow⟩ := isRow
      have written : (db.draw.putExecution id.execution reconciled.execution).executions.lookup
          id.execution = some later := isLater
      rw [Db.putExecution, AList.lookup_insert, Option.some.injEq, same] at written
      rw [← written, attempt?_write_same, Option.some.injEq] at isRow
      exact isRow ▸ move.withinBudget within

end Leases

/-! ## Runs -/

def lastNumber (work : List (Call PlainDigest)) : List (Call PlainDigest) :=
  bringUp ++ work ++ [⟨0, .appendRuntimeEvent ⟨0, 1⟩ ⟨7, 1⟩ leaseToken
    ⟨70, "stream", maxRuntimeEventSequence, .dispatched⟩⟩]

def isSpent (db : Db PlainDigest) : Bool :=
  (db.attemptIn 0 ⟨7, 1⟩).any fun found =>
    found.2.latestSequence = maxRuntimeEventSequence &&
      (found.2.lease.any fun lease => lease.isStale (seconds 60)) &&
      (db.profiles.lookup found.1.profile).any fun profile => profile.workspace = 0

/-- Its pass gets through, and leaves events within the budget. -/
def isRetired (db : Db PlainDigest) (workspace : Workspace) : Bool :=
  (reconcileOne Env.plain (seconds 60) 0 workspace db ⟨7, 1⟩).toOption.any fun next =>
    (next.attempt? ⟨7, 1⟩).all fun row =>
      row.2.events.all fun event => event.sequence ≤ maxTerminalSequence

theorem isRetired_iff (db : Db PlainDigest) (workspace : Workspace) :
    isRetired db workspace = true ↔
      ∃ next, reconcileOne Env.plain (seconds 60) 0 workspace db ⟨7, 1⟩ = .ok next ∧
        ∀ later row, next.attempt? ⟨7, 1⟩ = some (later, row) → row.WithinBudget := by
  unfold isRetired Attempt.WithinBudget
  cases reconcileOne Env.plain (seconds 60) 0 workspace db ⟨7, 1⟩ with
  | error => simp [Except.toOption]
  | ok => simp [Except.toOption, Option.all_eq_true]

theorem spent_work_is_retired :
    ∃ workspace execution attempt profile lease,
      (run Env.plain Db.empty (lastNumber ordinaryWork)).workspaces.lookup 0 = some workspace ∧
      (run Env.plain Db.empty (lastNumber ordinaryWork)).attemptIn 0 ⟨7, 1⟩ =
        some (execution, attempt) ∧
      attempt.latestSequence = maxRuntimeEventSequence ∧ lease.isStale (seconds 60) = true ∧
      ReconcilesWithin Env.plain (seconds 60) workspace profile ⟨7, 1⟩ attempt lease execution
        (run Env.plain Db.empty (lastNumber ordinaryWork)) := by
  have spent : isSpent (run Env.plain Db.empty (lastNumber ordinaryWork)) = true := by
    decide +kernel
  have retired : ((run Env.plain Db.empty (lastNumber ordinaryWork)).workspaces.lookup 0).any
      (isRetired (run Env.plain Db.empty (lastNumber ordinaryWork))) = true := by
    decide +kernel
  obtain ⟨workspace, isWorkspace, retired⟩ := (Option.any_eq_true _ _).mp retired
  obtain ⟨⟨execution, attempt⟩, found, holds⟩ := (Option.any_eq_true _ _).mp spent
  simp only [Bool.and_eq_true, decide_eq_true_eq] at holds
  obtain ⟨⟨latest, leased⟩, owned⟩ := holds
  obtain ⟨lease, held, stale⟩ := (Option.any_eq_true _ _).mp leased
  obtain ⟨profile, owner, home⟩ := (Option.any_eq_true _ _).mp owned
  exact ⟨workspace, execution, attempt, profile, lease, isWorkspace, found, latest, stale,
    (expired_leases_reconcile_iff_events_fit Env.plain (lastNumber ordinaryWork) (seconds 60) 0
      workspace ⟨7, 1⟩ execution attempt profile lease found owner (of_decide_eq_true home) held
      stale).1.mp ((isRetired_iff _ workspace).mp retired)⟩

/-- The same work of a routine cannot be retired, and no Execution of its Workspace is claimed. -/
theorem spent_routine_blocks_its_workspace :
    isSpent (run Env.plain Db.empty (lastNumber routineWork)) = true ∧
      (apply Env.plain ⟨seconds 60, .claimNextExecution ⟨0, 1⟩ 61 1⟩
        (run Env.plain Db.empty (lastNumber routineWork))).toOption.isNone = true ∧
      ((run Env.plain Db.empty (lastNumber routineWork)).workspaces.lookup 0).all (fun workspace =>
        (reconcileOne Env.plain (seconds 60) 0 workspace
          (run Env.plain Db.empty (lastNumber routineWork)) ⟨7, 1⟩).toOption.isNone) = true := by
  decide +kernel

end Foundry
