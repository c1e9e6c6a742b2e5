import Foundry.Deliveries.Loop
import Foundry.Properties.DeliveryWorkers

/-!
# The delivery report

Each claim of a batch is counted once, by what the call that recorded its answer did to its row.
-/

set_option autoImplicit false

namespace Foundry

open Raise

variable {D : Type}

/-! ## Records -/

namespace DeliveryRecord

variable (record : DeliveryRecord)

/-- The row was under the claim when the answer was recorded. -/
def isHeld : Bool :=
  record.before.any fun row => row.isClaimedBy record.claim.attempt record.claim.repairCycle

def reaches (target : EventDeliveryState) : Bool :=
  record.isHeld && record.after.any fun row => row.state = target

/-- The row was resolved or put back, or the claim was stale. -/
def isSettled : Bool :=
  !record.isHeld || record.reaches .delivered || record.reaches .exhausted ||
    record.reaches .pending

/-- A failure was reported, and left the row waiting in a repair cycle. -/
def waitsForRepair : Bool :=
  record.callback = .failure && record.reaches .pending &&
    record.after.any fun row => 0 < row.repairCycle

end DeliveryRecord

structure DeliveryReport.Counts (report : DeliveryReport) (records : List DeliveryRecord) :
    Prop where
  delivered : report.delivered = records.countP fun record => record.reaches .delivered
  exhausted : report.exhausted = records.countP fun record => record.reaches .exhausted
  deferred : report.deferred =
    records.countP fun record => record.reaches .pending || !record.isHeld
  repairPending : report.repairPending = records.countP DeliveryRecord.waitsForRepair
  recovered : report.recovered =
    records.countP fun record => record.reaches .delivered && 0 < record.claim.repairCycle
  total : report.delivered + report.deferred + report.exhausted = records.length
  settled : ∀ record ∈ records, record.isSettled = true

namespace DeliveryReport.Counts

variable {report : DeliveryReport} {records : List DeliveryRecord} {record : DeliveryRecord}

theorem empty (claimed : Nat) : (DeliveryReport.empty claimed).Counts [] :=
  ⟨rfl, rfl, rfl, rfl, rfl, rfl, by simp⟩

theorem settled_append (settled : ∀ record ∈ records, record.isSettled = true)
    (isSettled : record.isSettled = true) :
    ∀ other ∈ records ++ [record], other.isSettled = true := by
  intro other member
  rcases List.mem_append.mp member with earlier | last
  · exact settled other earlier
  · rw [List.mem_singleton.mp last]
    exact isSettled

theorem stale (counts : report.Counts records) (isStale : record.isHeld = false) :
    report.defer.Counts (records ++ [record]) := by
  have reaches (target : EventDeliveryState) : record.reaches target = false := by
    simp [DeliveryRecord.reaches, isStale]
  refine ⟨?_, ?_, ?_, ?_, ?_, ?_, ?_⟩
  · simp [DeliveryReport.defer, counts.delivered, reaches]
  · simp [DeliveryReport.defer, counts.exhausted, reaches]
  · simp [DeliveryReport.defer, counts.deferred, reaches, isStale]
  · simp [DeliveryReport.defer, counts.repairPending, DeliveryRecord.waitsForRepair, reaches]
  · simp [DeliveryReport.defer, counts.recovered, reaches]
  · have total := counts.total
    simp only [DeliveryReport.defer, List.length_append, List.length_singleton]
    omega
  · exact settled_append counts.settled (by simp [DeliveryRecord.isSettled, isStale])

end DeliveryReport.Counts

/-- What a call that recorded an answer did: the row was held, and is now `row`. -/
structure DeliveryRecord.Left (record : DeliveryRecord) (callback : DeliveryCallback)
    (row : ExecutionEventDelivery) : Prop where
  held : record.isHeld = true
  callback : record.callback = callback
  after : record.after = some row

namespace DeliveryReport.Counts

variable {report : DeliveryReport} {records : List DeliveryRecord} {record : DeliveryRecord}
  {row : ExecutionEventDelivery}

theorem reaches_of_left {callback : DeliveryCallback} (left : record.Left callback row)
    (target : EventDeliveryState) : record.reaches target = decide (row.state = target) := by
  simp [DeliveryRecord.reaches, left.held, left.after]

section

variable (counts : report.Counts records)

include counts

theorem deferral (left : record.Left .deferral row)
    (pending : row.state = .pending) : report.defer.Counts (records ++ [record]) := by
  have reaches := reaches_of_left left
  refine ⟨?_, ?_, ?_, ?_, ?_, ?_, ?_⟩
  · simp [DeliveryReport.defer, counts.delivered, reaches, pending]
  · simp [DeliveryReport.defer, counts.exhausted, reaches, pending]
  · simp [DeliveryReport.defer, counts.deferred, reaches, pending]
  · simp [DeliveryReport.defer, counts.repairPending, DeliveryRecord.waitsForRepair,
      left.callback]
  · simp [DeliveryReport.defer, counts.recovered, reaches, pending]
  · have total := counts.total
    simp only [DeliveryReport.defer, List.length_append, List.length_singleton]
    omega
  · exact settled_append counts.settled (by simp [DeliveryRecord.isSettled, reaches, pending])

theorem deliveredMark (left : record.Left .delivered row) (delivered : row.state = .delivered) :
    (report.countDelivered record.claim).Counts (records ++ [record]) := by
  have reaches := reaches_of_left left
  refine ⟨?_, ?_, ?_, ?_, ?_, ?_, ?_⟩
  · simp [DeliveryReport.countDelivered, counts.delivered, reaches, delivered]
  · simp [DeliveryReport.countDelivered, counts.exhausted, reaches, delivered]
  · simp [DeliveryReport.countDelivered, counts.deferred, reaches, delivered, left.held]
  · simp [DeliveryReport.countDelivered, counts.repairPending, DeliveryRecord.waitsForRepair,
      left.callback]
  · simp [DeliveryReport.countDelivered, counts.recovered, reaches, delivered]
  · have total := counts.total
    simp only [DeliveryReport.countDelivered, List.length_append, List.length_singleton]
    omega
  · exact settled_append counts.settled (by simp [DeliveryRecord.isSettled, reaches, delivered])

theorem failureMark (left : record.Left .failure row)
    (ended : row.state = .exhausted ∨ row.state = .pending) :
    (report.countMarked row).Counts (records ++ [record]) := by
  have reaches := reaches_of_left left
  have total := counts.total
  rcases ended with state | state
  · refine ⟨?_, ?_, ?_, ?_, ?_, ?_, ?_⟩
    · simp [DeliveryReport.countMarked, counts.delivered, reaches, state]
    · simp [DeliveryReport.countMarked, counts.exhausted, reaches, state]
    · simp [DeliveryReport.countMarked, counts.deferred, reaches, state, left.held]
    · simp [DeliveryReport.countMarked, counts.repairPending, DeliveryRecord.waitsForRepair,
        reaches, state]
    · simp [DeliveryReport.countMarked, counts.recovered, reaches, state]
    · simp [DeliveryReport.countMarked, state]
      omega
    · exact settled_append counts.settled (by simp [DeliveryRecord.isSettled, reaches, state])
  · refine ⟨?_, ?_, ?_, ?_, ?_, ?_, ?_⟩
    · simp [DeliveryReport.countMarked, counts.delivered, reaches, state]
    · simp [DeliveryReport.countMarked, counts.exhausted, reaches, state]
    · simp [DeliveryReport.countMarked, counts.deferred, reaches, state]
    · simp [DeliveryReport.countMarked, counts.repairPending, DeliveryRecord.waitsForRepair,
        reaches, state, left.callback, left.after]
    · simp [DeliveryReport.countMarked, counts.recovered, reaches, state]
    · simp [DeliveryReport.countMarked, state]
      omega
    · exact settled_append counts.settled (by simp [DeliveryRecord.isSettled, reaches, state])

end

end DeliveryReport.Counts

/-! ## Callbacks -/

variable {code : String}

section Callbacks

variable {env : Env D} {now : Instant} {id : DeliveryId} {db next : Db D}

theorem transitionToRepair_state {row repaired : ExecutionEventDelivery}
    (success : transitionToRepair env now id row code db = .ok repaired) :
    repaired.state = .exhausted ∨ repaired.state = .pending := by
  unfold transitionToRepair at success
  dsimp only at success
  split at success
  · split at success
    · cases success
      exact .inl rfl
    · cases success
  · split at success
    · cases success
      exact .inl rfl
    · cases success
      exact .inr rfl

variable {result : DeliveryResult}

theorem reportedDelivery_state {row reported : ExecutionEventDelivery}
    (success : reportedDelivery env now id row result db = .ok reported) :
    if result.success then reported.state = .delivered
    else reported.state = .exhausted ∨ reported.state = .pending := by
  unfold reportedDelivery at success
  split at success
  · next delivered =>
    cases success
    rw [if_pos delivered]
    rfl
  · next failed =>
    rw [if_neg failed]
    simp only [bind_eq_ok, require_eq_ok] at success
    obtain ⟨_, _, success⟩ := success
    generalize (if result.safeErrorCode = "" then "delivery_failed" else result.safeErrorCode) =
      code at success
    split at success
    · cases success
      exact .inl rfl
    · split at success
      · exact transitionToRepair_state success
      · cases success
        exact .inr rfl

theorem markEventDelivery_cases {attempt repairCycle : Nat} {marked : Option ExecutionEventDelivery}
    (success : markEventDelivery env now id attempt repairCycle result db = .ok (marked, next)) :
    ∃ row, db.deliveries.lookup id = some row ∧
      ((row.isClaimedBy attempt repairCycle = false ∧ marked = none ∧ next = db) ∨
        (row.isClaimedBy attempt repairCycle = true ∧ ∃ saved, marked = some saved ∧
          reportedDelivery env now id row result db = .ok saved ∧
          next = { db with deliveries := db.deliveries.insert id saved })) := by
  simp only [markEventDelivery, bind_eq_ok, orRaise_eq_ok] at success
  obtain ⟨row, stored, success⟩ := success
  refine ⟨row, stored, ?_⟩
  split at success
  · next stale =>
    cases success
    exact .inl ⟨stale, rfl, rfl⟩
  · next current =>
    simp only [bind_eq_ok, return_eq_ok] at success
    obtain ⟨_, reports, saved, saves, rfl, rfl⟩ := success
    obtain rfl := save_eq_ok saves
    exact .inr ⟨by simpa using current, saved, rfl, reports, rfl⟩

theorem deferForSequenceGap_cases {claim : EventDeliveryClaim} {deferred : Bool}
    (success : deferForSequenceGap now claim db = .ok (deferred, next)) :
    (deferred = false ∧ next = db) ∨
      ∃ row, db.deliveries.lookup claim.delivery = some row ∧ deferred = true ∧
        row.isClaimedBy claim.attempt claim.repairCycle = true ∧
        next = { db with deliveries :=
          db.deliveries.insert claim.delivery (row.deferred now claim.attempt) } := by
  unfold deferForSequenceGap at success
  split at success
  · cases success
    exact .inl ⟨rfl, rfl⟩
  · next row found =>
    obtain ⟨stored, current⟩ := Option.filter_eq_some_iff.mp found
    dsimp only at success
    split at success
    · cases success
      exact .inl ⟨rfl, rfl⟩
    · simp only [bind_eq_ok, return_eq_ok] at success
      obtain ⟨_, saves, rfl, rfl⟩ := success
      obtain rfl := save_eq_ok saves
      exact .inr ⟨row, stored, rfl, current, rfl⟩

end Callbacks

/-! ## The loop -/

section Loop

variable {env : Env D} {claim : EventDeliveryClaim} {turn : PublishTurn D}
  {state next : PublishState D}

structure PublishState.Records (claim : EventDeliveryClaim) (state next : PublishState D) :
    Prop where
  claims : next.records.map DeliveryRecord.claim = state.records.map DeliveryRecord.claim ++ [claim]
  claimed : next.report.claimed = state.report.claimed
  counts : state.report.Counts state.records → next.report.Counts next.records

variable {status : Nat}

theorem recordFailure_records
    (success : recordFailure env claim turn status code state = .ok next) :
    state.Records claim next := by
  simp only [recordFailure, bind_eq_ok] at success
  obtain ⟨⟨_, _⟩, marks, success⟩ := success
  obtain ⟨_, stored, ⟨stale, rfl, rfl⟩ | ⟨current, saved, rfl, reports, rfl⟩⟩ :=
    markEventDelivery_cases marks
  · cases success
    refine ⟨by simp [PublishState.note], rfl, ?_⟩
    intro counts
    exact counts.stale (by simp [DeliveryRecord.isHeld, stored, stale])
  · cases success
    refine ⟨by simp [PublishState.note], rfl, ?_⟩
    intro counts
    have left : DeliveryRecord.Left ⟨claim, .failure, state.db.deliveries.lookup claim.delivery,
        (state.db.deliveries.insert claim.delivery saved).lookup claim.delivery⟩ .failure saved :=
      ⟨by simp [DeliveryRecord.isHeld, stored, current], rfl, by simp⟩
    exact counts.failureMark left (reportedDelivery_state reports)

variable [DecidableEq D]

theorem PublishState.Records.of_interleave {calls : List (Call D)}
    (records : (state.interleave env calls).Records claim next) : state.Records claim next :=
  ⟨records.claims, records.claimed, records.counts⟩

theorem recordDelivered_records (success : recordDelivered env claim turn state = .ok next) :
    state.Records claim next := by
  simp only [recordDelivered, bind_eq_ok] at success
  obtain ⟨⟨_, _⟩, marks, success⟩ := success
  obtain ⟨_, stored, ⟨stale, rfl, rfl⟩ | ⟨current, saved, rfl, reports, rfl⟩⟩ :=
    markEventDelivery_cases marks
  · cases success
    refine ⟨by simp [PublishState.note], rfl, ?_⟩
    intro counts
    exact counts.stale (by simp [DeliveryRecord.isHeld, stored, stale])
  · simp only [wakeAttemptSuccessors, pure_eq_ok, bind_eq_ok] at success
    obtain ⟨_, rfl, rfl⟩ := success
    refine ⟨by simp [PublishState.note, PublishState.interleave], rfl, ?_⟩
    intro counts
    have left : DeliveryRecord.Left ⟨claim, .delivered, state.db.deliveries.lookup claim.delivery,
        (state.db.deliveries.insert claim.delivery saved).lookup claim.delivery⟩ .delivered saved :=
      ⟨by simp [DeliveryRecord.isHeld, stored, current], rfl, by simp⟩
    exact counts.deliveredMark left (by simpa using reportedDelivery_state reports)

theorem recordAnswer_records (success : recordAnswer env claim turn status code state = .ok next) :
    state.Records claim next := by
  unfold recordAnswer at success
  split at success
  · exact recordDelivered_records success
  · split at success
    · simp only [bind_eq_ok] at success
      obtain ⟨⟨_, _⟩, defers, success⟩ := success
      rcases deferForSequenceGap_cases defers with
        ⟨rfl, rfl⟩ | ⟨row, stored, rfl, current, rfl⟩
      · exact (recordFailure_records success).of_interleave
      · cases success
        refine ⟨by simp [PublishState.note], rfl, ?_⟩
        intro counts
        have left : DeliveryRecord.Left
            ⟨claim, .deferral, state.db.deliveries.lookup claim.delivery,
              (state.db.deliveries.insert claim.delivery
                (row.deferred turn.deferredAt claim.attempt)).lookup claim.delivery⟩
            .deferral (row.deferred turn.deferredAt claim.attempt) :=
          ⟨by simp [DeliveryRecord.isHeld, stored, current], rfl, by simp⟩
        exact counts.deferral left rfl
    · exact recordFailure_records success

theorem publishClaims_records {turns : EventDeliveryClaim → PublishTurn D}
    {claims : List EventDeliveryClaim} (success : claims.foldlM (publishClaim env turns) state =
      .ok next) (counts : state.report.Counts state.records) :
    next.records.map DeliveryRecord.claim = state.records.map DeliveryRecord.claim ++ claims ∧
      next.report.claimed = state.report.claimed ∧ next.report.Counts next.records := by
  induction claims generalizing state with
  | nil =>
    cases success
    exact ⟨(List.append_nil _).symm, rfl, counts⟩
  | cons claim _ ih =>
    simp only [List.foldlM_cons, bind_eq_ok] at success
    obtain ⟨middle, first, success⟩ := success
    have records : state.Records claim middle := (recordAnswer_records first).of_interleave
    obtain ⟨claims, claimed, counted⟩ := ih success (records.counts counts)
    refine ⟨?_, claimed.trans records.claimed, counted⟩
    rw [claims, records.claims, List.append_assoc, List.singleton_append]

/-- The report of a batch counts every claim once, as its record shows it. -/
theorem delivery_reports_add_up (env : Env D) (enabled : Bool) (now : Instant) (limit : Nat)
    (turns : EventDeliveryClaim → PublishTurn D) (db : Db D) (state : PublishState D)
    (published : publishPendingEventDeliveries env enabled now limit turns db = .ok state) :
    state.report.Counts state.records ∧
      state.report.claimed = state.records.length ∧
      state.report.claimed =
        state.report.delivered + state.report.deferred + state.report.exhausted ∧
      state.report.recovered ≤ state.report.delivered ∧
      state.report.repairPending ≤ state.report.deferred ∧
      (enabled = true → ∃ claimed, claimEventDeliveries env now limit db =
        .ok (state.records.map DeliveryRecord.claim, claimed)) := by
  have found : state.report.Counts state.records ∧
      state.report.claimed = state.records.length ∧
      (enabled = true → ∃ claimed, claimEventDeliveries env now limit db =
        .ok (state.records.map DeliveryRecord.claim, claimed)) := by
    unfold publishPendingEventDeliveries at published
    cases enabled with
    | false =>
      cases published
      exact ⟨.empty 0, rfl, by simp⟩
    | true =>
      simp only [if_true, bind_eq_ok] at published
      obtain ⟨⟨claims, claimed⟩, batch, published⟩ := published
      obtain ⟨listed, counted, counts⟩ := publishClaims_records published (.empty _)
      have listed : state.records.map DeliveryRecord.claim = claims := listed
      refine ⟨counts, ?_, fun _ => ⟨claimed, by rw [listed]; exact batch⟩⟩
      rw [counted, ← listed]
      exact List.length_map ..
  obtain ⟨counts, claimed, batch⟩ := found
  have total := counts.total
  refine ⟨counts, claimed, by omega, ?_, ?_, batch⟩
  · rw [counts.recovered, counts.delivered]
    refine List.countP_mono_left fun record _ holds => ?_
    rw [Bool.and_eq_true] at holds
    exact holds.1
  · rw [counts.repairPending, counts.deferred]
    refine List.countP_mono_left fun record _ holds => ?_
    simp only [DeliveryRecord.waitsForRepair, Bool.and_eq_true] at holds
    rw [holds.1.2]
    rfl

end Loop

def dispatchedEvent : List (Call PlainDigest) :=
  bringUp ++ ordinaryWork ++
    [⟨0, .appendRuntimeEvent ⟨0, 1⟩ ⟨7, 1⟩ leaseToken ⟨70, "stream", 1, .dispatched⟩⟩]

/-- Cloud accepts the event after an hour, when another worker has delivered it. -/
def lateTurn : PublishTurn PlainDigest where
  outcome := .response 202 (.json .null) (some 70)
  meanwhile := [⟨seconds 3600, .claimEventDeliveries 20⟩,
    ⟨seconds 3600, .markEventDelivery (⟨7, 1⟩, 70) 2 0 ⟨true, "", false, 0⟩⟩]
  deferredAt := 0
  afterDeferral := []
  markedAt := seconds 3601
  jitter := 0
  afterMark := []
  wokenAt := seconds 3601

def lateBatch : Except RuntimeError (PublishState PlainDigest) :=
  publishPendingEventDeliveries Env.publishing true 0 20 (fun _ => lateTurn)
    (run Env.publishing Db.empty dispatchedEvent)

theorem late_batch_adds_up :
    ∃ state, lateBatch = .ok state ∧ state.report.claimed = 1 ∧
      state.report.claimed =
        state.report.delivered + state.report.deferred + state.report.exhausted := by
  have reported : lateBatch.toOption.map (fun state => state.report.claimed) = some 1 := by
    decide +kernel
  cases published : lateBatch with
  | error =>
    rw [published] at reported
    cases reported
  | ok state =>
    rw [published] at reported
    exact ⟨state, rfl, Option.some.inj reported,
      (delivery_reports_add_up _ _ _ _ _ _ state published).2.2.1⟩

/-- The stale claim counts as deferred, but the row was not put back: it is delivered. -/
theorem delivered_row_counts_as_deferred :
    (lateBatch.toOption.map fun state =>
      (state.report.deferred, state.records.countP fun record => record.reaches .pending,
        state.records.map fun record => record.after.map ExecutionEventDelivery.state)) =
      some (1, 0, [some .delivered]) := by
  decide +kernel

end Foundry
