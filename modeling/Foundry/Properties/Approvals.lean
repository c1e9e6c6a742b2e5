import Foundry.Evolution.Integrity

/-!
# Live approvals

The row of an approval moves from PENDING over DECISION_RECORDED to one of four
statuses it does not leave.  What a row keeps is proved on `ApprovalStep`; that a live
row belongs to an attempt under an unresolved lease is an invariant of the whole
database, because each release settles the approvals itself.
-/

set_option autoImplicit false

namespace Foundry

open Raise

variable {D : Type}

/-! ## One row -/

def ApprovalRequest.recorded (approval : ApprovalRequest) :
    Option RoutineDecision × Option Uuid × Option Uuid × String × Option Instant ×
      Option Instant :=
  (approval.decision, approval.decisionCommandId, approval.decisionIdempotencyKey,
    approval.decisionFingerprint, approval.decidedAt, approval.acknowledgementDeadlineAt)

theorem ApprovalRequestStatus.isLive_iff (status : ApprovalRequestStatus) :
    status.isLive = true ↔ status = .pending ∨ status = .decisionRecorded := by
  cases status <;> simp [ApprovalRequestStatus.isLive]

section Rows

variable (now : Instant) (approval : ApprovalRequest)

theorem reconcileApproval_recorded :
    (reconcileApproval now approval).recorded = approval.recorded := by
  simp only [reconcileApproval]
  split
  · rfl
  · split <;> rfl

theorem reconcileApproval_cases :
    reconcileApproval now approval = approval ∨
      approval.status.isLive = true ∧ ((reconcileApproval now approval).status = .expired ∨
        (reconcileApproval now approval).status = .outcomeUnknown) := by
  simp only [reconcileApproval]
  split
  · next expired =>
    rw [expired.1]
    exact .inr ⟨rfl, .inl rfl⟩
  · split
    · next missed =>
      rw [missed.1]
      exact .inr ⟨rfl, .inr rfl⟩
    · exact .inl rfl

theorem cancelLiveApproval_recorded :
    (cancelLiveApproval now approval).recorded = approval.recorded := by
  have same := reconcileApproval_recorded now approval
  simp only [cancelLiveApproval]
  split
  · split
    · exact same
    · split <;> exact same
  · rfl

theorem cancelLiveApproval_cases :
    cancelLiveApproval now approval = approval ∨
      approval.status.isLive = true ∧ (cancelLiveApproval now approval).status ≠ .applied := by
  by_cases live : approval.status = .pending ∨ approval.status = .decisionRecorded
  · refine .inr ⟨(ApprovalRequestStatus.isLive_iff _).mpr live, ?_⟩
    simp only [cancelLiveApproval, if_pos live]
    split
    · rintro ⟨⟩
    · next notPending =>
      split
      · rintro ⟨⟩
      · next notRecorded =>
        rcases reconcileApproval_cases now approval with same | ⟨_, closed | closed⟩
        · rw [same] at notPending notRecorded
          exact absurd live (by simp [notPending, notRecorded])
        · rw [closed]
          rintro ⟨⟩
        · rw [closed]
          rintro ⟨⟩
  · exact .inl (by simp only [cancelLiveApproval, if_neg live])

theorem resolveApproval_cases (outcome : ApprovalOutcome) (later : ApprovalRequest)
    (success : resolveApproval now outcome approval = .ok later) :
    later = reconcileApproval now approval ∨
    ∃ status, later = { reconcileApproval now approval with
        status := status, outcome := some outcome, resolvedAt := some now } ∧
      ((status = .applied ∧ (reconcileApproval now approval).status = .decisionRecorded ∧
          outcome.decision.isSome = true ∧
          (reconcileApproval now approval).decision = outcome.decision) ∨
        (status ≠ .applied ∧ status.isLive = false ∧
          ((reconcileApproval now approval).status.isLive = true ∨
            (reconcileApproval now approval).status = status))) := by
  simp only [resolveApproval] at success
  split at success
  · simp only [bind_eq_ok, pure_eq_ok] at success
    obtain ⟨_, _, rfl⟩ := success
    exact .inl rfl
  · split at success
    · simp only [pure_eq_ok] at success
      exact .inl success.symm
    · cases outcome <;> simp only [bind_eq_ok, require_eq_ok, pure_eq_ok] at success
      case approved | rejected =>
        obtain ⟨_, recorded, _, matching, rfl⟩ := success
        exact .inr ⟨.applied, rfl, .inl ⟨rfl, recorded, rfl, matching⟩⟩
      case expired =>
        obtain ⟨_, allowed, rfl⟩ := success
        refine .inr ⟨.expired, rfl, .inr ⟨(by rintro ⟨⟩), rfl, ?_⟩⟩
        simpa [ApprovalRequestStatus.isLive_iff, or_assoc] using allowed
      case cancelled =>
        obtain ⟨_, allowed, rfl⟩ := success
        refine .inr ⟨.cancelled, rfl, .inr ⟨(by rintro ⟨⟩), rfl, ?_⟩⟩
        simpa [ApprovalRequestStatus.isLive_iff, or_assoc] using allowed

end Rows

structure ApprovalRequest.Continues (approval later : ApprovalRequest) : Prop where
  request : approval.SameRequest later
  /-- The first decision stays. -/
  decision : approval.decision.isSome = true → later.recorded = approval.recorded
  /-- The four settled statuses stay. -/
  settled : approval.status.isLive = false → later.status = approval.status

namespace ApprovalRequest.Continues

variable {approval later third : ApprovalRequest}

theorem refl (approval : ApprovalRequest) : approval.Continues approval :=
  ⟨⟨rfl, rfl, rfl, rfl, rfl⟩, fun _ => rfl, fun _ => rfl⟩

theorem trans (earlier : approval.Continues later) (after : later.Continues third) :
    approval.Continues third where
  request :=
    ⟨after.request.workspace.trans earlier.request.workspace,
      after.request.profile.trans earlier.request.profile,
      after.request.attempt.trans earlier.request.attempt,
      after.request.generation.trans earlier.request.generation,
      after.request.material.trans earlier.request.material⟩
  decision := by
    intro decided
    have same := earlier.decision decided
    have decisions : later.decision = approval.decision := congrArg Prod.fst same
    exact (after.decision (by rw [decisions]; exact decided)).trans same
  settled := by
    intro settled
    have same := earlier.settled settled
    exact (after.settled (by rw [same]; exact settled)).trans same

end ApprovalRequest.Continues

/-- The decision was recorded by one of these calls, made before the consent expired
and before the deadlines of its command. -/
def ApprovalRequest.DecidedBy (calls : List (Call D)) (request : Uuid)
    (approval : ApprovalRequest) : Prop :=
  ∃ call ∈ calls, ∃ command, call.operation = .recordApprovalDecision command ∧
    command.approvalRequestId = request ∧ approval.attempt = command.attempt ∧
    approval.decision = some command.decision ∧
    call.now < command.deadlineAt ∧ call.now < command.acknowledgementDeadlineAt ∧
    call.now < approval.material.expiresAt

structure ApprovalRequest.Accountable (calls : List (Call D)) (request : Uuid)
    (approval : ApprovalRequest) : Prop where
  pending : approval.status = .pending → approval.decision = none
  decided : approval.decision.isSome = true → approval.DecidedBy calls request
  applied : approval.status = .applied → ∃ outcome, approval.outcome = some outcome ∧
    outcome.decision.isSome = true ∧ approval.decision = outcome.decision

section Steps

variable {calls : List (Call D)} {call : Call D} {request : Uuid}
  {approval later : ApprovalRequest}

section

variable (accountable : approval.Accountable calls request) (same : approval.SameRequest later)
  (recorded : later.recorded = approval.recorded)

include accountable same recorded

theorem ApprovalRequest.Accountable.of_same
    (pending : later.status = .pending → approval.status = .pending)
    (applied : later.status = .applied → ∃ outcome, later.outcome = some outcome ∧
      outcome.decision.isSome = true ∧ approval.decision = outcome.decision) :
    later.Accountable calls request := by
  have decision : later.decision = approval.decision := congrArg Prod.fst recorded
  refine ⟨?_, ?_, ?_⟩
  · intro status
    rw [decision]
    exact accountable.pending (pending status)
  · intro decided
    rw [decision] at decided
    obtain ⟨call, member, command, asked, named, owner, isDecision, first, second, third⟩ :=
      accountable.decided decided
    exact ⟨call, member, command, asked, named, by rw [same.attempt]; exact owner,
      by rw [decision]; exact isDecision, first, second, by rw [same.material]; exact third⟩
  · intro status
    rw [decision]
    exact applied status

theorem ApprovalRequest.Accountable.closes
    (closes : later = approval ∨ approval.status.isLive = true ∧ later.status.isLive = false ∧
      later.status ≠ .applied) :
    later.Accountable calls request ∧ approval.Continues later := by
  rcases closes with rfl | ⟨live, settled, unapplied⟩
  · exact ⟨accountable, .refl _⟩
  · refine ⟨accountable.of_same same recorded ?_ ?_, same, fun _ => recorded, ?_⟩
    · intro pending
      rw [pending] at settled
      cases settled
    · intro applied
      exact absurd applied unapplied
    · intro dead
      rw [live] at dead
      cases dead

end

theorem reconcileApproval_accountable (now : Instant)
    (accountable : approval.Accountable calls request) :
    (reconcileApproval now approval).Accountable calls request ∧
      approval.Continues (reconcileApproval now approval) := by
  refine accountable.closes (reconcileApproval_same now approval)
    (reconcileApproval_recorded now approval) ?_
  rcases reconcileApproval_cases now approval with same | ⟨live, closed | closed⟩
  · exact .inl same
  · rw [closed]
    exact .inr ⟨live, rfl, nofun⟩
  · rw [closed]
    exact .inr ⟨live, rfl, nofun⟩

theorem resolveApproval_accountable (now : Instant) (outcome : ApprovalOutcome)
    (accountable : approval.Accountable calls request)
    (success : resolveApproval now outcome approval = .ok later) :
    later.Accountable calls request ∧ approval.Continues later := by
  obtain ⟨reconciled, continues⟩ := reconcileApproval_accountable now accountable
  rcases resolveApproval_cases now approval outcome later success with same | ⟨status, written, why⟩
  · rw [same]
    exact ⟨reconciled, continues⟩
  · have request : (reconcileApproval now approval).SameRequest later := by
      rw [written]
      exact ⟨rfl, rfl, rfl, rfl, rfl⟩
    have recorded : later.recorded = (reconcileApproval now approval).recorded := by
      rw [written]
      rfl
    have isStatus : later.status = status := by rw [written]
    have isOutcome : later.outcome = some outcome := by rw [written]
    rcases why with ⟨applied, waiting, decides, matching⟩ | ⟨unapplied, settled, source⟩
    · refine ⟨reconciled.of_same request recorded ?_ ?_, continues.trans ⟨request, fun _ => recorded,
        ?_⟩⟩
      · intro pending
        rw [isStatus, applied] at pending
        cases pending
      · intro _
        exact ⟨outcome, isOutcome, decides, matching⟩
      · intro dead
        rw [waiting] at dead
        cases dead
    · refine ⟨reconciled.of_same request recorded ?_ ?_, continues.trans ⟨request, fun _ => recorded,
        ?_⟩⟩
      · intro pending
        rw [← isStatus, pending] at settled
        cases settled
      · intro applied
        exact absurd (isStatus.symm.trans applied) unapplied
      · intro dead
        rcases source with live | same
        · rw [live] at dead
          cases dead
        · rw [isStatus, same]

theorem ApprovalStep.accountable (step : ApprovalStep call request approval later)
    (member : call ∈ calls) (accountable : approval.Accountable calls request) :
    later.Accountable calls request ∧ approval.Continues later := by
  cases step with
  | reconcile => exact reconcileApproval_accountable call.now accountable
  | cancel =>
    refine accountable.closes (cancelLiveApproval_same call.now approval)
      (cancelLiveApproval_recorded call.now approval) ?_
    rcases cancelLiveApproval_cases call.now approval with same | ⟨live, unapplied⟩
    · exact .inl same
    · exact .inr ⟨live, cancelLiveApproval_isLive call.now approval, unapplied⟩
  | resolve outcome _ resolves =>
    exact resolveApproval_accountable call.now outcome accountable resolves
  | decide command asked named owner pending window =>
    obtain ⟨reconciled, continues⟩ := reconcileApproval_accountable call.now accountable
    simp only [ensureDecisionWindow, bind_eq_ok, require_eq_ok] at window
    obtain ⟨_, _, _, _, _, _, _, _, deadline, acknowledgement, expiry⟩ := window
    have request := continues.request
    have undecided := reconciled.pending pending
    refine ⟨⟨(by rintro ⟨⟩), ?_, (by rintro ⟨⟩)⟩, continues.trans ⟨⟨rfl, rfl, rfl, rfl, rfl⟩, ?_, ?_⟩⟩
    · intro _
      exact ⟨call, member, command, asked, named, request.attempt.trans owner, rfl, deadline,
        acknowledgement, expiry⟩
    · intro decided
      rw [undecided] at decided
      cases decided
    · intro dead
      rw [pending] at dead
      cases dead

end Steps

/-! ## Every row along a run -/

/-- Approvals by their request and their attempt; a request is gone once its Execution
is, even if its identifier is used again. -/
def approvalRecords : Records (Db D) (Uuid × AttemptId) ApprovalRequest where
  find := fun db key => (db.approvals.lookup key.1).filter fun approval => approval.attempt = key.2
  Gone := fun db key => db.Removed key.2.execution

theorem approvalRecords_find (db : Db D) (key : Uuid × AttemptId) (approval : ApprovalRequest) :
    approvalRecords.find db key = some approval ↔
      db.approvals.lookup key.1 = some approval ∧ approval.attempt = key.2 := by
  simp [approvalRecords, Option.filter_eq_some_iff]

def Db.Accounted (calls : List (Call D)) (db : Db D) : Prop :=
  ∀ request approval, db.approvals.lookup request = some approval →
    approval.Accountable calls request

section Writes

variable [DecidableEq D] {env : Env D} {call : Call D} {start db next : Db D}
  {calls : List (Call D)}

section

variable (write : Write env call start db next) (member : call ∈ calls)

include write member

theorem Write.accounted
    (accounted : db.Accounted calls) : next.Accounted calls := by
  intro request later present
  rcases write.approvalSource present with
    ⟨approval, stored, same | step⟩ | ⟨_, _, _, _, _, _, _, _, _, _, _, opened⟩
  · exact same ▸ accounted request approval stored
  · exact (step.accountable member (accounted request approval stored)).1
  · rw [opened]
    exact ⟨fun _ => rfl, nofun, nofun⟩

theorem Write.approvalsContinue
    (intact : db.Intact) (accounted : db.Accounted calls) :
    approvalRecords.Continues ApprovalRequest.Continues db next where
  kept := by
    intro key approval found
    obtain ⟨stored, owner⟩ := (approvalRecords_find db key approval).mp found
    rcases write.approvalSurvives stored with
      ⟨later, present, same | step⟩ | purged
    · subst same
      exact .inl ⟨later, (approvalRecords_find next key later).mpr ⟨present, owner⟩, .refl later⟩
    · have continues := (step.accountable member (accounted key.1 approval stored)).2
      exact .inl ⟨later, (approvalRecords_find next key later).mpr
        ⟨present, continues.request.attempt.trans owner⟩, continues⟩
    · obtain ⟨execution, isOwner, profile⟩ := intact.asked key.1 approval stored
      rw [owner] at isOwner
      rcases write.ownerSurvives intact isOwner with ⟨kept, held, same⟩ | gone
      · exact absurd (same.trans profile.symm) (purged _ kept held)
      · exact .inr ⟨Nat.lt_of_lt_of_le (intact.numbered _ execution isOwner) write.units.supply,
          gone.execution⟩
  gone := fun key gone => write.removed key.2.execution gone

end

end Writes

/-! ## Approvals and leases -/

/-- A live approval belongs to an attempt under an unresolved lease. -/
def Db.ApprovalsLeased (db : Db D) : Prop :=
  ∀ request approval, db.approvals.lookup request = some approval →
    approval.status.isLive = true →
    ∃ execution attempt, db.executions.lookup approval.attempt.execution = some execution ∧
      execution.attempt? approval.attempt.number = some attempt ∧
      attempt.hasUnresolvedLease = true

/-- The call does not end or suspend a leg of a routine that has a live approval. -/
def Db.RoutineUnasked (db : Db D) (call : Call D) : Prop :=
  ∀ id execution, call.operation.routineTarget = some id →
    db.executions.lookup id = some execution → execution.routine.isSome = true →
    ∀ request approval, db.approvals.lookup request = some approval →
      approval.attempt.execution = id → approval.status.isLive = false

theorem Operation.routineTarget_append (operation : Operation D)
    (service : operation.service = .appendRuntimeEvent) : operation.routineTarget = none := by
  cases operation <;> simp_all [Operation.service, Operation.routineTarget]

section Leases

variable [DecidableEq D] {env : Env D} {call : Call D} {start db next : Db D}
  {calls : List (Call D)}

section

variable (write : Write env call start db next)

include write

theorem Write.keepsUnresolved (intact : db.Intact)
    (id : AttemptId) (execution : Execution D) (attempt : Attempt D)
    (stored : db.executions.lookup id.execution = some execution)
    (found : execution.attempt? id.number = some attempt)
    (unresolved : attempt.hasUnresolvedLease = true) :
    (∃ later kept, next.executions.lookup id.execution = some later ∧
      later.attempt? id.number = some kept ∧ kept.hasUnresolvedLease = true) ∨
    next.Purged id.execution execution.profile ∨ db.ApprovalsSettled id ∨
    (call.operation.routineTarget = some id.execution ∧ execution.routine.isSome = true) := by
  cases write with
  | create =>
    have old : id.execution ≠ db.supply := Nat.ne_of_lt (intact.numbered _ execution stored)
    exact .inl ⟨execution, attempt, by simp [old, stored], found, unresolved⟩
  | move target given _ moved status routine present _ _ _ settled =>
    by_cases sameExecution : id.execution = target.execution
    · rw [sameExecution, present, Option.some.injEq] at stored
      subst stored
      by_cases sameNumber : id.number = target.number
      · have same : id = target := by
          obtain ⟨_, _⟩ := id
          obtain ⟨_, _⟩ := target
          simp_all
        subst same
        rcases settled with unresolved | settled | ⟨routineTarget, current⟩
        · exact .inl ⟨_, moved, AList.lookup_insert _, attempt?_write_same .., unresolved⟩
        · exact .inr (.inr (.inl settled))
        · obtain ⟨_, isRoutine⟩ := Option.isSome_iff_exists.mp current
          rw [Execution.routineAt_eq_some] at isRoutine
          exact .inr (.inr (.inr ⟨routineTarget, by rw [isRoutine.1]; rfl⟩))
      · refine .inl ⟨given.write target.number moved status routine, attempt, ?_, ?_, unresolved⟩
        · rw [sameExecution]
          exact AList.lookup_insert _
        · rw [attempt?_write_ne _ _ _ _ _ _ sameNumber]
          exact found
    · refine .inl ⟨execution, attempt, ?_, found, unresolved⟩
      simp only [Db.putExecution, AList.lookup_insert_ne sameExecution]
      exact stored
  | grant _ _ terms target given next number lease _ present _ grants =>
    by_cases same : id.execution = target
    · rw [same, present, Option.some.injEq] at stored
      subst stored
      obtain ⟨granted, isGranted, _, isAttempt, others⟩ := grant_granted terms given next number
        lease grants
      refine .inl ⟨next, ?_⟩
      by_cases sameNumber : id.number = number
      · refine ⟨granted, ?_, by rw [sameNumber]; exact isAttempt, ?_⟩
        · rw [same]
          exact AList.lookup_insert _
        · simp [Attempt.hasUnresolvedLease, isGranted.held, isGranted.active,
            LeaseState.isUnresolved]
      · refine ⟨attempt, ?_, by rw [others _ sameNumber]; exact found, unresolved⟩
        rw [same]
        exact AList.lookup_insert _
    · refine .inl ⟨execution, attempt, ?_, found, unresolved⟩
      simp only [Db.putExecution, AList.lookup_insert_ne same]
      exact stored
  | stopLeases profile =>
    refine .inl ⟨execution.stopLeases profile, attempt.stopLease profile, ?_, ?_, ?_⟩
    · simp [Db.stopLeases, stored]
    · rw [Execution.attempt?_stopLeases, found]
      rfl
    · rw [stopLease_hasUnresolvedLease]
      exact unresolved
  | decideApproval _ _ _ _ decides =>
    obtain ⟨_, rfl⟩ := recordApprovalDecision_frame decides
    exact .inl ⟨execution, attempt, stored, found, unresolved⟩
  | compareAndSet _ _ _ _ _ _ _ sets =>
    obtain ⟨_, rfl⟩ := compareAndSetSession_frame sets
    exact .inl ⟨execution, attempt, stored, found, unresolved⟩
  | purge workspaceId profileId workspace profile next service known isProfile home removed purges =>
    have survives := (Write.purge workspaceId profileId workspace profile next service known
      isProfile home removed purges : Write env call start db next).survives stored intact.numbered
    obtain ⟨_, _, executions, _⟩ := purgeProfile_eq purges
    by_cases purged : execution.profile = profileId
    · rcases survives with ⟨_, present, _⟩ | gone
      · rw [executions, Table.lookup_keep_eq_some, stored, Option.some.injEq] at present
        obtain ⟨rfl, stays⟩ := present
        exact absurd purged (by simpa using stays)
      · exact .inr (.inl gone)
    · refine .inl ⟨execution, attempt, ?_, found, unresolved⟩
      rw [executions, Table.lookup_keep_eq_some]
      exact ⟨stored, by simpa using purged⟩
  | _ => exact .inl ⟨execution, attempt, stored, found, unresolved⟩

section

variable (member : call ∈ calls) (intact : db.Intact) (accounted : db.Accounted calls)

include member intact accounted

theorem Write.keepsLeased (leased : db.ApprovalsLeased)
    (unasked : db.RoutineUnasked call) : next.ApprovalsLeased := by
  intro request later present live
  rcases write.approvalSource present with
    ⟨approval, stored, step⟩ |
      ⟨execution, attempt, _, _, _, _, sameExecutions, owner, found, held, active, _⟩
  · have continues : approval.Continues later := by
      rcases step with rfl | step
      · exact .refl _
      · exact (step.accountable member (accounted request approval stored)).2
    have wasLive : approval.status.isLive = true := by
      by_contra settled
      have same := continues.settled (by simpa using settled)
      rw [same] at live
      exact settled live
    rw [continues.request.attempt]
    obtain ⟨execution, attempt, owner, found, unresolved⟩ := leased request approval stored wasLive
    rcases write.keepsUnresolved intact approval.attempt execution attempt owner found unresolved with
      kept | purged | settled | ⟨target, isRoutine⟩
    · exact kept
    · obtain ⟨_, isOwner, profile⟩ := intact.asked request approval stored
      cases owner.symm.trans isOwner
      exact absurd (continues.request.profile.trans profile) (purged.approvals request later present)
    · exact absurd ((settled request approval stored rfl).symm.trans wasLive) nofun
    · exact absurd ((unasked _ execution target owner isRoutine request approval stored rfl).symm.trans
        wasLive) nofun
  · refine ⟨execution, attempt, by rw [sameExecutions]; exact owner, found, ?_⟩
    simp [Attempt.hasUnresolvedLease, held, active, LeaseState.isUnresolved]

theorem Write.keepsUnasked (unasked : db.RoutineUnasked call) :
    next.RoutineUnasked call := by
  intro id later target present isRoutine request approval stored owner
  rcases write.approvalSource stored with
    ⟨former, found, step⟩ | ⟨_, _, _, _, _, service, _⟩
  · have continues : former.Continues approval := by
      rcases step with rfl | step
      · exact .refl _
      · exact (step.accountable member (accounted request former found)).2
    have sameOwner : former.attempt.execution = id := by
      rw [← owner, continues.request.attempt]
    obtain ⟨execution, isOwner, _⟩ := intact.asked request former found
    rw [sameOwner] at isOwner
    have wasRoutine : execution.routine.isSome = true := by
      rcases write.source id later present with ⟨_, isBefore, change⟩ | ⟨isNew, _⟩
      · cases isOwner.symm.trans isBefore
        rcases change with rfl | change
        · exact isRoutine
        · rw [Option.isSome_iff_ne_none] at isRoutine ⊢
          exact fun none => isRoutine (change.routine_eq_none_iff.mpr none)
      · have drawn := intact.numbered id execution isOwner
        rw [isNew] at drawn
        exact absurd drawn (Nat.lt_irrefl _)
    have settled := unasked id execution target isOwner wasRoutine request former found sameOwner
    rw [continues.settled settled]
    exact settled
  · rw [Operation.routineTarget_append _ service] at target
    cases target

end

end

end Leases

section Runs

variable [DecidableEq D] (env : Env D)

theorem run_approvalsContinue (all : List (Call D)) (db : Db D) (calls : List (Call D))
    (members : ∀ call ∈ calls, call ∈ all) (intact : db.Intact) (accounted : db.Accounted all) :
    ((run env db calls).Intact ∧ (run env db calls).Accounted all) ∧
      approvalRecords.Continues ApprovalRequest.Continues db (run env db calls) :=
  run_carries env (fun _ call => call ∈ all) (fun db => db.Intact ∧ db.Accounted all)
    (fun call _ db => (db.Intact ∧ db.Accounted all) ∧ call ∈ all)
    (approvalRecords.Continues ApprovalRequest.Continues)
    (Records.Continues.refl ApprovalRequest.Continues.refl)
    (Records.Continues.trans ApprovalRequest.Continues ApprovalRequest.Continues.trans)
    (fun _ _ holds member => ⟨holds, member⟩)
    (fun _ _ _ _ write holds =>
      ⟨⟨⟨write.intact holds.1.1, write.accounted holds.2 holds.1.2⟩, holds.2⟩,
        write.approvalsContinue holds.2 holds.1.1 holds.1.2⟩)
    (fun _ _ _ holds => holds.1) db calls ⟨intact, accounted⟩
    (Run.meets_of_mem _ db fun call member _ => members call member)

omit [DecidableEq D] in
theorem Db.accounted_empty (calls : List (Call D)) : (Db.empty : Db D).Accounted calls := by
  intro request approval stored
  simp [Db.empty] at stored

/-- What holds inside a call that leaves the approvals of routines alone. -/
structure Db.ApprovalsKept (calls : List (Call D)) (call : Call D) (db : Db D) : Prop where
  intact : db.Intact
  accounted : db.Accounted calls
  leased : db.ApprovalsLeased
  unasked : db.RoutineUnasked call
  member : call ∈ calls

theorem run_approvalsLeased (calls : List (Call D))
    (meets : Run.Meets (apply env) Db.RoutineUnasked Db.empty calls) :
    (run env Db.empty calls).ApprovalsLeased := by
  have listed : Run.Meets (apply env) (fun _ call => call ∈ calls) Db.empty calls :=
    Run.meets_of_mem _ _ fun _ member _ => member
  refine (run_carries env (fun db call => db.RoutineUnasked call ∧ call ∈ calls)
    (fun db => db.Intact ∧ db.Accounted calls ∧ db.ApprovalsLeased)
    (fun call _ db => db.ApprovalsKept calls call) (fun _ _ => True) (fun _ => trivial)
    (fun _ _ => trivial)
    (fun _ _ holds condition => ⟨holds.1, holds.2.1, holds.2.2, condition.1, condition.2⟩) ?_
    (fun _ _ _ kept => ⟨kept.intact, kept.accounted, kept.leased⟩)
    Db.empty calls ⟨Db.intact_empty, Db.accounted_empty calls, ?_⟩ (meets.and listed)).1.2.2
  · intro call start db next write kept
    refine ⟨⟨write.intact kept.intact, write.accounted kept.member kept.accounted, ?_, ?_,
      kept.member⟩, trivial⟩
    · exact write.keepsLeased kept.member kept.intact kept.accounted kept.leased kept.unasked
    · exact write.keepsUnasked kept.member kept.intact kept.accounted kept.unasked
  · intro request approval stored
    simp [Db.empty] at stored

/-- The machine of live approvals, in every run that does not end a leg of a routine
over a live approval: decisions and settled statuses stay, an applied row has a
matching decision that was recorded in time, and a released attempt has no live
approval. -/
theorem live_approvals_settle_with_their_lease (first rest : List (Call D))
    (meets : Run.Meets (apply env) Db.RoutineUnasked Db.empty (first ++ rest)) :
    (∀ request approval later,
      (run env Db.empty first).approvals.lookup request = some approval →
      (run env Db.empty (first ++ rest)).approvals.lookup request = some later →
      later.attempt = approval.attempt → approval.Continues later) ∧
    (∀ request approval, (run env Db.empty first).approvals.lookup request = some approval →
      approval.status = .applied →
      approval.DecidedBy first request ∧ ∃ outcome, approval.outcome = some outcome ∧
        outcome.decision.isSome = true ∧ approval.decision = outcome.decision) ∧
    (∀ id execution attempt,
      (run env Db.empty first).executions.lookup id.execution = some execution →
      execution.attempt? id.number = some attempt → attempt.hasUnresolvedLease = false →
      (run env Db.empty first).ApprovalsSettled id) := by
  obtain ⟨⟨intact, accounted⟩, _⟩ := run_approvalsContinue env first Db.empty first
    (fun _ member => member) Db.intact_empty (Db.accounted_empty first)
  refine ⟨?_, ?_, ?_⟩
  · intro request approval later stored present same
    have widened : (run env Db.empty first).Accounted (first ++ rest) :=
      (run_approvalsContinue env (first ++ rest) Db.empty first
        (fun _ member => List.mem_append_left _ member) Db.intact_empty
        (Db.accounted_empty _)).1.2
    obtain ⟨⟨kept, _⟩, continues⟩ := run_approvalsContinue env (first ++ rest)
      (run env Db.empty first) rest (fun _ member => List.mem_append_right _ member) intact widened
    have split : run env Db.empty (first ++ rest) = run env (run env Db.empty first) rest :=
      Run.run_append Db.empty first rest
    rw [split] at present
    rcases continues.kept (request, approval.attempt) approval
        ((approvalRecords_find _ _ _).mpr ⟨stored, rfl⟩) with ⟨_, isFound, continues⟩ | gone
    · have isLater := (approvalRecords_find _ _ _).mp isFound
      rw [present, Option.some.injEq] at isLater
      exact isLater.1 ▸ continues
    · obtain ⟨_, owner, _⟩ := kept.asked request later present
      rw [same] at owner
      exact absurd (gone.2.symm.trans owner) nofun
  · intro request approval stored applied
    have accountable := accounted request approval stored
    obtain ⟨outcome, isOutcome, decides, matching⟩ := accountable.applied applied
    exact ⟨accountable.decided (by rw [matching]; exact decides), outcome, isOutcome, decides,
      matching⟩
  · intro id execution attempt stored found resolved request approval isApproval owner
    by_contra live
    obtain ⟨_, _, isHolder, isRow, unresolved⟩ := run_approvalsLeased env first
      meets.append_left request approval isApproval (by simpa using live)
    rw [owner, stored, Option.some.injEq] at isHolder
    subst isHolder
    rw [owner, found, Option.some.injEq] at isRow
    subst isRow
    rw [resolved] at unresolved
    cases unresolved

end Runs

/-- The running attempt asks for a live approval, which expires in a minute. -/
def askApproval (sequence : Nat) : Call PlainDigest :=
  ⟨0, .appendRuntimeEvent ⟨0, 1⟩ ⟨7, 1⟩ leaseToken ⟨71, "stream", sequence, .awaitingApproval
    { approvalRequestId := 96
      actionKind := "terminal"
      actionLabel := "label"
      actionPreview := "preview"
      expiresAt := seconds 60 }⟩⟩

def stoppedWork : List (Call PlainDigest) :=
  bringUp ++ ordinaryWork ++
    [askApproval 1, ⟨0, .acknowledgeStopped ⟨0, 1⟩ ⟨7, 1⟩ leaseToken "user" none⟩]

theorem stopped_work_settles_its_approval :
    ∃ execution attempt,
      (run Env.plain Db.empty stoppedWork).executions.lookup 7 = some execution ∧
      execution.attempt? 1 = some attempt ∧ attempt.hasUnresolvedLease = false ∧
      (run Env.plain Db.empty stoppedWork).approvals.lookup 96 ≠ none ∧
      (run Env.plain Db.empty stoppedWork).ApprovalsSettled ⟨7, 1⟩ := by
  have meets : Run.Meets (apply Env.plain) Db.RoutineUnasked Db.empty (stoppedWork ++ []) := by
    refine Run.meets_of_mem _ _ ?_
    intro call member db id execution target
    have untargeted : ∀ call ∈ stoppedWork ++ [], call.operation.routineTarget = none := by
      decide
    rw [untargeted call member] at target
    cases target
  have released : ((run Env.plain Db.empty stoppedWork).executions.lookup 7).any
      (fun execution => (execution.attempt? 1).any fun attempt =>
        !attempt.hasUnresolvedLease) = true := by decide +kernel
  obtain ⟨execution, stored, holds⟩ := (Option.any_eq_true _ _).mp released
  obtain ⟨attempt, found, resolved⟩ := (Option.any_eq_true _ _).mp holds
  have isResolved : attempt.hasUnresolvedLease = false := by simpa using resolved
  exact ⟨execution, attempt, stored, found, isResolved, by decide +kernel,
    (live_approvals_settle_with_their_lease Env.plain stoppedWork [] meets).2.2 ⟨7, 1⟩ execution
      attempt stored found isResolved⟩

/-- A routine that asked, and whose result was then recorded. -/
def finishedRoutine : List (Call PlainDigest) :=
  startedRoutine ++ [askApproval 6, ⟨0, .recordRoutineResult 7 (some 95)
    { eventId := 95
      eventSequence := none
      outcome := .changed
      text := "done"
      references := []
      delayed := none }⟩]

/-- The result releases the lease and leaves the approval PENDING. -/
theorem finished_routine_keeps_its_approval :
    ∃ execution attempt approval,
      (run Env.plain Db.empty finishedRoutine).executions.lookup 7 = some execution ∧
      execution.attempt? 1 = some attempt ∧ attempt.hasUnresolvedLease = false ∧
      (run Env.plain Db.empty finishedRoutine).approvals.lookup 96 = some approval ∧
      approval.attempt = ⟨7, 1⟩ ∧ approval.status = .pending := by
  have released : ((run Env.plain Db.empty finishedRoutine).executions.lookup 7).any
      (fun execution => (execution.attempt? 1).any fun attempt =>
        !attempt.hasUnresolvedLease) = true := by decide +kernel
  have pending : ((run Env.plain Db.empty finishedRoutine).approvals.lookup 96).any
      (fun approval => decide (approval.attempt = ⟨7, 1⟩ ∧ approval.status = .pending)) = true := by
    decide +kernel
  obtain ⟨execution, stored, holds⟩ := (Option.any_eq_true _ _).mp released
  obtain ⟨attempt, found, resolved⟩ := (Option.any_eq_true _ _).mp holds
  obtain ⟨approval, isApproval, live⟩ := (Option.any_eq_true _ _).mp pending
  have isLive := of_decide_eq_true live
  exact ⟨execution, attempt, approval, stored, found, by simpa using resolved, isApproval, isLive.1,
    isLive.2⟩

end Foundry
