import Foundry.Services.Attempts

/-!
# Session bindings

`sessions.py`: the compare-and-set of a profile's conversation session, on behalf of
an ordinary attempt or by itself, and the session of a routine run.
-/

set_option autoImplicit false

namespace Foundry

open Raise

variable {D : Type}

structure SessionRequest where
  cloudConversationRef : String
  expectedSessionId : Option String
  effectiveSessionId : String
deriving DecidableEq, Repr

def validateSessionId (expected : Option String) (effective : String) :
    Except RuntimeError Unit := do
  validateNonempty effective "effective_session_id" 255
  match expected with
  | none => return ()
  | some session => validateNonempty session "expected_session_id" 255

/-- `_store_session_receipt`. -/
def Attempt.storeSessionReceipt (attempt : Attempt D) (requestDigest leaseDigest : D)
    (sessionId : String) : Attempt D :=
  { attempt with
    sessionRequestDigest := some requestDigest
    sessionLeaseDigest := some leaseDigest
    sessionReceipt := some sessionId }

def bindSession (profileId : Uuid) (request : SessionRequest)
    (bindings : Table Uuid ConversationBinding) :
    Except RuntimeError (Table Uuid ConversationBinding) :=
  match bindings.lookup profileId with
  | none => do
      require (request.expectedSessionId = none)
        (leaseConflictError "session binding does not exist")
      require (bindings.rows.all fun row =>
          row.2.cloudConversationRef ≠ request.cloudConversationRef)
        (leaseConflictError "conversation binding conflicts with existing state")
      return bindings.insert profileId
        ⟨request.cloudConversationRef, some request.effectiveSessionId⟩
  | some binding => do
      require (binding.cloudConversationRef = request.cloudConversationRef)
        (leaseConflictError "profile is bound to another conversation")
      if binding.hermesSessionId = some request.effectiveSessionId then
        return bindings
      require (request.expectedSessionId = binding.hermesSessionId)
        (leaseConflictError "session binding is stale")
      return bindings.insert profileId
        { binding with hermesSessionId := some request.effectiveSessionId }

section Operations

variable [DecidableEq D]

def updateSessionBinding (env : Env D) (now : Instant) (context : RuntimeContext)
    (id : AttemptId) (leaseToken : String) (request : SessionRequest) (db : Db D) :
    Except RuntimeError (ConversationBinding × Db D) := do
  validateNonempty request.cloudConversationRef "cloud_conversation_ref" 255
  validateSessionId request.expectedSessionId request.effectiveSessionId
  let tokenDigest ← digestLeaseToken env leaseToken
  let requestDigest := env.digestPayload (.session request.cloudConversationRef
    request.expectedSessionId request.effectiveSessionId)
  let workspace ← orRaise (db.workspaces.lookup context.workspace) (doesNotExist "Workspace")
  require (workspace.machineGeneration = context.machineGeneration)
    (fencedError "runtime generation is stale")
  let (execution, attempt) ← orRaise
    ((db.attemptIn context.workspace id).filter fun found => !found.1.isRoutineDispatch)
    (leaseConflictError "attempt is not in this workspace")
  let profile ← orRaise (db.profiles.lookup execution.profile) (doesNotExist "RuntimeProfile")
  require (profileAllowsRuntimeWrite profile)
    (leaseConflictError "profile lifecycle is not active")
  let lease ← orRaise (attempt.lease.filter fun lease => lease.tokenDigest = tokenDigest)
    (leaseConflictError "lease token does not authorize attempt")
  match attempt.sessionRequestDigest with
  | some stored =>
    require (stored = requestDigest ∧ attempt.sessionLeaseDigest = some tokenDigest)
      (idempotencyConflictError "session binding request conflicts with its stored receipt")
    let binding ← orRaise (db.bindings.lookup execution.profile)
      (leaseConflictError "session binding receipt is unavailable")
    let session ← orRaise attempt.sessionReceipt
      (leaseConflictError "session binding receipt is unavailable")
    -- The value this attempt committed, not the profile's later one.
    return ({ binding with hermesSessionId := some session }, db)
  | none =>
    require (lease.machineGeneration = workspace.machineGeneration)
      (fencedError "lease belongs to a retired generation")
    require (lease.state = .active) (leaseConflictError "lease is no longer active")
    require (now < lease.expiresAt) (leaseConflictError "lease has expired")
    let bindings ← bindSession execution.profile request db.bindings
    let bound := attempt.storeSessionReceipt requestDigest tokenDigest
      request.effectiveSessionId
    let stored := db.putExecution id.execution (execution.setAttempt id.number bound)
    return (⟨request.cloudConversationRef, some request.effectiveSessionId⟩,
      { stored with bindings := bindings })

def validateOptional (value : Option String) (name : String) (maxLength : Nat) :
    Except RuntimeError Unit :=
  match value with
  | none => return ()
  | some text => validateNonempty text name maxLength

/-- The compare of `compare_and_set_session`; an empty text counts as no session where
none is expected. -/
def ensureCurrentSession (expectedSessionId : Option String) (binding : ConversationBinding) :
    Except RuntimeError Unit :=
  match expectedSessionId with
  | none =>
    require (binding.hermesSessionId.all fun session => session = "")
      (conflictError "session binding is already initialized")
  | some session =>
    require (binding.hermesSessionId = some session)
      (conflictError "session binding is stale")

/-- `compare_and_set_session`; `bind_conversation` is the call without an expected
session. -/
def compareAndSetSession (profileId : Uuid) (expectedSessionId : Option String)
    (newSessionId : String) (conversationRef : Option String) (db : Db D) :
    Except RuntimeError (ConversationBinding × Db D) := do
  validateNonempty newSessionId "new_session_id" 255
  validateOptional expectedSessionId "expected_session_id" 255
  validateOptional conversationRef "cloud_conversation_ref" 255
  let profile ← orRaise (db.profiles.lookup profileId)
    (validationError "profile does not exist")
  require (profileAllowsRuntimeWrite profile) (conflictError "profile lifecycle is not active")
  match db.bindings.lookup profileId with
  | none =>
    require (expectedSessionId = none) (conflictError "session binding does not exist")
    let reference ← orRaise conversationRef
      (validationError "cloud_conversation_ref is required for the first bind")
    require (db.bindings.rows.all fun row => row.2.cloudConversationRef ≠ reference)
      (conflictError "conversation binding conflicts with existing state")
    let binding : ConversationBinding := ⟨reference, some newSessionId⟩
    return (binding, { db with bindings := db.bindings.insert profileId binding })
  | some binding =>
    require (conversationRef.all fun reference => binding.cloudConversationRef = reference)
      (conflictError "profile is bound to another conversation")
    if binding.hermesSessionId = some newSessionId then
      return (binding, db)
    ensureCurrentSession expectedSessionId binding
    let rotated := { binding with hermesSessionId := some newSessionId }
    return (rotated, { db with bindings := db.bindings.insert profileId rotated })

/-- The current acquisition with this token stores the session request. -/
def Lease.bindSession (lease : Lease D) (tokenDigest requestDigest : D) (sessionId : String) :
    Lease D :=
  { lease with
    acquisitions := lease.acquisitions.map fun acquisition =>
      if acquisition.current && acquisition.tokenDigest = tokenDigest then
        { acquisition with
          sessionRequestDigest := some requestDigest
          sessionReceipt := some sessionId }
      else acquisition }

def applyRoutineSession (number : Nat) (tokenDigest requestDigest : D) (sessionId : String)
    (routine : RoutineExecution) (attempt : Attempt D) (lease : Lease D)
    (execution : Execution D) : Execution D :=
  { execution.setAttempt number
      (attempt.setLease (lease.bindSession tokenDigest requestDigest sessionId)) with
    routine := some { routine with hermesSessionId := some sessionId } }

/-- Bind a fresh run session without touching the profile's main binding. -/
def bindRoutineSession (env : Env D) (now : Instant) (context : RuntimeContext)
    (id : AttemptId) (leaseToken : String) (expectedSessionId : Option String)
    (effectiveSessionId : String) (db : Db D) : Except RuntimeError (String × Db D) := do
  validateSessionId expectedSessionId effectiveSessionId
  let tokenDigest ← digestLeaseToken env leaseToken
  let requestDigest := env.digestPayload (.routineSession expectedSessionId effectiveSessionId)
  let workspace ← orRaise (db.workspaces.lookup context.workspace) (doesNotExist "Workspace")
  require (workspace.machineGeneration = context.machineGeneration)
    (fencedError "runtime generation is stale")
  let (execution, attempt) ← orRaise (db.attemptIn context.workspace id)
    (leaseConflictError "routine session target is unavailable")
  let routine ← orRaise (execution.routineAt id.number)
    (leaseConflictError "routine session target is unavailable")
  let lease ← orRaise (attempt.lease.filter fun lease => lease.tokenDigest = tokenDigest)
    (leaseConflictError "lease token does not authorize routine")
  require (lease.scopeKey = .routine routine.routineId)
    (leaseConflictError "routine lease scope is stale")
  require (lease.state = .active ∧ now < lease.expiresAt)
    (leaseConflictError "routine lease is no longer active")
  let acquisition ← orRaise
    (lease.acquisitions.find? fun acquisition =>
      acquisition.current && acquisition.tokenDigest = tokenDigest)
    (leaseConflictError "routine lease authority is stale")
  match acquisition.sessionRequestDigest with
  | some stored =>
    let session ← orRaise
      (acquisition.sessionReceipt.filter fun _ => stored = requestDigest)
      (idempotencyConflictError "routine session request conflicts with its stored receipt")
    return (session, db)
  | none =>
    match routine.hermesSessionId with
    | some session =>
      require (expectedSessionId = some session)
        (leaseConflictError "routine session binding is stale")
      require (session = effectiveSessionId)
        (leaseConflictError "routine session binding is immutable")
    | none =>
      require (expectedSessionId = none)
        (leaseConflictError "routine session binding does not exist")
    return (effectiveSessionId,
      db.putExecution id.execution
        (applyRoutineSession id.number tokenDigest requestDigest effectiveSessionId routine
          attempt lease execution))

omit [DecidableEq D] in
theorem compareAndSetSession_cases
    (profileId : Uuid) (expected : Option String) (new : String) (conversationRef : Option String)
    (binding : ConversationBinding) (db next : Db D)
    (success : compareAndSetSession profileId expected new conversationRef db =
      .ok (binding, next)) :
    new ≠ "" ∧ (∃ profile, db.profiles.lookup profileId = some profile) ∧
      ((∃ reference, db.bindings.lookup profileId = none ∧ expected = none ∧
          next = { db with bindings := db.bindings.insert profileId ⟨reference, some new⟩ }) ∨
        (∃ former, db.bindings.lookup profileId = some former ∧
          former.hermesSessionId = some new ∧ next = db) ∨
        ∃ former, db.bindings.lookup profileId = some former ∧
          (expected = former.hermesSessionId ∨
            expected = none ∧ former.hermesSessionId = some "") ∧
          next = { db with
            bindings := db.bindings.insert profileId
              { former with hermesSessionId := some new } }) := by
  simp only [compareAndSetSession, bind_eq_ok] at success
  obtain ⟨_, valid, _, _, _, _, profile, stored, _, _, success⟩ := success
  simp only [validateNonempty, require_eq_ok] at valid
  simp only [orRaise_eq_ok] at stored
  refine ⟨valid.1, ⟨profile, stored⟩, ?_⟩
  split at success
  · next unbound =>
    simp only [bind_eq_ok, require_eq_ok, orRaise_eq_ok, return_eq_ok] at success
    obtain ⟨_, unexpected, reference, _, _, _, _, rfl⟩ := success
    exact .inl ⟨reference, unbound, unexpected, rfl⟩
  · next former bound =>
    simp only [bind_eq_ok] at success
    obtain ⟨_, _, success⟩ := success
    split at success
    · next already =>
      simp only [return_eq_ok] at success
      exact .inr (.inl ⟨former, bound, already, success.2.symm⟩)
    · simp only [bind_eq_ok, return_eq_ok] at success
      obtain ⟨_, current, _, rfl⟩ := success
      refine .inr (.inr ⟨former, bound, ?_, rfl⟩)
      cases expected with
      | none =>
        simp only [ensureCurrentSession, require_eq_ok] at current
        cases session : former.hermesSessionId with
        | none => exact .inl rfl
        | some =>
          simp only [session, Option.all_some, decide_eq_true_eq] at current
          exact .inr ⟨rfl, by rw [current]⟩
      | some =>
        simp only [ensureCurrentSession, require_eq_ok] at current
        exact .inl current.symm

omit [DecidableEq D] in
theorem compareAndSetSession_frame
    {profileId : Uuid} {expected : Option String} {new : String} {conversationRef : Option String}
    {binding : ConversationBinding} {db next : Db D}
    (success : compareAndSetSession profileId expected new conversationRef db =
      .ok (binding, next)) :
    ∃ bindings, next = { db with bindings := bindings } := by
  obtain ⟨_, _, ⟨_, _, _, rfl⟩ | ⟨_, _, _, rfl⟩ | ⟨_, _, _, rfl⟩⟩ :=
    compareAndSetSession_cases profileId expected new conversationRef binding db next success
  · exact ⟨_, rfl⟩
  · exact ⟨next.bindings, rfl⟩
  · exact ⟨_, rfl⟩

end Operations

end Foundry
