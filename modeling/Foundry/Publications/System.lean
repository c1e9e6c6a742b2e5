import Mathlib.Data.List.Sort
import Foundry.Lib.Run
import Foundry.Services.Publications

/-!
# Publications and the calls they make

The store of intents and the calls to Cloud that are under way.  An operation commits its
first transaction and leaves a call; the answer, in any order and possibly never, runs the
rest of the operation.
-/

set_option autoImplicit false

namespace Foundry

open Raise

variable {D : Type}

inductive RetryOutcome where
  | submitted
  | failed
deriving DecidableEq, Repr

/-- A call to Cloud, with what its caller keeps for the answer. -/
inductive CloudCall where
  /-- `_register_frozen_intent`, before it reads the intent. -/
  | acknowledged (publication : Uuid)
  /-- A registration, and the revision the intent had when the call was made. -/
  | register (publication : Uuid) (revision : Option Nat)
  | upload (publication : Uuid) (revision : Nat)
  | get (context : RuntimeContext) (profile publication : Uuid)
  /-- A retry claim for the first binding: the bindings left, and the items claimed. -/
  | claim (context : RuntimeContext) (profile : Uuid) (limit : Nat) (binding : Uuid)
      (rest : List Uuid) (claimed : Nat)
  /-- The items of one answered claim that are still to be admitted. -/
  | admitting (context : RuntimeContext) (profile : Uuid) (limit : Nat) (binding : Uuid)
      (items : List Json) (rest : List Uuid) (claimed : Nat)
  | retryResult (publication : Uuid) (revision : Nat) (outcome : RetryOutcome)
      (safeErrorCode : Option String)
deriving DecidableEq

def CloudCall.isWaiting : CloudCall → Bool
  | .acknowledged _ | .admitting _ _ _ _ _ _ _ => false
  | .register _ _ | .upload _ _ | .get _ _ _ | .claim _ _ _ _ _ _ | .retryResult _ _ _ _ => true

/-- The status and the unwrapped body of Cloud's answer, or no answer at all. -/
inductive CloudAnswer where
  | responded (status : Nat) (payload : Json)
  | unavailable
deriving DecidableEq

def isSuccess (status : Nat) : Bool :=
  200 ≤ status ∧ status < 300

/-- `str(payload.get("error_code") or "publication_unavailable")`; an error code that is
no string is no safe code either. -/
def answeredErrorCode (payload : Json) : String :=
  match payload.get? "error_code" with
  | some (.str code) => code
  | _ => "publication_unavailable"

structure Publications (D : Type) where
  db : Db D
  issued : Nat
  intents : Table Uuid (PublicationIntent D)
  calls : Table Nat CloudCall

namespace Publications

def calling (call : CloudCall) (state : Publications D) : Publications D :=
  { state with
    issued := state.issued + 1
    calls := state.calls.insert state.issued call }

def hangUp (number : Nat) (state : Publications D) : Publications D :=
  { state with calls := state.calls.erase number }

def put (id : Uuid) (intent : PublicationIntent D) (state : Publications D) : Publications D :=
  { state with intents := state.intents.insert id intent }

def update (id : Uuid) (rewrite : PublicationIntent D → Except RuntimeError (PublicationIntent D))
    (state : Publications D) : Except RuntimeError (Publications D) :=
  match state.intents.lookup id with
  | none => return state
  | some intent => do
      let saved ← rewrite intent
      return state.put id saved

/-- `_locked_intent`. -/
def lockedIntent (context : RuntimeContext) (profileId id : Uuid) (state : Publications D) :
    Except RuntimeError (PublicationIntent D) :=
  orRaise ((state.intents.lookup id).filter fun intent => intent.isScoped context profileId)
    (leaseConflictError "publication intent is not in this profile")

/-! ## Before the call -/

section Operations

variable [DecidableEq D] (env : PublicationEnv D) (now : Instant) (context : RuntimeContext)

def createPublicationIntent (id : AttemptId) (leaseToken toolCallId : String)
    (files : List Json) (state : Publications D) : Except RuntimeError (Publications D) := do
  requirePublicationsEnabled env
  let callId ← publicationToolCallId toolCallId
  let prepared ← preparedFiles files
  let requestDigest := env.digest (.obj [("tool_call_id", .str callId), ("files", .arr prepared)])
  let toolCallDigest := env.digest (.obj [("tool_call_id", .str callId)])
  let (execution, binding, message) ← activeAttempt env now context id leaseToken state.db
  match state.intents.rows.find? fun row =>
      row.2.execution = id.execution ∧ row.2.toolCallDigest = toolCallDigest with
  | some existing => do
      require (existing.2.requestDigest = requestDigest)
        (idempotencyConflictError "publication tool call changed its descriptor set")
      return state
  | none =>
    return {
      state.put state.issued {
        workspace := execution.workspace
        profile := execution.profile
        execution := id.execution
        sourceAttempt := id
        cloudBindingId := binding
        cloudMessageId := message
        toolCallDigest := toolCallDigest
        requestDigest := requestDigest
        manifestDigest := none
        state := .preparing
        nextDueAt := now
        attempts := 0
        safeErrorCode := ""
        cloudRevision := none
        cloudRetryRevision := none } with
      issued := state.issued + 1 }

def acknowledgeFrozenPublication (profileId id : Uuid) (files : List Json)
    (state : Publications D) : Except RuntimeError (Publications D) := do
  requirePublicationsEnabled env
  let frozen ← frozenFiles env files
  currentProfile context profileId state.db
  let intent ← state.lockedIntent context profileId id
  let stored ← intent.freeze now (env.digest (.obj [("files", .arr frozen)]))
  let saved ← stored.saved
  let next := state.put id saved
  if saved.shouldRegister now then return next.calling (.acknowledged id) else return next

omit [DecidableEq D] in
/-- The call of `_register_frozen_intent`. -/
def registerFrozenIntent (id : Uuid) (state : Publications D) : Publications D :=
  match state.intents.lookup id with
  | none => state
  | some intent =>
    if env.cloudConfigured then state.calling (.register id intent.cloudRevision) else state

def registerPublication (id : AttemptId) (leaseToken : String) (publicationId : Uuid)
    (files : List Json) (state : Publications D) : Except RuntimeError (Publications D) := do
  let frozen ← frozenFiles env files
  let _ ← activeAttempt env now context id leaseToken state.db
  let intent ← orRaise ((state.intents.lookup publicationId).filter fun intent =>
      intent.execution = id.execution ∧
        intent.manifestDigest = some (env.digest (.obj [("files", .arr frozen)])))
    (leaseConflictError "publication snapshot does not match intent")
  intent.mayRegister now
  return state.calling (.register publicationId intent.cloudRevision)

omit [DecidableEq D] in
def uploadPublicationFile (profileId id : Uuid) (generation : Int) (contentSize : Nat)
    (revision : Nat) (state : Publications D) : Except RuntimeError (Publications D) := do
  require (1 ≤ generation) (validationError "publication generation is invalid")
  require (1 ≤ revision) (validationError "publication revision is invalid")
  require (1 ≤ contentSize ∧ contentSize ≤ maxPublicationFileBytes)
    (validationError "publication content is invalid")
  currentProfile context profileId state.db
  let intent ← state.lockedIntent context profileId id
  require (intent.state = .registered ∧ intent.cloudRevision = some revision)
    (leaseConflictError "publication is not registered")
  return state.calling (.upload id revision)

omit [DecidableEq D] in
def getPublication (profileId id : Uuid) (state : Publications D) :
    Except RuntimeError (Publications D) := do
  currentProfile context profileId state.db
  let _ ← state.lockedIntent context profileId id
  return state.calling (.get context profileId id)

/-- The next binding of a retry claim, while the limit leaves room. -/
def claiming (profileId : Uuid) (limit : Nat) (bindings : List Uuid) (claimed : Nat)
    (state : Publications D) : Publications D :=
  match bindings with
  | [] => state
  | binding :: rest =>
    if claimed < limit then
      state.calling (.claim context profileId limit binding rest claimed)
    else state

omit [DecidableEq D] in
def claimPublicationRetries (profileId : Uuid) (limit : Nat) (state : Publications D) :
    Except RuntimeError (Publications D) := do
  require (1 ≤ limit ∧ limit ≤ maxRecoveryBatch)
    (validationError "publication retry limit must be from 1 to 20")
  currentProfile context profileId state.db
  let due := (state.intents.rows.map Prod.snd).filter fun intent =>
    intent.isScoped context profileId ∧ intent.state ∈ [.frozen, .registered, .failed]
  let bindings :=
    ((due.map PublicationIntent.cloudBindingId).dedup.insertionSort (· ≤ ·)).take limit
  return claiming context profileId limit bindings 0 state

omit [DecidableEq D] in
def recordPublicationRetry (profileId id : Uuid) (revision : Nat) (outcome : RetryOutcome)
    (safeErrorCode : Option String) (state : Publications D) :
    Except RuntimeError (Publications D) := do
  require (1 ≤ revision) (validationError "publication revision is invalid")
  require (safeErrorCode.all isSafeCode = true)
    (validationError "publication error code is invalid")
  currentProfile context profileId state.db
  let intent ← state.lockedIntent context profileId id
  require (intent.cloudRevision = some revision)
    (leaseConflictError "publication retry revision is stale")
  return state.calling (.retryResult id revision outcome safeErrorCode)

omit [DecidableEq D] in
/-- The intents of a woken Workspace are due again in a minute. -/
def wakeWorkspace (workspace : Uuid) (state : Publications D) : Publications D :=
  { state with
    intents := state.intents.updateAll fun _ intent =>
      if intent.workspace = workspace ∧ intent.state = .registered ∧ intent.nextDueAt ≤ now then
        { intent with nextDueAt := now + seconds 60 }
      else intent }

end Operations

/-! ## After the call -/

variable (env : PublicationEnv D) (now : Instant)

/-- Admit one claimed item: whether it counts, and the intents afterwards. -/
def admitItem (context : RuntimeContext) (profileId binding : Uuid) (item : Json)
    (state : Publications D) : Except RuntimeError (Bool × Publications D) := do
  match (item.get? "publication_id").bind env.uuid, positiveInteger? (item.get? "revision") with
  | some id, some revision => do
      currentProfile context profileId state.db
      match (state.intents.lookup id).filter fun intent => intent.isScoped context profileId with
      | none => return (false, state)
      | some intent => do
          let (counts, saved) ← intent.admitRetry binding revision
          return (counts, state.put id saved)
  | _, _ => return (false, state)

/-- The rest of an operation whose call was answered.  What raises is the caller's error:
the transactions before it stay committed. -/
def answered (call : CloudCall) (answer : CloudAnswer) (state : Publications D) :
    Except RuntimeError (Publications D) :=
  match call, answer with
  | .register id _, .responded status payload =>
    if isSuccess status then state.update id (·.setRegistered (payload.get? "revision"))
    else state.update id (·.setFailure now (answeredErrorCode payload) none)
  | .upload id revision, .responded status payload =>
    if isSuccess status then return state
    else state.update id (·.setFailure now (answeredErrorCode payload) (some revision))
  | .get context profileId id, .responded status payload =>
    if isSuccess status ∧
        payload.get? "state" ∈ [some (.str "ready"), some (.str "failed")] then do
      currentProfile context profileId state.db
      let intent ← state.lockedIntent context profileId id
      let saved ← intent.observe env payload
      return state.put id saved
    else return state
  | .claim context profileId limit binding rest claimed, .responded status payload =>
    if 500 ≤ status then return claiming context profileId limit rest claimed state
    else do
      require (isSuccess status = true)
        (leaseConflictError "publication retry claim was rejected")
      match payload.get? "items" with
      | some (.arr items) =>
        return state.calling (.admitting context profileId limit binding items rest claimed)
      | _ => throw (validationError "publication retry response was invalid")
  | .retryResult id revision outcome code, .responded status _ =>
    if outcome = .failed ∧ isSuccess status then
      state.update id
        (·.setFailure now (code.getD "publication_unavailable") (some revision))
    else return state
  | .acknowledged _, _ => return state
  | .admitting _ _ _ _ _ _ _, _ => return state
  | _, .unavailable => throw (notReadyError "file publication transport is unavailable")

/-- What the service does next by itself: register an acknowledged intent, or admit one
more item of an answered claim. -/
def proceeded (call : CloudCall) (state : Publications D) :
    Except RuntimeError (Publications D) :=
  match call with
  | .acknowledged id => return state.registerFrozenIntent env id
  | .admitting context profileId limit binding (item :: items) rest claimed => do
      let (counts, next) ← state.admitItem env context profileId binding item
      return next.calling (.admitting context profileId limit binding items rest
        (if counts then claimed + 1 else claimed))
  | .admitting context profileId limit _ [] rest claimed =>
    return claiming context profileId limit rest claimed state
  | .register _ _ | .upload _ _ | .get _ _ _ | .claim _ _ _ _ _ _ | .retryResult _ _ _ _ =>
    return state

end Publications

/-! ## Every operation -/

inductive PublicationOperation (D : Type) where
  | create (now : Instant) (context : RuntimeContext) (id : AttemptId)
      (leaseToken toolCallId : String) (files : List Json)
  | acknowledge (now : Instant) (context : RuntimeContext) (profile publication : Uuid)
      (files : List Json)
  | register (now : Instant) (context : RuntimeContext) (id : AttemptId) (leaseToken : String)
      (publication : Uuid) (files : List Json)
  | upload (context : RuntimeContext) (profile publication : Uuid) (generation : Int)
      (contentSize revision : Nat)
  | get (context : RuntimeContext) (profile publication : Uuid)
  | claim (context : RuntimeContext) (profile : Uuid) (limit : Nat)
  | recordRetry (context : RuntimeContext) (profile publication : Uuid) (revision : Nat)
      (outcome : RetryOutcome) (safeErrorCode : Option String)
  | answer (now : Instant) (call : Nat) (reply : CloudAnswer)
  | proceed (call : Nat)
  | wake (now : Instant) (workspace : Uuid)
  /-- `_purge_profile` deletes the intents of the profile. -/
  | purge (profile : Uuid)
  /-- Another service commits to the rows the scopes read. -/
  | commit (db : Db D)

section Apply

variable [DecidableEq D] (env : PublicationEnv D)

/-- Every call is ended by its answer, also when what follows raises. -/
def PublicationOperation.apply :
    PublicationOperation D → Publications D → Except RuntimeError (Unit × Publications D)
  | .create now context id token tool files, state =>
    ((), ·) <$> state.createPublicationIntent env now context id token tool files
  | .acknowledge now context profile publication files, state =>
    ((), ·) <$> state.acknowledgeFrozenPublication env now context profile publication files
  | .register now context id token publication files, state =>
    ((), ·) <$> state.registerPublication env now context id token publication files
  | .upload context profile publication generation size revision, state =>
    ((), ·) <$> state.uploadPublicationFile context profile publication generation size revision
  | .get context profile publication, state =>
    ((), ·) <$> state.getPublication context profile publication
  | .claim context profile limit, state =>
    ((), ·) <$> state.claimPublicationRetries context profile limit
  | .recordRetry context profile publication revision outcome code, state =>
    ((), ·) <$> state.recordPublicationRetry context profile publication revision outcome code
  | .answer now number reply, state =>
    match (state.calls.lookup number).filter CloudCall.isWaiting with
    | some call =>
      match (state.hangUp number).answered env now call reply with
      | .ok next => return ((), next)
      | .error _ => return ((), state.hangUp number)
    | none => return ((), state)
  | .proceed number, state =>
    match (state.calls.lookup number).filter fun call => !call.isWaiting with
    | some call =>
      match (state.hangUp number).proceeded env call with
      | .ok next => return ((), next)
      | .error _ => return ((), state.hangUp number)
    | none => return ((), state)
  | .wake now workspace, state => return ((), state.wakeWorkspace now workspace)
  | .purge profile, state =>
    return ((), { state with intents := state.intents.keep fun _ row => row.profile ≠ profile })
  | .commit db, state => return ((), { state with db := db })

end Apply

end Foundry
