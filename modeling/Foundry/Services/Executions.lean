import Foundry.Services.Workspaces

/-!
# Execution commands

`executions.py`: work is created by a plain request or by a command of Cloud, under an
idempotency key of its Workspace, and a command can be looked up without creating work.
-/

set_option autoImplicit false

namespace Foundry

open Raise

variable {D : Type}

/-! ## The command contract -/

/-- The pattern `^[\x20-\x7e]+/[\x20-\x7e]+$`, of at most 127 characters. -/
def isMediaType (text : String) : Bool :=
  text.length ≤ 127 && text.toList.all (fun letter => ' ' ≤ letter && letter ≤ '~') &&
    (text.toList.drop 1).dropLast.contains '/'

def FileInput.isWellFormed (file : FileInput) : Bool :=
  1 ≤ file.name.length ∧ file.name.length ≤ 255 ∧ isMediaType file.mediaType = true ∧
    1 ≤ file.size ∧ file.size ≤ 25000000 ∧ isSha256Text file.sha256 = true

def maxCommandTextBytes : Nat := 16 * 1024

def ExecutionCommand.fileSizes (command : ExecutionCommand) : Nat :=
  ((command.files.getD []).map FileInput.size).sum

def ExecutionCommand.isWellFormed (command : ExecutionCommand) : Bool :=
  1 ≤ command.conversationTurnOrdinal ∧ command.conversationTurnOrdinal ≤ 2147483647 ∧
    command.text.length ≤ maxCommandTextBytes ∧
    (command.bootstrap.all fun given => given.all fun bootstrap =>
      1 ≤ bootstrap.text.length ∧ bootstrap.text.length ≤ maxCommandTextBytes) = true ∧
    (command.files.all fun files =>
      1 ≤ files.length ∧ files.length ≤ 10 ∧ files.all FileInput.isWellFormed = true) = true ∧
    command.fileSizes ≤ 50000000 ∧
    (command.text ≠ "" ∨ command.files.isSome = true) ∧
    isFingerprint command.fingerprint = true

/-- `_validate_times`. -/
def validateTimes (issuedAt deadlineAt : Timestamp) : Except RuntimeError Unit := do
  require (issuedAt.aware ∧ deadlineAt.aware)
    (validationError "contract timestamps must include a timezone")
  require (issuedAt.instant < deadlineAt.instant ∧
      deadlineAt.instant ≤ issuedAt.instant + seconds 60)
    (validationError "command deadline is outside the bounded window")

def validateBootstrap (ordinal : Nat) : Option (Option FirstTurnBootstrap) →
    Except RuntimeError Unit
  | some (some bootstrap) => do
      require (2 ≤ ordinal)
        (validationError "bootstrap is invalid before the second conversation turn")
      require (bootstrap.text.utf8ByteSize ≤ maxCommandTextBytes)
        (validationError "bootstrap text is too large")
  | _ => return ()

/-- `validate_command`, after `_coerce_command`. -/
def validateCommand (env : Env D) (command : ExecutionCommand) : Except RuntimeError Unit := do
  require command.isWellFormed (validationError "command is invalid")
  validateTimes command.issuedAt command.deadlineAt
  require (command.bootstrap ≠ some none)
    (validationError "bootstrap must be omitted or an object")
  let expected ← env.commandFingerprint command
  require (command.fingerprint = expected)
    (validationError "command fingerprint does not match its envelope")
  require (command.text.utf8ByteSize ≤ maxCommandTextBytes)
    (validationError "command text is too large")
  require (command.fileSizes ≤ 50000000)
    (validationError "file manifest exceeds the aggregate size limit")
  require (command.text ≠ "" ∨ command.files.getD [] ≠ [])
    (validationError "execution input requires text or files")
  validateBootstrap command.conversationTurnOrdinal command.bootstrap

def ExecutionCommand.inputPayload (env : Env D) (command : ExecutionCommand) : Json :=
  .obj (command.bootstrapMember env.uuidText ++
    [("cloud_conversation_ref", .str (env.uuidText command.cloudConversationId))] ++
    command.filesMember env.uuidText ++ [("message", .str command.text)])

/-! ## Rows -/

def queuedExecution (env : Env D) (now : Instant) (workspaceId profileId : Uuid)
    (idempotencyKey : String) (payload : Json) : Execution D where
  workspace := workspaceId
  profile := profileId
  idempotencyKey := idempotencyKey
  inputPayload := payload
  payloadDigest := env.digestPayload (.execution payload)
  commandId := none
  commandFingerprint := ""
  cloudWorkspaceId := none
  cloudAllyId := none
  cloudConversationId := none
  cloudMessageId := none
  cloudBindingId := none
  conversationTurnOrdinal := none
  status := .queued
  createdAt := now
  attempts := ∅
  routine := none

/-- `_ensure_conversation_binding`. -/
def ensureConversationBinding (mismatch : String → RuntimeError) (profileId : Uuid)
    (conversationRef : String) (bindings : Table Uuid ConversationBinding) :
    Except RuntimeError (Table Uuid ConversationBinding) := do
  validateNonempty conversationRef "cloud_conversation_ref" 255
  match bindings.lookup profileId with
  | some binding =>
    require (binding.cloudConversationRef = conversationRef)
      (mismatch "execution binding is unavailable")
    return bindings
  | none =>
    require (bindings.rows.all fun row => row.2.cloudConversationRef ≠ conversationRef)
      (mismatch "conversation binding conflicts with existing state")
    return bindings.insert profileId ⟨conversationRef, none⟩

/-- The binding a payload's conversation reference reserves, if it has one. -/
def payloadBinding (profileId : Uuid) (payload : Json) (bindings : Table Uuid ConversationBinding) :
    Except RuntimeError (Table Uuid ConversationBinding) :=
  match payload.get? "cloud_conversation_ref" with
  | none | some .null => return bindings
  | some (.str conversationRef) =>
    ensureConversationBinding conflictError profileId conversationRef bindings
  | some _ => throw (validationError
      "cloud_conversation_ref must be a non-empty string of at most 255 characters")

def Db.executionByKey (db : Db D) (workspaceId : Uuid) (key : String) :
    Option (Uuid × Execution D) :=
  db.executions.rows.find? fun row => row.2.workspace = workspaceId ∧ row.2.idempotencyKey = key

def Db.createExecution (db : Db D) (workspaceId : Uuid) (woken : Workspace)
    (bindings : Table Uuid ConversationBinding) (execution : Execution D) : Db D :=
  { db.draw.draw with
    bindings := bindings
    workspaces := db.workspaces.insert workspaceId woken
    executions := db.executions.insert db.supply execution }

/-- An exact retry only wakes the Workspace again, while the work is queued. -/
def retriedExecution (env : Env D) (now : Instant) (workspaceId : Uuid) (workspace : Workspace)
    (bindings : Table Uuid ConversationBinding) (existing : Execution D) (db : Db D) :
    Except RuntimeError (Db D) := do
  if existing.status = .queued then
    let woken ← requestExecutionWakeLocked env now db.supply workspace
    return { db.draw with
      bindings := bindings, workspaces := db.workspaces.insert workspaceId woken }
  else return { db with bindings := bindings }

section Operations

variable [DecidableEq D]

/-- `create_execution`. -/
def createExecution (env : Env D) (now : Instant) (workspaceId profileId : Uuid)
    (idempotencyKey : String) (payload : Json) (db : Db D) :
    Except RuntimeError (Uuid × Db D) := do
  validateNonempty idempotencyKey "idempotency_key" 255
  require (env.jsonSize payload ≤ 64 * 1024)
    (validationError "payload exceeds the 65536 byte limit")
  let profile ← orRaise (db.profiles.lookup profileId)
    (validationError "profile does not exist")
  require (profile.workspace = workspaceId)
    (validationError "profile does not belong to workspace")
  let workspace ← orRaise (db.workspaces.lookup workspaceId) (doesNotExist "Workspace")
  require (profile.cleanupRequiresQuiescence = false)
    (conflictError "profile deletion is in progress")
  let bindings ← payloadBinding profileId payload db.bindings
  match db.executionByKey workspaceId idempotencyKey with
  | some (id, existing) =>
    require (existing.profile = profileId ∧
        existing.payloadDigest = env.digestPayload (.execution payload))
      (conflictError "idempotency key already identifies a different execution")
    let next ← retriedExecution env now workspaceId workspace bindings existing db
    return (id, next)
  | none =>
    let woken ← requestExecutionWakeLocked env now (db.supply + 1)
      (advanceWorkspaceActivity workspace)
    return (db.supply, db.createExecution workspaceId woken bindings
      (queuedExecution env now workspaceId profileId idempotencyKey payload))

inductive ExecutionReceiptStatus where
  | accepted
  | duplicate
deriving DecidableEq, Repr

structure ExecutionReceipt where
  status : ExecutionReceiptStatus
  commandId : Uuid
  idempotencyKey : Uuid
  fingerprint : String
deriving DecidableEq, Repr

def ExecutionCommand.receipt (command : ExecutionCommand) (status : ExecutionReceiptStatus)
    (execution : Execution D) : ExecutionReceipt where
  status := status
  commandId := execution.commandId.getD command.commandId
  idempotencyKey := command.idempotencyKey
  fingerprint := if execution.commandFingerprint = "" then command.fingerprint
    else execution.commandFingerprint

/-- Where a command goes: its Workspace, its profile, and the bindings with the one of
its conversation. -/
structure CommandTarget where
  workspaceId : Uuid
  workspace : Workspace
  profileId : Uuid
  bindings : Table Uuid ConversationBinding

/-- `_resolve_command_binding`, and the checks before the idempotency key is looked up. -/
def resolveCommand (env : Env D) (command : ExecutionCommand) (db : Db D) :
    Except RuntimeError CommandTarget := do
  validateCommand env command
  let (workspaceId, workspace) ← orRaise
    (db.workspaceByTenant (env.uuidText command.cloudWorkspaceId))
    (notFoundError "execution binding is unavailable")
  let profileId := env.profileIdOf command.cloudBindingId
  let profile ← orRaise
    ((db.profiles.lookup profileId).filter fun profile =>
      profile.workspace = workspaceId ∧ profile.allyRef = env.uuidText command.cloudAllyId)
    (notFoundError "execution binding is unavailable")
  require (profile.cleanupRequiresQuiescence = false)
    (conflictError "profile deletion is in progress")
  let bindings ← ensureConversationBinding notFoundError profileId
    (env.uuidText command.cloudConversationId) db.bindings
  return ⟨workspaceId, workspace, profileId, bindings⟩

/-- `_ensure_contract_replay`: the stored Execution is this command's. -/
def Execution.repeats (execution : Execution D) (command : ExecutionCommand) (profileId : Uuid) :
    Bool :=
  execution.profile = profileId ∧ execution.commandId = some command.commandId ∧
    execution.commandFingerprint = command.fingerprint ∧
    execution.cloudWorkspaceId = some command.cloudWorkspaceId ∧
    execution.cloudAllyId = some command.cloudAllyId ∧
    execution.cloudConversationId = some command.cloudConversationId ∧
    execution.cloudMessageId = some command.cloudMessageId ∧
    execution.cloudBindingId = some command.cloudBindingId ∧
    execution.conversationTurnOrdinal = some command.conversationTurnOrdinal

def commandedExecution (env : Env D) (now : Instant) (workspaceId profileId : Uuid)
    (command : ExecutionCommand) : Execution D :=
  { queuedExecution env now workspaceId profileId (env.uuidText command.idempotencyKey)
      (command.inputPayload env) with
    commandId := some command.commandId
    commandFingerprint := command.fingerprint
    cloudWorkspaceId := some command.cloudWorkspaceId
    cloudAllyId := some command.cloudAllyId
    cloudConversationId := some command.cloudConversationId
    cloudMessageId := some command.cloudMessageId
    cloudBindingId := some command.cloudBindingId
    conversationTurnOrdinal := some command.conversationTurnOrdinal }

/-- `create_execution_intent`: accepted, or a duplicate of a stored command. -/
def createExecutionIntent (env : Env D) (now : Instant) (command : ExecutionCommand)
    (db : Db D) : Except RuntimeError (ExecutionReceipt × Db D) := do
  let target ← resolveCommand env command db
  match db.executionByKey target.workspaceId (env.uuidText command.idempotencyKey) with
  | some (_, existing) =>
    require (existing.repeats command target.profileId)
      (conflictError "idempotency key already identifies a different execution")
    let next ← retriedExecution env now target.workspaceId target.workspace target.bindings
      existing db
    return (command.receipt .duplicate existing, next)
  | none =>
    require (db.executions.rows.all fun row => row.2.commandId ≠ some command.commandId)
      (conflictError "command identity already identifies another execution")
    require (command.bootstrap.join.isSome = true →
        (target.bindings.lookup target.profileId).all fun binding =>
          binding.hermesSessionId = none)
      (conflictError "bootstrap requires an unbound conversation")
    let woken ← requestExecutionWakeLocked env now (db.supply + 1)
      (advanceWorkspaceActivity target.workspace)
    let execution := commandedExecution env now target.workspaceId target.profileId command
    return (command.receipt .accepted execution,
      db.createExecution target.workspaceId woken target.bindings execution)

inductive ReconciliationStatus where
  | accepted
  | notFound
  | conflict
deriving DecidableEq, Repr

structure ReconciliationReceipt where
  status : ReconciliationStatus
  commandId : Option Uuid
deriving DecidableEq, Repr

/-- Every Execution, of any Workspace, under an idempotency key. -/
def Db.executionsByKey (db : Db D) (key : String) : List (Uuid × Execution D) :=
  db.executions.rows.filter fun row => row.2.idempotencyKey = key

/-- `reconcile_execution_intent`: look up a command without creating work. -/
def reconcileExecutionIntent (env : Env D) (idempotencyKey : Uuid) (fingerprint : String)
    (db : Db D) : Except RuntimeError (ReconciliationReceipt × Db D) := do
  require (isFingerprint fingerprint) (validationError "fingerprint is invalid")
  match db.executionsByKey (env.uuidText idempotencyKey) with
  | [] => return (⟨.notFound, none⟩, db)
  | [(_, execution)] =>
    if execution.commandFingerprint = fingerprint then
      return (⟨.accepted, execution.commandId⟩, db)
    else return (⟨.conflict, none⟩, db)
  | _ => return (⟨.conflict, none⟩, db)

end Operations

end Foundry
