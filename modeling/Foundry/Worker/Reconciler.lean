import Foundry.Lib.Evidence
import Foundry.Volume.Cleanups
import Foundry.Worker.Errors
import Foundry.Worker.Registry

/-!
# The profile reconciler

`reconciliation.py`, with `quiesce_profile` and `hermes_instance_id` of `hermes.py` and the proofs
of `quiescence.py`.  Foundry and Hermes answer as they like.  The profile store and the resource
registry of the worker do what their own modules say, and others use them in between.  The objects
are those that `compose_runtime` passes, where Hermes and the worker may be missing.
-/

set_option autoImplicit false

namespace Foundry

/-! ## Desired states -/

structure ProfileDesiredState where
  machineGeneration : Int
  profileId : String
  hermesProfileKey : String
  lifecycleState : String
  lifecycleEpoch : Int
  seedFingerprint : String
  materializedGeneration : Int
  materializationOperationId : Option String
  materializationReceiptId : Option String
  cleanupOperationId : Option String
  cleanupRequestDigest : String
  cleanupExpiresAt : Option Int
  activeLeaseCount : Int
  cleanupAttemptId : Option String
  cleanupRequiresQuiescence : Bool
deriving DecidableEq, Repr

structure RuntimeReconciliationSnapshot where
  machineGeneration : Int
  runtimeStartEpoch : Option Int
  profiles : List ProfileDesiredState
deriving DecidableEq, Repr

def hasText : Option String → Bool
  | some text => text != ""
  | none => false

/-! ## Quiescence proofs -/

structure ClientLibrary where
  /-- `str.lower`. -/
  lower : String → String
  /-- `int(value, 16)` raises nothing. -/
  parsesHex : String → Bool
  /-- A float literal equals an integer. -/
  equals : String → Int → Bool
  /-- `str(uuid5(NAMESPACE_URL, name))`. -/
  nameUuid : String → String

structure QuiescenceRequest where
  operationId : String
  attemptId : String
  lifecycleEpoch : Int
  requestDigest : String
  machineGeneration : Int
  runtimeStartEpoch : Int
  hermesInstanceId : String
deriving DecidableEq, Repr

/-- `_bounded_uuid`. -/
def isBoundedUuid (value : String) : Bool :=
  isBoundedIdentifier value && isCanonicalUuid value

/-- `QuiescenceProof`. -/
structure HermesQuiescence where
  profileKey : String
  request : QuiescenceRequest
  state : String
  safeErrorCode : String
  activeRuns : Int
  activeProfileIo : Int
  openProfileStores : Int
  ownedChildren : Int
deriving DecidableEq, Repr

def HermesQuiescence.complete (proof : HermesQuiescence) : Bool :=
  proof.state = "quiesced" && proof.safeErrorCode = "" && proof.activeRuns = 0 &&
    proof.activeProfileIo = 0 && proof.openProfileStores = 0 && proof.ownedChildren = 0

abbrev JsonMembers := List (String × Json)

/-- `value.get(name)`, where a missing member and `null` are both `None`. -/
def JsonMembers.get (members : JsonMembers) (name : String) : Option Json :=
  ((Json.obj members).get? name).filter fun value => value != .null

section Client

open Raise

variable (lib : ClientLibrary)

/-- `_digest`. -/
def isClientDigest (value : String) : Bool :=
  value.length = 64 && lib.lower value = value && lib.parsesHex value

/-- `QuiescenceRequest.__post_init__`. -/
def QuiescenceRequest.isValid (request : QuiescenceRequest) : Bool :=
  isBoundedUuid request.operationId && isBoundedUuid request.attemptId &&
    0 ≤ request.lifecycleEpoch && isClientDigest lib request.requestDigest &&
    0 < request.machineGeneration && 0 ≤ request.runtimeStartEpoch &&
    isBoundedUuid request.hermesInstanceId

/-- `==` of a member and a text or an integer. -/
def equalsJson : Option Json → Json → Bool
  | some (.bool value), .int expected => expected = if value then 1 else 0
  | some (.float literal), .int expected => lib.equals literal expected
  | some value, expected => value = expected
  | none, _ => false

def proofFields : List String :=
  ["version", "profile_key", "operation_id", "attempt_id", "lifecycle_epoch", "request_digest",
    "machine_generation", "runtime_start_epoch", "hermes_instance_id", "state", "safe_error_code",
    "active_runs", "active_profile_io", "open_profile_stores", "owned_children"]

def QuiescenceRequest.identity (request : QuiescenceRequest) : List (String × Json) :=
  [("operation_id", .str request.operationId), ("attempt_id", .str request.attemptId),
    ("lifecycle_epoch", .int request.lifecycleEpoch), ("request_digest", .str request.requestDigest),
    ("machine_generation", .int request.machineGeneration),
    ("runtime_start_epoch", .int request.runtimeStartEpoch),
    ("hermes_instance_id", .str request.hermesInstanceId)]

/-- `_counter`. -/
def counterOf : Option Json → Option Int
  | some (.int value) => if 0 ≤ value then some value else none
  | _ => none

/-- A text of at most 128 characters, none of them a control character. -/
def isSafeCodeText (value : String) : Bool :=
  value.length ≤ 128 && value.toList.all fun letter => 32 ≤ letter.toNat ∧ letter.toNat ≠ 127

def textWhere (isForm : String → Bool) : Option Json → Option String
  | some (.str value) => if isForm value then some value else none
  | _ => none

/-- `parse_quiescence_proof`: nothing for a `QuiescenceError`. -/
def parseQuiescenceProof (value : JsonMembers) (expected : QuiescenceRequest)
    (profileKey : String) : Option HermesQuiescence := do
  guard (value.all fun member => proofFields.contains member.1)
  guard (equalsJson lib (value.get "version") (.int 1))
  guard (value.get "profile_key" = some (.str profileKey) ∧ isBoundedIdentifier profileKey)
  guard (expected.identity.all fun field => equalsJson lib (value.get field.1) field.2)
  let state ← textWhere ["quiescing", "quiesced", "repair_required"].contains (value.get "state")
  let safeErrorCode ← textWhere isSafeCodeText (value.get "safe_error_code")
  let activeRuns ← counterOf (value.get "active_runs")
  let activeProfileIo ← counterOf (value.get "active_profile_io")
  let openProfileStores ← counterOf (value.get "open_profile_stores")
  let ownedChildren ← counterOf (value.get "owned_children")
  let proof : HermesQuiescence := ⟨profileKey, expected, state, safeErrorCode, activeRuns,
    activeProfileIo, openProfileStores, ownedChildren⟩
  guard (proof.state = "quiesced" → proof.complete)
  return proof

/-- What `quiesce_profile` makes of a response; nothing for a `HermesError`. -/
def acceptQuiescence (request : QuiescenceRequest) (profileKey : String) (status : Nat)
    (payload : JsonMembers) : Option HermesQuiescence := do
  guard (status ≠ 409)
  let proof ← parseQuiescenceProof lib payload request profileKey
  guard (status = 202 → proof.state = "quiescing")
  guard (status = 200 → proof.complete)
  return proof

/-- What `hermes_instance_id` reads in the capabilities; nothing for a `HermesError`. -/
def readInstanceId (payload : JsonMembers) : Option String := do
  let runtime : JsonMembers := match payload.get "runtime" with
    | some (.obj members) => members
    | _ => []
  let features : JsonMembers := match payload.get "features" with
    | some (.obj members) => members
    | _ => []
  guard (payload.get "profile_quiescence_v1" = some (.bool true) ∨
    features.get "profile_quiescence_v1" = some (.bool true))
  match (payload.get "hermes_instance_id").or (runtime.get "hermes_instance_id") with
  | some (.str value) => if isCanonicalUuid value then some value else none
  | _ => none

end Client

/-! ## Actions -/

inductive ReconcilerError where
  | hermes
  | quiescence
  | timeout
  | os
  | value
  | foundry (errorClass : FoundryErrorClass)
  /-- `ProfileReconciliationBlocked`. -/
  | blocked
  /-- Any other `Exception`. -/
  | other
  /-- The task is cancelled, or the process ends. -/
  | cancelled
deriving DecidableEq, Repr

def ReconcilerError.isCheckFailure : ReconcilerError → Bool
  | .hermes | .quiescence | .timeout | .os | .value => true
  | _ => false

/-- `ProfileReceipt`, as far as it is read. -/
structure ProfileReceiptReply where
  profileId : String
  resultCode : String
deriving DecidableEq, Repr

structure QuiescenceEvidence where
  state : String
  safeErrorCode : String
  activeRuns : Int
  activeProfileIo : Int
  openProfileStores : Int
  ownedChildren : Int
deriving DecidableEq, Repr

structure DeletionReport where
  attemptId : String
  machineGeneration : Int
  runtimeStartEpoch : Int
  runtimeBootId : String
  hermesInstanceId : String
  quiescence : QuiescenceEvidence
deriving DecidableEq, Repr

/-- The arguments of `cleanup_receipt`. -/
structure CleanupReport where
  profileId : String
  operationId : String
  lifecycleEpoch : Int
  requestDigest : String
  resultCode : String
  deleted : Bool
  activeLeaseCount : Int
  deletion : Option DeletionReport
deriving DecidableEq, Repr

inductive ReconcilerAction where
  | reconcileProfiles
  /-- A look at `last_reconciliation_snapshot`. -/
  | lastSnapshot
  /-- `_runtime_seed` and the store's `materialize`. -/
  | materialize (profile : ProfileDesiredState) (operationId : String)
  | materializationReceipt (profile : ProfileDesiredState) (operationId seedFingerprint : String)
  | fenceDeletion (key : String) (identity : CleanupIdentity) (expiresAt : Option Int)
  | fenceProfile (key : String)
  /-- `GET /v1/capabilities`. -/
  | capabilities
  /-- `POST /v1/profiles/{key}/quiesce`. -/
  | postQuiesce (key : String) (request : QuiescenceRequest)
  | quiesceProfile (key : String)
  | cleanup (key : String) (identity : CleanupIdentity) (expiresAt : Option Int)
  | cleanupReceipt (report : CleanupReport)

abbrev ReconcilerAction.Value : ReconcilerAction → Type
  | .reconcileProfiles => List ProfileDesiredState
  | .lastSnapshot => Option RuntimeReconciliationSnapshot
  | .materialize _ _ => StoreReceipt
  | .materializationReceipt _ _ _ => ProfileReceiptReply
  | .fenceDeletion _ _ _ => CleanupReceipt
  | .fenceProfile _ => Unit
  | .capabilities => JsonMembers
  | .postQuiesce _ _ => Nat × JsonMembers
  | .quiesceProfile _ => String
  | .cleanup _ _ _ => CleanupReceipt
  | .cleanupReceipt _ => ProfileReceiptReply

abbrev ReconcilerReply (action : ReconcilerAction) : Type :=
  Except ReconcilerError action.Value

abbrev ReconcilerProgram (α : Type) : Type :=
  Program ReconcilerAction ReconcilerReply ReconcilerError α

def ReconcilerAction.call (action : ReconcilerAction) : ReconcilerProgram action.Value :=
  .act action fun reply => match reply with
    | .ok value => .answer value
    | .error raised => .refuse raised

/-! ## Cleanup -/

/-- `except`, around one check of a deletion. -/
def pendingOnFailure {α : Type} (check : ReconcilerProgram (Option α)) :
    ReconcilerProgram (Option α) :=
  check.rescue fun raised =>
    if raised.isCheckFailure then .answer none else .refuse raised

/-- Goes on with what a check found, unless the deletion stays pending. -/
def unlessPending {α β : Type} (check : ReconcilerProgram (Option α))
    (next : α → ReconcilerProgram (Option β)) : ReconcilerProgram (Option β) := do
  match ← check with
  | none => return none
  | some value => next value

/-- One deletion attempt of `_cleanup`. -/
structure ProfileDeletion where
  profile : ProfileDesiredState
  operationId : String
  attemptId : String
  runtimeStartEpoch : Int
deriving DecidableEq, Repr

namespace ProfileDeletion

variable (deletion : ProfileDeletion)

def identity : CleanupIdentity where
  operationId := deletion.operationId
  lifecycleEpoch := deletion.profile.lifecycleEpoch
  deletion := some (deletion.attemptId, deletion.profile.cleanupRequestDigest)

def request (hermesInstanceId : String) : QuiescenceRequest where
  operationId := deletion.operationId
  attemptId := deletion.attemptId
  lifecycleEpoch := deletion.profile.lifecycleEpoch
  requestDigest := deletion.profile.cleanupRequestDigest
  machineGeneration := deletion.profile.machineGeneration
  runtimeStartEpoch := deletion.runtimeStartEpoch
  hermesInstanceId := hermesInstanceId

def prepareFence : ReconcilerProgram (Option Unit) :=
  pendingOnFailure do
    let receipt ← (ReconcilerAction.fenceDeletion deletion.profile.hermesProfileKey
      deletion.identity deletion.profile.cleanupExpiresAt).call
    if (receipt.status ≠ .fenced ∧ receipt.status ≠ .deprovisioned) ∨ hasText receipt.repairCode
    then return none
    else return some ()

def workerFence : ReconcilerProgram (Option Unit) :=
  pendingOnFailure do
    (ReconcilerAction.fenceProfile deletion.profile.hermesProfileKey).call
    return some ()

/-- `hermes_instance_id`, resolved afresh. -/
def resolveIdentity : ReconcilerProgram (Option String) :=
  pendingOnFailure do
    let payload ← ReconcilerAction.capabilities.call
    match readInstanceId payload with
    | some instanceId => return some instanceId
    | none => .refuse .hermes

def evidenceOf (proof : HermesQuiescence) : QuiescenceEvidence :=
  ⟨proof.state, proof.safeErrorCode, proof.activeRuns, proof.activeProfileIo,
    proof.openProfileStores, proof.ownedChildren⟩

/-- The comparison that `_cleanup` makes once more. -/
def isFullEvidence (quiescence : QuiescenceEvidence) : Bool :=
  quiescence.state = "quiesced" && quiescence.safeErrorCode = "" && quiescence.activeRuns = 0 &&
    quiescence.activeProfileIo = 0 && quiescence.openProfileStores = 0 &&
    quiescence.ownedChildren = 0

/-- `HermesClient.quiesce_profile`. -/
def quiesceHermes (lib : ClientLibrary) (hermesInstanceId : String) :
    ReconcilerProgram HermesQuiescence :=
  let key := deletion.profile.hermesProfileKey
  let request := deletion.request hermesInstanceId
  if !isResourceKey key then .refuse .value
  else if !request.isValid lib then .refuse .value
  else do
    let response ← (ReconcilerAction.postQuiesce key request).call
    match acceptQuiescence lib request key response.1 response.2 with
    | some proof => return proof
    | none => .refuse .hermes

def obtainProof (lib : ClientLibrary) (hermesInstanceId : String) :
    ReconcilerProgram (Option QuiescenceEvidence) :=
  pendingOnFailure do
    let proof ← deletion.quiesceHermes lib hermesInstanceId
    if !proof.complete then return none
    else if !isFullEvidence (evidenceOf proof) then return none
    else return some (evidenceOf proof)

def workerQuiesce : ReconcilerProgram (Option Unit) :=
  pendingOnFailure do
    let state ← (ReconcilerAction.quiesceProfile deletion.profile.hermesProfileKey).call
    if state ≠ "quiesced" then return none else return some ()

/-- The desired state still names the deletion, with no lease. -/
def isStillNamed (profiles : List ProfileDesiredState) : Bool :=
  match profiles.find? fun item => item.profileId = deletion.profile.profileId with
  | none => false
  | some current =>
    current.cleanupOperationId = some deletion.operationId &&
      current.cleanupRequestDigest = deletion.profile.cleanupRequestDigest &&
      current.lifecycleEpoch = deletion.profile.lifecycleEpoch && current.activeLeaseCount = 0

/-- The desired state is read again; an `Exception` leaves the deletion pending. -/
def recheck : ReconcilerProgram (Option Unit) :=
  Program.rescue (do
    let profiles ← ReconcilerAction.reconcileProfiles.call
    if deletion.isStillNamed profiles then return some () else return none)
    fun raised => if raised = .cancelled then .refuse raised else .answer none

end ProfileDeletion

structure ProfileReconciler where
  correlationId : Option String
  hasHermes : Bool
  hasWorker : Bool
  lib : ClientLibrary

namespace ProfileReconciler

variable (reconciler : ProfileReconciler) (profile : ProfileDesiredState)

def removeProfile (operationId : String) (deletion : Option (ProfileDeletion × DeletionReport)) :
    ReconcilerProgram (Option ProfileReceiptReply) := do
  let identity : CleanupIdentity := match deletion with
    | some found => found.1.identity
    | none => ⟨operationId, profile.lifecycleEpoch, none⟩
  let receipt ← (ReconcilerAction.cleanup profile.hermesProfileKey identity
    profile.cleanupExpiresAt).call
  if receipt.status = .fenced then return none
  else
    let deleted := receipt.status = .deprovisioned
    let sent ← (ReconcilerAction.cleanupReceipt {
      profileId := profile.profileId
      operationId := operationId
      lifecycleEpoch := profile.lifecycleEpoch
      requestDigest := profile.cleanupRequestDigest
      resultCode := if deleted then "deprovisioned" else "repair_required"
      deleted := deleted
      activeLeaseCount := 0
      deletion := deletion.map Prod.snd }).call
    return some sent

def deleteProfile (deletion : ProfileDeletion) (bootId : String) :
    ReconcilerProgram (Option ProfileReceiptReply) :=
  unlessPending deletion.prepareFence fun _ =>
  if !reconciler.hasWorker then .answer none
  else
    unlessPending deletion.workerFence fun _ =>
    unlessPending ProfileDeletion.resolveIdentity fun hermesInstanceId =>
    unlessPending (deletion.obtainProof reconciler.lib hermesInstanceId) fun quiescence =>
    unlessPending deletion.workerQuiesce fun _ =>
    unlessPending deletion.recheck fun _ =>
    removeProfile deletion.profile deletion.operationId (some (deletion,
      ⟨deletion.attemptId, deletion.profile.machineGeneration, deletion.runtimeStartEpoch, bootId,
        hermesInstanceId, quiescence⟩))

/-- `_cleanup`. -/
def cleanup : ReconcilerProgram (Option ProfileReceiptReply) :=
  match profile.cleanupOperationId with
  | none => .answer none
  | some operationId =>
    if profile.cleanupRequestDigest = "" then .answer none
    else do
      let snapshot ← ReconcilerAction.lastSnapshot.call
      if profile.cleanupRequiresQuiescence then
        match profile.cleanupAttemptId, snapshot.bind RuntimeReconciliationSnapshot.runtimeStartEpoch,
            reconciler.correlationId with
        | some attemptId, some runtimeStartEpoch, some bootId =>
          if !reconciler.hasHermes || attemptId = "" then return none
          else reconciler.deleteProfile ⟨profile, operationId, attemptId, runtimeStartEpoch⟩ bootId
        | _, _, _ => return none
      else if profile.activeLeaseCount ≠ 0 then return none
      else removeProfile profile operationId none

/-! ## Reconciliation -/

def materializationName : String :=
  "allies-foundry:profile-materialize:" ++ profile.profileId ++ ":" ++
    toString profile.lifecycleEpoch ++ ":" ++ toString profile.machineGeneration ++ ":" ++
    profile.seedFingerprint

/-- The desired state is read again after the receipt was refused; a cleanup it asks for is made. -/
def compensate : ReconcilerProgram (Option ProfileReceiptReply) := do
  let latest ← ReconcilerAction.reconcileProfiles.call
  match latest.find? fun item => item.profileId = profile.profileId with
  | some current =>
    if hasText current.cleanupOperationId then
      let _ ← reconciler.cleanup current
      return none
    else return none
  | none => return none

/-- `_materialize`. -/
def materialize : ReconcilerProgram (Option ProfileReceiptReply) := do
  let operationId := if hasText profile.materializationOperationId then
      profile.materializationOperationId.getD ""
    else reconciler.lib.nameUuid (materializationName profile)
  let receipt ← (ReconcilerAction.materialize profile operationId).call
  if receipt.status ≠ .created ∧ receipt.status ≠ .existing then return none
  else
    let seedFingerprint := if receipt.seedFingerprint = "" then profile.seedFingerprint
      else receipt.seedFingerprint
    Program.rescue (do
      let sent ← (ReconcilerAction.materializationReceipt profile operationId seedFingerprint).call
      return some sent)
      fun raised =>
        if raised = .foundry .fenced ∨ raised = .foundry .repairRequired then
          reconciler.compensate profile
        else .refuse raised

structure ReconciliationReport where
  materialized : List ProfileReceiptReply
  cleaned : List ProfileReceiptReply
  blockedProfileIds : List String
  deletionPending : List String
deriving DecidableEq, Repr

def cleanupStates : List String := ["cleanup_pending", "deprovisioned", "repair_required"]

/-- The generation is materialized, with its operation and receipt. -/
def isMaterialized : Bool :=
  profile.materializedGeneration = profile.machineGeneration &&
    hasText profile.materializationOperationId && hasText profile.materializationReceiptId

def reconcileProfile (report : ReconciliationReport) : ReconcilerProgram ReconciliationReport :=
  if hasText profile.cleanupOperationId && cleanupStates.contains profile.lifecycleState then do
    match ← reconciler.cleanup profile with
    | none =>
      if profile.cleanupRequiresQuiescence then
        return { report with deletionPending := report.deletionPending ++ [profile.profileId] }
      else
        return { report with blockedProfileIds := report.blockedProfileIds ++ [profile.profileId] }
    | some receipt => return { report with cleaned := report.cleaned ++ [receipt] }
  else if ! (["pending", "active"].contains profile.lifecycleState) then
    .answer { report with blockedProfileIds := report.blockedProfileIds ++ [profile.profileId] }
  else if isMaterialized profile then .answer report
  else do
    match ← reconciler.materialize profile with
    | none =>
      return { report with blockedProfileIds := report.blockedProfileIds ++ [profile.profileId] }
    | some receipt => return { report with materialized := report.materialized ++ [receipt] }

def reconcileAll : List ProfileDesiredState → ReconciliationReport →
    ReconcilerProgram ReconciliationReport
  | [], report => .answer report
  | profile :: rest, report => do
      let next ← reconciler.reconcileProfile profile report
      reconcileAll rest next

/-- `reconcile`. -/
def reconcile : ReconcilerProgram ReconciliationReport := do
  let desired ← ReconcilerAction.reconcileProfiles.call
  let report ← reconciler.reconcileAll desired ⟨[], [], [], []⟩
  if !report.blockedProfileIds.isEmpty then .refuse .blocked else return report

end ProfileReconciler

/-! ## The host -/

/-- The volume by profile key, the registry of the worker, and what the client remembers. -/
structure RuntimeHost where
  volumes : String → ProfileVolume
  registry : RegistryState
  lastSnapshot : Option RuntimeReconciliationSnapshot

structure ReconcilerFault where
  /-- What others do before the call. -/
  drift : RuntimeHost → RuntimeHost
  env : StoreEnv
  /-- `cleanup_timeout_seconds`. -/
  cleanupTimeout : Int
  /-- What `_runtime_seed` makes of the desired state, if it can be represented. -/
  seed : Option ProfileSeed
  isBounded : Bool
  spoolsGone : Bool
  /-- The namespaces of the store are there and its lock is taken in time. -/
  isAvailable : Bool
  /-- The call raises, a store call after some of its writes. -/
  raises : Option (Nat × ReconcilerError)
  snapshot : RuntimeReconciliationSnapshot
  status : Nat
  payload : JsonMembers
  receipt : ProfileReceiptReply
  /-- The number of a `quiesce` of the registry, and its steps with those of others in between. -/
  quiesceCall : Nat
  quiesceEvents : List RegistryEvent

namespace RuntimeHost

variable (fault : ReconcilerFault) (host : RuntimeHost)

def setVolume (key : String) (volume : ProfileVolume) : RuntimeHost :=
  { host with volumes := fun other => if other = key then volume else host.volumes other }

def external {α : Type} (value : α) : Except ReconcilerError α × RuntimeHost :=
  match fault.raises with
  | some raised => (.error raised.2, host)
  | none => (.ok value, host)

def store {ε α : Type} (key : String) (script : Script ProfileVolume ε α)
    (outcome : Except ε α → Except ReconcilerError α) :
    Except ReconcilerError α × RuntimeHost :=
  match fault.raises with
  | some (writes, raised) =>
    (.error raised, host.setVolume key ((host.volumes key).leave script (some writes)))
  | none =>
    (outcome (script (host.volumes key)).2,
      host.setVolume key ((host.volumes key).leave script none))

def receiptOf {α : Type} : Except α α → Except ReconcilerError α
  | .ok receipt => .ok receipt
  | .error receipt => .ok receipt

/-- `_expiry_timestamp`. -/
def expiryOf (expiresAt : Option Int) : Int :=
  expiresAt.getD (fault.env.now + fault.cleanupTimeout)

/-- The arguments of a cleanup or a fence raise no `ProfileInputError`. -/
def accepts (key : String) (identity : CleanupIdentity) (expiresAt : Option Int) : Bool :=
  isProfileKey key && identity.isAccepted &&
    (identity.deletion.isNone ||
      expiryOf fault expiresAt ≤ fault.env.now + maxDeletionExpirySeconds)

/-- `quiesce` of the registry, with the answer of the worker's `quiesce_profile`. -/
def quiesceRegistry (key : String) : Except ReconcilerError String × RuntimeHost :=
  match RegistryState.apply (.quiesce fault.quiesceCall key true) host.registry with
  | .error (.quiescence _) => (.ok "repair_required", host)
  | .error (.valueError _) => (.error .value, host)
  | .error .noStep => (.error .cancelled, host)
  | .ok (_, begun) =>
    let ended := Run.run RegistryState.apply begun fault.quiesceEvents
    match (ended.quiescing.lookup fault.quiesceCall).map QuiesceCall.phase with
    | some (.returned status) => (.ok status, { host with registry := ended })
    | _ => (.error .cancelled, { host with registry := ended })

def perform (fault : ReconcilerFault) :
    (action : ReconcilerAction) → RuntimeHost → ReconcilerReply action × RuntimeHost
  | .reconcileProfiles, host =>
    match fault.raises with
    | some raised => (.error raised.2, host)
    | none => (.ok fault.snapshot.profiles, { host with lastSnapshot := some fault.snapshot })
  | .lastSnapshot, host => (.ok host.lastSnapshot, host)
  | .materialize _ _, host =>
    match fault.seed with
    | none => (.error .blocked, host)
    | some seed => host.store fault seed.hermesProfileKey (Foundry.materialize fault.env seed) receiptOf
  | .materializationReceipt _ _ _, host => host.external fault fault.receipt
  | .fenceDeletion key identity expiresAt, host =>
    if !accepts fault key identity expiresAt || identity.deletion.isNone then (.error .value, host)
    else if !fault.isAvailable then
      (.ok (identity.repair fault.env key "cleanup_unavailable"), host)
    else host.store fault key
      (Foundry.fenceDeletion fault.env key identity (expiryOf fault expiresAt)) receiptOf
  | .fenceProfile key, host =>
    match RegistryState.apply (.fence key) host.registry with
    | .ok (_, registry) => (.ok (), { host with registry := registry })
    | .error _ => (.error .value, host)
  | .capabilities, host => host.external fault fault.payload
  | .postQuiesce _ _, host => host.external fault (fault.status, fault.payload)
  | .quiesceProfile key, host => host.quiesceRegistry fault key
  | .cleanup key identity expiresAt, host =>
    if !accepts fault key identity expiresAt then (.error .value, host)
    else if !fault.isAvailable then
      (.ok (identity.repair fault.env key "cleanup_unavailable"), host)
    else host.store fault key (Foundry.cleanup fault.env key identity (expiryOf fault expiresAt)
      fault.isBounded fault.spoolsGone) receiptOf
  | .cleanupReceipt _, host => host.external fault fault.receipt

end RuntimeHost

abbrev HostEntry := JournalEntry ReconcilerAction ReconcilerReply RuntimeHost

abbrev HostJournal := Journal ReconcilerAction ReconcilerReply RuntimeHost

/-- One `reconcile` after another, each as far as its faults last. -/
def reconcilerRun (reconciler : ProfileReconciler) (host : RuntimeHost)
    (calls : List (List ReconcilerFault)) : HostJournal :=
  Journal.attempts ReconcilerFault.drift RuntimeHost.perform ⟨host, []⟩
    (calls.map fun faults => (reconciler.reconcile, faults))

end Foundry
