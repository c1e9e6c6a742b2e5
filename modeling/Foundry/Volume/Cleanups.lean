import Foundry.Volume.Bindings
import Foundry.Volume.Materialize

/-!
# Deletion fences and cleanup

`fence_deletion` and `cleanup` of `profile_store.py` on one profile key, and runs of all the
operations that read or write the tombstone or the profile.
-/

set_option autoImplicit false

namespace Foundry

open Script

section Cleanup

variable (env : StoreEnv) (key : String) (identity : CleanupIdentity)

abbrev CleanupScript (α : Type) := Script ProfileVolume CleanupReceipt α

/-- `receipt(status, …)` of a call. -/
def CleanupIdentity.answer (status : ProfileCleanupStatus) (epoch : Int)
    (repairCode : Option String) : CleanupReceipt where
  status := status
  profileKey := key
  lifecycleEpoch := epoch
  operationId := identity.operationId
  receiptId := identity.receiptId env.lib key
  repairCode := repairCode
  attemptId := identity.attemptId
  requestDigest := identity.requestDigest

def CleanupIdentity.repair (code : String) : CleanupReceipt :=
  identity.answer env key .repairRequired identity.lifecycleEpoch (some code)

def CleanupIdentity.stale (epoch : Int) : CleanupReceipt :=
  identity.answer env key .fenced epoch (some "stale_cleanup_epoch")

def CleanupIdentity.invalid : CleanupReceipt :=
  identity.repair env key "invalid_cleanup_tombstone"

def CleanupIdentity.done : CleanupReceipt :=
  identity.answer env key .deprovisioned identity.lifecycleEpoch none

/-- The marker of a finished deletion of this key answers for the call. -/
def CleanupIdentity.answerDeleted (payload : TombstonePayload) : CleanupReceipt :=
  match tombstoneReceipt payload with
  | some terminal =>
    if terminal.profileKey = key then identity.done env key else identity.invalid env key
  | none => identity.invalid env key

/-- `fence_deletion` in the presence of a tombstone: an answer, or nothing to go on. -/
def fenceVerdict (payload : TombstonePayload) : Option CleanupReceipt :=
  if payload.isDeleted then some (identity.answerDeleted env key payload)
  else if payload.get "status" == some (.str "CLEANUP_PENDING") then
    if !pendingTombstoneIsValid env.lib payload env.seconds key then
      some (identity.invalid env key)
    else
      match payload.get "operation_id", payload.get "lifecycle_epoch", storedAttempt payload,
          storedDigest payload with
      | some (.str operationId), some (.int epoch), .ok (some attempt), .ok (some digest) =>
        if operationId ≠ identity.operationId then some (identity.stale env key epoch)
        else if epoch = identity.lifecycleEpoch ∧ identity.deletion = some (attempt, digest) then
          match expirySeconds env.seconds (payload.get "expires_at") with
          | some expiry =>
            if expiry ≤ env.now then some (identity.repair env key "cleanup_expired")
            else some (identity.answer env key .fenced identity.lifecycleEpoch none)
          | none => some (identity.invalid env key)
        else if identity.lifecycleEpoch ≤ epoch then some (identity.stale env key epoch)
        else none
      | _, _, _, _ => some (identity.invalid env key)
  else
    match tombstoneReceipt payload with
    | none => some (identity.invalid env key)
    | some existing =>
      if existing.profileKey ≠ key then some (identity.invalid env key)
      else if existing.status ≠ .repairRequired ∧
          identity.lifecycleEpoch ≤ existing.lifecycleEpoch then
        some (identity.stale env key existing.lifecycleEpoch)
      else none

/-- The deletion identity of the call is the stored one; a plain cleanup has none to compare. -/
def CleanupIdentity.sameDeletion (attempt digest : Option String) : Bool :=
  identity.deletion.isNone ||
    (attempt == identity.attemptId && digest == identity.requestDigest)

/-- `cleanup` in the presence of a tombstone that is pending. -/
def pendingVerdict (payload : TombstonePayload) : Option CleanupReceipt :=
  let isValid := pendingTombstoneIsValid env.lib payload env.seconds key
  let isDeletion := identity.deletion.isSome
  let namesDeletion := payload.has "attempt_id" || payload.has "request_digest"
  if (isDeletion || namesDeletion) && !isValid then some (identity.invalid env key)
  else
    match payload.get "profile_key", payload.get "operation_id", payload.get "lifecycle_epoch",
        storedAttempt payload, storedDigest payload with
    | some (.str stored), some (.str operationId), some (.int epoch), .ok attempt, .ok digest =>
      if stored ≠ key then some (identity.invalid env key)
      else if !isDeletion && (attempt.isSome || digest.isSome) then
        some (identity.stale env key epoch)
      else if operationId = identity.operationId ∧ epoch = identity.lifecycleEpoch ∧
          identity.sameDeletion attempt digest then none
      else if identity.lifecycleEpoch ≤ epoch then some (identity.stale env key epoch)
      else none
    | _, _, _, _, _ => some (identity.invalid env key)

/-- `cleanup` in the presence of a tombstone. -/
def cleanupVerdict (payload : TombstonePayload) : Option CleanupReceipt :=
  if identity.deletion.isSome && payload.isDeleted then
    some (identity.answerDeleted env key payload)
  else if payload.get "status" == some (.str "CLEANUP_PENDING") then
    pendingVerdict env key identity payload
  else
    match tombstoneReceipt payload with
    | none => some (identity.invalid env key)
    | some existing =>
      if existing.profileKey ≠ key then some (identity.invalid env key)
      else if identity.deletion.isSome ∧ existing.status = .deprovisioned then
        if identity.lifecycleEpoch < existing.lifecycleEpoch then
          some (identity.stale env key existing.lifecycleEpoch)
        else none
      else if existing.operationId = identity.operationId ∧
          existing.lifecycleEpoch = identity.lifecycleEpoch ∧
          identity.sameDeletion existing.attemptId existing.requestDigest then
        if existing.status = .deprovisioned then some existing else none
      else if identity.lifecycleEpoch ≤ existing.lifecycleEpoch then
        some (identity.stale env key existing.lifecycleEpoch)
      else none

def tombstoneVerdict (verdict : TombstonePayload → Option CleanupReceipt) :
    Option TombstoneFile → Option CleanupReceipt
  | none => none
  | some tombstone =>
    match tombstone.payload? with
    | none => some (identity.invalid env key)
    | some payload => verdict payload

def ProfileVolume.profileEpoch (volume : ProfileVolume) : Option Int :=
  match volume.profile with
  | .directory profile =>
    match profile.manifest.bind fun manifest => manifest.lifecycleEpoch with
    | some (.int epoch) => some epoch
    | _ => none
  | _ => none

def ProfileVolume.profileFence (volume : ProfileVolume) : Option CleanupReceipt :=
  match volume.profileEpoch with
  | some epoch =>
    if identity.lifecycleEpoch < epoch then some (identity.stale env key epoch) else none
  | none => none

def answerEarly : Option CleanupReceipt → CleanupScript Unit
  | some receipt => refuse receipt
  | none => answer ()

def ProfileVolume.withTombstone (payload : TombstonePayload) (volume : ProfileVolume) :
    ProfileVolume :=
  { volume with tombstone := some (.file (.dict payload)) }

def writeTombstone (payload : TombstonePayload) : CleanupScript Unit :=
  if env.takes .tombstone then write (ProfileVolume.withTombstone payload)
  else refuse (identity.repair env key "cleanup_unavailable")

def CleanupIdentity.expired : TombstonePayload :=
  identity.tombstone env.lib key "REPAIR_REQUIRED" [("repair_code", .str "cleanup_expired")]

/-- `fence_deletion`, inside the lock. -/
def fenceDeletion (expiry : Int) : CleanupScript CleanupReceipt := do
  let volume ← read
  answerEarly (tombstoneVerdict env key identity (fenceVerdict env key identity) volume.tombstone)
  answerEarly (volume.profileFence env key identity)
  if expiry ≤ env.now then
    writeTombstone env key identity (identity.tombstone env.lib key "REPAIR_REQUIRED"
      [("expires_at", .int expiry), ("repair_code", .str "cleanup_expired")])
    return identity.repair env key "cleanup_expired"
  else
    writeTombstone env key identity (identity.pending env.lib key expiry)
    return identity.answer env key .fenced identity.lifecycleEpoch none

/-! ## Removal -/

abbrev Removal (α : Type) := Script ProfileVolume String α

def removing (change : ProfileVolume → ProfileVolume) : Removal Unit :=
  if env.takes .removal then write change else refuse "profile_cleanup_failed"

def ProfileVolume.setProfile (entry : ProfileEntry) (volume : ProfileVolume) : ProfileVolume :=
  { volume with profile := entry }

def removeSiblings : List (List Char × Sibling) → Removal Unit
  | [] => answer ()
  | (name, sibling) :: rest =>
    match sibling with
    | .symlink | .special => refuse "profile_cleanup_failed"
    | .file => do
        removing env (ProfileVolume.dropSibling name)
        removeSiblings rest
    | .directory _ => do
        removing env (ProfileVolume.putSibling name (.directory .empty))
        removing env (ProfileVolume.dropSibling name)
        removeSiblings rest

/-- The profile.  `isBounded` is the bound on its tree, and `spoolsGone` the removal of its
publication spools. -/
def removeProfile (isBounded spoolsGone : Bool) : ProfileEntry → Removal Unit
  | .symlink => refuse "symlinked_profile"
  | .notDirectory => refuse "profile_is_not_directory"
  | .absent => unlessRefuse spoolsGone "profile_cleanup_failed"
  | .directory _ => do
      unlessRefuse isBounded "cleanup_bound_exceeded"
      unlessRefuse spoolsGone "profile_cleanup_failed"
      removing env (ProfileVolume.setProfile (.directory .empty))
      removing env (ProfileVolume.setProfile .absent)

def removeContent (isBounded spoolsGone : Bool) : Removal Unit := do
  let volume ← read
  removeProfile env isBounded spoolsGone volume.profile
  unlessRefuse (decide (volume.siblings.entries.length ≤ env.maxCleanupEntries))
    "temporary_state_unreadable"
  removeSiblings env volume.siblings.rows

/-- A failed removal leaves its code in the tombstone, when the disk takes it. -/
def recordRepair (code : String) (expiry : Int) : CleanupScript Unit :=
  if env.takes .tombstone then
    write (ProfileVolume.withTombstone (identity.tombstone env.lib key "REPAIR_REQUIRED"
      [("expires_at", .int expiry), ("repair_code", .str code)]))
  else answer ()

def CleanupIdentity.complete : TombstonePayload :=
  match identity.deletion with
  | some _ => terminalPayload key
  | none => identity.tombstone env.lib key "DEPROVISIONED" []

/-- `cleanup`, inside the lock. -/
def cleanup (expiry : Int) (isBounded spoolsGone : Bool) : CleanupScript CleanupReceipt := do
  let volume ← read
  answerEarly (tombstoneVerdict env key identity (cleanupVerdict env key identity)
    volume.tombstone)
  answerEarly (volume.profileFence env key identity)
  if expiry ≤ env.now then
    writeTombstone env key identity (identity.expired env key)
    return identity.repair env key "cleanup_expired"
  else
    writeTombstone env key identity (identity.pending env.lib key expiry)
    match ← capture (removeContent env isBounded spoolsGone) with
    | .error code =>
      recordRepair env key identity code expiry
      return identity.repair env key code
    | .ok () =>
      writeTombstone env key identity (identity.complete env key)
      return identity.done env key

end Cleanup

/-! ## Runs -/

def maxDeletionExpirySeconds : Int := 24 * 60 * 60

/-- `_cleanup_attempt_id` and `_cleanup_request_digest` of the arguments. -/
def CleanupIdentity.isAccepted (identity : CleanupIdentity) : Bool :=
  isSafeOperationId identity.operationId && 0 ≤ identity.lifecycleEpoch &&
    identity.deletion.all fun deletion =>
      isCanonicalUuid deletion.1 && isRequestDigest deletion.2

inductive StoreCall where
  | materialize (seed : ProfileSeed)
  | fenceDeletion (identity : CleanupIdentity) (expiry : Int)
  | cleanup (identity : CleanupIdentity) (expiry : Int) (isBounded spoolsGone : Bool)
  | applyBinding (call : BindingCall) (writes : BindingWrites)

/-- A call with its surroundings.  `cut` is the number of writes after which it crashes. -/
structure StoreOperation where
  env : StoreEnv
  call : StoreCall
  cut : Option Nat

inductive StoreError where
  | profileInput
deriving DecidableEq, Repr

/-- The state a script leaves when it is cut after a number of writes. -/
def ProfileVolume.leave {ε α : Type} (script : Script ProfileVolume ε α) (cut : Option Nat)
    (volume : ProfileVolume) : ProfileVolume :=
  match cut with
  | none => script.reached volume
  | some writes => ((script volume).1.take writes).getLastD volume

theorem leave_of_wp {ε α : Type} {volume : ProfileVolume} {Property : ProfileVolume → Prop}
    {Answered : α → ProfileVolume → Prop} {Refused : ε → ProfileVolume → Prop}
    {script : Script ProfileVolume ε α} (cut : Option Nat) (before : Property volume)
    (meets : wp Property Answered Refused script volume) : Property (volume.leave script cut) := by
  have last : ∀ states : List ProfileVolume, (∀ state ∈ states, Property state) →
      Property (states.getLastD volume) := by
    intro states all
    rcases List.mem_cons.mp (@List.getLastD_mem_cons _ states volume) with same | member
    · rw [same]
      exact before
    · exact all _ member
  cases cut with
  | none => exact last _ meets.1
  | some => exact last _ fun state member => meets.1 state (List.mem_of_mem_take member)

/-- `apply_binding` of the profile that is there. -/
def ProfileVolume.applyBinding (resolver : String → Option (List Char)) (call : BindingCall)
    (writes : BindingWrites) (volume : ProfileVolume) : ProfileVolume :=
  match volume.profile with
  | .directory profile =>
    match profile.readApiKey with
    | .ok serverKey =>
      volume.setProfile (.directory
        ((BindingWorld.mk profile 0 ∅).finish ⟨call, serverKey⟩ resolver writes).2.profile)
    | .error _ => volume
  | _ => volume

def ProfileVolume.apply (key : String) (operation : StoreOperation) (volume : ProfileVolume) :
    Except StoreError (Unit × ProfileVolume) :=
  let env := operation.env
  if !isProfileKey key then .error .profileInput
  else match operation.call with
  | .materialize seed =>
    if seed.hermesProfileKey = key then
      .ok ((), volume.leave (materialize env seed) operation.cut)
    else .error .profileInput
  | .fenceDeletion identity expiry =>
    if !identity.isAccepted || identity.deletion.isNone ||
        env.now + maxDeletionExpirySeconds < expiry then .error .profileInput
    else .ok ((), volume.leave (fenceDeletion env key identity expiry) operation.cut)
  | .cleanup identity expiry isBounded spoolsGone =>
    if !identity.isAccepted ||
        (identity.deletion.isSome && env.now + maxDeletionExpirySeconds < expiry) then
      .error .profileInput
    else
      .ok ((), volume.leave (cleanup env key identity expiry isBounded spoolsGone) operation.cut)
  | .applyBinding call writes =>
    if call.generation < 1 || maxCredentials < call.keyRefs.entries.length then
      .error .profileInput
    else .ok ((), volume.applyBinding env.resolver call writes)

end Foundry
