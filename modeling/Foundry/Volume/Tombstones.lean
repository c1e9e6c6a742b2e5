import Foundry.Volume.Seeds

/-!
# Tombstones

The tombstone of a profile key, as `_read_tombstone`, `_tombstone_receipt` and
`_pending_tombstone_is_valid` read it, and the payloads that deletion and cleanup write.
-/

set_option autoImplicit false

namespace Foundry

def manifestSchema : String := "allies.profile"

def manifestVersion : Int := 2

inductive TombstoneFile where
  /-- Not a regular file. -/
  | irregular
  | file (content : JsonFile)
deriving DecidableEq, Repr

abbrev TombstonePayload := List (String × Json)

namespace TombstonePayload

variable (payload : TombstonePayload)

/-- `payload.get(name)`; a member that is `null` reads as an absent one. -/
def get (name : String) : Option Json :=
  ((Json.obj payload).get? name).filter fun value => value != .null

def has (name : String) : Bool :=
  payload.any fun member => member.1 == name

end TombstonePayload

/-- `_read_json` after `_lstat`. -/
def TombstoneFile.payload? : TombstoneFile → Option TombstonePayload
  | .file (.dict members) => some members
  | _ => none

inductive ProfileCleanupStatus where
  | deprovisioned
  | repairRequired
  | fenced
deriving DecidableEq, Repr

def ProfileCleanupStatus.value : ProfileCleanupStatus → String
  | .deprovisioned => "DEPROVISIONED"
  | .repairRequired => "REPAIR_REQUIRED"
  | .fenced => "FENCED"

def ProfileCleanupStatus.ofValue (value : String) : Option ProfileCleanupStatus :=
  [ProfileCleanupStatus.deprovisioned, .repairRequired, .fenced].find? fun status =>
    status.value == value

structure CleanupReceipt where
  status : ProfileCleanupStatus
  profileKey : String
  lifecycleEpoch : Int
  operationId : String
  receiptId : String
  repairCode : Option String
  attemptId : Option String
  requestDigest : Option String
deriving DecidableEq, Repr

/-! ## Checks -/

/-- `RESERVED_PROFILE_KEYS`. -/
def reservedProfileKeys : List String := ["hermes", "default", "test", "tmp", "root", "sudo"]

/-- `validate_profile_key`. -/
def isProfileKey (key : String) : Bool :=
  let isStart (letter : Char) : Bool := letter.isLower || letter.isDigit
  match key.toList with
  | [] => false
  | first :: rest =>
    isStart first && rest.length ≤ 63 &&
      rest.all (fun letter => isStart letter || letter == '_' || letter == '-') &&
      !reservedProfileKeys.contains key

/-- The texts that `str(uuid.UUID(value))` gives back. -/
def isCanonicalUuid (value : String) : Bool :=
  value.length = 36 && (value.toList.zipIdx.all fun place =>
    if [8, 13, 18, 23].contains place.2 then place.1 == '-' else isHexDigit place.1)

def optionalText (isForm : String → Bool) : Option Json → Except Unit (Option String)
  | none => .ok none
  | some (.str value) => if isForm value then .ok (some value) else .error ()
  | some _ => .error ()

/-- `_cleanup_attempt_id` of a stored payload. -/
def storedAttempt (payload : TombstonePayload) : Except Unit (Option String) :=
  optionalText isCanonicalUuid (payload.get "attempt_id")

def isRequestDigest (value : String) : Bool :=
  value.length = 64 && value.toList.all isHexDigit

/-- `_cleanup_request_digest` of a stored payload. -/
def storedDigest (payload : TombstonePayload) : Except Unit (Option String) :=
  optionalText isRequestDigest (payload.get "request_digest")

/-- `_SAFE_REPAIR_CODES`. -/
def safeRepairCodes : List String :=
  ["cleanup_bound_exceeded", "cleanup_expired", "invalid_cleanup_tombstone",
    "invalid_manifest_metadata", "incomplete_layout", "incomplete_manifest", "incomplete_profile",
    "lifecycle_epoch_mismatch", "lock_timeout", "manifest_update_failed", "materialization_failed",
    "profile_appeared_during_publish", "profile_cleanup_failed", "profile_deprovisioned",
    "profile_is_not_directory", "profile_publish_failed", "profile_store_unavailable",
    "secret_file_permissions", "seed_fingerprint_conflict", "soul_cleanup_failed",
    "stale_cleanup_epoch", "stale_lifecycle_epoch", "symlinked_profile",
    "symlinked_temporary_state", "temporary_state_unreadable", "unknown_temporary_state",
    "unsupported_manifest"]

/-- `_safe_repair_code`. -/
def safeRepairCode : Option Json → Option String
  | none => none
  | some (.str code) =>
    if safeRepairCodes.contains code then some code else some "invalid_repair_code"
  | some _ => some "invalid_repair_code"

/-! ## Reading -/

variable (lib : StoreLibrary) (payload : TombstonePayload)

/-- `_cleanup_receipt_id`. -/
def cleanupReceiptId (profileKey operationId : String) (epoch : Int) (attemptId : Option String) :
    String :=
  String.ofList ('c' :: 'r' :: '-' :: (lib.receiptDigest (match attemptId with
    | none => ["cleanup", profileKey, operationId, toString epoch]
    | some attempt => ["cleanup", profileKey, operationId, attempt, toString epoch])).digits)

/-- `expires_at`, when it is a finite number. -/
def expirySeconds (seconds : String → Option Int) : Option Json → Option Int
  | some (.int value) => some value
  | some (.float literal) => seconds literal
  | _ => none

def terminalFields : List String :=
  ["schema", "schema_version", "profile_key", "status", "deleted"]

def pendingFields : List String :=
  ["schema", "schema_version", "profile_key", "lifecycle_epoch", "operation_id", "receipt_id",
    "status", "expires_at"]

def TombstonePayload.isDeleted : Bool :=
  payload.get "status" == some (.str "DEPROVISIONED") && payload.get "deleted" == some (.bool true)

/-- `_pending_tombstone_is_valid`. -/
def pendingTombstoneIsValid (seconds : String → Option Int) (profileKey : String) : Bool :=
  payload.all (fun member => (pendingFields ++ ["attempt_id", "request_digest"]).contains member.1) &&
    pendingFields.all payload.has &&
    payload.get "schema" == some (.str manifestSchema) &&
    payload.get "schema_version" == some (.int manifestVersion) &&
    payload.get "profile_key" == some (.str profileKey) &&
    payload.get "status" == some (.str "CLEANUP_PENDING") &&
    match payload.get "lifecycle_epoch", payload.get "operation_id", payload.get "receipt_id",
        storedAttempt payload, storedDigest payload with
    | some (.int epoch), some (.str operationId), some (.str receipt), .ok attempt, .ok digest =>
      0 ≤ epoch && isSafeOperationId operationId && isReceiptId receipt &&
        (expirySeconds seconds (payload.get "expires_at")).isSome &&
        attempt.isNone == digest.isNone &&
        receipt == cleanupReceiptId lib profileKey operationId epoch attempt
    | _, _, _, _, _ => false

/-- `_tombstone_receipt`. -/
def tombstoneReceipt : Option CleanupReceipt :=
  match payload.get "status" with
  | some (.str statusText) =>
    match ProfileCleanupStatus.ofValue statusText with
    | none => none
    | some status =>
      if payload.isDeleted then
        if payload.all (fun member => terminalFields.contains member.1) &&
            terminalFields.all payload.has &&
            payload.get "schema" == some (.str manifestSchema) &&
            payload.get "schema_version" == some (.int manifestVersion) then
          match payload.get "profile_key" with
          | some (.str key) =>
            if isProfileKey key then
              some ⟨.deprovisioned, key, 0, "", "", none, none, none⟩
            else none
          | _ => none
        else none
      else
        match payload.get "profile_key", payload.get "operation_id",
            payload.get "lifecycle_epoch", payload.get "receipt_id", storedAttempt payload,
            storedDigest payload with
        | some (.str key), some (.str operationId), some (.int epoch), some (.str receipt),
            .ok attempt, .ok digest =>
          if isReceiptId receipt && isProfileKey key && isSafeOperationId operationId then
            some ⟨status, key, epoch, operationId, receipt,
              safeRepairCode (payload.get "repair_code"), attempt, digest⟩
          else none
        | _, _, _, _, _, _ => none
  | _ => none

/-! ## Writing -/

structure CleanupIdentity where
  operationId : String
  lifecycleEpoch : Int
  /-- The attempt and the request digest of a deletion. -/
  deletion : Option (String × String)
deriving DecidableEq, Repr

def CleanupIdentity.attemptId (identity : CleanupIdentity) : Option String :=
  identity.deletion.map Prod.fst

def CleanupIdentity.requestDigest (identity : CleanupIdentity) : Option String :=
  identity.deletion.map Prod.snd

def CleanupIdentity.receiptId (identity : CleanupIdentity) (key : String) : String :=
  cleanupReceiptId lib key identity.operationId identity.lifecycleEpoch identity.attemptId

def CleanupIdentity.deletionMembers (identity : CleanupIdentity) : TombstonePayload :=
  match identity.deletion with
  | none => []
  | some (attempt, digest) => [("attempt_id", .str attempt), ("request_digest", .str digest)]

def CleanupIdentity.tombstone (identity : CleanupIdentity) (key status : String)
    (others : TombstonePayload) : TombstonePayload :=
  [("schema", .str manifestSchema), ("schema_version", .int manifestVersion),
    ("profile_key", .str key), ("lifecycle_epoch", .int identity.lifecycleEpoch),
    ("operation_id", .str identity.operationId), ("receipt_id", .str (identity.receiptId lib key)),
    ("status", .str status)] ++ others ++ identity.deletionMembers

def CleanupIdentity.pending (identity : CleanupIdentity) (key : String) (expiry : Int) :
    TombstonePayload :=
  identity.tombstone lib key "CLEANUP_PENDING" [("expires_at", .int expiry)]

def terminalPayload (key : String) : TombstonePayload :=
  [("schema", .str manifestSchema), ("schema_version", .int manifestVersion),
    ("profile_key", .str key), ("status", .str "DEPROVISIONED"), ("deleted", .bool true)]

end Foundry
