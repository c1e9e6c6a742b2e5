import Foundry.Model.Power
import Foundry.Services.Events

/-!
# Ready Workspace bundles

The table of `ReadyWorkspaceBundle` with its constraints, and the runtime credentials.  A
stored row meets the check constraints of its table; `saveBundle` is the `save` of the model,
which refuses some rows before the database does.
-/

set_option autoImplicit false

namespace Foundry

open Raise

variable {D : Type}

inductive ReadyWorkspaceBundleState where
  | preparing
  | ready
  | parking
  | sleeping
  | assigned
  | evicting
  | evicted
  | failed
deriving DecidableEq, Repr

/-- `str.strip`. -/
def stripped (text : String) : String :=
  String.ofList ((text.toList.dropWhile Char.isWhitespace).reverse.dropWhile
    Char.isWhitespace).reverse

def ReadyWorkspaceBundleState.text : ReadyWorkspaceBundleState → String
  | .preparing => "preparing"
  | .ready => "ready"
  | .parking => "parking"
  | .sleeping => "sleeping"
  | .assigned => "assigned"
  | .evicting => "evicting"
  | .evicted => "evicted"
  | .failed => "failed"

def ReadyWorkspaceBundleState.isSpare : ReadyWorkspaceBundleState → Bool
  | .ready | .sleeping => true
  | _ => false

def readyPoolMaxAttempts : Nat := 5

structure BundleColumns where
  workspace : Uuid
  state : ReadyWorkspaceBundleState
  region : String
  releaseFingerprint : String
  blankVolumeRef : Option String
  configVersion : Nat
  attemptCount : Nat
  nextAttemptAt : Instant
  phaseClaimOwner : Option Uuid
  phaseClaimUntil : Option Instant
  readyAt : Option Instant
  expiresAt : Option Instant
  lastHealthAt : Option Instant
  assignedAt : Option Instant
  safeErrorCode : Option String
  createdAt : Instant
deriving DecidableEq, Repr

structure BundleColumns.Constrained (columns : BundleColumns) : Prop where
  region_nonempty : columns.region ≠ ""
  release_nonempty : columns.releaseFingerprint ≠ ""
  config_positive : 0 < columns.configVersion
  attempts_bounded : columns.attemptCount ≤ readyPoolMaxAttempts
  claim_consistent : columns.phaseClaimOwner.isSome = columns.phaseClaimUntil.isSome
  assignment_timestamp : columns.state = .assigned ↔ columns.assignedAt.isSome = true
  ready_evidence : columns.state = .ready →
    columns.readyAt.isSome = true ∧ columns.expiresAt.isSome = true ∧
      columns.lastHealthAt.isSome = true
  sleep_evidence : columns.state = .parking ∨ columns.state = .sleeping →
    columns.blankVolumeRef.isSome = true ∧ columns.readyAt.isSome = true ∧
      columns.expiresAt.isSome = true ∧ columns.lastHealthAt.isSome = true

instance (columns : BundleColumns) : Decidable columns.Constrained :=
  decidable_of_iff
    (columns.region ≠ "" ∧ columns.releaseFingerprint ≠ "" ∧ 0 < columns.configVersion ∧
      columns.attemptCount ≤ readyPoolMaxAttempts ∧
      columns.phaseClaimOwner.isSome = columns.phaseClaimUntil.isSome ∧
      (columns.state = .assigned ↔ columns.assignedAt.isSome = true) ∧
      (columns.state = .ready →
        columns.readyAt.isSome = true ∧ columns.expiresAt.isSome = true ∧
          columns.lastHealthAt.isSome = true) ∧
      (columns.state = .parking ∨ columns.state = .sleeping →
        columns.blankVolumeRef.isSome = true ∧ columns.readyAt.isSome = true ∧
          columns.expiresAt.isSome = true ∧ columns.lastHealthAt.isSome = true))
    (by
      constructor
      · rintro ⟨region, release, config, attempts, claim, assignment, ready, sleep⟩
        exact ⟨region, release, config, attempts, claim, assignment, ready, sleep⟩
      · intro holds
        exact ⟨holds.region_nonempty, holds.release_nonempty, holds.config_positive,
          holds.attempts_bounded, holds.claim_consistent, holds.assignment_timestamp,
          holds.ready_evidence, holds.sleep_evidence⟩)

structure ReadyWorkspaceBundle extends BundleColumns where
  constrained : toBundleColumns.Constrained
deriving DecidableEq

structure RuntimeCredential where
  workspace : Uuid
  machineGeneration : Nat
  revokedAt : Option Instant
deriving DecidableEq, Repr

structure PoolStore (D : Type) where
  db : Db D
  credentials : Table Uuid RuntimeCredential
  bundles : Table Uuid ReadyWorkspaceBundle

namespace PoolStore

def empty : PoolStore D where
  db := Db.empty
  credentials := ∅
  bundles := ∅

def putBundle (id : Uuid) (bundle : ReadyWorkspaceBundle) (store : PoolStore D) : PoolStore D :=
  { store with bundles := store.bundles.insert id bundle }

def putWorkspace (id : Uuid) (workspace : Workspace) (store : PoolStore D) : PoolStore D :=
  { store with db := store.db.putWorkspace id workspace }

def draw (store : PoolStore D) : PoolStore D :=
  { store with db := store.db.draw }

/-- The `save` of the model, for a row that is new or stored. -/
def saveBundle (id : Uuid) (columns : BundleColumns) (store : PoolStore D) :
    Except RuntimeError (PoolStore D) := do
  require (stripped columns.region ≠ "")
    (validationError "pool bundle region is required")
  require (stripped columns.releaseFingerprint ≠ "")
    (validationError "pool bundle release fingerprint is required")
  require (0 < columns.configVersion)
    (validationError "pool bundle config version must be positive")
  require (columns.attemptCount ≤ readyPoolMaxAttempts)
    (validationError "pool bundle attempts exceed the bounded budget")
  require (columns.state = .assigned → columns.assignedAt.isSome = true)
    (validationError "assigned pool bundle requires assigned_at")
  require (columns.safeErrorCode.all fun code => code = "" ∨ isSafeCode code = true)
    (validationError "pool bundle error code is invalid")
  require (columns.state ≠ .assigned →
      (store.bundles.lookup id).all fun bundle => bundle.state ≠ .assigned)
    (conflictError "assigned pool bundles are terminal")
  if constrained : columns.Constrained then
    return store.putBundle id ⟨columns, constrained⟩
  else throw (integrityError "ready_pool_bundle")

/-- Unrevoked credentials of the Workspace at its generation. -/
def activeCredentials (workspaceId : Uuid) (workspace : Workspace) (store : PoolStore D) : Nat :=
  (store.credentials.rows.filter fun row => row.2.workspace = workspaceId ∧
    row.2.machineGeneration = workspace.machineGeneration ∧ row.2.revokedAt = none).length

def isOccupied (workspaceId : Uuid) (store : PoolStore D) : Bool :=
  (store.db.profiles.rows.any fun row => row.2.workspace = workspaceId) ||
    store.db.executions.rows.any fun row => row.2.workspace = workspaceId

/-- `_has_owned_resources`. -/
def hasOwnedResources (workspaceId : Uuid) (workspace : Workspace) (store : PoolStore D) : Bool :=
  isPresent workspace.flyAppRef || isPresent workspace.volumeRef ||
    isPresent workspace.machineRef ||
    store.credentials.rows.any fun row => row.2.workspace = workspaceId

def isPooledBundle (bundle : ReadyWorkspaceBundle) (store : PoolStore D) : Bool :=
  (store.db.workspaces.lookup bundle.workspace).any Workspace.isPooled

def isAssigned (workspaceId : Uuid) (store : PoolStore D) : Bool :=
  store.bundles.rows.any fun row => row.2.workspace = workspaceId ∧ row.2.state = .assigned

end PoolStore

/-- The row is ready or sleeping and no maintenance worker holds it. -/
def ReadyWorkspaceBundle.isAssignable (bundle : ReadyWorkspaceBundle) : Bool :=
  bundle.state.isSpare ∧ bundle.phaseClaimOwner = none ∧ bundle.phaseClaimUntil = none

/-! ## Claims of the Workspace -/

/-- `_claim_value_live`. -/
def claimValueLive (token : Option Uuid) (expiresAt : Option Instant) (now : Instant) : Bool :=
  token.isSome && expiresAt.all fun expiry => now < expiry

/-- `_workspace_claim_live`. -/
def Workspace.claimLive (workspace : Workspace) (now : Instant) : Bool :=
  claimValueLive workspace.activationClaimToken workspace.activationClaimExpiresAt now ||
    claimValueLive workspace.provisioningClaimToken workspace.provisioningClaimExpiresAt now

/-- No worker claims the Workspace, not even with a claim that has lapsed. -/
def Workspace.isUnclaimed (workspace : Workspace) : Bool :=
  workspace.activationClaimToken = none ∧ workspace.activationClaimExpiresAt = none ∧
    workspace.provisioningClaimToken = none ∧ workspace.provisioningClaimExpiresAt = none

/-! ## What a save does -/

theorem PoolStore.saveBundle_eq_ok {id : Uuid} {columns : BundleColumns} {store next : PoolStore D}
    (saved : store.saveBundle id columns = .ok next) :
    ∃ constrained, next = store.putBundle id ⟨columns, constrained⟩ := by
  simp only [PoolStore.saveBundle, bind_eq_ok, require_eq_ok] at saved
  obtain ⟨_, _, _, _, _, _, _, _, _, _, _, _, _, _, written⟩ := saved
  split at written
  · next constrained =>
    simp only [pure_eq_ok] at written
    exact ⟨constrained, written.symm⟩
  · simp only [throw_eq_ok] at written

end Foundry
