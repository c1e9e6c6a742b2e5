import Foundry.Pool.Bundles
import Foundry.System

/-!
# Runtime credentials

`runtime_auth.py`.  A bearer token is stored as its digest, for one Workspace and one generation
of its Machine.  A handler of the runtime API authenticates the token and passes the context on,
so anything may happen between the two.
-/

set_option autoImplicit false

namespace Foundry

open Raise

variable {D : Type}

/-- A `RuntimeCredential` with its `token_digest`, which the table keeps unique. -/
structure BearerCredential (D : Type) extends RuntimeCredential where
  tokenDigest : D
deriving DecidableEq

structure AuthStore (D : Type) where
  db : Db D
  credentials : Table Uuid (BearerCredential D)

/-- `_require_ready_workspace`. -/
def requireReadyWorkspace (workspace : Workspace) (allowNotReady : Bool) :
    Except RuntimeError Unit :=
  require (workspace.isServing = true ∨ allowNotReady = true)
    (notReadyError "workspace is not ready for runtime work")

namespace AuthStore

def empty : AuthStore D := ⟨.empty, ∅⟩

variable [DecidableEq D]

def byDigest (store : AuthStore D) (tokenDigest : D) : Option (Uuid × BearerCredential D) :=
  store.credentials.rows.find? fun row => row.2.tokenDigest = tokenDigest

/-- `RuntimeCredential.objects.create`. -/
def create (store : AuthStore D) (id : Uuid) (credential : BearerCredential D) :
    Except RuntimeError (AuthStore D) := do
  require (store.credentials.lookup id = none) (integrityError "runtime_credential_pkey")
  require (store.byDigest credential.tokenDigest = none) (integrityError "token_digest")
  return { store with credentials := store.credentials.insert id credential }

variable (env : Env D)

/-- `issue_runtime_credential`.  The token that `secrets` draws where none is given, and the
identifier that `uuid4` draws, are inputs. -/
def issueRuntimeCredential (workspaceId : Uuid) (rawToken : String) (drawn : Uuid)
    (store : AuthStore D) : Except RuntimeError (Uuid × AuthStore D) := do
  validateNonempty rawToken "raw_token" 512
  let workspace ← orRaise (store.db.workspaces.lookup workspaceId) (doesNotExist "Workspace")
  requireReadyWorkspace workspace false
  let tokenDigest ← digestLeaseToken env rawToken
  let next ← store.create drawn ⟨⟨workspaceId, workspace.machineGeneration, none⟩, tokenDigest⟩
  return (drawn, next)

/-- `issue_runtime_credential_for_generation`. -/
def issueRuntimeCredentialForGeneration (workspaceId : Uuid) (generation : Nat)
    (rawToken : String) (operationId : Uuid) (store : AuthStore D) :
    Except RuntimeError (Uuid × AuthStore D) := do
  require (0 < generation) (validationError "generation must be positive")
  validateNonempty rawToken "raw_token" 512
  let tokenDigest ← digestLeaseToken env rawToken
  let workspace ← orRaise (store.db.workspaces.lookup workspaceId) (doesNotExist "Workspace")
  let credential : BearerCredential D := ⟨⟨workspaceId, generation, none⟩, tokenDigest⟩
  match store.credentials.lookup operationId with
  | some existing =>
    require (existing = credential)
      (idempotencyConflictError "credential operation was reused with different content")
    return (operationId, store)
  | none =>
    if generation = workspace.machineGeneration then
      requireReadyWorkspace workspace false
    else
      require (generation = workspace.machineGeneration + 1)
        (notReadyError "credential generation is not the current or next expected target")
    let next ← store.create operationId credential
    return (operationId, next)

/-- `revoke_runtime_credential`. -/
def revokeRuntimeCredential (now : Instant) (id : Uuid) (store : AuthStore D) : AuthStore D :=
  match store.credentials.lookup id with
  | some credential =>
    if credential.revokedAt = none then
      { store with
        credentials := store.credentials.insert id { credential with revokedAt := some now } }
    else store
  | none => store

/-- `authenticate_runtime_token`: the context, with the credential it is from. -/
def authenticateRuntimeToken (rawToken : String) (store : AuthStore D) :
    Except RuntimeError (Uuid × RuntimeContext) := do
  require (rawToken ≠ "") (authorizationError "invalid runtime credential")
  let tokenDigest ← digestLeaseToken env rawToken
  let (id, credential) ← orRaise (store.byDigest tokenDigest)
    (authorizationError "invalid runtime credential")
  require (credential.revokedAt = none) (authorizationError "invalid runtime credential")
  let workspace ← orRaise (store.db.workspaces.lookup credential.workspace)
    (doesNotExist "Workspace")
  require (credential.machineGeneration = workspace.machineGeneration)
    (fencedError "runtime credential belongs to a retired generation")
  requireReadyWorkspace workspace true
  return (id, ⟨credential.workspace, credential.machineGeneration⟩)

end AuthStore

/-! ## Runs -/

inductive AuthCall (D : Type) where
  | issue (workspace : Uuid) (rawToken : String) (drawn : Uuid)
  | issueForGeneration (workspace : Uuid) (generation : Nat) (rawToken : String)
      (operation : Uuid)
  | revoke (now : Instant) (id : Uuid)
  /-- Any call of the system, with whatever context. -/
  | service (call : Call D)

namespace AuthStore

variable [DecidableEq D] (env : Env D)

def apply (call : AuthCall D) (store : AuthStore D) :
    Except RuntimeError (Unit × AuthStore D) :=
  match call with
  | .issue workspace rawToken drawn =>
    (fun issued => ((), issued.2)) <$> issueRuntimeCredential env workspace rawToken drawn store
  | .issueForGeneration workspace generation rawToken operation =>
    (fun issued => ((), issued.2)) <$>
      issueRuntimeCredentialForGeneration env workspace generation rawToken operation store
  | .revoke now id => pure ((), store.revokeRuntimeCredential now id)
  | .service call =>
    (fun done => ((), ⟨done.2, store.credentials⟩)) <$> Foundry.apply env call store.db

def run (store : AuthStore D) (calls : List (AuthCall D)) : AuthStore D :=
  Run.run (apply env) store calls

end AuthStore

end Foundry
