import Foundry.Lib.Run
import Foundry.Pool.Workers

/-!
# The pool and its workers

Assignment requests, maintenance workers and the rest of the service, in any order.  A
maintenance pass runs its claims one after the other, so a worker here is one claim of a pass;
a worker that crashes takes no further step.  Every clock reading is an input, and a setting
may change between two passes.

`received` and `calls` are ghosts: the Workspaces that tenants were given, and the calls of
the adapter with the state of the bundle at that moment.
-/

set_option autoImplicit false

namespace Foundry

open Raise

variable {D : Type}

structure PoolCallRecord where
  call : PoolCall
  workspace : Uuid
  /-- The bundle of the Workspace was assigned when the call was made. -/
  assigned : Bool
deriving DecidableEq, Repr

structure PoolWorld (D : Type) where
  store : PoolStore D
  started : Nat
  workers : Table Nat PoolWorker
  received : List (String × Uuid)
  calls : List PoolCallRecord

/-- What the rest of the service writes: every column of a Workspace but `tenant_ref`, the
credentials, the profiles and Executions, and the onboarding error of an assigned bundle. -/
inductive Elsewhere (D : Type) where
  | workspace (id : Uuid) (columns : Workspace)
  | credentials (credentials : Table Uuid RuntimeCredential)
  | profiles (profiles : Table Uuid (RuntimeProfile D))
  | executions (executions : Table Uuid (Execution D))
  | onboardingError (bundle : Uuid) (code : Option String)

inductive PoolEvent (D : Type) where
  | assign (settings : PoolSettings) (now : Instant) (tenantRef : String) (locked : List Uuid)
  | register (settings : PoolSettings) (now : Instant) (tenantRef : String) (locked : List Uuid)
  | markEvicting (bundle : Uuid) (safeErrorCode : String) (now : Instant)
  /-- `maintain_ready_pool_once` up to one claim. -/
  | claim (settings : PoolSettings) (now : Instant) (drain : Bool) (locked : List Uuid)
  | work (worker : Nat) (now : Instant) (input : PoolInput)
  | elsewhere (change : Elsewhere D)

def PoolEvent.isMaintenance : PoolEvent D → Bool
  | .markEvicting _ _ _ | .claim _ _ _ _ | .work _ _ _ => true
  | .assign _ _ _ _ | .register _ _ _ _ | .elsewhere _ => false

def PoolEvent.assigns : PoolEvent D → Bool
  | .assign _ _ _ _ | .register _ _ _ _ => true
  | .markEvicting _ _ _ | .claim _ _ _ _ | .work _ _ _ | .elsewhere _ => false

def Elsewhere.apply (change : Elsewhere D) (store : PoolStore D) : PoolStore D :=
  match change with
  | .workspace id columns =>
    match store.db.workspaces.lookup id with
    | none => store
    | some stored => store.putWorkspace id { columns with tenantRef := stored.tenantRef }
  | .credentials rows => { store with credentials := rows }
  | .profiles rows => { store with db := { store.db with profiles := rows } }
  | .executions rows => { store with db := { store.db with executions := rows } }
  | .onboardingError id code =>
    match (store.bundles.lookup id).filter fun bundle => bundle.state = .assigned with
    | none => store
    | some bundle =>
      match store.saveBundle id { bundle.toBundleColumns with safeErrorCode := code } with
      | .ok next => next
      | .error _ => store

namespace PoolWorld

def empty : PoolWorld D where
  store := PoolStore.empty
  started := 0
  workers := ∅
  received := []
  calls := []

def gives (tenantRef : String) (workspaceId : Option Uuid) (world : PoolWorld D) : PoolWorld D :=
  match workspaceId.filter fun _ => isCanonicalCloudWorkspaceRef tenantRef with
  | none => world
  | some id => { world with received := (tenantRef, id) :: world.received }

def logCall (worker : PoolWorker) (input : PoolInput) (world : PoolWorld D) : PoolWorld D :=
  match worker.point, input with
  | .calling call _ false, .goesOn =>
    { world with
      calls := ⟨call, worker.claim.workspace, world.store.isAssigned worker.claim.workspace⟩ ::
        world.calls }
  | _, _ => world

variable (env : PoolEnv D)

def startWorker (settings : PoolSettings) (config : PoolConfig) (now : Instant)
    (claim : Option PoolClaim) (world : PoolWorld D) : PoolWorld D :=
  match claim with
  | none => world
  | some claim =>
    { world with
      started := world.started + 1
      workers := world.workers.insert world.started
        ⟨claim, settings, config, now, .checking, false⟩ }

def work (number : Nat) (now : Instant) (input : PoolInput) (world : PoolWorld D) :
    PoolWorld D :=
  match world.workers.lookup number with
  | none => world
  | some worker =>
    let (next, store) := worker.step env now input world.store
    { world.logCall worker input with
      store := store
      workers := world.workers.insert number next }

def apply (event : PoolEvent D) (world : PoolWorld D) :
    Except RuntimeError (Unit × PoolWorld D) :=
  match event with
  | .assign settings now tenantRef locked => do
      let (workspaceId, store) ←
        world.store.assignReadyWorkspace env.foundry settings now tenantRef locked
      return ((), { world with store := store }.gives tenantRef workspaceId)
  | .register settings now tenantRef locked => do
      let (workspaceId, store) ←
        world.store.registerFromPool env.foundry settings now tenantRef locked
      return ((), { world with store := store }.gives tenantRef (some workspaceId))
  | .markEvicting bundle safeErrorCode now => do
      let store ← world.store.markReadyBundleEvicting bundle safeErrorCode now
      return ((), { world with store := store })
  | .claim settings now drain locked => do
      let config ← poolConfig settings
      if config.target = 0 ∧ drain = false then return ((), world)
      let (claim, store) ← world.store.claimOrReserve env.foundry config now locked
        (decide (0 < config.target)) drain
      return ((), { world with store := store }.startWorker settings config now claim)
  | .work number now input => return ((), world.work env number now input)
  | .elsewhere change => return ((), { world with store := change.apply world.store })

def after (events : List (PoolEvent D)) (world : PoolWorld D) : PoolWorld D :=
  Run.run (apply env) world events

end PoolWorld

end Foundry
