import Foundry.Lib.Run

/-!
# The memory provider

`initialize` and `shutdown_checked` of `AlliesMnemosyneProvider`, over what they meet: the
configuration, the underlying provider, the thread-local connections and every call that may raise.
-/

set_option autoImplicit false

namespace Foundry.Memory

abbrev Path := List String

structure Beam where
  dbPath : Option Path
  conn : Option Nat
  /-- The connection of the owner of `_event_emitter`. -/
  emitterConn : Option Nat

structure Delegate where
  beam : Option Beam
  dbPath : Option Path
  hasSurfaceBeam : Bool
  audit : Option Nat

/-- `close_owned_resources` under the lock of the profile. -/
inductive Teardown where
  | succeeds
  /-- The lock is taken, or a thread, a close or the shutdown fails after some closes. -/
  | fails (closedBefore : List Nat)

structure Provider where
  delegate : Option Delegate
  owned : List Nat
  available : Bool
  reason : String
  dbPath : Option Path
  /-- The connections that were closed, and those that were taken over. -/
  closed : List Nat
  taken : List Nat

/-- What `initialize` meets.  A fault is the reason of what is raised. -/
structure InitWorld where
  lower : String → String
  configuration : Except String (Path × String)
  isSkipped : Bool
  dataFault : Option String
  /-- Of the imports, the check of the cached connection and the constructor. -/
  buildFault : Option String
  delegate : Delegate
  startFault : Option String
  /-- The connections below the root that the thread locals hold in the end. -/
  cached : List Nat
  attributeFault : Option String
  pragmaFault : Option String
  pathFault : Option String
  auditFault : Option String
  auditConnection : Nat
  /-- Of `_discover_schemas`, in the mode that calls it. -/
  schemaFault : Option String

def check (fault : Option String) : Except String Unit :=
  match fault with
  | some reason => .error reason
  | none => .ok ()

def invariantHolds (holds : Bool) (reason : String) : Except String Unit :=
  check (if holds then none else some reason)

namespace InitWorld

/-- The checks up to `self._db_path = db_path`. -/
def databasePath (world : InitWorld) (root : Path) (identity : String) : Except String Path := do
  check world.attributeFault
  match world.delegate.beam, (world.delegate.beam.bind Beam.dbPath) <|> world.delegate.dbPath with
  | some beam, some path => do
      invariantHolds beam.conn.isSome "mnemosyne_database_connection_unavailable"
      check world.pragmaFault
      check world.pathFault
      invariantHolds (root.isPrefixOf path) "mnemosyne_database_outside_profile"
      invariantHolds ((path.map world.lower).contains (world.lower identity))
        "mnemosyne_database_not_profile_keyed"
      invariantHolds (!world.delegate.hasSurfaceBeam) "shared_surface_initialized"
      return path
  | _, _ => throw "mnemosyne_database_unavailable"

def reopenedAudit (world : InitWorld) : Except String (Option Nat) :=
  match world.delegate.audit with
  | none => .ok none
  | some _ => do
      check world.auditFault
      return some world.auditConnection

end InitWorld

namespace Provider

variable (provider : Provider) (teardown : Teardown) (world : InitWorld)

def fresh : Provider := ⟨none, [], false, "not_initialized", none, [], []⟩

def reset : Provider :=
  { provider with delegate := none, available := false, dbPath := none, reason := "shutdown" }

/-- `close_owned_resources`. -/
def closeOwnedResources (delegate : Delegate) : Provider :=
  { provider with
    closed := (delegate.beam.bind Beam.conn).toList ++
      (delegate.beam.bind Beam.emitterConn).toList ++ delegate.audit.toList ++ provider.owned ++
      provider.closed
    owned := [] }

/-- `shutdown_checked`, and whether it returned. -/
def shutdownChecked : Bool × Provider :=
  let pending := { provider with available := false, reason := "shutdown_pending" }
  match provider.delegate, provider.dbPath, teardown with
  | none, _, _ => (true, pending.reset)
  -- `_invoke_profile_operation` has no lock without a path.
  | some _, none, _ => (false, pending)
  | some delegate, some _, .succeeds => (true, (pending.closeOwnedResources delegate).reset)
  | some _, some _, .fails closedBefore =>
    (false, { pending with closed := closedBefore ++ provider.closed })

def failed (reason : String) : Provider :=
  { provider with available := false, reason := reason }

/-- The `except` clause, with a delegate. -/
def tornDown (reason : String) : Provider :=
  (provider.shutdownChecked teardown).2.failed reason

/-- The `finally` clause. -/
def takeOver (connections : List Nat) : Provider :=
  { provider with
    owned := provider.owned ++ connections
    taken := provider.taken ++ connections }

/-- The `try` statement from the recorded path on. -/
def finish : Provider :=
  match world.reopenedAudit with
  | .error reason => provider.tornDown teardown reason
  | .ok audit =>
    let replaced :=
      { provider with
        delegate := some { world.delegate with audit := audit }
        closed := world.delegate.audit.toList ++ provider.closed }
    match world.schemaFault with
    | some reason => replaced.tornDown teardown reason
    | none => { replaced with available := true, reason := "ready" }

/-- The `try` statement. -/
def build (root : Path) (identity : String) : Provider :=
  match world.dataFault, world.buildFault, world.startFault with
  | some reason, _, _ => provider.failed reason
  | none, some reason, _ => (provider.takeOver world.cached).failed reason
  | none, none, some reason =>
    tornDown { provider.takeOver world.cached with delegate := some world.delegate } teardown
      reason
  | none, none, none =>
    let built := { provider.takeOver world.cached with delegate := some world.delegate }
    match world.databasePath root identity with
    | .error reason => built.tornDown teardown reason
    | .ok path => finish { built with dbPath := some path } teardown world

/-- `initialize`. -/
def initializeWith : Provider :=
  match provider.shutdownChecked teardown with
  | (false, kept) => kept
  | (true, idle) =>
    match world.configuration, world.isSkipped with
    | .error reason, _ => { idle with reason := reason }
    | .ok _, true => { idle with reason := "context_skipped" }
    | .ok (root, identity), false => idle.build teardown world root identity

end Provider

/-! ## Runs -/

inductive ProviderCall where
  | initializes (teardown : Teardown) (world : InitWorld)
  | shutdown (teardown : Teardown)

def Provider.apply (call : ProviderCall) (provider : Provider) :
    Except Empty (Unit × Provider) :=
  match call with
  | .initializes teardown world => .ok ((), provider.initializeWith teardown world)
  | .shutdown teardown => .ok ((), (provider.shutdownChecked teardown).2)

end Foundry.Memory
