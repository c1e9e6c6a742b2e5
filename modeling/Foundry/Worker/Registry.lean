import Foundry.Lib.Raise
import Foundry.Lib.Run
import Foundry.Lib.Table

/-!
# The resource registry

`ProfileResourceRegistry` of `quiescence.py`.  Every section under its lock is one step; a
`register` is admitted in one and inserts in another, and a `quiesce` is one step for each hook it
calls or future it waits for.
-/

set_option autoImplicit false

namespace Foundry

open Raise

/-! ## Registrations -/

/-- `_Registration`: of the future, the agent and the close hook only whether they are given. -/
structure Registration where
  token : Nat
  profileKey : String
  taskId : String
  future : Bool
  agent : Bool
  close : Bool
  activeIo : Int
deriving DecidableEq, Repr

/-- The arguments of a `register` that was admitted. -/
structure RegisterArgs where
  profileKey : String
  taskId : String
  future : Bool
  agent : Bool
  close : Bool
  activeIo : Int
deriving DecidableEq, Repr

inductive RegistryError where
  | valueError (message : String)
  | quiescence (message : String)
  /-- The event is no step of any call. -/
  | noStep
deriving DecidableEq, Repr

/-- `_PROFILE_KEY`. -/
def isResourceKey (key : String) : Bool :=
  let isStart (letter : Char) : Bool := letter.isLower || letter.isDigit
  match key.toList with
  | [] => false
  | first :: rest =>
    isStart first && rest.length ≤ 63 &&
      rest.all fun letter => isStart letter || letter == '_' || letter == '-'

/-- `_bounded_identifier`. -/
def isBoundedIdentifier (value : String) : Bool :=
  decide (value ≠ "") && decide (value.length ≤ 255) &&
    (value.toList.all fun letter => 32 ≤ letter.toNat ∧ letter.toNat ≠ 127)

/-! ## Quiescence -/

/-- How an interrupt, a wait or a close hook of a `quiesce` ends. -/
inductive HookOutcome where
  | done
  /-- A close hook returned `False`. -/
  | refused
  /-- `checked_close_agent` found something open, and this is its safe error code. -/
  | unclosed (code : String)
  /-- The future was not done in time, or the wait for it was cancelled. -/
  | timedOut
  | raised
  /-- The `quiesce` was cancelled inside the hook. -/
  | cancelled
deriving DecidableEq, Repr

inductive QuiescePhase where
  | fenced
  | interrupting (rest : List Registration)
  | waiting (rest : List Registration)
  | closing (rest : List Registration)
  | returned (status : String)
  | cancelled
deriving DecidableEq, Repr

/-- One call of `quiesce`. -/
structure QuiesceCall where
  profileKey : String
  entries : List Registration
  failures : List String
  pending : Bool
  phase : QuiescePhase
deriving DecidableEq, Repr

namespace QuiesceCall

def fails (code : String) (call : QuiesceCall) : QuiesceCall :=
  { call with failures := call.failures ++ [code] }

def moveTo (phase : QuiescePhase) (call : QuiesceCall) : QuiesceCall := { call with phase := phase }

/-- `dict.fromkeys`: the first of equal failures stays. -/
def returns (status : String) (call : QuiesceCall) : QuiesceCall :=
  { call with failures := call.failures.eraseDups, phase := .returned status }

def interrupted (outcome : HookOutcome) (entry : Registration) (rest : List Registration)
    (call : QuiesceCall) : QuiesceCall :=
  if entry.agent then
    match outcome with
    | .cancelled => call.moveTo .cancelled
    | .raised => (call.fails "interrupt_failed").moveTo (.interrupting rest)
    | .done | .refused | .unclosed _ | .timedOut => call.moveTo (.interrupting rest)
  else call.moveTo (.interrupting rest)

def waited (outcome : HookOutcome) (entry : Registration) (rest : List Registration)
    (call : QuiesceCall) : QuiesceCall :=
  if entry.future then
    match outcome with
    | .timedOut | .cancelled => { call with pending := true, phase := .waiting rest }
    | .raised => (call.fails "executor_failed").moveTo (.waiting rest)
    | .done | .refused | .unclosed _ => call.moveTo (.waiting rest)
  else call.moveTo (.waiting rest)

def closed (outcome : HookOutcome) (entry : Registration) (rest : List Registration)
    (call : QuiesceCall) : QuiesceCall :=
  if entry.close || entry.agent then
    match outcome with
    | .cancelled => call.moveTo .cancelled
    | .done | .timedOut => call.moveTo (.closing rest)
    | .raised => (call.fails "cleanup_failed").moveTo (.closing rest)
    | .refused =>
      (if entry.close then call.fails "cleanup_failed" else call).moveTo (.closing rest)
    | .unclosed code =>
      (if entry.close then call
        else call.fails (if code = "" then "cleanup_failed" else code)).moveTo (.closing rest)
  else call.moveTo (.closing rest)

def joined (call : QuiesceCall) : QuiesceCall :=
  if call.pending then (call.fails "executor_pending").returns "quiescing"
  else call.moveTo (.closing call.entries)

def checked (remaining : List Registration) (call : QuiesceCall) : QuiesceCall :=
  let call := if remaining.isEmpty then call else call.fails "resource_registration_pending"
  call.returns (if call.failures.isEmpty then "quiesced" else "repair_required")

end QuiesceCall

/-! ## The registry -/

/-- The registry and the calls on it that have begun.  A token belongs to one profile, so the tables
of the profiles are one table. -/
structure RegistryState where
  counter : Nat
  entries : Table Nat Registration
  fenced : List String
  registering : Table Nat RegisterArgs
  quiescing : Table Nat QuiesceCall

inductive RegistryEvent where
  /-- A `register` up to its second section under the lock. -/
  | admitCall (call : Nat) (args : RegisterArgs)
  | insert (call : Nat)
  | release (token : Nat)
  | fence (profileKey : String)
  /-- A `quiesce` up to its fence. -/
  | quiesce (call : Nat) (profileKey : String) (positive : Bool)
  /-- The next part of that `quiesce`. -/
  | goesOn (call : Nat) (outcome : HookOutcome)

namespace RegistryState

def empty : RegistryState where
  counter := 0
  entries := ∅
  fenced := []
  registering := ∅
  quiescing := ∅

/-- `registrations`. -/
def registrations (profileKey : String) (state : RegistryState) : List Registration :=
  (state.entries.rows.map Prod.snd).filter fun entry => entry.profileKey = profileKey

/-- `self._fenced.add`. -/
def addFence (profileKey : String) (state : RegistryState) : RegistryState :=
  { state with
    fenced := if profileKey ∈ state.fenced then state.fenced else profileKey :: state.fenced }

def setQuiesce (number : Nat) (call : QuiesceCall) (state : RegistryState) : RegistryState :=
  { state with quiescing := state.quiescing.insert number call }

/-- What the next part of a `quiesce` makes of the call. -/
def advance (outcome : HookOutcome) (call : QuiesceCall) (state : RegistryState) : QuiesceCall :=
  match call.phase with
  | .fenced =>
    let entries := state.registrations call.profileKey
    { call with entries := entries, phase := .interrupting entries }
  | .interrupting [] => call.moveTo (.waiting call.entries)
  | .interrupting (entry :: rest) => call.interrupted outcome entry rest
  | .waiting [] => call.joined
  | .waiting (entry :: rest) => call.waited outcome entry rest
  | .closing [] => call.checked (state.registrations call.profileKey)
  | .closing (entry :: rest) => call.closed outcome entry rest
  | .returned _ | .cancelled => call

def keyed (profileKey : String) : Except RegistryError Unit :=
  require (isResourceKey profileKey = true)
    (.valueError "profile_key must be a canonical Hermes profile key")

def apply (event : RegistryEvent) (state : RegistryState) :
    Except RegistryError (Unit × RegistryState) :=
  match event with
  | .admitCall number args => do
      require (state.registering.lookup number = none) .noStep
      keyed args.profileKey
      require (args.profileKey ∉ state.fenced)
        (.quiescence "profile is fenced for deletion")
      require (0 ≤ args.activeIo)
        (.valueError "active_io must be a non-negative integer")
      require (isBoundedIdentifier args.taskId = true)
        (.valueError "task_id must be a bounded non-empty string")
      return ((), { state with registering := state.registering.insert number args })
  | .insert number => do
      let args ← orRaise (state.registering.lookup number) .noStep
      let token := state.counter + 1
      return ((), { state with
        counter := token
        entries := state.entries.insert token
          ⟨token, args.profileKey, args.taskId, args.future, args.agent, args.close,
            args.activeIo⟩
        registering := state.registering.erase number })
  | .release token => return ((), { state with entries := state.entries.erase token })
  | .fence profileKey => do
      keyed profileKey
      return ((), state.addFence profileKey)
  | .quiesce number profileKey positive => do
      require (state.quiescing.lookup number = none) .noStep
      require (positive = true) (.valueError "quiescence timeout must be positive")
      keyed profileKey
      return ((), (state.addFence profileKey).setQuiesce number
        ⟨profileKey, [], [], false, .fenced⟩)
  | .goesOn number outcome => do
      let call ← orRaise (state.quiescing.lookup number) .noStep
      return ((), state.setQuiesce number (state.advance outcome call))

abbrev run (events : List RegistryEvent) : RegistryState := Run.run apply empty events

end RegistryState

end Foundry
