import Foundry.Lib.Run
import Foundry.Lib.Totals
import Mathlib.Data.List.Sort

/-!
# The sandbox workers of profiles

`ProfileSandboxManager` of `allies_profile_sandbox.py`: `ensure` with its relaunch and reaping,
`stop_profile` and the requests that `proxy` forwards.  An event is what a task does between two
points at which it awaits, or its cancellation at one, or what a process or a thread does
meanwhile.  `close_all` is one `stop_profile` after another.
-/

set_option autoImplicit false

namespace Foundry

namespace Sandbox

/-- `MAX_ACTIVE_PROFILE_PROCESSES`. -/
def maxActiveProcesses : Nat := 16

/-- The rows of `_managed_signature`. -/
abbrev ManagedSignature := List (String × Nat × Nat × Nat × Int)

/-- What `_terminate_process` is called for. -/
inductive StopReason where
  | relaunch
  | reap
  /-- The worker did not become ready. -/
  | unready
  /-- `stop_profile`. -/
  | requested
deriving DecidableEq, Repr

def StopReason.reclaims : StopReason → Bool
  | .relaunch | .reap => true
  | .unready | .requested => false

/-- `ProfileSandboxProcess`, with what is known of its process. -/
structure SandboxWorker where
  profileKey : String
  managedSignature : ManagedSignature
  lastUsed : Int
  activeRequests : Nat
  ready : Bool
  /-- `process.poll()` is not `None`. -/
  exited : Bool
  /-- What the running process was signalled for. -/
  signals : List StopReason
deriving DecidableEq, Repr

def SandboxWorker.isReclaimed (worker : SandboxWorker) : Bool :=
  worker.signals.any StopReason.reclaims

/-- A thread inside `_terminate_process`, and what it returned. -/
structure StopThread where
  worker : Nat
  stopped : Option Bool
deriving DecidableEq, Repr

inductive SandboxCall where
  | ensure (profileKey : String)
  | proxy (profileKey : String)
  | stop (profileKey : String)
deriving DecidableEq, Repr

def SandboxCall.profileKey : SandboxCall → String
  | .ensure key | .proxy key | .stop key => key

def SandboxCall.isProxied : SandboxCall → Bool
  | .proxy _ => true
  | .ensure _ | .stop _ => false

inductive SandboxPhase where
  | locking
  /-- `_child_is_idle` of the worker whose signature changed. -/
  | probing (signature : ManagedSignature) (worker : Nat)
  | relaunching (signature : ManagedSignature) (worker thread : Nat)
  /-- The scan of the hard links. -/
  | scanning (signature : ManagedSignature)
  /-- `_child_is_idle` of a candidate of `_reap_idle_locked`. -/
  | probingIdle (signature : ManagedSignature) (now : Int) (worker : Nat) (rest : List Nat)
  | reaping (signature : ManagedSignature) (now : Int) (worker thread : Nat) (rest : List Nat)
  /-- `_wait_ready`. -/
  | starting (worker : Nat)
  /-- The last stop before the lock is released. -/
  | stopping (worker thread : Nat)
  /-- A proxied request is in flight. -/
  | serving (worker : Nat)
deriving DecidableEq, Repr

def SandboxPhase.holdsLock : SandboxPhase → Bool
  | .locking | .serving _ => false
  | _ => true

structure SandboxTask where
  call : SandboxCall
  phase : SandboxPhase
deriving DecidableEq, Repr

def SandboxTask.serves (worker : Nat) (task : SandboxTask) : Bool :=
  task.phase = .serving worker

inductive LaunchOutcome where
  /-- No directory for the sockets. -/
  | unavailable
  /-- An `OSError` inside the `try`. -/
  | failed
  | spawned
deriving DecidableEq, Repr

structure Surroundings where
  /-- The signature of a profile that passes its checks. -/
  signature : Option ManagedSignature
  now : Int
  idleSeconds : Int
  /-- The idle probe can be sent. -/
  probes : Bool
  isIdle : Bool
  /-- The scan ended in time and the bridge is valid. -/
  scanned : Bool
  launch : LaunchOutcome
  isReady : Bool
deriving DecidableEq, Repr

structure SandboxState where
  /-- Every worker that was spawned, by its number. -/
  workers : Table Nat SandboxWorker
  /-- `_processes`. -/
  processes : Table String Nat
  spawned : Nat
  /-- The holder of `_launch_lock`. -/
  holder : Option Nat
  tasks : Table Nat SandboxTask
  threads : Table Nat StopThread
  threadCount : Nat

inductive SandboxEvent where
  | begin (task : Nat) (call : SandboxCall)
  | resume (task : Nat) (surroundings : Surroundings)
  | cancel (task : Nat)
  | exits (worker : Nat)
  /-- `_terminate_process` returns: whether the process has exited. -/
  | threadReturns (thread : Nat)

namespace SandboxState

def initial : SandboxState := ⟨∅, ∅, 0, none, ∅, ∅, 0⟩

variable (state : SandboxState)

def setWorker (number : Nat) (change : SandboxWorker → SandboxWorker) : SandboxState :=
  match state.workers.lookup number with
  | some worker => { state with workers := state.workers.insert number (change worker) }
  | none => state

def setTask (task : Nat) (row : SandboxTask) : SandboxState :=
  { state with tasks := state.tasks.insert task row }

def forget (task : Nat) : SandboxState := { state with tasks := state.tasks.erase task }

def release (task : Nat) : SandboxState := { state.forget task with holder := none }

/-- `self._processes.pop`. -/
def drop (key : String) : SandboxState := { state with processes := state.processes.erase key }

/-- `_stop_state_locked` after a stop. -/
def dropStopped (number : Nat) : SandboxState :=
  match state.workers.lookup number with
  | some worker =>
    if state.processes.lookup worker.profileKey = some number then state.drop worker.profileKey
    else state
  | none => state

/-- `self._processes.get`. -/
def existing (key : String) : Option (Nat × SandboxWorker) := do
  let number ← state.processes.lookup key
  let worker ← state.workers.lookup number
  return (number, worker)

/-- A thread enters `_terminate_process`, which signals a process that runs. -/
def startStop (reason : StopReason) (number : Nat) : SandboxState :=
  let signalled := state.setWorker number fun worker =>
    if worker.exited then worker else { worker with signals := reason :: worker.signals }
  { signalled with
    threads := state.threads.insert state.threadCount ⟨number, none⟩
    threadCount := state.threadCount + 1 }

/-- `_touch`, the release of the lock, and `_mark_request_started` for a proxied request: there is
no await between them. -/
def leave (task : Nat) (call : SandboxCall) (number : Nat) (now : Int) : SandboxState :=
  let touched := state.setWorker number fun worker => { worker with lastUsed := now }
  match call with
  | .proxy _ =>
    { touched.setWorker number fun worker =>
        { worker with activeRequests := worker.activeRequests + 1 } with
      tasks := state.tasks.insert task ⟨call, .serving number⟩
      holder := none }
  | .ensure _ | .stop _ => touched.release task

/-- `_mark_request_finished`, when the task is done. -/
def finish (task number : Nat) : SandboxState :=
  (state.setWorker number fun worker =>
    { worker with activeRequests := worker.activeRequests - 1 }).forget task

section Sections

variable (task : Nat) (call : SandboxCall) (around : Surroundings)

/-- A stop, for whose end the task waits before it releases the lock. -/
def stopAndRelease (reason : StopReason) (number : Nat) : SandboxState :=
  (state.startStop reason number).setTask task ⟨call, .stopping number state.threadCount⟩

/-- `ensure` from the second look at the capacity to the wait for the new worker. -/
def launch (signature : ManagedSignature) : SandboxState :=
  if maxActiveProcesses ≤ state.processes.rows.length then state.release task
  else
    match around.launch with
    | .unavailable => state.release task
    | .failed =>
      match state.existing call.profileKey with
      | some (number, worker) =>
        if worker.ready then state.release task
        else state.stopAndRelease task call .unready number
      | none => state.release task
    | .spawned =>
      { state with
        workers := state.workers.insert state.spawned
          ⟨call.profileKey, signature, around.now, 0, false, false, []⟩
        processes := state.processes.insert call.profileKey state.spawned
        spawned := state.spawned + 1
        tasks := state.tasks.insert task ⟨call, .starting state.spawned⟩ }

/-- `_reap_idle_locked` from one of its candidates on, and the launch after it. -/
def reapFrom (signature : ManagedSignature) (now : Int) : List Nat → SandboxState → SandboxState
  | [], state => state.launch task call around signature
  | number :: rest, state =>
    if state.processes.rows.length < maxActiveProcesses then
      state.launch task call around signature
    else
      match state.workers.lookup number with
      | none => reapFrom signature now rest state
      | some worker =>
        if worker.activeRequests ≠ 0 ∨ now - worker.lastUsed < around.idleSeconds then
          reapFrom signature now rest state
        else if worker.exited then
          reapFrom signature now rest (state.drop worker.profileKey)
        else if !around.probes then reapFrom signature now rest state
        else state.setTask task ⟨call, .probingIdle signature now number rest⟩

def lastUsed (number : Nat) : Int :=
  ((state.workers.lookup number).map SandboxWorker.lastUsed).getD 0

/-- `sorted(self._processes.values(), key=lambda state: state.last_used)`.  Of the workers last
used at one time, the one that was registered first comes first. -/
def candidates : List Nat :=
  (state.processes.rows.map Prod.snd).reverse.insertionSort fun first second =>
    state.lastUsed first ≤ state.lastUsed second

/-- `ensure` after the scan. -/
def afterScan (signature : ManagedSignature) : SandboxState :=
  if !around.scanned then state.release task
  else if state.processes.rows.length < maxActiveProcesses then
    state.launch task call around signature
  else reapFrom task call around signature around.now state.candidates state

/-- `ensure` from the lock to its first await. -/
def ensureLocked : SandboxState :=
  match around.signature with
  | none => state.release task
  | some signature =>
    match state.existing call.profileKey with
    | none => state.setTask task ⟨call, .scanning signature⟩
    | some (number, worker) =>
      if worker.exited then state.setTask task ⟨call, .scanning signature⟩
      else if !worker.ready then state.release task
      else if worker.managedSignature = signature then state.leave task call number around.now
      else if worker.activeRequests ≠ 0 ∨ !around.probes then state.release task
      else state.setTask task ⟨call, .probing signature number⟩

/-- `stop_profile` from the lock to its await. -/
def stopLocked : SandboxState :=
  match state.existing call.profileKey with
  | none => state.release task
  | some (number, _) => state.stopAndRelease task call .requested number

def goOn (phase : SandboxPhase) : Option SandboxState :=
  match phase with
  | .locking =>
    if state.holder.isNone then
      let locked := { state with holder := some task }
      match call with
      | .ensure _ | .proxy _ => some (locked.ensureLocked task call around)
      | .stop _ => some (locked.stopLocked task call)
    else none
  | .probing signature number =>
    if !around.isIdle then some (state.release task)
    else some ((state.startStop .relaunch number).setTask task
      ⟨call, .relaunching signature number state.threadCount⟩)
  | .relaunching signature _ thread => do
      let stopped ← (← state.threads.lookup thread).stopped
      if stopped then
        return (state.drop call.profileKey).setTask task ⟨call, .scanning signature⟩
      else return state.release task
  | .scanning signature => some (state.afterScan task call around signature)
  | .probingIdle signature now number rest =>
    if !around.isIdle then some (reapFrom task call around signature now rest state)
    else some ((state.startStop .reap number).setTask task
      ⟨call, .reaping signature now number state.threadCount rest⟩)
  | .reaping signature now number thread rest => do
      let stopped ← (← state.threads.lookup thread).stopped
      let next := if stopped then state.dropStopped number else state
      return reapFrom task call around signature now rest next
  | .starting number =>
    if around.isReady && (state.workers.lookup number).any fun worker => !worker.exited then
      some ((state.setWorker number fun worker => { worker with ready := true }).leave task call
        number around.now)
    else some (state.stopAndRelease task call .unready number)
  | .stopping number thread => do
      let stopped ← (← state.threads.lookup thread).stopped
      return (if stopped then state.dropStopped number else state).release task
  | .serving number => some (state.finish task number)

/-- `CancelledError` at the await. -/
def cancelled (phase : SandboxPhase) : SandboxState :=
  match phase with
  | .locking => state.forget task
  | .starting number => state.stopAndRelease task call .unready number
  | .serving number => state.finish task number
  | _ => state.release task

end Sections

def apply (event : SandboxEvent) (state : SandboxState) : Except Unit (Unit × SandboxState) :=
  match event with
  | .begin task call =>
    if state.tasks.lookup task = none then .ok ((), state.setTask task ⟨call, .locking⟩)
    else .error ()
  | .resume task around =>
    match state.tasks.lookup task with
    | none => .error ()
    | some row =>
      match state.goOn task row.call around row.phase with
      | none => .error ()
      | some next => .ok ((), next)
  | .cancel task =>
    match state.tasks.lookup task with
    | none => .error ()
    | some row => .ok ((), state.cancelled task row.call row.phase)
  | .exits number => .ok ((), state.setWorker number fun worker => { worker with exited := true })
  | .threadReturns number =>
    match state.threads.lookup number with
    | some ⟨worker, none⟩ =>
      .ok ((), { state with
        threads := state.threads.insert number
          ⟨worker, some ((state.workers.lookup worker).any SandboxWorker.exited)⟩ })
    | _ => .error ()

abbrev run (events : List SandboxEvent) : SandboxState := Run.run apply initial events

end SandboxState

end Sandbox

end Foundry
