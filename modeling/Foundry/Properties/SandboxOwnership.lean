import Foundry.Properties.SandboxSections

/-!
# Sandbox ownership

A worker that runs is the registered one of its profile until it has exited, and only the holder
of the launch lock changes what is registered.  A worker that idle reaping or a relaunch signals
serves no request then; it serves one later only when its caller went away before the stop was
confirmed and `ensure` hands the worker out again.
-/

set_option autoImplicit false

namespace Foundry

namespace Sandbox

namespace SandboxState

/-! ## The property -/

structure Owned (state : SandboxState) : Prop where
  /-- A profile has one running worker. -/
  one : ∀ first second worker other, state.workers.lookup first = some worker →
    state.workers.lookup second = some other → worker.profileKey = other.profileKey →
    worker.exited = false → other.exited = false → first = second
  bounded : state.processes.rows.length ≤ maxActiveProcesses
  /-- A worker stays registered until it has exited. -/
  owned : ∀ number worker, state.workers.lookup number = some worker → worker.exited = false →
    state.processes.lookup worker.profileKey = some number

/-- No request is in flight to a worker that idle reaping or a relaunch has signalled. -/
def Spared (state : SandboxState) : Prop :=
  ∀ number worker, state.workers.lookup number = some worker → worker.isReclaimed = true →
    ∀ task row, state.tasks.lookup task = some row → row.serves number = false

/-- The registered worker that an event hands to a proxied request. -/
def handedOut (state : SandboxState) : SandboxEvent → Option SandboxWorker
  | .resume task around => do
      let row ← state.tasks.lookup task
      guard (row.phase = .locking ∧ state.holder = none ∧ row.call.isProxied = true)
      let signature ← around.signature
      let existing ← state.existing row.call.profileKey
      guard (existing.2.exited = false ∧ existing.2.ready = true ∧
        existing.2.managedSignature = signature)
      return existing.2
  | _ => none

/-- Idle reaping or a relaunch has not signalled the worker that is handed out. -/
def SparesReclaimed (state : SandboxState) (event : SandboxEvent) : Prop :=
  ∀ worker ∈ state.handedOut event, worker.isReclaimed = false

instance (state : SandboxState) (event : SandboxEvent) :
    Decidable (state.SparesReclaimed event) :=
  inferInstanceAs (Decidable (∀ worker ∈ state.handedOut event, worker.isReclaimed = false))

variable {strict : Prop} {state next : SandboxState} {task number : Nat}

theorem Valid.isOwned (valid : Valid strict state) : state.Owned where
  one := by
    intro first second worker other found stored sameKey running alive
    have isFirst := valid.core.owned first worker found running
    have isSecond := valid.core.owned second other stored alive
    rw [sameKey, isSecond, Option.some.injEq] at isFirst
    exact isFirst.symm
  bounded := valid.core.bounded
  owned := valid.core.owned

theorem Valid.isSpared (valid : Valid True state) : state.Spared := by
  intro number worker found reclaimed task row listed
  have counted := valid.core.counted number worker found
  rw [valid.core.spared trivial number worker found reclaimed] at counted
  have least := @Table.le_total _ _ _ (weight number) _ _ _ listed
  rw [counted] at least
  cases serves : row.serves number with
  | false => rfl
  | true => simp [weight, serves] at least

/-! ## One event -/

variable {row : SandboxTask}

theorem Valid.takes (valid : Valid strict state)
    (listed : state.tasks.lookup task = some row) (holds : row.phase.holdsLock = true) :
    Locked strict task state where
  core := valid.core
  holder := valid.locked task row listed holds
  others := by
    intro other stored found different
    cases other_holds : stored.phase.holdsLock with
    | false => rfl
    | true =>
      have both := valid.locked other stored found other_holds
      rw [valid.locked task row listed holds, Option.some.injEq] at both
      exact absurd both.symm different
  own := by
    intro stored found
    rw [listed, Option.some.injEq] at found
    rw [← found]
    exact serves_of_holdsLock holds

variable {call : SandboxCall}

theorem Valid.locks (valid : Valid strict state)
    (listed : state.tasks.lookup task = some ⟨call, .locking⟩) (free : state.holder = none) :
    Locked strict task { state with holder := some task } where
  core := valid.core.withTasks (some task) (fun _ => rfl) valid.core.known
  holder := rfl
  others := by
    intro other stored found _
    cases holds : stored.phase.holdsLock with
    | false => rfl
    | true =>
      have taken := valid.locked other stored found holds
      rw [free] at taken
      cases taken
  own := by
    intro stored found number
    cases listed.symm.trans found
    rfl

variable {reason : StopReason} {other : Nat}

theorem worker_startStop {worker : SandboxWorker}
    (found : state.workers.lookup other = some worker) :
    ∃ new, (state.startStop reason number).workers.lookup other = some new ∧
      new.profileKey = worker.profileKey ∧ new.exited = worker.exited := by
  simp only [SandboxState.startStop]
  rw [workers_setWorker]
  split
  · next same =>
    rw [← same, found]
    refine ⟨_, rfl, ?_⟩
    by_cases exited : worker.exited = true
    · simp only [if_pos exited, and_self]
    · simp only [if_neg exited, and_self]
  · exact ⟨worker, found, rfl, rfl⟩

variable {key : String}

theorem Vacant.startStop (vacant : state.Vacant key) :
    (state.startStop reason number).Vacant key := by
  intro other listed
  simp only [SandboxState.startStop, processes_setWorker] at listed
  obtain ⟨worker, found, exited⟩ := vacant other listed
  obtain ⟨new, isNew, _, same⟩ := @worker_startStop state number reason other worker found
  exact ⟨new, isNew, same.trans exited⟩

theorem Own.startStop (own : state.Own other) :
    (state.startStop reason number).Own other := by
  obtain ⟨worker, found, only⟩ := own
  obtain ⟨new, isNew, sameKey, _⟩ := @worker_startStop state number reason other worker found
  refine ⟨new, isNew, fun third listed => only third ?_⟩
  simp only [SandboxState.startStop, processes_setWorker] at listed
  rw [← sameKey]
  exact listed

theorem Core.finish (core : Core strict state)
    (listed : state.tasks.lookup task = some row) (serves : row.phase = .serving number) :
    Core strict (state.finish task number) := by
  have isServed : ∀ other, row.serves other = true ↔ other = number := by
    intro other
    simp [SandboxTask.serves, serves, eq_comm]
  have continues : WorkersContinue strict state (state.finish task number) := by
    refine workersContinue_setWorker rfl ?_ ?_
    · intro old found
      refine ⟨rfl, id, fun counted => ?_, fun _ before reclaimed => ?_⟩
      · simp only [SandboxState.finish, SandboxState.forget, tasks_setWorker]
        have parts := @Table.total_erase_of_some _ _ _ (weight number) _ _ _ listed
        rw [counted, weight, if_pos ((isServed number).mpr rfl)] at parts
        omega
      · change old.activeRequests - 1 = 0
        rw [before reclaimed]
    · intro other different
      simp only [SandboxState.finish, SandboxState.forget, tasks_setWorker]
      refine Table.total_erase_of_zero fun old found => ?_
      rw [listed, Option.some.injEq] at found
      rw [← found, weight, if_neg fun same => different ((isServed other).mp same)]
  refine core.continue ?_ ?_ continues ?_ ?_
  · simp only [SandboxState.finish, SandboxState.forget, processes_setWorker]
  · simp only [SandboxState.finish, SandboxState.forget, spawned_setWorker]
  · intro other stored served found
    simp only [SandboxState.finish, SandboxState.forget, tasks_setWorker] at found
    exact core.known other stored served (Table.lookup_of_erase found)
  · intro thread stopped found
    simp only [SandboxState.finish, SandboxState.forget, threads_setWorker] at found
    exact core.returned_of_continue continues found

structure Beside (before after : SandboxState) : Prop where
  processes : after.processes = before.processes
  holder : after.holder = before.holder
  workers : ∀ number old, before.workers.lookup number = some old →
    ∃ new, after.workers.lookup number = some new ∧ new.profileKey = old.profileKey ∧
      new.ready = old.ready ∧ new.signals = old.signals ∧
      (old.exited = true → new.exited = true) ∧ new.activeRequests ≤ old.activeRequests
  threads : ∀ thread row, before.threads.lookup thread = some row →
    ∃ new, after.threads.lookup thread = some new ∧ new.worker = row.worker
  tasks : ∀ task row, after.tasks.lookup task = some row →
    before.tasks.lookup task = some row ∨ row.phase.holdsLock = false

theorem Beside.of_setWorker (change : SandboxWorker → SandboxWorker)
    (workers : next.workers = (state.setWorker number change).workers)
    (kept : ∀ worker, (change worker).profileKey = worker.profileKey ∧
      (change worker).ready = worker.ready ∧ (change worker).signals = worker.signals ∧
      (worker.exited = true → (change worker).exited = true) ∧
      (change worker).activeRequests ≤ worker.activeRequests)
    (other : Nat) (old : SandboxWorker) (found : state.workers.lookup other = some old) :
    ∃ new, next.workers.lookup other = some new ∧ new.profileKey = old.profileKey ∧
      new.ready = old.ready ∧ new.signals = old.signals ∧
      (old.exited = true → new.exited = true) ∧ new.activeRequests ≤ old.activeRequests := by
  rw [workers, workers_setWorker]
  split
  · next same =>
    rw [← same, found]
    exact ⟨change old, rfl, kept old⟩
  · exact ⟨old, found, rfl, rfl, rfl, id, Nat.le_refl _⟩

section Beside

variable (beside : Beside state next)
include beside

theorem Beside.idle (idle : state.Idle number) : next.Idle number := by
  obtain ⟨worker, found, free⟩ := idle
  obtain ⟨new, isNew, _, _, _, _, fewer⟩ := beside.workers number worker found
  rw [free] at fewer
  exact ⟨new, isNew, Nat.le_zero.mp fewer⟩

theorem Beside.vacant (vacant : state.Vacant key) : next.Vacant key := by
  intro number listed
  rw [beside.processes] at listed
  obtain ⟨worker, found, exited⟩ := vacant number listed
  obtain ⟨new, isNew, _, _, _, stays, _⟩ := beside.workers number worker found
  exact ⟨new, isNew, stays exited⟩

theorem Beside.own (own : state.Own number) : next.Own number := by
  obtain ⟨worker, found, only⟩ := own
  obtain ⟨new, isNew, sameKey, _⟩ := beside.workers number worker found
  refine ⟨new, isNew, fun other listed => only other ?_⟩
  rw [beside.processes, sameKey] at listed
  exact listed

theorem Beside.stops {thread : Nat} (stops : state.Stops thread number) :
    next.Stops thread number := by
  obtain ⟨row, found, isWorker⟩ := stops
  obtain ⟨new, isNew, same⟩ := beside.threads thread row found
  exact ⟨new, isNew, same.trans isWorker⟩

theorem Beside.unready (unready : state.Unready number) : next.Unready number := by
  obtain ⟨worker, found, notReady, unsignalled⟩ := unready
  obtain ⟨new, isNew, _, sameReady, sameSignals, _⟩ := beside.workers number worker found
  exact ⟨new, isNew, sameReady.trans notReady, sameSignals.trans unsignalled⟩

theorem Beside.inPhase {phase : SandboxPhase} (inPhase : state.InPhase key phase) :
    next.InPhase key phase := by
  cases phase with
  | locking => trivial
  | serving => trivial
  | probing =>
    exact ⟨beside.processes ▸ inPhase.1, beside.idle inPhase.2⟩
  | relaunching =>
    exact ⟨beside.processes ▸ inPhase.1, beside.stops inPhase.2⟩
  | scanning => exact beside.vacant inPhase
  | probingIdle =>
    exact ⟨beside.vacant inPhase.1, beside.idle inPhase.2.1,
      fun other member => beside.own (inPhase.2.2 other member)⟩
  | reaping =>
    exact ⟨beside.vacant inPhase.1, beside.stops inPhase.2.1,
      fun other member => beside.own (inPhase.2.2 other member)⟩
  | starting => exact ⟨beside.processes ▸ inPhase.1, beside.unready inPhase.2⟩
  | stopping => exact beside.stops inPhase

end Beside

section

variable (valid : Valid strict state)

include valid

theorem Valid.besides (beside : Beside state next)
    (core : Core strict next) : Valid strict next where
  core := core
  locked := by
    intro task row found holds
    rw [beside.holder]
    rcases beside.tasks task row found with before | free
    · exact valid.locked task row before holds
    · rw [free] at holds
      cases holds
  phases := by
    intro task row found
    rcases beside.tasks task row found with before | free
    · exact beside.inPhase (valid.phases task row before)
    · exact inPhase_of_unlocked _ _ free

theorem Valid.finish
    (listed : state.tasks.lookup task = some row) (serves : row.phase = .serving number) :
    Valid strict (state.finish task number) := by
  refine valid.besides ⟨?_, ?_, ?_, ?_, ?_⟩ (valid.core.finish listed serves)
  · simp only [SandboxState.finish, SandboxState.forget, processes_setWorker]
  · simp only [SandboxState.finish, SandboxState.forget, holder_setWorker]
  · exact Beside.of_setWorker
      (fun worker => { worker with activeRequests := worker.activeRequests - 1 }) rfl
      fun worker => ⟨rfl, rfl, rfl, id, Nat.sub_le _ _⟩
  · intro thread stop found
    simp only [SandboxState.finish, SandboxState.forget, threads_setWorker]
    exact ⟨stop, found, rfl⟩
  · intro other stored found
    simp only [SandboxState.finish, SandboxState.forget, tasks_setWorker] at found
    exact .inl (Table.lookup_of_erase found)

theorem Valid.begin (call : SandboxCall) (fresh : state.tasks.lookup task = none) :
    Valid strict (state.setTask task ⟨call, .locking⟩) := by
  refine valid.besides ⟨rfl, rfl, ?_, ?_, ?_⟩
    (valid.core.setTask state.holder (fun row found => ?_) fun _ => rfl)
  · exact fun _ old found => ⟨old, found, rfl, rfl, rfl, id, Nat.le_refl _⟩
  · exact fun _ row found => ⟨row, found, rfl⟩
  · intro other row found
    change (state.tasks.insert task _).lookup other = some row at found
    obtain ⟨_, rfl⟩ | ⟨_, found⟩ := Table.cases_insert found
    · exact .inr rfl
    · exact .inl found
  · rw [fresh] at found
    cases found

theorem Valid.forget (listed : state.tasks.lookup task = some row) (waits : row.phase = .locking) :
    Valid strict (state.forget task) := by
  refine valid.besides ⟨rfl, rfl, ?_, ?_, ?_⟩
    (valid.core.forget state.holder fun stored found number => ?_)
  · exact fun _ old found => ⟨old, found, rfl, rfl, rfl, id, Nat.le_refl _⟩
  · exact fun _ stop found => ⟨stop, found, rfl⟩
  · exact fun other stored found => .inl (Table.lookup_of_erase found)
  · rw [listed, Option.some.injEq] at found
    rw [← found, SandboxTask.serves, waits]
    rfl

theorem Valid.exits :
    Valid strict (state.setWorker number fun worker => { worker with exited := true }) := by
  have continues : WorkersContinue strict state
      (state.setWorker number fun worker => { worker with exited := true }) := by
    refine workersContinue_setWorker rfl (fun old _ => ⟨rfl, fun _ => rfl, ?_, ?_⟩)
      fun other _ => ?_
    · intro counted
      rw [tasks_setWorker]
      exact counted
    · exact fun _ before => before
    · rw [tasks_setWorker]
  refine valid.besides ⟨processes_setWorker _, holder_setWorker _, ?_, ?_, ?_⟩
    (valid.core.continue (processes_setWorker _) (spawned_setWorker _) continues ?_ ?_)
  · exact Beside.of_setWorker (fun worker => { worker with exited := true }) rfl
      fun worker => ⟨rfl, rfl, rfl, fun _ => rfl, Nat.le_refl _⟩
  · intro thread row found
    rw [threads_setWorker]
    exact ⟨row, found, rfl⟩
  · intro other row found
    rw [tasks_setWorker] at found
    exact .inl found
  · rw [tasks_setWorker]
    exact valid.core.known
  · intro thread row found stopped
    rw [threads_setWorker] at found
    exact valid.core.returned_of_continue continues found stopped

theorem Valid.threadReturns {thread worker : Nat}
    (found : state.threads.lookup thread = some ⟨worker, none⟩) :
    Valid strict { state with
      threads := state.threads.insert thread
        ⟨worker, some ((state.workers.lookup worker).any SandboxWorker.exited)⟩ } := by
  refine valid.besides ⟨rfl, rfl, ?_, ?_, ?_⟩
    ⟨valid.core.fresh, valid.core.listed, valid.core.owned, valid.core.bounded, valid.core.counted,
      valid.core.known, ?_, valid.core.spared⟩
  · exact fun _ old stored => ⟨old, stored, rfl, rfl, rfl, id, Nat.le_refl _⟩
  · intro other row stored
    change ∃ new, (state.threads.insert thread _).lookup other = some new ∧ _
    rw [Table.lookup_insert_eq]
    split
    · next same =>
      rw [same, found, Option.some.injEq] at stored
      exact ⟨_, rfl, stored ▸ rfl⟩
    · exact ⟨row, stored, rfl⟩
  · exact fun _ row stored => .inl stored
  · intro other row stored stopped
    change (state.threads.insert thread _).lookup other = some row at stored
    obtain ⟨_, rfl⟩ | ⟨_, stored⟩ := Table.cases_insert stored
    · rw [Option.some.injEq] at stopped
      obtain ⟨row, isWorker, exited⟩ := (Option.any_eq_true _ _).mp stopped
      exact ⟨row, isWorker, exited⟩
    · exact valid.core.returned other row stored stopped

end

theorem handedOut_of_locking {around : Surroundings}
    {signature : ManagedSignature} {worker : SandboxWorker}
    (listed : state.tasks.lookup task = some ⟨call, .locking⟩) (free : state.holder = none)
    (proxied : call.isProxied = true) (isSignature : around.signature = some signature)
    (existing : state.existing call.profileKey = some (number, worker))
    (serves : worker.exited = false ∧ worker.ready = true ∧ worker.managedSignature = signature) :
    worker ∈ state.handedOut (.resume task around) := by
  simp only [handedOut, listed, isSignature, existing, Option.mem_def, Option.bind_eq_bind,
    Option.bind_some]
  rw [guard, if_pos ⟨trivial, free, proxied⟩, guard, if_pos serves]
  rfl

section

variable (valid : Valid strict state)

include valid

theorem Valid.goOn (around : Surroundings)
    (listed : state.tasks.lookup task = some row)
    (spares : strict → state.SparesReclaimed (.resume task around))
    (goes : state.goOn task row.call around row.phase = some next) : Valid strict next := by
  have inPhase := valid.phases task row listed
  obtain ⟨call, phase⟩ := row
  cases phase with
  | locking =>
    simp only [SandboxState.goOn] at goes
    split at goes
    · next free =>
      rw [Option.isNone_iff_eq_none] at free
      have locked := valid.locks listed free
      have ensures : Valid strict
          (SandboxState.ensureLocked { state with holder := some task } task call around) := by
        refine locked.ensureLocked call around ?_
        intro isStrict proxied signature isSignature number worker existing running ready same
        exact spares isStrict worker (handedOut_of_locking listed free proxied isSignature
          existing ⟨running, ready, same⟩)
      cases call with
      | ensure | proxy =>
        cases goes
        exact ensures
      | stop =>
        cases goes
        exact locked.stopLocked _
    · cases goes
  | probing _ number =>
    have locked := valid.takes listed rfl
    simp only [SandboxState.goOn] at goes
    split at goes
    · cases goes
      exact locked.release
    · cases goes
      refine (locked.startStop .relaunch fun _ => inPhase.2).setTask rfl ⟨?_, ?_⟩
      · simp only [SandboxState.startStop, processes_setWorker]
        exact inPhase.1
      · exact stops_startStop state .relaunch number
  | relaunching _ _ thread =>
    have locked := valid.takes listed rfl
    simp only [SandboxState.goOn, Option.bind_eq_bind, Option.bind_eq_some_iff] at goes
    obtain ⟨stop, isStop, _, isStopped, goes⟩ := goes
    split at goes
    · next yes =>
      cases goes
      have vacant : state.Vacant call.profileKey := by
        intro other registered
        rw [inPhase.1, Option.some.injEq] at registered
        obtain ⟨_, isRow, isWorker⟩ := inPhase.2
        rw [isStop, Option.some.injEq] at isRow
        obtain ⟨worker, found, exited⟩ := valid.core.returned thread stop isStop
          (isStopped.trans (congrArg some yes))
        rw [isRow, isWorker, registered] at found
        exact ⟨worker, found, exited⟩
      exact (locked.drop vacant).setTask rfl vacant.drop
    · cases goes
      exact locked.release
  | scanning signature =>
    cases goes
    exact (valid.takes listed rfl).afterScan call around signature inPhase
  | probingIdle signature now number rest =>
    have locked := valid.takes listed rfl
    simp only [SandboxState.goOn] at goes
    split at goes
    · cases goes
      exact Locked.reapFrom call around signature now rest locked inPhase.1 inPhase.2.2
    · cases goes
      exact (locked.startStop .reap fun _ => inPhase.2.1).setTask rfl
        ⟨inPhase.1.startStop, stops_startStop state .reap number,
          fun other member => (inPhase.2.2 other member).startStop⟩
  | reaping signature now _ _ rest =>
    simp only [SandboxState.goOn, Option.bind_eq_bind, Option.bind_eq_some_iff] at goes
    obtain ⟨_, isStop, stopped, isStopped, goes⟩ := goes
    cases goes
    obtain ⟨_, isRow, isWorker⟩ := inPhase.2.1
    rw [isStop, Option.some.injEq] at isRow
    obtain ⟨locked, vacant, own⟩ := (valid.takes listed rfl).dropStopped isStop
      (isRow ▸ isWorker) stopped isStopped
    exact Locked.reapFrom call around signature now rest locked (vacant _ inPhase.1)
      fun other member => own other (inPhase.2.2 other member)
  | starting number =>
    have locked := valid.takes listed rfl
    simp only [SandboxState.goOn] at goes
    split at goes
    · cases goes
      obtain ⟨worker, found, _, unsignalled⟩ := inPhase.2
      have readied : Locked strict task
          (state.setWorker number fun worker => { worker with ready := true }) :=
        locked.setWorker (fun _ => rfl) (fun _ => rfl) (fun _ => rfl) fun _ => rfl
      have stored : (state.setWorker number fun worker =>
          { worker with ready := true }).workers.lookup number =
            some { worker with ready := true } := by
        rw [workers_setWorker, if_pos rfl, found]
        rfl
      refine readied.leave call around.now stored ?_
      intro _ _
      rw [SandboxWorker.isReclaimed, unsignalled]
      rfl
    · cases goes
      exact locked.stopAndRelease call rfl
  | stopping =>
    simp only [SandboxState.goOn, Option.bind_eq_bind, Option.bind_eq_some_iff] at goes
    obtain ⟨_, isStop, stopped, isStopped, goes⟩ := goes
    cases goes
    obtain ⟨_, isRow, isWorker⟩ := inPhase
    rw [isStop, Option.some.injEq] at isRow
    exact ((valid.takes listed rfl).dropStopped isStop (isRow ▸ isWorker) stopped
      isStopped).1.release
  | serving =>
    cases goes
    exact valid.finish listed rfl

theorem Valid.cancelled (listed : state.tasks.lookup task = some row) :
    Valid strict (state.cancelled task row.call row.phase) := by
  obtain ⟨call, phase⟩ := row
  cases phase with
  | locking => exact valid.forget listed rfl
  | serving => exact valid.finish listed rfl
  | starting => exact (valid.takes listed rfl).stopAndRelease call rfl
  | probing | relaunching | scanning | probingIdle | reaping | stopping =>
    exact (valid.takes listed rfl).release

theorem Valid.apply {event : SandboxEvent} {reply : Unit}
    (spares : strict → state.SparesReclaimed event)
    (success : apply event state = .ok (reply, next)) : Valid strict next := by
  cases event with
  | begin _ call =>
    simp only [SandboxState.apply] at success
    split at success
    · next fresh =>
      cases success
      exact valid.begin call fresh
    · cases success
  | resume _ around =>
    simp only [SandboxState.apply] at success
    split at success
    · cases success
    · next listed =>
      split at success
      · cases success
      · next goes =>
        cases success
        exact valid.goOn around listed spares goes
  | cancel =>
    simp only [SandboxState.apply] at success
    split at success
    · cases success
    · next listed =>
      cases success
      exact valid.cancelled listed
  | exits =>
    cases success
    exact valid.exits
  | threadReturns =>
    simp only [SandboxState.apply] at success
    split at success
    · next found =>
      cases success
      exact valid.threadReturns found
    · cases success

end

/-! ## Runs -/

theorem valid_initial (strict : Prop) : Valid strict initial where
  core := {
    fresh := fun _ _ => rfl
    listed := fun _ _ found => by cases found
    owned := fun _ _ found => by cases found
    bounded := Nat.zero_le _
    counted := fun _ _ found => by cases found
    known := fun _ _ _ found => by cases found
    returned := fun _ _ found => by cases found
    spared := fun _ _ _ found => by cases found }
  locked := fun _ _ found => by cases found
  phases := fun _ _ found => by cases found

theorem run_valid (events : List SandboxEvent) : Valid False (run events) :=
  Run.invariant (Valid False)
    (fun _ _ _ _ valid success => valid.apply (fun impossible => impossible.elim) success)
    initial events (valid_initial False)

theorem run_valid_where (events : List SandboxEvent)
    (spares : Run.Meets SandboxState.apply SparesReclaimed initial events) :
    Valid True (run events) :=
  Run.invariant_where SparesReclaimed (Valid True)
    (fun _ _ _ _ condition valid success => valid.apply (fun _ => condition) success)
    initial events (valid_initial True) spares

/-- Profiles own their workers whatever the order of the steps; idle reaping and relaunches spare
the requests in flight in every run that hands out no worker they have signalled. -/
theorem sandbox_owns_and_spares_workers (events : List SandboxEvent) :
    (run events).Owned ∧
      (Run.Meets SandboxState.apply SparesReclaimed initial events → (run events).Spared) :=
  ⟨(run_valid events).isOwned, fun spares => (run_valid_where events spares).isSpared⟩

section Example

def exampleKey (number : Nat) : String :=
  "ally-v1-000000000000000000000000000000" ++
    String.ofList [Nat.digitChar (number / 16), Nat.digitChar (number % 16)]

/-- A healthy machine, on which nothing of a profile changes. -/
def calm (now : Int) : Surroundings :=
  ⟨some [(".env", 64, 1001, 210, 5), ("config.yaml", 64, 1002, 900, 5),
    ("SOUL.md", 64, 1003, 80, 5), (".allies-profile.json", 64, 1004, 400, 5)],
    now, 300, true, true, true, .spawned, true⟩

def servedRequest (number : Nat) : List SandboxEvent :=
  [.begin number (.proxy (exampleKey number)), .resume number (calm 0), .resume number (calm 0),
    .resume number (calm 0), .resume number (calm 0)]

/-- Every worker there may be is idle, and the next profile has the oldest of them reaped. -/
def reapingRun : List SandboxEvent :=
  (List.range 16).flatMap servedRequest ++
    [.begin 16 (.proxy (exampleKey 16)), .resume 16 (calm 1000), .resume 16 (calm 1000),
      .resume 16 (calm 1000)]

/-- The caller waits for the stop and is served; so is a profile whose worker still runs. -/
def reapedRun : List SandboxEvent :=
  reapingRun ++
    [.exits 0, .threadReturns 0, .resume 16 (calm 1001), .resume 16 (calm 1001),
      .begin 17 (.proxy (exampleKey 1)), .resume 17 (calm 1002)]

theorem reaped_run_spares_workers : (run reapedRun).Spared :=
  (sandbox_owns_and_spares_workers reapedRun).2 (by decide +kernel)

/-- The caller goes away while the worker is stopped, and the worker is handed out again. -/
def abandonedReap : List SandboxEvent :=
  reapingRun ++
    [.cancel 16, .begin 17 (.proxy (exampleKey 0)), .resume 17 (calm 1001), .exits 0]

/-- A request is in flight to a worker that idle reaping has terminated. -/
theorem abandoned_reap_takes_served_worker : ¬ (run abandonedReap).Spared := by
  intro spared
  have reclaimed : ((run abandonedReap).workers.lookup 0).map SandboxWorker.isReclaimed =
      some true := by
    decide +kernel
  have serving : (run abandonedReap).tasks.lookup 17 =
      some ⟨.proxy (exampleKey 0), .serving 0⟩ := by
    decide +kernel
  obtain ⟨worker, found, isReclaimed⟩ := Option.map_eq_some_iff.mp reclaimed
  have free := spared 0 worker found isReclaimed 17 _ serving
  cases free

end Example

end SandboxState

end Sandbox

end Foundry
