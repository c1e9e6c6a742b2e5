import Foundry.Hermes.Sandbox

/-!
# Sections of the launch lock

What holds of the workers and their tasks between two events, what a task that holds the launch
lock relies on at each await, and that every section under the lock, from one await to the next,
keeps both.
-/

set_option autoImplicit false

namespace Foundry

namespace Sandbox

namespace SandboxState

/-! ## The invariant -/

def weight (number : Nat) (row : SandboxTask) : Nat := if row.serves number then 1 else 0

/-- What holds of the tables between two events; `strict` adds what needs the condition. -/
structure Core (strict : Prop) (state : SandboxState) : Prop where
  fresh : ∀ number, state.spawned ≤ number → state.workers.lookup number = none
  listed : ∀ key number, state.processes.lookup key = some number →
    ∃ worker, state.workers.lookup number = some worker ∧ worker.profileKey = key
  owned : ∀ number worker, state.workers.lookup number = some worker → worker.exited = false →
    state.processes.lookup worker.profileKey = some number
  bounded : state.processes.rows.length ≤ maxActiveProcesses
  counted : ∀ number worker, state.workers.lookup number = some worker →
    state.tasks.total (weight number) = worker.activeRequests
  known : ∀ task row number, state.tasks.lookup task = some row → row.serves number = true →
    number < state.spawned
  returned : ∀ thread row, state.threads.lookup thread = some row → row.stopped = some true →
    ∃ worker, state.workers.lookup row.worker = some worker ∧ worker.exited = true
  spared : strict → ∀ number worker, state.workers.lookup number = some worker →
    worker.isReclaimed = true → worker.activeRequests = 0

section Phases

variable (state : SandboxState)

def Idle (number : Nat) : Prop :=
  ∃ worker, state.workers.lookup number = some worker ∧ worker.activeRequests = 0

def Vacant (key : String) : Prop :=
  ∀ number, state.processes.lookup key = some number →
    ∃ worker, state.workers.lookup number = some worker ∧ worker.exited = true

/-- The worker is the only one that may be registered for its profile. -/
def Own (number : Nat) : Prop :=
  ∃ worker, state.workers.lookup number = some worker ∧
    ∀ other, state.processes.lookup worker.profileKey = some other → other = number

def Stops (thread number : Nat) : Prop :=
  ∃ row, state.threads.lookup thread = some row ∧ row.worker = number

/-- The worker has not been handed out, and was not signalled. -/
def Unready (number : Nat) : Prop :=
  ∃ worker, state.workers.lookup number = some worker ∧ worker.ready = false ∧
    worker.signals = []

def InPhase (key : String) : SandboxPhase → Prop
  | .locking | .serving _ => True
  | .probing _ number => state.processes.lookup key = some number ∧ state.Idle number
  | .relaunching _ number thread =>
    state.processes.lookup key = some number ∧ state.Stops thread number
  | .scanning _ => state.Vacant key
  | .probingIdle _ _ number rest =>
    state.Vacant key ∧ state.Idle number ∧ ∀ other ∈ rest, state.Own other
  | .reaping _ _ number thread rest =>
    state.Vacant key ∧ state.Stops thread number ∧ ∀ other ∈ rest, state.Own other
  | .starting number => state.processes.lookup key = some number ∧ state.Unready number
  | .stopping number thread => state.Stops thread number

end Phases

structure Valid (strict : Prop) (state : SandboxState) : Prop where
  core : Core strict state
  locked : ∀ task row, state.tasks.lookup task = some row → row.phase.holdsLock = true →
    state.holder = some task
  phases : ∀ task row, state.tasks.lookup task = some row →
    state.InPhase row.call.profileKey row.phase

variable {strict : Prop} {state next : SandboxState} {task number : Nat}

/-! ## Changes of one worker -/

theorem workers_setWorker (change : SandboxWorker → SandboxWorker) (other : Nat) :
    (state.setWorker number change).workers.lookup other =
      if other = number then (state.workers.lookup number).map change
      else state.workers.lookup other := by
  unfold setWorker
  split
  · next found => rw [Table.lookup_insert_eq, found, Option.map_some]
  · next absent =>
    split
    · next same => rw [same, absent, Option.map_none]
    · rfl

@[simp] theorem processes_setWorker (change : SandboxWorker → SandboxWorker) :
    (state.setWorker number change).processes = state.processes := by
  unfold setWorker
  split <;> rfl

@[simp] theorem spawned_setWorker (change : SandboxWorker → SandboxWorker) :
    (state.setWorker number change).spawned = state.spawned := by
  unfold setWorker
  split <;> rfl

@[simp] theorem tasks_setWorker (change : SandboxWorker → SandboxWorker) :
    (state.setWorker number change).tasks = state.tasks := by
  unfold setWorker
  split <;> rfl

@[simp] theorem threads_setWorker (change : SandboxWorker → SandboxWorker) :
    (state.setWorker number change).threads = state.threads := by
  unfold setWorker
  split <;> rfl

@[simp] theorem holder_setWorker (change : SandboxWorker → SandboxWorker) :
    (state.setWorker number change).holder = state.holder := by
  unfold setWorker
  split <;> rfl

/-- What becomes of a worker that stays registered as it is. -/
structure Continues (strict : Prop) (before after : SandboxState) (number : Nat)
    (old new : SandboxWorker) : Prop where
  key : new.profileKey = old.profileKey
  exited : old.exited = true → new.exited = true
  counted : before.tasks.total (weight number) = old.activeRequests →
    after.tasks.total (weight number) = new.activeRequests
  spared : strict → (old.isReclaimed = true → old.activeRequests = 0) →
    new.isReclaimed = true → new.activeRequests = 0

def WorkersContinue (strict : Prop) (before after : SandboxState) : Prop :=
  ∀ number, (before.workers.lookup number = none ∧ after.workers.lookup number = none) ∨
    ∃ old new, before.workers.lookup number = some old ∧
      after.workers.lookup number = some new ∧ Continues strict before after number old new

theorem Core.continue (core : Core strict state) (processes : next.processes = state.processes)
    (spawned : next.spawned = state.spawned) (workers : WorkersContinue strict state next)
    (known : ∀ task row number, next.tasks.lookup task = some row → row.serves number = true →
      number < state.spawned)
    (threads : ∀ thread row, next.threads.lookup thread = some row → row.stopped = some true →
      ∃ worker, next.workers.lookup row.worker = some worker ∧ worker.exited = true) :
    Core strict next where
  fresh := by
    intro number large
    rw [spawned] at large
    rcases workers number with ⟨_, absent⟩ | ⟨_, _, found, _⟩
    · exact absent
    · rw [core.fresh number large] at found
      cases found
  listed := by
    intro key number found
    rw [processes] at found
    obtain ⟨_, stored, isKey⟩ := core.listed key number found
    rcases workers number with ⟨absent, _⟩ | ⟨_, new, isOld, isNew, goesOn⟩
    · rw [absent] at stored
      cases stored
    · rw [isOld, Option.some.injEq] at stored
      exact ⟨new, isNew, by rw [goesOn.key, stored, isKey]⟩
  owned := by
    intro number worker found running
    rcases workers number with ⟨_, absent⟩ | ⟨old, _, isOld, isNew, goesOn⟩
    · rw [absent] at found
      cases found
    · cases isNew.symm.trans found
      have before : old.exited = false := by
        cases exited : old.exited with
        | false => rfl
        | true => rw [goesOn.exited exited] at running; cases running
      rw [processes, goesOn.key]
      exact core.owned number old isOld before
  bounded := by
    rw [processes]
    exact core.bounded
  counted := by
    intro number worker found
    rcases workers number with ⟨_, absent⟩ | ⟨old, _, isOld, isNew, goesOn⟩
    · rw [absent] at found
      cases found
    · cases isNew.symm.trans found
      exact goesOn.counted (core.counted number old isOld)
  known := by
    rw [spawned]
    exact known
  returned := threads
  spared := by
    intro isStrict number worker found reclaimed
    rcases workers number with ⟨_, absent⟩ | ⟨old, _, isOld, isNew, goesOn⟩
    · rw [absent] at found
      cases found
    · cases isNew.symm.trans found
      exact goesOn.spared isStrict (core.spared isStrict number old isOld) reclaimed

variable {change : SandboxWorker → SandboxWorker}

theorem workersContinue_setWorker (workers : next.workers = (state.setWorker number change).workers)
    (own : ∀ old, state.workers.lookup number = some old →
      Continues strict state next number old (change old))
    (others : ∀ other, other ≠ number →
      next.tasks.total (weight other) = state.tasks.total (weight other)) :
    WorkersContinue strict state next := by
  intro other
  rw [workers, workers_setWorker]
  cases found : state.workers.lookup other with
  | none =>
    refine .inl ⟨rfl, ?_⟩
    split
    · next same =>
      rw [← same, found]
      rfl
    · rfl
  | some old =>
    refine .inr ⟨old, if other = number then change old else old, rfl, ?_, ?_⟩
    · split
      · next same =>
        rw [← same, found]
        rfl
      · rfl
    · split
      · next same =>
        rw [same] at found ⊢
        exact own old found
      · next different =>
        refine ⟨rfl, id, fun counted => ?_, fun _ before => before⟩
        rw [others other different]
        exact counted

variable {row : StopThread} {thread : Nat}

theorem Core.returned_of_continue (core : Core strict state)
    (workers : WorkersContinue strict state next)
    (found : state.threads.lookup thread = some row) (stopped : row.stopped = some true) :
    ∃ worker, next.workers.lookup row.worker = some worker ∧ worker.exited = true := by
  obtain ⟨_, stored, exited⟩ := core.returned thread row found stopped
  rcases workers row.worker with ⟨absent, _⟩ | ⟨_, new, isOld, isNew, goesOn⟩
  · rw [absent] at stored
    cases stored
  · rw [isOld, Option.some.injEq] at stored
    exact ⟨new, isNew, goesOn.exited (stored ▸ exited)⟩

/-! ## Sections under the lock -/

/-- The task holds the lock, and only its own phase can say so. -/
structure Locked (strict : Prop) (task : Nat) (state : SandboxState) : Prop where
  core : Core strict state
  holder : state.holder = some task
  others : ∀ other row, state.tasks.lookup other = some row → other ≠ task →
    row.phase.holdsLock = false
  own : ∀ row, state.tasks.lookup task = some row → ∀ number, row.serves number = false

theorem inPhase_of_unlocked (state : SandboxState) (key : String) {phase : SandboxPhase}
    (unlocked : phase.holdsLock = false) : state.InPhase key phase := by
  cases phase <;> trivial

theorem Core.withTasks (core : Core strict state) {tasks : Table Nat SandboxTask}
    (holder : Option Nat)
    (totals : ∀ number, tasks.total (weight number) = state.tasks.total (weight number))
    (known : ∀ task row number, tasks.lookup task = some row → row.serves number = true →
      number < state.spawned) :
    Core strict { state with tasks := tasks, holder := holder } where
  fresh := core.fresh
  listed := core.listed
  owned := core.owned
  bounded := core.bounded
  counted := fun number worker found => (totals number).trans (core.counted number worker found)
  known := known
  returned := core.returned
  spared := core.spared

theorem weight_of_not_serves {row : SandboxTask} {number : Nat} (not : row.serves number = false) :
    weight number row = 0 := by
  simp [weight, not]

theorem Core.forget (core : Core strict state) (holder : Option Nat)
    (own : ∀ row, state.tasks.lookup task = some row → ∀ number, row.serves number = false) :
    Core strict { state with tasks := state.tasks.erase task, holder := holder } := by
  refine core.withTasks holder ?_ ?_
  · exact fun number => Table.total_erase_of_zero fun row found =>
      weight_of_not_serves (own row found number)
  · intro other row number found serves
    rw [Table.lookup_erase_eq] at found
    split at found
    · cases found
    · exact core.known other row number found serves

theorem Core.setTask (core : Core strict state) (holder : Option Nat) {row : SandboxTask}
    (own : ∀ row, state.tasks.lookup task = some row → ∀ number, row.serves number = false)
    (free : ∀ number, row.serves number = false) :
    Core strict { state with tasks := state.tasks.insert task row, holder := holder } := by
  refine core.withTasks holder ?_ ?_
  · intro number
    rw [Table.total_insert_of_zero fun old found => weight_of_not_serves (own old found number),
      weight_of_not_serves (free number), Nat.zero_add]
  · intro other stored number found serves
    obtain ⟨_, rfl⟩ | ⟨_, found⟩ := Table.cases_insert found
    · rw [free number] at serves
      cases serves
    · exact core.known other stored number found serves

theorem Locked.release (locked : Locked strict task state) : Valid strict (state.release task) where
  core := locked.core.forget none locked.own
  locked := by
    intro other row found holds
    change (AList.erase task state.tasks).lookup other = some row at found
    rw [Table.lookup_erase_eq] at found
    split at found
    · cases found
    · next different =>
      rw [locked.others other row found different] at holds
      cases holds
  phases := by
    intro other row found
    change (AList.erase task state.tasks).lookup other = some row at found
    rw [Table.lookup_erase_eq] at found
    split at found
    · cases found
    · next different => exact inPhase_of_unlocked _ _ (locked.others other row found different)

theorem serves_of_holdsLock {row : SandboxTask} (holds : row.phase.holdsLock = true)
    (number : Nat) : row.serves number = false := by
  rw [SandboxTask.serves, decide_eq_false_iff_not]
  intro serving
  rw [serving] at holds
  cases holds

theorem Locked.setTask (locked : Locked strict task state) {row : SandboxTask}
    (holds : row.phase.holdsLock = true) (inPhase : state.InPhase row.call.profileKey row.phase) :
    Valid strict (state.setTask task row) where
  core := locked.core.setTask state.holder locked.own (serves_of_holdsLock holds)
  locked := by
    intro other stored found holdsLock
    change (state.tasks.insert task row).lookup other = some stored at found
    obtain ⟨same, _⟩ | ⟨different, found⟩ := Table.cases_insert found
    · rw [same]
      exact locked.holder
    · rw [locked.others other stored found different] at holdsLock
      cases holdsLock
  phases := by
    intro other stored found
    change (state.tasks.insert task row).lookup other = some stored at found
    obtain ⟨_, rfl⟩ | ⟨different, found⟩ := Table.cases_insert found
    · exact inPhase
    · exact inPhase_of_unlocked _ _ (locked.others other stored found different)

theorem Locked.startStop (locked : Locked strict task state) (reason : StopReason)
    (idle : reason.reclaims = true → state.Idle number) :
    Locked strict task (state.startStop reason number) := by
  have continues : WorkersContinue strict state (state.startStop reason number) := by
    refine workersContinue_setWorker rfl ?_ fun other _ => ?_
    · intro old found
      refine ⟨?_, ?_, ?_, ?_⟩
      · split <;> rfl
      · intro exited
        rw [if_pos exited]
        exact exited
      · intro counted
        simp only [SandboxState.startStop, tasks_setWorker]
        rw [counted]
        split <;> rfl
      · intro _ before reclaimed
        split at reclaimed
        · next exited =>
          rw [if_pos exited]
          exact before reclaimed
        · next running =>
          rw [if_neg running]
          simp only [SandboxWorker.isReclaimed, List.any_cons, Bool.or_eq_true] at reclaimed
          rcases reclaimed with reclaims | earlier
          · obtain ⟨_, stored, free⟩ := idle reclaims
            rw [found, Option.some.injEq] at stored
            rw [stored]
            exact free
          · exact before earlier
    · simp only [SandboxState.startStop, tasks_setWorker]
  refine ⟨locked.core.continue ?_ ?_ continues ?_ ?_, ?_, ?_, ?_⟩
  · simp only [SandboxState.startStop, processes_setWorker]
  · simp only [SandboxState.startStop, spawned_setWorker]
  · simp only [SandboxState.startStop, tasks_setWorker]
    exact locked.core.known
  · intro thread row found stopped
    simp only [SandboxState.startStop] at found
    obtain ⟨_, rfl⟩ | ⟨_, found⟩ := Table.cases_insert found
    · cases stopped
    · exact locked.core.returned_of_continue continues found stopped
  · simp only [SandboxState.startStop, holder_setWorker]
    exact locked.holder
  · simp only [SandboxState.startStop, tasks_setWorker]
    exact locked.others
  · simp only [SandboxState.startStop, tasks_setWorker]
    exact locked.own

theorem stops_startStop (state : SandboxState) (reason : StopReason) (number : Nat) :
    (state.startStop reason number).Stops state.threadCount number := by
  refine ⟨⟨number, none⟩, ?_, rfl⟩
  simp only [SandboxState.startStop]
  rw [Table.lookup_insert_eq, if_pos rfl]

theorem Locked.drop (locked : Locked strict task state) {key : String} (vacant : state.Vacant key) :
    Locked strict task (state.drop key) where
  core := {
    fresh := locked.core.fresh
    listed := by
      intro other number found
      simp only [SandboxState.drop] at found
      rw [Table.lookup_erase_eq] at found
      split at found
      · cases found
      · exact locked.core.listed other number found
    owned := by
      intro number worker found running
      have before := locked.core.owned number worker found running
      simp only [SandboxState.drop]
      rw [Table.lookup_erase_eq]
      split
      · next same =>
        rw [same] at before
        obtain ⟨_, isStored, exited⟩ := vacant number before
        cases found.symm.trans isStored
        rw [running] at exited
        cases exited
      · exact before
    bounded := by
      have fewer := Table.total_erase_le (fun _ => 1) key state.processes
      rw [← Table.length_rows, ← Table.length_rows] at fewer
      exact fewer.trans locked.core.bounded
    counted := locked.core.counted
    known := locked.core.known
    returned := locked.core.returned
    spared := locked.core.spared }
  holder := locked.holder
  others := locked.others
  own := locked.own

theorem lookup_drop {key other : String}
    (found : (state.drop key).processes.lookup other = some number) :
    state.processes.lookup other = some number := by
  simp only [SandboxState.drop] at found
  rw [Table.lookup_erase_eq] at found
  split at found
  · cases found
  · exact found

theorem Vacant.drop {key other : String} (vacant : state.Vacant key) :
    (state.drop other).Vacant key :=
  fun number found => vacant number (lookup_drop found)

theorem Own.drop {key : String} (own : state.Own number) : (state.drop key).Own number := by
  obtain ⟨worker, found, only⟩ := own
  exact ⟨worker, found, fun other listed => only other (lookup_drop listed)⟩

theorem dropStopped_cases (state : SandboxState) (number : Nat) :
    state.dropStopped number = state ∨
      ∃ worker, state.workers.lookup number = some worker ∧
        state.processes.lookup worker.profileKey = some number ∧
        state.dropStopped number = state.drop worker.profileKey := by
  unfold dropStopped
  split
  · next worker found =>
    split
    · next listed => exact .inr ⟨worker, found, listed, rfl⟩
    · exact .inl rfl
  · exact .inl rfl

theorem Locked.dropStopped (locked : Locked strict task state)
    (found : state.threads.lookup thread = some row) (isWorker : row.worker = number)
    (stopped : Bool) (returned : row.stopped = some stopped) :
    Locked strict task (if stopped then state.dropStopped number else state) ∧
      (∀ key, state.Vacant key →
        (if stopped then state.dropStopped number else state).Vacant key) ∧
      ∀ other, state.Own other →
        (if stopped then state.dropStopped number else state).Own other := by
  cases stopped with
  | false => exact ⟨locked, fun _ vacant => vacant, fun _ own => own⟩
  | true =>
    simp only [if_true]
    obtain ⟨worker, stored, exited⟩ := locked.core.returned thread row found returned
    rw [isWorker] at stored
    rcases dropStopped_cases state number with same | ⟨_, _, listed, same⟩
    · rw [same]
      exact ⟨locked, fun _ vacant => vacant, fun _ own => own⟩
    · rw [same]
      refine ⟨locked.drop ?_, fun _ vacant => vacant.drop, fun _ own => own.drop⟩
      intro registered isRegistered
      rw [listed, Option.some.injEq] at isRegistered
      rw [← isRegistered]
      exact ⟨worker, stored, exited⟩

theorem Locked.stopAndRelease (locked : Locked strict task state) (call : SandboxCall)
    {reason : StopReason} (keeps : reason.reclaims = false) :
    Valid strict (state.stopAndRelease task call reason number) := by
  have stops : Locked strict task (state.startStop reason number) :=
    locked.startStop reason fun reclaims => by
      rw [keeps] at reclaims
      cases reclaims
  exact stops.setTask rfl (stops_startStop state reason number)

/-! ## The parts of `ensure` -/

theorem Locked.setWorker (locked : Locked strict task state)
    (key : ∀ worker, (change worker).profileKey = worker.profileKey)
    (exited : ∀ worker, (change worker).exited = worker.exited)
    (requests : ∀ worker, (change worker).activeRequests = worker.activeRequests)
    (signals : ∀ worker, (change worker).signals = worker.signals) :
    Locked strict task (state.setWorker number change) := by
  have continues : WorkersContinue strict state (state.setWorker number change) := by
    refine workersContinue_setWorker rfl ?_ fun other _ => by rw [tasks_setWorker]
    intro old found
    refine ⟨key old, fun gone => (exited old).trans gone, fun counted => ?_, ?_⟩
    · rw [tasks_setWorker, counted, requests]
    · intro _ before reclaimed
      rw [SandboxWorker.isReclaimed, signals] at reclaimed
      rw [requests]
      exact before reclaimed
  refine ⟨locked.core.continue (processes_setWorker _) (spawned_setWorker _) continues ?_ ?_,
    ?_, ?_, ?_⟩
  · rw [tasks_setWorker]
    exact locked.core.known
  · intro thread row found stopped
    rw [threads_setWorker] at found
    exact locked.core.returned_of_continue continues found stopped
  · rw [holder_setWorker]
    exact locked.holder
  · rw [tasks_setWorker]
    exact locked.others
  · rw [tasks_setWorker]
    exact locked.own

theorem setWorker_setWorker (first second : SandboxWorker → SandboxWorker) :
    (state.setWorker number first).setWorker number second =
      state.setWorker number (second ∘ first) := by
  cases found : state.workers.lookup number with
  | none => simp [SandboxState.setWorker, found]
  | some => simp [SandboxState.setWorker, found, AList.insert_insert]

variable {worker : SandboxWorker}

theorem Locked.leave (locked : Locked strict task state) (call : SandboxCall) (now : Int) (found : state.workers.lookup number = some worker)
    (spared : strict → call.isProxied = true → worker.isReclaimed = false) :
    Valid strict (state.leave task call number now) := by
  have touched : Locked strict task
      (state.setWorker number fun worker => { worker with lastUsed := now }) :=
    locked.setWorker (fun _ => rfl) (fun _ => rfl) (fun _ => rfl) (fun _ => rfl)
  cases call with
  | ensure | stop => exact touched.release
  | proxy key =>
    have serves : ∀ other, (SandboxTask.mk (.proxy key) (.serving number)).serves other = true ↔
        other = number := by
      intro other
      simp [SandboxTask.serves, eq_comm]
    have added : ∀ other, weight other ⟨.proxy key, .serving number⟩ +
        state.tasks.total (weight other) =
          Table.total (weight other) (state.tasks.insert task ⟨.proxy key, .serving number⟩) :=
      fun other => (Table.total_insert_of_zero fun old listed =>
        weight_of_not_serves (locked.own old listed other)).symm
    have continues : WorkersContinue strict state (state.leave task (.proxy key) number now) := by
      refine workersContinue_setWorker (by
        simp only [SandboxState.leave]
        rw [setWorker_setWorker]) ?_ ?_
      · intro old isOld
        cases found.symm.trans isOld
        refine ⟨rfl, id, fun counted => ?_, fun isStrict _ reclaimed => ?_⟩
        · simp only [SandboxState.leave]
          rw [← added number, counted, weight, if_pos ((serves number).mpr rfl), Nat.add_comm]
          rfl
        · have kept := spared isStrict rfl
          change worker.isReclaimed = true at reclaimed
          rw [kept] at reclaimed
          cases reclaimed
      · intro other different
        simp only [SandboxState.leave]
        rw [← added other, weight, if_neg (fun same => different ((serves other).mp same)),
          Nat.zero_add]
    constructor
    · refine locked.core.continue ?_ ?_ continues ?_ ?_
      · simp only [SandboxState.leave, processes_setWorker]
      · simp only [SandboxState.leave, spawned_setWorker]
      · intro other row served listed isServed
        simp only [SandboxState.leave] at listed
        obtain ⟨_, rfl⟩ | ⟨_, listed⟩ := Table.cases_insert listed
        · rw [(serves served).mp isServed]
          by_contra large
          rw [locked.core.fresh number (Nat.le_of_not_lt large)] at found
          cases found
        · exact locked.core.known other row served listed isServed
      · intro thread row listed stopped
        simp only [SandboxState.leave, threads_setWorker] at listed
        exact locked.core.returned_of_continue continues listed stopped
    · intro other row listed holds
      simp only [SandboxState.leave] at listed
      obtain ⟨_, rfl⟩ | ⟨different, listed⟩ := Table.cases_insert listed
      · cases holds
      · rw [locked.others other row listed different] at holds
        cases holds
    · intro other row listed
      simp only [SandboxState.leave] at listed
      obtain ⟨_, rfl⟩ | ⟨different, listed⟩ := Table.cases_insert listed
      · trivial
      · exact inPhase_of_unlocked _ _ (locked.others other row listed different)

theorem Locked.spawn (locked : Locked strict task state) {key : String}
    {signature : ManagedSignature} {now : Int} (vacant : state.Vacant key)
    (room : state.processes.rows.length < maxActiveProcesses) :
    Locked strict task { state with
      workers := state.workers.insert state.spawned ⟨key, signature, now, 0, false, false, []⟩
      processes := state.processes.insert key state.spawned
      spawned := state.spawned + 1 } := by
  have old : ∀ {number : Nat} {worker : SandboxWorker}, state.workers.lookup number = some worker →
      number ≠ state.spawned := by
    rintro _ _ found rfl
    rw [locked.core.fresh _ (Nat.le_refl _)] at found
    cases found
  have stays : ∀ {number : Nat} {worker : SandboxWorker},
      state.workers.lookup number = some worker →
      AList.lookup number
        (state.workers.insert state.spawned ⟨key, signature, now, 0, false, false, []⟩) =
          some worker := by
    intro number worker found
    rw [Table.lookup_insert_eq, if_neg (old found)]
    exact found
  refine ⟨?_, locked.holder, locked.others, locked.own⟩
  constructor
  · intro number large
    rw [Table.lookup_insert_eq, if_neg (Nat.ne_of_gt large)]
    exact locked.core.fresh number (Nat.le_of_succ_le large)
  · intro other number found
    obtain ⟨same, rfl⟩ | ⟨_, found⟩ := Table.cases_insert found
    · rw [same]
      exact ⟨_, by rw [Table.lookup_insert_eq, if_pos rfl], rfl⟩
    · obtain ⟨worker, isWorker, isKey⟩ := locked.core.listed other number found
      exact ⟨worker, stays isWorker, isKey⟩
  · intro number worker found running
    rw [Table.lookup_insert_eq] at found
    rw [Table.lookup_insert_eq]
    split at found
    · next same =>
      cases found
      rw [if_pos rfl, same]
    · have before := locked.core.owned number worker found running
      split
      · next same =>
        rw [same] at before
        obtain ⟨_, isStored, exited⟩ := vacant number before
        rw [found, Option.some.injEq] at isStored
        rw [← isStored, running] at exited
        cases exited
      · exact before
  · change (Table.rows (state.processes.insert key state.spawned)).length ≤ maxActiveProcesses
    rw [Table.length_rows]
    cases present : state.processes.lookup key with
    | none =>
      rw [Table.total_insert_of_none present, ← Table.length_rows]
      exact room
    | some =>
      refine (Table.total_insert_le present (Nat.le_refl 1)).trans ?_
      rw [← Table.length_rows]
      exact Nat.le_of_lt room
  · intro number worker found
    obtain ⟨same, rfl⟩ | ⟨_, found⟩ := Table.cases_insert found
    · refine Table.total_eq_zero fun other row listed => weight_of_not_serves ?_
      cases serves : row.serves number with
      | false => rfl
      | true =>
        have small := locked.core.known other row number listed serves
        rw [same] at small
        exact absurd small (Nat.lt_irrefl _)
    · exact locked.core.counted number worker found
  · intro other row number listed serves
    exact Nat.lt_succ_of_lt (locked.core.known other row number listed serves)
  · intro thread row listed stopped
    obtain ⟨worker, found, exited⟩ := locked.core.returned thread row listed stopped
    exact ⟨worker, stays found, exited⟩
  · intro isStrict number worker found reclaimed
    obtain ⟨_, rfl⟩ | ⟨_, found⟩ := Table.cases_insert found
    · cases reclaimed
    · exact locked.core.spared isStrict number worker found reclaimed

theorem existing_eq_some {key : String} :
    state.existing key = some (number, worker) ↔
      state.processes.lookup key = some number ∧ state.workers.lookup number = some worker := by
  simp only [SandboxState.existing, Option.bind_eq_bind, Option.bind_eq_some_iff, Option.pure_def,
    Option.some.injEq, Prod.mk.injEq]
  constructor
  · rintro ⟨_, listed, _, found, rfl, rfl⟩
    exact ⟨listed, found⟩
  · rintro ⟨listed, found⟩
    exact ⟨number, listed, worker, found, rfl, rfl⟩

theorem Core.vacant_of_none (core : Core strict state) {key : String}
    (absent : state.existing key = none) : state.Vacant key := by
  intro number listed
  obtain ⟨_, found, _⟩ := core.listed key number listed
  rw [existing_eq_some.mpr ⟨listed, found⟩] at absent
  cases absent

theorem vacant_of_exited {key : String}
    (found : state.existing key = some (number, worker)) (exited : worker.exited = true) :
    state.Vacant key := by
  obtain ⟨listed, stored⟩ := existing_eq_some.mp found
  intro other isOther
  rw [listed, Option.some.injEq] at isOther
  rw [← isOther]
  exact ⟨worker, stored, exited⟩

theorem Locked.launch (locked : Locked strict task state) (call : SandboxCall)
    (around : Surroundings) (signature : ManagedSignature) (vacant : state.Vacant call.profileKey) :
    Valid strict (state.launch task call around signature) := by
  unfold SandboxState.launch
  split
  · exact locked.release
  · next room =>
    split
    · exact locked.release
    · split
      · split
        · exact locked.release
        · exact locked.stopAndRelease call rfl
      · exact locked.release
    · have spawned := @Locked.spawn strict state task locked call.profileKey signature around.now
        vacant (Nat.lt_of_not_le room)
      refine @Locked.setTask strict _ task spawned ⟨call, .starting state.spawned⟩ rfl ⟨?_, ?_⟩
      · exact (Table.lookup_insert_eq ..).trans (if_pos rfl)
      · exact ⟨_, (Table.lookup_insert_eq ..).trans (if_pos rfl), rfl, rfl⟩

theorem Locked.reapFrom (call : SandboxCall) (around : Surroundings)
    (signature : ManagedSignature) (now : Int) (rest : List Nat)
    (locked : Locked strict task state) (vacant : state.Vacant call.profileKey)
    (own : ∀ number ∈ rest, state.Own number) :
    Valid strict (reapFrom task call around signature now rest state) := by
  induction rest generalizing state with
  | nil => exact locked.launch call around signature vacant
  | cons number rest ih =>
    have others : ∀ other ∈ rest, state.Own other :=
      fun other member => own other (List.mem_cons_of_mem number member)
    unfold SandboxState.reapFrom
    split
    · exact locked.launch call around signature vacant
    · split
      · exact ih locked vacant others
      · next worker found =>
        split
        · exact ih locked vacant others
        · next free =>
          rw [not_or, not_not] at free
          split
          · next exited =>
            refine ih (locked.drop ?_) vacant.drop fun other member =>
              (others other member).drop
            obtain ⟨_, isStored, only⟩ := own number List.mem_cons_self
            rw [found, Option.some.injEq] at isStored
            intro registered listed
            rw [isStored] at listed
            rw [only registered listed]
            exact ⟨worker, found, exited⟩
          · split
            · exact ih locked vacant others
            · exact locked.setTask rfl ⟨vacant, ⟨worker, found, free.1⟩, others⟩

theorem Core.own_of_candidate (core : Core strict state) (member : number ∈ state.candidates) :
    state.Own number := by
  rw [candidates, List.mem_insertionSort, List.mem_reverse] at member
  obtain ⟨row, isRow, rfl⟩ := List.mem_map.mp member
  have listed := (Table.mem_rows _ _ _).mp isRow
  obtain ⟨worker, found, isKey⟩ := core.listed row.1 row.2 listed
  refine ⟨worker, found, fun other isOther => ?_⟩
  rw [isKey, listed, Option.some.injEq] at isOther
  exact isOther.symm

section

variable (locked : Locked strict task state) (call : SandboxCall)

include locked

theorem Locked.afterScan
    (around : Surroundings) (signature : ManagedSignature) (vacant : state.Vacant call.profileKey) :
    Valid strict (state.afterScan task call around signature) := by
  unfold SandboxState.afterScan
  split
  · exact locked.release
  · split
    · exact locked.launch call around signature vacant
    · exact Locked.reapFrom call around signature around.now _ locked vacant
        fun number member => locked.core.own_of_candidate member

theorem Locked.ensureLocked (around : Surroundings)
    (spares : strict → call.isProxied = true → ∀ signature, around.signature = some signature →
      ∀ number worker, state.existing call.profileKey = some (number, worker) →
        worker.exited = false → worker.ready = true → worker.managedSignature = signature →
        worker.isReclaimed = false) :
    Valid strict (state.ensureLocked task call around) := by
  unfold SandboxState.ensureLocked
  split
  · exact locked.release
  · next signature isSignature =>
    split
    · next absent => exact locked.setTask rfl (locked.core.vacant_of_none absent)
    · next number worker found =>
      obtain ⟨listed, stored⟩ := existing_eq_some.mp found
      split
      · next exited => exact locked.setTask rfl (vacant_of_exited found exited)
      · next running =>
        rw [Bool.not_eq_true] at running
        split
        · exact locked.release
        · next ready =>
          rw [Bool.not_eq_true', Bool.not_eq_false] at ready
          split
          · next same =>
            exact locked.leave call around.now stored fun isStrict proxied =>
              spares isStrict proxied signature isSignature number worker found running
                ready same
          · split
            · exact locked.release
            · next free =>
              rw [not_or, not_not] at free
              exact locked.setTask rfl ⟨listed, worker, stored, free.1⟩

theorem Locked.stopLocked :
    Valid strict (state.stopLocked task call) := by
  unfold SandboxState.stopLocked
  split
  · exact locked.release
  · exact locked.stopAndRelease call rfl

end

end SandboxState

end Sandbox

end Foundry
