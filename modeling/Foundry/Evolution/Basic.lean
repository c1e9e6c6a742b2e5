import Foundry.Evolution.Writes

/-!
# What the writes do to Executions and generations

Along the writes of a call the Executions evolve by changes of this call, and no
Workspace goes back to an earlier generation or disappears.
-/

set_option autoImplicit false

namespace Foundry

open Population Raise
open Relation (ReflTransGen)

variable {D : Type}

/-- The Executions, with the counter their identifiers are drawn from. -/
def Db.population (db : Db D) : Population (Execution D) where
  supply := db.supply
  units := db.executions

def Db.WorkspacesNumbered (db : Db D) : Prop :=
  ∀ id workspace, db.workspaces.lookup id = some workspace → id < db.supply

/-- Every Workspace is still there, related to what it was, and new ones have fresh
identifiers. -/
def WorkspacesContinue (Related : Workspace → Workspace → Prop) (db next : Db D) : Prop :=
  db.WorkspacesNumbered → next.WorkspacesNumbered ∧
    ∀ id workspace, db.workspaces.lookup id = some workspace →
      ∃ later, next.workspaces.lookup id = some later ∧ Related workspace later

def GenerationsGrow (db next : Db D) : Prop :=
  WorkspacesContinue (fun workspace later =>
    workspace.machineGeneration ≤ later.machineGeneration) db next

namespace WorkspacesContinue

variable {Related : Workspace → Workspace → Prop} {db next : Db D}

theorem of_eq (reflexive : ∀ workspace, Related workspace workspace)
    (same : next.workspaces = db.workspaces) (supply : db.supply ≤ next.supply) :
    WorkspacesContinue Related db next := by
  intro numbered
  constructor
  · intro id workspace stored
    rw [same] at stored
    exact Nat.lt_of_lt_of_le (numbered id workspace stored) supply
  · intro id workspace stored
    exact ⟨workspace, by rw [same]; exact stored, reflexive workspace⟩

theorem trans (Related : Workspace → Workspace → Prop) (transitive : ∀ {first second third},
      Related first second → Related second third → Related first third)
    {first second third : Db D} (earlier : WorkspacesContinue Related first second)
    (later : WorkspacesContinue Related second third) :
    WorkspacesContinue Related first third := by
  intro numbered
  obtain ⟨numbered, grown⟩ := earlier numbered
  obtain ⟨numbered, grows⟩ := later numbered
  refine ⟨numbered, ?_⟩
  intro id workspace stored
  obtain ⟨middle, found, first⟩ := grown id workspace stored
  obtain ⟨last, present, second⟩ := grows id middle found
  exact ⟨last, present, transitive first second⟩

section

variable (reflexive : ∀ workspace, Related workspace workspace)

include reflexive

theorem of_insert {id : Uuid}
    {workspace later : Workspace}
    (stored : db.workspaces.lookup id = some workspace) (related : Related workspace later)
    (same : next.workspaces = db.workspaces.insert id later)
    (supply : db.supply ≤ next.supply) : WorkspacesContinue Related db next := by
  intro numbered
  constructor
  · intro other row found
    rw [same] at found
    obtain ⟨rfl, _⟩ | ⟨_, found⟩ := Table.cases_insert found
    · exact Nat.lt_of_lt_of_le (numbered other workspace stored) supply
    · exact Nat.lt_of_lt_of_le (numbered other row found) supply
  · intro other row found
    rw [same, Table.lookup_insert_eq]
    by_cases isSame : other = id
    · subst isSame
      cases stored.symm.trans found
      exact ⟨later, by simp, related⟩
    · exact ⟨row, by simp [isSame, found], reflexive row⟩

theorem of_new (workspace : Workspace)
    (same : next.workspaces = db.workspaces.insert db.supply workspace)
    (supply : db.supply < next.supply) : WorkspacesContinue Related db next := by
  intro numbered
  constructor
  · intro id row found
    rw [same] at found
    obtain ⟨isNew, _⟩ | ⟨_, found⟩ := Table.cases_insert found
    · rw [isNew]
      exact supply
    · exact Nat.lt_trans (numbered id row found) supply
  · intro id row found
    have known := numbered id row found
    rw [same, Table.lookup_insert_eq, if_neg (Nat.ne_of_lt known)]
    exact ⟨row, found, reflexive row⟩

end

end WorkspacesContinue

theorem GenerationsGrow.refl (db : Db D) : GenerationsGrow db db :=
  .of_eq (fun _ => Nat.le_refl _) rfl (Nat.le_refl _)

theorem GenerationsGrow.trans {first second third : Db D}
    (earlier : GenerationsGrow first second) (later : GenerationsGrow second third) :
    GenerationsGrow first third :=
  WorkspacesContinue.trans
    (fun workspace later => workspace.machineGeneration ≤ later.machineGeneration)
    (fun first second => Nat.le_trans first second) earlier later

/-! ## Outbox rows and approvals of a released attempt -/

/-- The outbox rows of events an attempt stores, built on the rows before them. -/
def publishEvents (env : Env D) (id : AttemptId) (execution : Execution D) (attempt : Attempt D)
    (events : List (ExecutionEvent D)) (deliveries : Table DeliveryId ExecutionEventDelivery) :
    Except RuntimeError (Table DeliveryId ExecutionEventDelivery) :=
  events.foldlM (fun deliveries event => enqueueEventDelivery env id execution attempt event
    deliveries) deliveries

theorem publishEvents_single (env : Env D) (id : AttemptId) (execution : Execution D)
    (attempt : Attempt D) (event : ExecutionEvent D)
    (deliveries : Table DeliveryId ExecutionEventDelivery) :
    publishEvents env id execution attempt [event] deliveries =
      enqueueEventDelivery env id execution attempt event deliveries := by
  simp [publishEvents]

theorem cancelLiveApproval_isLive (now : Instant) (approval : ApprovalRequest) :
    (cancelLiveApproval now approval).status.isLive = false := by
  simp only [cancelLiveApproval]
  split
  · split
    · rfl
    · split
      · rfl
      · cases status : (reconcileApproval now approval).status <;>
          simp_all [ApprovalRequestStatus.isLive]
  · cases status : approval.status <;> simp_all [ApprovalRequestStatus.isLive]

theorem cancelLiveApprovalRequests_settled (now : Instant) (id : AttemptId) (db : Db D) :
    Db.ApprovalsSettled
      { db with approvals := cancelLiveApprovalRequests now id db.approvals } id := by
  intro request approval stored belongs
  simp only [cancelLiveApprovalRequests, Table.lookup_updateAll, Option.map_eq_some_iff] at stored
  obtain ⟨given, _, rfl⟩ := stored
  by_cases same : given.attempt = id
  · rw [if_pos same]
    exact cancelLiveApproval_isLive now given
  · rw [if_neg same] at belongs
    exact absurd belongs same

section

variable [DecidableEq D] {env : Env D} {call : Call D} {start db next : Db D}

theorem Write.units (write : Write env call start db next) :
    Evolves (Born call) (Change env call start) db.population next.population := by
  cases write with
  | draw | registerWorkspace => exact .frame rfl (Nat.le_succ _)
  | create execution _ birth => exact .create execution birth rfl (Nat.lt_succ_self _)
  | move id execution attempt moved status routine stored found move =>
    exact .write id.execution execution _ stored
      (.move id.number attempt moved status routine found move) rfl (Nat.le_refl _)
  | grant _ _ _ id execution next _ _ _ stored _ _ change =>
    exact .write id execution next stored change rfl (Nat.le_refl _)
  | stopLeases profile service =>
    exact .sweep
      (fun _ _ => .stopLeases profile service) rfl (Nat.le_refl _)
  | decideApproval _ _ _ _ decides =>
    obtain ⟨_, rfl⟩ := recordApprovalDecision_frame decides
    exact .frame rfl (Nat.le_refl _)
  | compareAndSet _ _ _ _ _ _ _ sets =>
    obtain ⟨_, rfl⟩ := compareAndSetSession_frame sets
    exact .frame rfl (Nat.le_refl _)
  | purge _ profileId _ _ _ _ _ _ _ _ purges =>
    simp only [purgeProfile, bind_eq_ok, pure_eq_ok] at purges
    obtain ⟨_, _, _, _, rfl⟩ := purges
    exact .remove (fun _ execution => execution.profile ≠ profileId) rfl (Nat.le_refl _)
  | _ => exact .frame rfl (Nat.le_refl _)

theorem Write.workspacesContinue (write : Write env call start db next)
    (Related : Workspace → Workspace → Prop) (reflexive : ∀ workspace, Related workspace workspace)
    (step : ∀ id workspace later, WorkspaceStep env call start db id workspace later →
      Related workspace later) : WorkspacesContinue Related db next := by
  cases write with
  | draw | create => exact .of_eq reflexive rfl (Nat.le_succ _)
  | registerWorkspace => exact .of_new reflexive _ rfl (Nat.lt_succ_self _)
  | workspace id workspace later stored steps =>
    exact .of_insert reflexive stored (step id workspace later steps) rfl
      (Nat.le_refl _)
  | decideApproval _ _ _ _ decides =>
    obtain ⟨_, rfl⟩ := recordApprovalDecision_frame decides
    exact .of_eq reflexive rfl (Nat.le_refl _)
  | compareAndSet _ _ _ _ _ _ _ sets =>
    obtain ⟨_, rfl⟩ := compareAndSetSession_frame sets
    exact .of_eq reflexive rfl (Nat.le_refl _)
  | purge workspaceId _ workspace _ _ service known _ _ _ purges =>
    simp only [purgeProfile, bind_eq_ok, pure_eq_ok] at purges
    obtain ⟨_, _, _, _, rfl⟩ := purges
    exact .of_insert reflexive known
      (step workspaceId workspace _ (.activity (by rw [service]; rfl))) rfl (Nat.le_refl _)
  | _ => exact .of_eq reflexive rfl (Nat.le_refl _)

namespace Evolution

section

variable (evolution : Evolution env call start db next)

include evolution

theorem units :
    Evolves (Born call) (Change env call start) db.population next.population :=
  evolution.relates
    (fun db next => Evolves (Born call) (Change env call start) db.population next.population)
    (fun _ => .refl _) Evolves.trans fun _ _ => Write.units

theorem workspacesContinue (Related : Workspace → Workspace → Prop)
    (reflexive : ∀ workspace, Related workspace workspace) (transitive : ∀ {first second third},
      Related first second → Related second third → Related first third)
    (step : ∀ db id workspace later, WorkspaceStep env call start db id workspace later →
      Related workspace later) : WorkspacesContinue Related db next :=
  evolution.relates (WorkspacesContinue Related) (fun _ => .of_eq reflexive rfl (Nat.le_refl _))
    (.trans Related transitive) fun db _ write =>
      write.workspacesContinue Related reflexive (step db)

theorem generations : GenerationsGrow db next :=
  evolution.workspacesContinue _ (fun _ => Nat.le_refl _) Nat.le_trans
    fun _ _ _ _ => WorkspaceStep.grows

end

/-! ## Shared sequences of writes -/

theorem draw (db : Db D) : Evolution env call start db db.draw :=
  .single .draw

theorem workspace (id : Uuid) (workspace later : Workspace)
    (stored : db.workspaces.lookup id = some workspace)
    (step : WorkspaceStep env call start db id workspace later) :
    Evolution env call start db (db.putWorkspace id later) :=
  .single (.workspace id workspace later stored step)

theorem wake (id operationId : Uuid) (workspace woken : Workspace)
    (drawn : start.Drew db operationId) (stored : db.workspaces.lookup id = some workspace)
    (wakes : requestExecutionWakeLocked env call.now operationId workspace = .ok woken) :
    Evolution env call start db (db.putWorkspace id woken) :=
  Evolution.workspace id workspace woken stored (.wake operationId woken drawn wakes)

theorem activity (id : Uuid) (workspace : Workspace)
    (advances : call.operation.service.advancesActivity = true)
    (stored : db.workspaces.lookup id = some workspace) :
    Evolution env call start db (db.putWorkspace id (advanceWorkspaceActivity workspace)) :=
  Evolution.workspace id workspace _ stored (.activity advances)

theorem activeWake {id operationId : Uuid} {workspace woken : Workspace}
    (advances : call.operation.service.advancesActivity = true)
    (drawn : start.Drew db operationId) (stored : db.workspaces.lookup id = some workspace)
    (wakes : requestExecutionWakeLocked env call.now operationId
      (advanceWorkspaceActivity workspace) = .ok woken) :
    Evolution env call start db (db.putWorkspace id woken) := by
  have active : Evolution env call start db _ := activity id workspace advances stored
  have awake := active.trans (wake id operationId _ woken drawn (AList.lookup_insert _) wakes)
  rwa [Db.putWorkspace_again] at awake

section

variable (id : AttemptId) (former later : Execution D) (attempt kept : Attempt D)

theorem enqueue (event : ExecutionEvent D) (deliveries : Table DeliveryId ExecutionEventDelivery)
    (stored : db.executions.lookup id.execution = some later)
    (chain : ReflTransGen (Change env call start id.execution) former later)
    (found : former.attempt? id.number = some attempt) (held : later.attempt? id.number = some kept)
    (known : kept.findEvent event.eventId = some event)
    (success : enqueueEventDelivery env id former attempt event db.deliveries = .ok deliveries) :
    Evolution env call start db { db with deliveries := deliveries } := by
  simp only [enqueueEventDelivery, bind_eq_ok] at success
  obtain ⟨built, isBuilt, success⟩ := success
  cases built with
  | none =>
    cases success
    exact .refl db
  | some envelope =>
    cases row : db.deliveries.lookup (id, event.eventId) with
    | some =>
      simp only [row, bind_eq_ok, pure_eq_ok] at success
      obtain ⟨_, _, rfl⟩ := success
      exact .refl db
    | none =>
      simp only [row, pure_eq_ok] at success
      subst success
      exact .single (.enqueue id former later attempt kept event envelope stored chain found
        held known isBuilt row)

theorem publish
    (events : List (ExecutionEvent D)) (deliveries : Table DeliveryId ExecutionEventDelivery)
    (stored : db.executions.lookup id.execution = some later)
    (change : Change env call start id.execution former later)
    (found : former.attempt? id.number = some attempt) (held : later.attempt? id.number = some kept)
    (known : ∀ event ∈ events, kept.findEvent event.eventId = some event)
    (success : publishEvents env id former attempt events db.deliveries = .ok deliveries) :
    Evolution env call start db { db with deliveries := deliveries } := by
  induction events generalizing db with
  | nil =>
    simp only [publishEvents, List.foldlM_nil, pure_eq_ok] at success
    subst success
    exact .refl db
  | cons event _ ih =>
    simp only [publishEvents, List.foldlM_cons, bind_eq_ok] at success
    obtain ⟨middle, first, later⟩ := success
    have head : Evolution env call start db { db with deliveries := middle } :=
      .enqueue id former _ attempt kept event middle stored (.single change) found held
        (known event (List.mem_cons_self ..)) first
    exact head.trans (ih stored (fun other member => known other (List.mem_cons_of_mem _ member))
      later)

end

variable (id : AttemptId) (execution : Execution D) (attempt moved : Attempt D)
  (status : ExecutionStatus) (routine : Option RoutineExecution)
  (events : List (ExecutionEvent D)) (deliveries : Table DeliveryId ExecutionEventDelivery)

section

variable (stored : db.executions.lookup id.execution = some execution)
  (found : execution.attempt? id.number = some attempt)
  (move : Move env call start id.execution execution id.number attempt moved status routine)
  (quiet : call.operation.service ≠ .claimNextExecution ∨ attempt.KeepsClaim moved)

include stored found move quiet

theorem append (settled : moved.hasUnresolvedLease = true ∨ db.ApprovalsSettled id ∨
      (call.operation.routineTarget = some id.execution ∧
        (execution.routineAt id.number).isSome = true))
    (known : ∀ event ∈ events, moved.findEvent event.eventId = some event)
    (success : publishEvents env id execution attempt events db.deliveries = .ok deliveries) :
    Evolution env call start db
      { db.putExecution id.execution (execution.write id.number moved status routine) with
        deliveries := deliveries } := by
  have moves : Evolution env call start db
      (db.putExecution id.execution (execution.write id.number moved status routine)) :=
    .single (.move id execution attempt moved status routine stored found move quiet settled)
  exact moves.trans (publish id execution _ attempt moved events deliveries
    (AList.lookup_insert _) (.move id.number attempt moved status routine found move) found
    (attempt?_write_same ..) known success)

theorem settledAppend (known : ∀ event ∈ events, moved.findEvent event.eventId = some event)
    (success : publishEvents env id execution attempt events db.deliveries = .ok deliveries) :
    Evolution env call start db
      { db.putExecution id.execution (execution.write id.number moved status routine) with
        approvals := cancelLiveApprovalRequests call.now id db.approvals
        deliveries := deliveries } := by
  have settles : Evolution env call start db
      { db with approvals := cancelLiveApprovalRequests call.now id db.approvals } :=
    .single (.settleApprovals id)
  exact settles.trans (append id execution attempt moved status routine events deliveries stored
    found move quiet (.inr (.inl (cancelLiveApprovalRequests_settled call.now id db))) known
    success)

end

end Evolution

end

/-! ## Reading rows -/

@[simp] theorem Db.attempt?_eq_some (db : Db D) (id : AttemptId) (execution : Execution D)
    (attempt : Attempt D) :
    db.attempt? id = some (execution, attempt) ↔
      db.executions.lookup id.execution = some execution ∧
        execution.attempt? id.number = some attempt := by
  simp only [Db.attempt?, Option.bind_eq_some_iff, Option.map_eq_some_iff, Prod.mk.injEq]
  constructor
  · rintro ⟨_, stored, _, found, rfl, rfl⟩
    exact ⟨stored, found⟩
  · rintro ⟨stored, found⟩
    exact ⟨execution, stored, attempt, found, rfl, rfl⟩

@[simp] theorem Db.attemptIn_eq_some (db : Db D) (workspace : Uuid) (id : AttemptId)
    (execution : Execution D) (attempt : Attempt D) :
    db.attemptIn workspace id = some (execution, attempt) ↔
      db.executions.lookup id.execution = some execution ∧
        execution.attempt? id.number = some attempt ∧ execution.workspace = workspace := by
  simp [Db.attemptIn, Option.filter_eq_some_iff, and_assoc]

@[simp] theorem Execution.routineAt_eq_some (execution : Execution D) (number : Nat)
    (routine : RoutineExecution) :
    execution.routineAt number = some routine ↔
      execution.routine = some routine ∧ routine.currentAttempt = some number := by
  simp [Execution.routineAt, Option.filter_eq_some_iff]

theorem Execution.routineAt_of_none (execution : Execution D) (number : Nat)
    (ordinary : execution.routine = none) : execution.routineAt number = none := by
  simp [Execution.routineAt, ordinary]

theorem Execution.routineAt_unique (execution : Execution D) {number other : Nat}
    {routine another : RoutineExecution} (first : execution.routineAt number = some routine)
    (second : execution.routineAt other = some another) :
    other = number ∧ another = routine := by
  rw [Execution.routineAt_eq_some] at first second
  obtain ⟨has, current⟩ := first
  obtain ⟨hasToo, currentToo⟩ := second
  cases has.symm.trans hasToo
  rw [current, Option.some.injEq] at currentToo
  exact ⟨currentToo.symm, rfl⟩

theorem Db.mem_leases (db : Db D) (id : AttemptId) (lease : Lease D) :
    (id, lease) ∈ db.leases ↔
      ∃ execution attempt, db.executions.lookup id.execution = some execution ∧
        execution.attempt? id.number = some attempt ∧ attempt.lease = some lease := by
  simp only [Db.leases, List.mem_flatMap, List.mem_filterMap, Option.map_eq_some_iff, Prod.mk.injEq]
  constructor
  · rintro ⟨⟨_, execution⟩, stored, ⟨_, attempt⟩, found, _, held, rfl, rfl⟩
    exact ⟨execution, attempt, (Table.mem_rows _ _ _).mp stored, (Table.mem_rows _ _ _).mp found,
      held⟩
  · rintro ⟨execution, attempt, stored, found, held⟩
    exact ⟨(id.execution, execution), (Table.mem_rows _ _ _).mpr stored, (id.number, attempt),
      (Table.mem_rows _ _ _).mpr found, lease, held, rfl, rfl⟩

theorem Db.nodup_leases (db : Db D) : (db.leases.map Prod.fst).Nodup := by
  rw [List.Nodup, List.pairwise_map, Db.leases, List.pairwise_flatMap]
  constructor
  · intro row _
    rw [List.pairwise_filterMap]
    refine (Table.pairwise_keys row.2.attempts).imp ?_
    intro left right different first isFirst second isSecond
    rw [Option.map_eq_some_iff] at isFirst isSecond
    obtain ⟨_, _, rfl⟩ := isFirst
    obtain ⟨_, _, rfl⟩ := isSecond
    intro same
    exact different (congrArg AttemptId.number same)
  · refine (Table.pairwise_keys db.executions).imp ?_
    intro left right different first isFirst second isSecond same
    simp only [List.mem_filterMap, Option.map_eq_some_iff] at isFirst isSecond
    obtain ⟨_, _, _, _, rfl⟩ := isFirst
    obtain ⟨_, _, _, _, rfl⟩ := isSecond
    exact different (congrArg AttemptId.execution same)

section

variable (attempt : Attempt D)

theorem Attempt.findEvent_eq_some {eventId : Uuid}
    {event : ExecutionEvent D} (found : attempt.findEvent eventId = some event) :
    event ∈ attempt.events ∧ event.eventId = eventId := by
  have member := List.mem_of_find?_eq_some found
  have named := List.find?_some found
  exact ⟨member, by simpa using named⟩

theorem Attempt.findEvent_eq_none (eventId : Uuid) :
    attempt.findEvent eventId = none ↔ ∀ event ∈ attempt.events, event.eventId ≠ eventId := by
  simp [Attempt.findEvent]

theorem Attempt.findEvent_store {event : ExecutionEvent D}
    (unknown : attempt.findEvent event.eventId = none) :
    (attempt.store event).findEvent event.eventId = some event := by
  simp only [Attempt.findEvent] at unknown
  simp [Attempt.findEvent, Attempt.store, unknown]

theorem Attempt.findEvent_store_of_some (event known : ExecutionEvent D)
    (eventId : Uuid) (found : attempt.findEvent eventId = some known) :
    (attempt.store event).findEvent eventId = some known := by
  simp only [Attempt.findEvent] at found
  simp [Attempt.findEvent, Attempt.store, found]

theorem Attempt.sequence_le_latest {event : ExecutionEvent D}
    (member : event ∈ attempt.events) : event.sequence ≤ attempt.latestSequence :=
  Table.member_le_largest _ _ (List.mem_map.mpr ⟨event, member, rfl⟩)

end

/-! ## The routine result -/

section

variable [DecidableEq D]

theorem recordRoutineResultOnce_cases
    {env : Env D} {now : Instant} {executionId : Uuid} {args : RoutineResultArgs}
    {execution finished : Execution D} {outcome : Append D} (success :
      recordRoutineResultOnce env now executionId args execution = .ok (outcome, finished)) :
    ∃ routine number attempt,
      execution.routineAt number = some routine ∧
      execution.attempt? number = some attempt ∧
      ((∃ existing, outcome = .replayed existing ∧ finished = execution ∧
          attempt.findEvent args.eventId = some existing ∧
          existing.eventType = .routineResult ∧
          existing.sequence = args.eventSequence.getD (attempt.latestSequence + 1)) ∨
        ∃ event, outcome = .appended event ∧
          ResultEvent routine attempt event ∧
          event.eventId = args.eventId ∧
          event.sequence = args.eventSequence.getD (attempt.latestSequence + 1) ∧
          finished = execution.write number (attempt.endWithResult now args.outcome event)
            args.outcome.executionStatus (some (routine.endWithResult args.outcome event))) := by
  simp only [recordRoutineResultOnce, bind_eq_ok, orRaise_eq_ok, require_eq_ok] at success
  obtain ⟨routine, has, number, current, attempt, found, _, bounds, _, _, success⟩ := success
  refine ⟨routine, number, attempt, by simp [has, current], found, ?_⟩
  split at success
  · next existing known =>
    simp only [bind_eq_ok, require_eq_ok, return_eq_ok] at success
    obtain ⟨_, same, rfl, rfl⟩ := success
    exact .inl ⟨existing, rfl, rfl, known, by simp [ExecutionEvent.eventType, same.2,
      EventPayload.eventType], same.1⟩
  · next unknown =>
    simp only [bind_eq_ok, require_eq_ok, return_eq_ok] at success
    obtain ⟨_, unfinished, _, free, rfl, rfl⟩ := success
    refine .inr ⟨_, rfl, ⟨unfinished, unknown, ?_, bounds.2, rfl⟩, rfl, rfl, rfl⟩
    simpa using free

theorem recordTerminalFailureResult_cases
    {env : Env D} {now : Instant} {executionId eventId : Uuid} {text : String}
    {execution finished : Execution D} {outcome : Append D}
    (success : recordTerminalFailureResult env now executionId eventId text execution =
      .ok (outcome, finished)) :
    ∃ routine number attempt event,
      execution.routineAt number = some routine ∧
      execution.attempt? number = some attempt ∧
      outcome = .appended event ∧
      NextResult routine attempt event ∧
      finished = execution.write number (attempt.endWithResult now .failed event)
        .failed (some (routine.endWithResult .failed event)) := by
  obtain ⟨routine, number, attempt, current, found, replay | fresh⟩ :=
    recordRoutineResultOnce_cases success
  · obtain ⟨existing, _, _, known, _, sequence⟩ := replay
    have stored := (attempt.findEvent_eq_some known).1
    have bound := attempt.sequence_le_latest stored
    simp only [Option.getD_none] at sequence
    omega
  · obtain ⟨event, appended, result, _, sequence, written⟩ := fresh
    exact ⟨routine, number, attempt, event, current, found, appended,
      ⟨result, by simpa using sequence⟩, written⟩

end

end Foundry
