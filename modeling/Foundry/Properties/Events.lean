import Foundry.Evolution.Attempts
import Foundry.Lib.Log

/-!
# Event logs of attempts

The events of an attempt are an append-only log.  The first part is about ordinary
work, whose log ends with its terminal event; the second is about the order of
sequence numbers, for ordinary work and routines alike.
-/

set_option autoImplicit false

namespace Foundry

variable {D : Type}

def ExecutionEvent.isEnding (event : ExecutionEvent D) : Bool := event.eventType.isEnding

/-! ## The terminal event -/

/-- The log of an ordinary attempt: a terminal event is its last entry, the attempt
that stored it is closed, and only it may use the reserved sequence. -/
structure Attempt.Finality (attempt : Attempt D) : Prop where
  sealed : Log.Sealed ExecutionEvent.isEnding attempt.events
  closed : ∀ event ∈ attempt.events, event.isEnding = true → attempt.status.isOpen = false
  reserved : ∀ event ∈ attempt.events, event.sequence = maxTerminalSequence →
    event.isEnding = true

/-- The log is kept, and a log with a terminal event is kept as it is. -/
structure Attempt.FinalityKept (attempt later : Attempt D) : Prop where
  kept : attempt.events <+: later.events
  final : ∀ event ∈ attempt.events, event.isEnding = true → later.events = attempt.events

variable {attempt later : Attempt D}

theorem Attempt.FinalityKept.of_eq
    (same : later.events = attempt.events) : attempt.FinalityKept later :=
  ⟨same ▸ List.prefix_rfl, fun _ _ _ => same⟩

theorem Attempt.FinalityKept.trans {first second third : Attempt D}
    (earlier : first.FinalityKept second) (later : second.FinalityKept third) :
    first.FinalityKept third := by
  refine ⟨earlier.kept.trans later.kept, ?_⟩
  intro event member ending
  have same := earlier.final event member ending
  rw [← same] at member ⊢
  exact later.final event member ending

theorem Attempt.Finality.unended (finality : attempt.Finality)
    (isOpen : attempt.status.isOpen = true) :
    ∀ event ∈ attempt.events, event.isEnding = false := by
  intro event member
  by_contra ending
  have closed := finality.closed event member (by simpa using ending)
  rw [isOpen] at closed
  cases closed

theorem Attempt.Finality.snoc (event : ExecutionEvent D)
    (finality : attempt.Finality) (grown : later.events = attempt.events ++ [event])
    (isOpen : attempt.status.isOpen = true)
    (closes : event.isEnding = true → later.status.isOpen = false)
    (reserved : event.sequence = maxTerminalSequence → event.isEnding = true) :
    later.Finality ∧ attempt.FinalityKept later := by
  have unended := finality.unended isOpen
  refine ⟨⟨?_, ?_, ?_⟩, ⟨?_, ?_⟩⟩
  · rw [grown]
    exact Log.Sealed.snoc attempt.events event unended
  · intro stored member ending
    rw [grown, List.mem_append, List.mem_singleton] at member
    rcases member with old | rfl
    · rw [unended stored old] at ending
      cases ending
    · exact closes ending
  · intro stored member last
    rw [grown, List.mem_append, List.mem_singleton] at member
    rcases member with old | rfl
    · exact finality.reserved stored old last
    · exact reserved last
  · rw [grown]
    exact List.prefix_append _ _
  · intro stored member ending
    rw [unended stored member] at ending
    cases ending

theorem Attempt.Finality.of_isNew (new : attempt.IsNew) :
    attempt.Finality := by
  refine ⟨?_, ?_, ?_⟩
  · rw [new.events]
    intro event member
    cases member
  all_goals
    intro event member
    rw [new.events] at member
    cases member

section

variable [DecidableEq D] {env : Env D} {call : Call D} {db : Db D} {id : Uuid}
  {execution next : Execution D}

theorem Move.finality {number : Nat} {status : ExecutionStatus} {routine : Option RoutineExecution}
    (move : Move env call db id execution number attempt later status routine)
    (ordinary : execution.routine = none) (finality : attempt.Finality) :
    later.Finality ∧ attempt.FinalityKept later := by
  cases move.growth with
  | still same =>
    refine ⟨⟨?_, ?_, ?_⟩, .of_eq same⟩
    · rw [same]
      exact finality.sealed
    · intro event member ending
      rw [same] at member
      exact move.stays_not_open ordinary (finality.closed event member ending)
    · intro event member last
      rw [same] at member
      exact finality.reserved event member last
  | plain event grown _ isOpen _ bounded kind =>
    refine finality.snoc event grown isOpen ?_ ?_
    · intro ending
      rw [ExecutionEvent.isEnding, kind] at ending
      cases ending
    · intro last
      rw [last] at bounded
      exact absurd bounded (by decide)
  | ending event grown _ isOpen _ kind closed =>
    exact finality.snoc event grown isOpen (fun _ => closed) (fun _ => kind)
  | result _ _ _ _ current | expired _ _ _ _ _ current =>
    exact absurd ordinary (routine_ne_none current)

/-- Finality of the terminal event, for every ordinary Execution of a run. -/
def finalityRule (env : Env D) : UnitRule env where
  Condition := fun _ _ _ _ => True
  Holds := fun _ execution => execution.routine = none →
    execution.AllAttempts Attempt.Finality
  Related := fun execution next => execution.routine = none →
    next.routine = none ∧ execution.AttemptsContinue Attempt.FinalityKept next
  reflexive := fun execution ordinary => ⟨ordinary, .refl (fun _ => .of_eq rfl) execution⟩
  transitive := by
    intro first second third earlier later ordinary
    obtain ⟨middle, before⟩ := earlier ordinary
    obtain ⟨last, after⟩ := later middle
    exact ⟨last, before.trans .trans after⟩
  birth := fun _ _ _ _ born =>
    ⟨fun _ => born.allAttempts _ (fun _ new => .of_isNew new), trivial⟩
  change := by
    intro call db id execution next holds _ change
    refine ⟨⟨?_, trivial⟩, ?_⟩
    · intro ordinary
      have before : execution.routine = none := change.routine_eq_none_iff.mp ordinary
      refine change.allAttempts _ (fun _ new => .of_isNew new) ?_ ?_ (holds before)
      · intro attempt profile finality
        exact ⟨finality.sealed, finality.closed, finality.reserved⟩
      · intro number attempt later status routine found move finality
        exact (move.finality before finality).1
    · intro ordinary
      refine ⟨change.routine_eq_none_iff.mpr ordinary, ?_⟩
      refine change.attemptsContinue _ (fun _ => .of_eq rfl) (fun _ _ => .of_eq rfl) ?_
      intro number attempt later status routine found move
      exact (move.finality ordinary (holds ordinary number attempt found)).2

theorem terminal_event_is_final
    (env : Env D) (first rest : List (Call D)) (id : Uuid) (number : Nat)
    (execution : Execution D) (attempt : Attempt D)
    (stored : (run env Db.empty first).executions.lookup id = some execution)
    (ordinary : execution.routine = none) (found : execution.attempt? number = some attempt) :
    (attempt.events.countP ExecutionEvent.isEnding ≤ 1 ∧
      (∀ event ∈ attempt.events.dropLast, event.isEnding = false) ∧
      ∀ event ∈ attempt.events, event.sequence = maxTerminalSequence → event.isEnding = true) ∧
    ∀ later, (run env Db.empty (first ++ rest)).executions.lookup id = some later →
      ∃ after, later.attempt? number = some after ∧ attempt.events <+: after.events ∧
        ((∃ event ∈ attempt.events, event.isEnding = true) → after.events = attempt.events) := by
  have finality := (finalityRule env).holds first (runMeets_of_forall env _
    (fun _ _ _ _ => trivial) _ _) id execution stored ordinary number attempt found
  refine ⟨⟨finality.sealed.countP_le_one, finality.sealed, finality.reserved⟩, ?_⟩
  intro later present
  obtain ⟨_, continues⟩ := (finalityRule env).relates first rest (runMeets_of_forall env _
    (fun _ _ _ _ => trivial) _ _) id execution later stored present ordinary
  obtain ⟨after, isAfter, kept⟩ := continues number attempt found
  refine ⟨after, isAfter, kept.kept, ?_⟩
  rintro ⟨event, member, ending⟩
  exact kept.final event member ending

end

/-- The first leg of `ordinaryWork`, up to its completion with a terminal event. -/
def completedWork : List (Call PlainDigest) :=
  bringUp ++ ordinaryWork ++
    [⟨0, .appendRuntimeEvent ⟨0, 1⟩ ⟨7, 1⟩ leaseToken ⟨70, "stream", 1, .dispatched⟩⟩,
      ⟨0, .updateSessionBinding ⟨0, 1⟩ ⟨7, 1⟩ leaseToken ⟨"conversation", none, "session"⟩⟩,
      ⟨0, .completeAttempt ⟨0, 1⟩ ⟨7, 1⟩ leaseToken (.obj [("code", .str "ok")])
        (some ⟨71, "stream", maxTerminalSequence, .completed "run"⟩)⟩]

def completedReplays : List (Call PlainDigest) :=
  [⟨0, .appendRuntimeEvent ⟨0, 1⟩ ⟨7, 1⟩ leaseToken ⟨70, "stream", 1, .dispatched⟩⟩,
    ⟨0, .completeAttempt ⟨0, 1⟩ ⟨7, 1⟩ leaseToken (.obj [("code", .str "ok")])
      (some ⟨71, "stream", maxTerminalSequence, .completed "run"⟩)⟩]

theorem completed_work_is_final :
    ∃ execution attempt after later,
      (run Env.plain Db.empty completedWork).executions.lookup 7 = some execution ∧
      execution.attempt? 1 = some attempt ∧
      attempt.events.map ExecutionEvent.sequence = [1, maxTerminalSequence] ∧
      (run Env.plain Db.empty (completedWork ++ completedReplays)).executions.lookup 7 =
        some later ∧
      later.attempt? 1 = some after ∧ after.events = attempt.events := by
  have before : ((run Env.plain Db.empty completedWork).executions.lookup 7).any (fun execution =>
      (execution.attempt? 1).any fun attempt => decide (execution.routine = none ∧
        attempt.events.map ExecutionEvent.sequence = [1, maxTerminalSequence] ∧
        attempt.events.any ExecutionEvent.isEnding = true)) = true := by decide
  obtain ⟨execution, stored, holds⟩ := (Option.any_eq_true _ _).mp before
  obtain ⟨attempt, found, holds⟩ := (Option.any_eq_true _ _).mp holds
  obtain ⟨ordinary, sequences, ending⟩ := of_decide_eq_true holds
  have remains : ((run Env.plain Db.empty
      (completedWork ++ completedReplays)).executions.lookup 7).isSome = true := by decide
  obtain ⟨later, present⟩ := Option.isSome_iff_exists.mp remains
  obtain ⟨after, isAfter, _, final⟩ := (terminal_event_is_final Env.plain completedWork
    completedReplays 7 1 execution attempt stored ordinary found).2 later present
  exact ⟨execution, attempt, after, later, stored, found, sequences, present, isAfter,
    final (List.any_eq_true.mp ending)⟩

/-! ## Sequence numbers -/

/-- A new routine result that names its own sequence names one above every stored
one.  Only this appender leaves it to its caller. -/
def ResultsAscend : UnitCondition D := fun call db id execution =>
  ∀ eventId sequence number routine attempt,
    call.operation.explicitResult db.supply = some (id, eventId, sequence) →
    execution.routineAt number = some routine → routine.status.isTerminal = false →
    execution.attempt? number = some attempt → attempt.findEvent eventId = none →
    (∀ stored ∈ attempt.events, stored.sequence ≠ sequence) →
    ∀ stored ∈ attempt.events, stored.sequence < sequence

/-- The later attempt has the same events and then newer ones, in ascending order
of their sequences. -/
def Attempt.Ascends (attempt later : Attempt D) : Prop :=
  Log.Extends ExecutionEvent.sequence attempt.events later.events

theorem Attempt.Ascends.of_eq (same : later.events = attempt.events) : attempt.Ascends later := by
  rw [Attempt.Ascends, same]
  exact .refl _

variable {event : ExecutionEvent D}

theorem Attempt.Ascends.snoc (grown : later.events = attempt.events ++ [event])
    (above : ∀ stored ∈ attempt.events, stored.sequence < event.sequence) :
    attempt.Ascends later := by
  rw [Attempt.Ascends, grown]
  exact .snoc attempt.events event above

theorem NewEvent.above (fresh : NewEvent attempt event) :
    ∀ stored ∈ attempt.events, stored.sequence < event.sequence :=
  fun stored member =>
    Nat.lt_of_le_of_lt (attempt.sequence_le_latest member) fresh.later

section

variable [DecidableEq D] {env : Env D} {call : Call D} {db : Db D} {id : Uuid}
  {execution next : Execution D}

section

variable {number : Nat} {attempt later : Attempt D} {status : ExecutionStatus}
  {routine : Option RoutineExecution}
  (move : Move env call db id execution number attempt later status routine)

include number status routine move

theorem Move.ascends (found : execution.attempt? number = some attempt)
    (condition : ResultsAscend call db id execution) : attempt.Ascends later := by
  cases move.growth with
  | still same => exact .of_eq same
  | plain _ grown _ _ fresh | ending _ grown _ _ fresh => exact .snoc grown fresh.above
  | result event grown _ routine current unfinished unknown free sequence =>
    refine .snoc grown ?_
    rcases sequence with explicit | later
    · exact condition event.eventId event.sequence number routine attempt explicit current
        unfinished found unknown free
    · exact NewEvent.above ⟨unknown, later⟩
  | expired failure event grown _ _ _ first second =>
    have one : attempt.Ascends (attempt.store failure) := .snoc rfl first.above
    have two : (attempt.store failure).Ascends later := by
      refine .snoc ?_ second.above
      rw [grown]
      exact (List.append_assoc attempt.events [failure] [event]).symm
    exact one.trans two

theorem Move.replays (eventId : Uuid) (carried : call.operation.carriedEvent = some eventId)
    (known : (attempt.findEvent eventId).isSome = true) : later.events = attempt.events := by
  have isNew : ∀ event, call.Names event → attempt.findEvent event.eventId ≠ none := by
    intro event named unknown
    rw [named eventId carried] at unknown
    rw [unknown] at known
    cases known
  cases move.growth with
  | still same => exact same
  | plain event _ named _ fresh | ending event _ named _ fresh =>
    exact absurd fresh.unknown (isNew event named)
  | result event _ named _ _ _ unknown =>
    exact absurd unknown (isNew event named)
  | expired _ _ _ silent =>
    rw [silent] at carried
    cases carried

end

theorem ResultsAscend.change (condition : ResultsAscend call db id execution)
    (change : Change env call db id execution next) : ResultsAscend call db id next := by
  intro eventId sequence number routine attempt explicit current unfinished found unknown free
  have records := call.operation.recordsResult_of_explicit db.supply _ explicit
  cases change with
  | claim _ service | claimDetached _ _ service =>
    rw [service] at records
    cases records
  | stopLeases _ service =>
    rcases service with same | same <;> rw [same] at records <;> cases records
  | move _ former _ _ _ isFormer move =>
    obtain ⟨has, isCurrent⟩ := (Execution.routineAt_eq_some _ _ _).mp current
    rcases move.records records with ended | ⟨rfl, same, _⟩
    · rw [ended routine has] at unfinished
      cases unfinished
    · have before : execution.routineAt number = some routine :=
        (Execution.routineAt_eq_some _ _ _).mpr ⟨has, isCurrent⟩
      rcases attempt?_write_cases found with ⟨rfl, rfl⟩ | ⟨_, isFound⟩
      · rw [Attempt.findEvent_eq_none, same] at unknown
        rw [same] at free ⊢
        exact condition eventId sequence number routine former explicit before unfinished
          isFormer ((former.findEvent_eq_none eventId).mpr unknown) free
      · exact condition eventId sequence number routine attempt explicit before unfinished
          isFound unknown free

def sequenceRule (env : Env D) : UnitRule env where
  Condition := ResultsAscend
  Holds := fun _ _ => True
  Related := Execution.AttemptsContinue Attempt.Ascends
  reflexive := .refl fun _ => .of_eq rfl
  transitive := .trans Log.Extends.trans
  birth := by
    refine fun _ _ _ _ born => ⟨trivial, ?_⟩
    intro eventId sequence number routine attempt _ _ _ found _ _ stored member
    have new : attempt.events = [] :=
      born.allAttempts (fun attempt => attempt.events = []) (fun _ new => new.events) number
        attempt found
    rw [new] at member
    cases member
  change := by
    intro call db id execution next _ condition change
    refine ⟨⟨trivial, condition.change change⟩, ?_⟩
    refine change.attemptsContinue _ (fun _ => .of_eq rfl) (fun _ _ => .of_eq rfl) ?_
    intro number attempt later status routine found move
    exact move.ascends found condition

theorem event_sequences_ascend (env : Env D) (first rest : List (Call D))
    (meets : RunMeets env ResultsAscend Db.empty (first ++ rest))
    (id : Uuid) (number : Nat) (execution : Execution D) (attempt : Attempt D)
    (stored : (run env Db.empty first).executions.lookup id = some execution)
    (found : execution.attempt? number = some attempt) :
    (∀ later, (run env Db.empty (first ++ rest)).executions.lookup id = some later →
      ∃ after, later.attempt? number = some after ∧
        Log.Extends ExecutionEvent.sequence attempt.events after.events) ∧
    ∀ call eventId later, call.operation.carriedEvent = some eventId →
      (attempt.findEvent eventId).isSome = true →
      (step env (run env Db.empty first) call).executions.lookup id = some later →
      ∃ after, later.attempt? number = some after ∧ after.events = attempt.events := by
  constructor
  · intro later present
    exact (sequenceRule env).relates first rest meets id execution later stored present number
      attempt found
  · intro call eventId later carried known present
    have replays := step_relates env call (run env Db.empty first)
      (Execution.AttemptsContinue fun attempt later =>
        (attempt.findEvent eventId).isSome = true → later.events = attempt.events)
      (.refl fun _ _ => rfl)
      (.trans fun earlier later known => by
        have same := earlier known
        rw [later (by simpa only [Attempt.findEvent, same] using known), same])
      (fun id execution next change => change.attemptsContinue _ (fun _ _ => rfl)
        (fun _ _ _ => rfl)
        fun number attempt later status routine found move => move.replays eventId carried)
      ((sequenceRule env).run_numbered first meets.append_left) id execution later stored present
    obtain ⟨after, isAfter, same⟩ := replays number attempt found
    exact ⟨after, isAfter, same known⟩

end

def routineResult (sequence : Nat) : Call PlainDigest :=
  ⟨0, .appendRuntimeRoutineResult ⟨0, 1⟩ ⟨7, 1⟩ leaseToken
    ⟨71, sequence, .changed, "text", [], none⟩⟩

def storedSequences (calls : List (Call PlainDigest)) : Option (List Nat) :=
  ((run Env.plain Db.empty calls).attempt? ⟨7, 1⟩).map fun found =>
    found.2.events.map ExecutionEvent.sequence

theorem storedSequences_eq_some (calls : List (Call PlainDigest)) (sequences : List Nat)
    (stored : storedSequences calls = some sequences) :
    ∃ execution attempt, (run Env.plain Db.empty calls).executions.lookup 7 = some execution ∧
      execution.attempt? 1 = some attempt ∧
      attempt.events.map ExecutionEvent.sequence = sequences := by
  obtain ⟨⟨execution, attempt⟩, found, same⟩ := Option.map_eq_some_iff.mp stored
  obtain ⟨isStored, isFound⟩ := (Db.attempt?_eq_some _ _ _ _).mp found
  exact ⟨execution, attempt, isStored, isFound, same⟩

theorem late_result_slips_below :
    ∃ execution attempt later after,
      (run Env.plain Db.empty startedRoutine).executions.lookup 7 = some execution ∧
      execution.attempt? 1 = some attempt ∧
      (run Env.plain Db.empty (startedRoutine ++ [routineResult 3])).executions.lookup 7 =
        some later ∧
      later.attempt? 1 = some after ∧
      ¬ Log.Extends ExecutionEvent.sequence attempt.events after.events := by
  obtain ⟨execution, attempt, stored, found, before⟩ :=
    storedSequences_eq_some startedRoutine [5] (by decide)
  obtain ⟨later, after, present, isAfter, sequences⟩ :=
    storedSequences_eq_some (startedRoutine ++ [routineResult 3]) [5, 3] (by decide)
  refine ⟨execution, attempt, later, after, stored, found, present, isAfter, ?_⟩
  rintro ⟨added, grown, above, _⟩
  have five : 5 ∈ attempt.events.map ExecutionEvent.sequence := by simp [before]
  have three : 3 ∈ added.map ExecutionEvent.sequence := by
    rw [grown, List.map_append, before] at sequences
    simp [List.append_cancel_left (show [5] ++ _ = [5] ++ [3] from sequences)]
  obtain ⟨old, isOld, _⟩ := List.mem_map.mp five
  obtain ⟨new, isNew, _⟩ := List.mem_map.mp three
  have order := above old isOld new isNew
  omega

theorem later_result_ascends :
    ∃ execution attempt later after,
      (run Env.plain Db.empty startedRoutine).executions.lookup 7 = some execution ∧
      execution.attempt? 1 = some attempt ∧
      (run Env.plain Db.empty (startedRoutine ++ [routineResult 6])).executions.lookup 7 =
        some later ∧
      later.attempt? 1 = some after ∧
      after.events.map ExecutionEvent.sequence = [5, 6] ∧
      Log.Extends ExecutionEvent.sequence attempt.events after.events := by
  obtain ⟨execution, attempt, stored, found, before⟩ :=
    storedSequences_eq_some startedRoutine [5] (by decide)
  obtain ⟨later, after, present, isAfter, sequences⟩ :=
    storedSequences_eq_some (startedRoutine ++ [routineResult 6]) [5, 6] (by decide)
  have meets : RunMeets Env.plain ResultsAscend Db.empty (startedRoutine ++ [routineResult 6]) := by
    refine Run.Meets.append (runMeets_of_mem Env.plain _ Db.empty startedRoutine ?_) ⟨?_, trivial⟩
    · -- No call of the prefix records a result.
      have quiet : startedRoutine.all (fun call => !call.operation.service.recordsResult) = true :=
        by decide
      intro call member db id execution eventId sequence _ _ _ explicit
      have records := call.operation.recordsResult_of_explicit db.supply _ explicit
      have silent := List.all_eq_true.mp quiet call member
      rw [records] at silent
      cases silent
    · rintro _ unit isStored _ _ _ _ _ ⟨⟩ current _ isFound _ _ event
        member
      have same : execution = unit := Option.some.inj (stored.symm.trans isStored)
      subst same
      have only : (execution.routine.bind RoutineExecution.currentAttempt) = some 1 := by
        have decided : ((run Env.plain Db.empty startedRoutine).executions.lookup 7).all
            (fun execution => decide
              ((execution.routine.bind RoutineExecution.currentAttempt) = some 1)) = true := by
          decide
        rw [stored] at decided
        exact of_decide_eq_true decided
      obtain ⟨has, isCurrent⟩ := (Execution.routineAt_eq_some _ _ _).mp current
      rw [has, Option.bind_some, isCurrent, Option.some.injEq] at only
      subst only
      cases found.symm.trans isFound
      have five : event.sequence ∈ attempt.events.map ExecutionEvent.sequence :=
        List.mem_map.mpr ⟨event, member, rfl⟩
      rw [before, List.mem_singleton] at five
      rw [five]
      decide
  obtain ⟨_, isLast, extends_⟩ := (event_sequences_ascend Env.plain startedRoutine
    [routineResult 6] meets 7 1 execution attempt stored found).1 later present
  cases isAfter.symm.trans isLast
  exact ⟨execution, attempt, later, after, stored, found, present, isAfter, sequences, extends_⟩

end Foundry
