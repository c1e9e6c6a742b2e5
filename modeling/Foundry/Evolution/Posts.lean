import Foundry.Evolution.Attempts
import Foundry.Worker.RunClaim

/-!
# What a request of a claim writes

A request for an event writes one attempt, or changes a routine.  `PostedWrite` says this of
the Executions before and after, whichever attempt one asks about.
-/

set_option autoImplicit false

namespace Foundry

open Raise

variable {D : Type}

/-- The attempt is one of ordinary work and is like this, as long as its Execution is
stored. -/
def Db.AttemptIs (id : AttemptId) (Good : Attempt D → Prop) (db : Db D) : Prop :=
  ∀ execution, db.executions.lookup id.execution = some execution →
    execution.routine = none ∧ ∃ attempt, execution.attempt? id.number = some attempt ∧ Good attempt

/-- A write of one attempt, or of the routine it belongs to. -/
structure PostedWrite (target : AttemptId) (Wrote : Attempt D → Attempt D → Prop)
    (db next : Db D) : Prop where
  others : ∀ key, key ≠ target.execution →
    next.executions.lookup key = db.executions.lookup key
  here : ∃ execution, db.executions.lookup target.execution = some execution ∧
    (execution.routine ≠ none ∨
      ∃ written, next.executions.lookup target.execution = some written ∧
        written.routine = execution.routine ∧
        (∀ number, number ≠ target.number → written.attempt? number = execution.attempt? number) ∧
        ∃ attempt later, execution.attempt? target.number = some attempt ∧
          written.attempt? target.number = some later ∧ Wrote attempt later)

namespace PostedWrite

variable {target : AttemptId} {Wrote : Attempt D → Attempt D → Prop} {db next last : Db D}

section

variable (execution : Execution D)

theorem of_same (attempt : Attempt D)
    (stored : db.executions.lookup target.execution = some execution)
    (found : execution.attempt? target.number = some attempt)
    (same : next.executions = db.executions) (wrote : Wrote attempt attempt) :
    PostedWrite target Wrote db next := by
  refine ⟨fun key _ => by rw [same], execution, stored, .inr ⟨execution, ?_, rfl, ?_, ?_⟩⟩
  · rw [same]
    exact stored
  · exact fun _ _ => rfl
  · exact ⟨attempt, attempt, found, found, wrote⟩

theorem of_write (attempt later : Attempt D) (status : ExecutionStatus)
    (stored : db.executions.lookup target.execution = some execution)
    (found : execution.attempt? target.number = some attempt)
    (executions : next.executions = db.executions.insert target.execution
      (execution.write target.number later status execution.routine))
    (wrote : Wrote attempt later) : PostedWrite target Wrote db next := by
  refine ⟨?_, execution, stored,
    .inr ⟨execution.write target.number later status execution.routine, ?_, rfl, ?_, ?_⟩⟩
  · intro key other
    rw [executions, AList.lookup_insert_ne other]
  · rw [executions, AList.lookup_insert]
  · intro number other
    exact attempt?_write_ne _ _ _ _ _ _ other
  · exact ⟨attempt, later, found, attempt?_write_same _ _ _ _ _, wrote⟩

theorem of_routine (stored : db.executions.lookup target.execution = some execution)
    (isRoutine : execution.routine ≠ none) (others : ∀ key, key ≠ target.execution →
      next.executions.lookup key = db.executions.lookup key) :
    PostedWrite target Wrote db next :=
  ⟨others, execution, stored, .inl isRoutine⟩

end

theorem imp {Weaker : Attempt D → Attempt D → Prop} (write : PostedWrite target Wrote db next)
    (weaker : ∀ attempt later, Wrote attempt later → Weaker attempt later) :
    PostedWrite target Weaker db next := by
  obtain ⟨others, execution, stored, isRoutine | wrote⟩ := write
  · exact ⟨others, execution, stored, .inl isRoutine⟩
  · obtain ⟨written, isWritten, routine, kept, attempt, later, found, isLater, wrote⟩ := wrote
    exact ⟨others, execution, stored, .inr ⟨written, isWritten, routine, kept, attempt, later,
      found, isLater, weaker attempt later wrote⟩⟩

theorem trans {Wrote' : Attempt D → Attempt D → Prop} (first : PostedWrite target Wrote db next)
    (second : PostedWrite target Wrote' next last)
    (ordinary : ∀ execution, db.executions.lookup target.execution = some execution →
      execution.routine = none) :
    PostedWrite target (fun attempt later => ∃ middle, Wrote attempt middle ∧ Wrote' middle later)
      db last := by
  obtain ⟨others, execution, stored, isRoutine | wrote⟩ := first
  · exact absurd (ordinary execution stored) isRoutine
  · obtain ⟨_, isWritten, routine, kept, attempt, middle, found, isMiddle, wrote⟩ := wrote
    obtain ⟨others', _, stored', isRoutine | wrote'⟩ := second
    · rw [isWritten, Option.some.injEq] at stored'
      subst stored'
      exact absurd (routine.trans (ordinary execution stored)) isRoutine
    · obtain ⟨last', isLast, routine', kept', _, later, found', isLater, wrote'⟩ := wrote'
      rw [isWritten, Option.some.injEq] at stored'
      subst stored'
      rw [isMiddle, Option.some.injEq] at found'
      subst found'
      refine ⟨?_, execution, stored, .inr ⟨last', isLast, routine'.trans routine, ?_, attempt, later,
        found, isLater, middle, wrote, wrote'⟩⟩
      · intro key other
        rw [others' key other, others key other]
      · intro number other
        rw [kept' number other, kept number other]

theorem attemptIs {Good After : Attempt D → Prop} (write : PostedWrite target Wrote db next)
    (good : db.AttemptIs target Good)
    (wrote : ∀ attempt later, Good attempt → Wrote attempt later → After later) :
    next.AttemptIs target After := by
  obtain ⟨_, execution, stored, isRoutine | written⟩ := write
  · exact absurd (good execution stored).1 isRoutine
  · obtain ⟨written, isWritten, routine, _, attempt, later, found, isLater, wrote'⟩ := written
    obtain ⟨ordinary, _, isFormer, holds⟩ := good execution stored
    cases found.symm.trans isFormer
    intro other isOther
    cases isWritten.symm.trans isOther
    exact ⟨routine.trans ordinary, later, isLater, wrote attempt later holds wrote'⟩

theorem attemptIs_of_ne {id : AttemptId} {Good : Attempt D → Prop}
    (write : PostedWrite target Wrote db next) (good : db.AttemptIs id Good)
    (different : id ≠ target) : next.AttemptIs id Good := by
  intro other isOther
  obtain ⟨others, execution, stored, written⟩ := write
  by_cases same : id.execution = target.execution
  · have number : id.number ≠ target.number := by
      intro sameNumber
      apply different
      cases id
      cases target
      simp_all
    rw [same] at isOther
    obtain ⟨ordinary, attempt, found, holds⟩ := good execution (same ▸ stored)
    rcases written with isRoutine | ⟨_, isWritten, routine, kept, _⟩
    · exact absurd ordinary isRoutine
    · cases isWritten.symm.trans isOther
      exact ⟨routine.trans ordinary, attempt, (kept id.number number).trans found, holds⟩
  · rw [others id.execution same] at isOther
    exact good other isOther

end PostedWrite

/-! ## The writes of the operations -/

structure Attempt.Stores (sequence : Nat) (attempt later : Attempt D) (event : ExecutionEvent D) :
    Prop where
  grown : later.events = attempt.events ++ [event]
  number : event.sequence = sequence
  above : attempt.latestSequence < sequence
  isOpen : attempt.status.isOpen = true
  closes : event.eventType.isEnding = true → later.status.isOpen = false
  reserved : event.sequence = maxTerminalSequence → event.eventType.isEnding = true

structure Attempt.Keeps (attempt later : Attempt D) : Prop where
  events : later.events = attempt.events
  closed : attempt.status.isOpen = false → later.status.isOpen = false

theorem Attempt.Keeps.refl (attempt : Attempt D) : attempt.Keeps attempt :=
  ⟨rfl, fun closed => closed⟩

def Attempt.Posted (sequence : Nat) (attempt later : Attempt D) : Prop :=
  (attempt.Keeps later ∧ ∃ event ∈ attempt.events, event.sequence = sequence) ∨
    ∃ event, attempt.Stores sequence later event

/-- An accepted terminal request stores its event, unless it is a replay. -/
def Attempt.Ended (sequence : Nat) (kind : EventType) (attempt later : Attempt D) : Prop :=
  attempt.Keeps later ∨ ∃ event, attempt.Stores sequence later event ∧ event.eventType = kind

section Operations

variable [DecidableEq D] (env : Env D) (now : Instant) (context : RuntimeContext)
  (id : AttemptId) (leaseToken : String) (db next : Db D)

theorem appendEventOnce_replayed {workspace : Workspace} {profile : RuntimeProfile D}
    {execution : Execution D} {attempt : Attempt D} {tokenDigest : D} {machineGeneration : Nat}
    {reserved : Bool} {request : EventRequest} {existing : ExecutionEvent D}
    (success : appendEventOnce env now workspace profile execution attempt tokenDigest
      machineGeneration reserved request = .ok (.replayed existing)) :
    existing ∈ attempt.events ∧ existing.sequence = request.sequence := by
  simp only [appendEventOnce, bind_eq_ok, require_eq_ok] at success
  obtain ⟨_, _, _, _, _, _, success⟩ := success
  split at success
  · next known isKnown =>
    have replays : existing = known ∧ known.sequence = request.sequence := by
      split at success
      · simp only [bind_eq_ok, pure_eq_ok, ensureExactReplay, require_eq_ok,
          Append.replayed.injEq] at success
        obtain ⟨_, exact_, same⟩ := success
        exact ⟨same.symm, exact_.1⟩
      · simp only [bind_eq_ok, pure_eq_ok, ensureExactReplay, require_eq_ok,
          Append.replayed.injEq] at success
        obtain ⟨_, _, _, exact_, same⟩ := success
        exact ⟨same.symm, exact_.1⟩
    rw [replays.1]
    exact ⟨(attempt.findEvent_eq_some isKnown).1, replays.2⟩
  · simp only [bind_eq_ok, pure_eq_ok, reduceCtorEq, and_false, exists_false] at success

theorem appendRuntimeEvent_posted (request : EventRequest) (answer : ExecutionEvent D)
    (success : appendRuntimeEvent env now context id leaseToken request db = .ok (answer, next)) :
    PostedWrite id (Attempt.Posted request.sequence) db next := by
  simp only [appendRuntimeEvent, bind_eq_ok, orRaise_eq_ok, require_eq_ok] at success
  obtain ⟨payload, allowed, _, _, workspace, _, _, _, ⟨execution, attempt⟩, found, success⟩ :=
    success
  obtain ⟨stored, held, _⟩ := (Db.attemptIn_eq_some _ _ _ _ _).mp found
  dsimp only at success
  obtain ⟨profile, _, _, _, outcome, appended, _, _, _, _, success⟩ := success
  rcases appendEventOnce_cases env appended with
    ⟨existing, rfl, _⟩ | ⟨rfl, fresh, isOpen, bounded, _⟩
  · simp only [return_eq_ok] at success
    obtain ⟨_, rfl⟩ := success
    obtain ⟨listed, number⟩ := appendEventOnce_replayed env now appended
    exact .of_same execution attempt stored held rfl (.inl ⟨.refl attempt, existing, listed, number⟩)
  · cases success
    refine .of_write execution attempt _ execution.status stored held rfl
      (.inr ⟨_, rfl, rfl, fresh.later, isOpen, ?_, ?_⟩)
    · intro ending
      have reported := runtimeEventPayload_isReported env allowed
      have plain : payload.eventType.isEnding = true := ending
      rw [(kinds_of_isReported reported).1] at plain
      cases plain
    · intro last
      rw [maximumSequence_unreserved] at bounded
      simp only [EventRequest.toEvent] at last
      rw [last] at bounded
      exact absurd bounded (by decide)

theorem updateSessionBinding_posted (request : SessionRequest) (binding : ConversationBinding)
    (success : updateSessionBinding env now context id leaseToken request db =
      .ok (binding, next)) :
    PostedWrite id (fun attempt later => later.events = attempt.events ∧
      later.status = attempt.status) db next := by
  simp only [updateSessionBinding, bind_eq_ok, orRaise_eq_ok, require_eq_ok] at success
  obtain ⟨_, _, _, _, _, _, _, _, _, _, ⟨execution, attempt⟩, found, success⟩ := success
  rw [Option.filter_eq_some_iff] at found
  obtain ⟨stored, held, _⟩ := (Db.attemptIn_eq_some _ _ _ _ _).mp found.1
  dsimp only at success
  obtain ⟨_, _, _, _, _, _, success⟩ := success
  split at success
  · simp only [bind_eq_ok, return_eq_ok] at success
    obtain ⟨_, _, _, _, _, _, _, rfl⟩ := success
    exact .of_same execution attempt stored held rfl ⟨rfl, rfl⟩
  · simp only [bind_eq_ok, require_eq_ok, return_eq_ok] at success
    obtain ⟨_, _, _, _, _, _, _, _, _, rfl⟩ := success
    exact .of_write execution attempt _ execution.status stored held rfl ⟨rfl, rfl⟩

/-- The terminal event of a request, if it carries one, is stored. -/
def TerminalEvent.Ends (terminalEvent : Option TerminalEvent) (attempt later : Attempt D) : Prop :=
  ∀ event, terminalEvent = some event →
    attempt.Ended event.sequence event.payload.eventType later

theorem finishAttempt_posted (args : TerminalArgs) (receipt : TerminalReceipt)
    (ending : ∀ event, args.terminalEvent = some event →
      event.payload.eventType.isEnding = true)
    (ends : args.terminalStatus = .succeeded ∨ args.terminalStatus = .failed)
    (success : finishAttempt env now context id leaseToken args db = .ok (receipt, next)) :
    PostedWrite id (TerminalEvent.Ends args.terminalEvent) db next := by
  simp only [finishAttempt, bind_eq_ok, orRaise_eq_ok, require_eq_ok] at success
  obtain ⟨_, _, workspace, _, _, _, ⟨execution, attempt⟩, found, success⟩ := success
  rw [Option.filter_eq_some_iff] at found
  obtain ⟨stored, held, _⟩ := (Db.attemptIn_eq_some _ _ _ _ _).mp found.1
  dsimp only at success
  obtain ⟨profile, _, _, _, success⟩ := success
  split at success
  · simp only [bind_eq_ok, return_eq_ok] at success
    obtain ⟨_, _, _, _, _, rfl⟩ := success
    exact .of_same execution attempt stored held rfl fun _ _ => .inl (.refl attempt)
  · simp only [bind_eq_ok, orRaise_eq_ok, require_eq_ok, return_eq_ok] at success
    obtain ⟨_, _, _, _, _, _, _, _, _, _, _, _, _, appended, _, _, _, rfl⟩ :=
      success
    refine .of_write execution attempt _ args.executionStatus stored held rfl ?_
    intro event asked
    have closed : args.terminalStatus.isOpen = false := by
      rcases ends with same | same <;> rw [same] <;> rfl
    rw [asked] at appended
    simp only [appendTerminalEvent, bind_eq_ok, pure_eq_ok] at appended
    obtain ⟨decided, appended, rfl⟩ := appended
    rcases appendEventOnce_cases env
        appended with
      ⟨_, rfl, _⟩ | ⟨rfl, fresh, isOpen, _⟩
    · exact .inl ⟨rfl, fun _ => closed⟩
    · exact .inr ⟨_, ⟨rfl, rfl, fresh.later, isOpen, fun _ => closed,
        fun _ => ending event asked⟩, rfl⟩

theorem completeAttempt_posted (receipt : Json) (terminalEvent : Option TerminalEvent)
    (answer : TerminalReceipt)
    (success : completeAttempt env now context id leaseToken receipt terminalEvent db =
      .ok (answer, next)) :
    PostedWrite id (TerminalEvent.Ends terminalEvent) db next := by
  obtain ⟨checked, finishes⟩ := completeAttempt_cases env db next now context id leaseToken receipt
    terminalEvent answer success
  refine finishAttempt_posted env now context id leaseToken db next _ answer ?_ (.inl rfl) finishes
  intro event asked
  rw [checkTerminalEvent_type env (checked.event event asked)]
  rfl

theorem appendRuntimeRoutineResult_others (request : RoutineResultRequest)
    (receipt : RoutineTerminalReceipt)
    (success : appendRuntimeRoutineResult env now context id leaseToken request db =
      .ok (receipt, next)) (key : Uuid) (other : key ≠ id.execution) :
    next.executions.lookup key = db.executions.lookup key := by
  simp only [appendRuntimeRoutineResult, bind_eq_ok, orRaise_eq_ok, require_eq_ok] at success
  obtain ⟨_, _, _, _, _, _, ⟨_, _⟩, _, success⟩ := success
  dsimp only at success
  obtain ⟨_, _, _, _, _, _, _, _, _, _, success⟩ := success
  split at success
  · simp only [bind_eq_ok, return_eq_ok] at success
    obtain ⟨_, _, _, rfl⟩ := success
    rfl
  · simp only [bind_eq_ok, orRaise_eq_ok, return_eq_ok] at success
    obtain ⟨⟨_, _⟩, _, _, _, _, _, _, rfl⟩ := success
    exact AList.lookup_insert_ne other

theorem failAttempt_posted (failure : Failure) (terminalEvent : Option TerminalEvent)
    (answer : TerminalReceipt)
    (success : failAttempt env now context id leaseToken failure terminalEvent db =
      .ok (answer, next)) :
    PostedWrite id (TerminalEvent.Ends terminalEvent) db next := by
  obtain ⟨_, ⟨_, result, current, recorded, _⟩ | ⟨_, checked, finishes⟩⟩ :=
    failAttempt_cases env db next now context id leaseToken failure terminalEvent answer success
  · obtain ⟨⟨execution, _⟩, found, isRoutine⟩ := Option.bind_eq_some_iff.mp current
    obtain ⟨stored, _⟩ := (Db.attempt?_eq_some _ _ _ _).mp found
    refine .of_routine execution stored (routine_ne_none isRoutine) fun key other => ?_
    have drawn : (if terminalEvent.isSome then db else db.draw).executions = db.executions := by
      split <;> rfl
    rw [← drawn]
    exact appendRuntimeRoutineResult_others env now context id leaseToken _ next _ result recorded
      key other
  · refine finishAttempt_posted env now context id leaseToken db next _ answer ?_ (.inr rfl) finishes
    intro event asked
    rw [checkTerminalEvent_type env (checked.event event asked)]
    rfl

end Operations

/-! ## Requests -/

section Requests

variable [DecidableEq D] (env : Env D) (now : Instant) (grant : ClaimGrant) (post : Post)
  (db next : Db D)

omit [DecidableEq D] in
theorem Attempt.Ended.of_same {sequence : Nat} {kind : EventType} {attempt middle later : Attempt D}
    (events : middle.events = attempt.events) (status : middle.status = attempt.status)
    (ended : middle.Ended sequence kind later) : attempt.Ended sequence kind later := by
  rcases ended with same | ⟨event, stores, typed⟩
  · exact .inl ⟨same.events.trans events, fun closed => same.closed (status ▸ closed)⟩
  · refine .inr ⟨event, ⟨?_, stores.number, ?_, ?_, stores.closes, stores.reserved⟩, typed⟩
    · rw [stores.grown, events]
    · have above := stores.above
      rw [Attempt.latestSequence, events] at above
      exact above
    · rw [← status]
      exact stores.isOpen

def Post.Wrote (attempt later : Attempt D) : Prop :=
  match post with
  | .event sequence _ => attempt.Posted sequence later
  | .complete _ _ | .fail _ _ | .exhausted =>
    attempt.Ended post.sequence post.payload.eventType later

theorem Post.handle_posted
    (ordinary : ∀ execution, db.executions.lookup grant.attempt.execution = some execution →
      execution.routine = none)
    (success : post.handle env now grant db = .ok next) :
    PostedWrite grant.attempt post.Wrote db next := by
  cases post with
  | event =>
    simp only [Post.handle, bind_eq_ok, pure_eq_ok] at success
    obtain ⟨⟨answer, stored⟩, appended, rfl⟩ := success
    exact appendRuntimeEvent_posted env now grant.context grant.attempt grant.leaseToken db stored
      _ answer appended
  | complete =>
    simp only [Post.handle, bind_eq_ok, pure_eq_ok] at success
    obtain ⟨⟨binding, bound⟩, binds, ⟨answer, stored⟩, completes, rfl⟩ := success
    have first := updateSessionBinding_posted env now grant.context grant.attempt grant.leaseToken
      db bound _ binding binds
    have second := completeAttempt_posted env now grant.context grant.attempt grant.leaseToken
      bound stored _ _ answer completes
    refine (first.trans second ordinary).imp ?_
    rintro _ _ ⟨_, ⟨events, status⟩, ends⟩
    exact .of_same events status (ends _ rfl)
  | fail | exhausted =>
    simp only [Post.handle, ClaimGrant.fail, bind_eq_ok, pure_eq_ok] at success
    obtain ⟨⟨answer, stored⟩, failed, rfl⟩ := success
    exact (failAttempt_posted env now grant.context grant.attempt grant.leaseToken db stored _ _
      answer failed).imp fun attempt later ends => ends _ rfl

theorem run_trans {first second third : Db D}
    {before after : List (Call D)} (earlier : run env first before = second)
    (later : run env second after = third) : run env first (before ++ after) = third := by
  subst earlier
  subst later
  exact Run.run_append first before after

theorem Post.handle_runs (success : post.handle env now grant db = .ok next) :
    ∃ calls, run env db calls = next := by
  have once : ∀ (start last : Db D) (operation : Operation D) (answer : Reply D),
      apply env ⟨now, operation⟩ start = .ok (answer, last) →
      run env start [⟨now, operation⟩] = last := by
    intro start last operation answer accepted
    exact Run.step_of_ok start last _ answer accepted
  cases post with
  | event =>
    simp only [Post.handle, bind_eq_ok, pure_eq_ok] at success
    obtain ⟨⟨answer, stored⟩, appended, rfl⟩ := success
    exact ⟨_, once db stored (.appendRuntimeEvent grant.context grant.attempt grant.leaseToken _)
      (.event answer) ((reply_eq_ok _ _ _ _).mpr ⟨answer, appended, rfl⟩)⟩
  | complete _ completion =>
    simp only [Post.handle, bind_eq_ok, pure_eq_ok] at success
    obtain ⟨⟨binding, bound⟩, binds, ⟨answer, stored⟩, completes, rfl⟩ := success
    have first := once db bound
      (.updateSessionBinding grant.context grant.attempt grant.leaseToken completion.binding)
      (.binding binding) ((reply_eq_ok _ _ _ _).mpr ⟨binding, binds, rfl⟩)
    have second := once bound stored
      (.completeAttempt grant.context grant.attempt grant.leaseToken _ _)
      (.terminal answer) ((reply_eq_ok _ _ _ _).mpr ⟨answer, completes, rfl⟩)
    exact ⟨_, run_trans env first second⟩
  | fail | exhausted =>
    simp only [Post.handle, ClaimGrant.fail, bind_eq_ok, pure_eq_ok] at success
    obtain ⟨⟨answer, stored⟩, failed, rfl⟩ := success
    exact ⟨_, once db stored (.failAttempt grant.context grant.attempt grant.leaseToken _ _)
      (.terminal answer) ((reply_eq_ok _ _ _ _).mpr ⟨answer, failed, rfl⟩)⟩

end Requests

end Foundry
