import Foundry.Lib.Register
import Foundry.Evolution.Bindings
import Foundry.Evolution.LeaseRows
import Foundry.Properties.Fencing
import Foundry.Properties.ReplaySafety

/-!
# Session bindings

A profile's conversation is a compare-and-set register: its session changes only under
an update that expects the stored one.  What an attempt bound is kept with the attempt,
and what a routine's leg bound with its acquisition; later updates of the conversation
change neither.
-/

set_option autoImplicit false

namespace Foundry

open Raise
open Register (Update Chain)

variable {D : Type}

/-! ## Sessions -/

def Db.session (db : Db D) (profile : Uuid) : Option String :=
  (db.bindings.lookup profile).bind ConversationBinding.hermesSessionId

def Db.SessionsNamed (db : Db D) : Prop :=
  ∀ profile, db.session profile ≠ some ""

section Writes

variable [DecidableEq D] {env : Env D} {call : Call D} {start db next : Db D}

theorem Write.sessionsNamed (write : Write env call start db next) (named : db.SessionsNamed) :
    next.SessionsNamed := by
  intro profile set
  simp only [Db.session, Option.bind_eq_some_iff] at set
  obtain ⟨later, present, empty⟩ := set
  cases write.bindingSource present with
  | kept stored => exact named profile (by simp [Db.session, stored, empty])
  | rotated _ _ _ _ _ isNamed _ written | created _ _ _ _ _ isNamed written =>
    rw [written] at empty
    exact isNamed (Option.some.inj empty)
  | reserved _ _ _ unset =>
    rw [unset] at empty
    cases empty

theorem Write.sessionFrame (write : Write env call start db next) (profile : Uuid)
    (unasked : ∀ expected new, ¬ SessionAsked call start profile expected new)
    (undeleted : ¬ next.ProfileDeleted profile) : next.session profile = db.session profile := by
  cases present : next.bindings.lookup profile with
  | none =>
    cases stored : db.bindings.lookup profile with
    | none => simp [Db.session, present, stored]
    | some binding =>
      rcases write.bindingKept profile binding stored with ⟨_, kept, _⟩ | deleted
      · rw [present] at kept
        cases kept
      · exact absurd deleted undeleted
  | some later =>
    cases write.bindingSource present with
    | kept stored => simp [Db.session, present, stored]
    | rotated _ expected new _ asked => exact absurd asked (unasked expected new)
    | reserved _ _ unknown unset => simp [Db.session, present, unknown, unset]
    | created _ new _ _ asked => exact absurd asked (unasked none new)

end Writes

/-! ## The session services -/

section Services

variable [DecidableEq D]

omit [DecidableEq D] in
theorem bindSession_cases (profile : Uuid) (request : SessionRequest)
    (bindings next : Table Uuid ConversationBinding)
    (binds : bindSession profile request bindings = .ok next) :
    next.lookup profile =
        some ⟨request.cloudConversationRef, some request.effectiveSessionId⟩ ∧
      (∀ other, other ≠ profile → next.lookup other = bindings.lookup other) ∧
      (request.expectedSessionId =
          (bindings.lookup profile).bind ConversationBinding.hermesSessionId ∨
        (bindings.lookup profile).bind ConversationBinding.hermesSessionId =
          some request.effectiveSessionId) := by
  simp only [bindSession] at binds
  split at binds
  · next unknown =>
    simp only [bind_eq_ok, require_eq_ok, pure_eq_ok] at binds
    obtain ⟨_, unexpected, _, _, rfl⟩ := binds
    refine ⟨AList.lookup_insert _, fun other different => AList.lookup_insert_ne different, ?_⟩
    rw [unknown]
    exact .inl unexpected
  · next bound =>
    simp only [bind_eq_ok, require_eq_ok] at binds
    obtain ⟨_, conversation, binds⟩ := binds
    split at binds
    · next already =>
      cases binds
      refine ⟨?_, fun _ _ => rfl, ?_⟩
      · rw [bound, ← conversation, ← already]
      · rw [bound]
        exact .inr already
    · simp only [bind_eq_ok, require_eq_ok, pure_eq_ok] at binds
      obtain ⟨_, current, rfl⟩ := binds
      refine ⟨?_, fun other different => AList.lookup_insert_ne different, ?_⟩
      · rw [AList.lookup_insert, conversation]
      · rw [bound]
        exact .inl current

/-- Who asks for the session of an ordinary attempt, and with which lease. -/
structure SessionHolder (env : Env D) (context : RuntimeContext) (id : AttemptId)
    (leaseToken : String) (db : Db D) (execution : Execution D) (attempt : Attempt D)
    (tokenDigest : D) : Prop where
  token : digestLeaseToken env leaseToken = .ok tokenDigest
  found : db.attempt? id = some (execution, attempt)
  home : execution.workspace = context.workspace
  ordinary : execution.routine = none
  held : ∃ lease, attempt.lease = some lease ∧ lease.tokenDigest = tokenDigest

def SessionRequest.digest (env : Env D) (request : SessionRequest) : D :=
  env.digestPayload (.session request.cloudConversationRef request.expectedSessionId
    request.effectiveSessionId)

def SessionRequest.IsValid (request : SessionRequest) : Prop :=
  validateNonempty request.cloudConversationRef "cloud_conversation_ref" 255 = .ok () ∧
    validateSessionId request.expectedSessionId request.effectiveSessionId = .ok ()

structure Attempt.HoldsSession (attempt : Attempt D) (requestDigest tokenDigest : D)
    (session : String) : Prop where
  request : attempt.sessionRequestDigest = some requestDigest
  lease : attempt.sessionLeaseDigest = some tokenDigest
  receipt : attempt.sessionReceipt = some session

section

variable (env : Env D) (now : Instant) (context : RuntimeContext) (id : AttemptId)
  (leaseToken : String) (request : SessionRequest)

section

variable (db next : Db D) (answer : ConversationBinding)
  (success : updateSessionBinding env now context id leaseToken request db = .ok (answer, next))

include db success

theorem updateSessionBinding_cases :
    ∃ execution attempt tokenDigest, request.IsValid ∧
      SessionHolder env context id leaseToken db execution attempt tokenDigest ∧
      ((∃ binding session, attempt.HoldsSession (request.digest env) tokenDigest session ∧
          db.bindings.lookup execution.profile = some binding ∧
          answer = { binding with hermesSessionId := some session } ∧ next = db) ∨
        ∃ bindings, attempt.sessionRequestDigest = none ∧
          bindSession execution.profile request db.bindings = .ok bindings ∧
          answer = ⟨request.cloudConversationRef, some request.effectiveSessionId⟩ ∧
          next = { db.putExecution id.execution (execution.setAttempt id.number
            (attempt.storeSessionReceipt (request.digest env) tokenDigest
              request.effectiveSessionId)) with bindings := bindings }) := by
  simp only [updateSessionBinding, bind_eq_ok, orRaise_eq_ok, require_eq_ok] at success
  obtain ⟨_, validRef, _, validSession, tokenDigest, token, _, _, _, _,
    ⟨execution, attempt⟩, found, success⟩ := success
  dsimp only at success
  obtain ⟨_, _, _, _, lease, held, success⟩ := success
  rw [Option.filter_eq_some_iff] at found held
  obtain ⟨stored, isFound, home⟩ := (Db.attemptIn_eq_some _ _ _ _ _).mp found.1
  have ordinary : execution.routine = none := by
    simpa [Execution.isRoutineDispatch] using found.2
  have holder : SessionHolder env context id leaseToken db execution attempt tokenDigest :=
    ⟨token, (Db.attempt?_eq_some _ _ _ _).mpr ⟨stored, isFound⟩, home, ordinary,
      lease, held.1, by simpa using held.2⟩
  refine ⟨execution, attempt, tokenDigest, ⟨validRef, validSession⟩, holder, ?_⟩
  split at success
  · next digest =>
    simp only [bind_eq_ok, require_eq_ok, orRaise_eq_ok, return_eq_ok] at success
    obtain ⟨_, ⟨same, sameLease⟩, binding, bound, session, receipt, isAnswer, rfl⟩ := success
    rw [same] at digest
    exact .inl ⟨binding, session, ⟨digest, sameLease, receipt⟩, bound, isAnswer.symm, rfl⟩
  · next first =>
    simp only [bind_eq_ok, require_eq_ok, return_eq_ok] at success
    obtain ⟨_, _, _, _, _, _, bindings, binds, isAnswer, rfl⟩ := success
    exact .inr ⟨bindings, first, binds, isAnswer.symm, rfl⟩

theorem updateSessionBinding_receipt :
    ∃ execution attempt tokenDigest session binding, request.IsValid ∧
      SessionHolder env context id leaseToken next execution attempt tokenDigest ∧
      attempt.HoldsSession (request.digest env) tokenDigest session ∧
      next.bindings.lookup execution.profile = some binding ∧
      answer = { binding with hermesSessionId := some session } := by
  obtain ⟨execution, attempt, tokenDigest, valid, holder, kind⟩ :=
    updateSessionBinding_cases env now context id leaseToken request db next answer success
  rcases kind with ⟨binding, session, receipt, bound, isAnswer, rfl⟩ |
    ⟨_, _, binds, isAnswer, rfl⟩
  · exact ⟨execution, attempt, tokenDigest, session, binding, valid, holder, receipt, bound,
      isAnswer⟩
  · obtain ⟨written, _⟩ := bindSession_cases execution.profile request _ _ binds
    refine ⟨_, _, tokenDigest, request.effectiveSessionId, _, valid,
      ⟨holder.token, (Db.attempt?_eq_some _ _ _ _).mpr
        ⟨AList.lookup_insert _, AList.lookup_insert _⟩, holder.home, holder.ordinary, holder.held⟩,
      ⟨rfl, rfl, rfl⟩, written, isAnswer⟩

end

theorem updateSessionBinding_replay (db : Db D) (execution : Execution D)
    (attempt : Attempt D) (tokenDigest : D) (session : String) (binding : ConversationBinding)
    (profile : RuntimeProfile D) (valid : request.IsValid)
    (holder : SessionHolder env context id leaseToken db execution attempt tokenDigest)
    (receipt : attempt.HoldsSession (request.digest env) tokenDigest session)
    (bound : db.bindings.lookup execution.profile = some binding) (current : context.IsCurrent db)
    (stored : db.profiles.lookup execution.profile = some profile)
    (writable : profileAllowsRuntimeWrite profile = true) :
    updateSessionBinding env now context id leaseToken request db =
      .ok ({ binding with hermesSessionId := some session }, db) := by
  obtain ⟨workspace, isWorkspace, generation⟩ := current
  obtain ⟨lease, held, token⟩ := holder.held
  obtain ⟨isStored, isAttempt⟩ := (Db.attempt?_eq_some _ _ _ _).mp holder.found
  have found : (db.attemptIn context.workspace id).filter
      (fun found => !found.1.isRoutineDispatch) = some (execution, attempt) := by
    rw [Option.filter_eq_some_iff]
    exact ⟨(Db.attemptIn_eq_some _ _ _ _ _).mpr ⟨isStored, isAttempt, holder.home⟩,
      by simp [Execution.isRoutineDispatch, holder.ordinary]⟩
  have leased : attempt.lease.filter (fun lease => lease.tokenDigest = tokenDigest) = some lease := by
    rw [Option.filter_eq_some_iff]
    exact ⟨held, by simpa using token⟩
  have digest : attempt.sessionRequestDigest =
      some (env.digestPayload (.session request.cloudConversationRef request.expectedSessionId
        request.effectiveSessionId)) := receipt.request
  simp only [updateSessionBinding, bind_eq_ok, orRaise_eq_ok, require_eq_ok]
  refine ⟨(), valid.1, (), valid.2, tokenDigest, holder.token, workspace, isWorkspace, (), generation,
    (execution, attempt), found, ?_⟩
  dsimp only
  refine ⟨profile, stored, (), writable, lease, leased, ?_⟩
  rw [digest]
  simp only [bind_eq_ok, orRaise_eq_ok, require_eq_ok, pure_eq_ok]
  exact ⟨(), ⟨trivial, receipt.lease⟩, binding, bound, session, receipt.receipt, rfl⟩

end

end Services

/-! ## Updates -/

section Updates

variable [DecidableEq D] (env : Env D)

/-- The update of the profile's session that a successful call is; the replay of a
receipt is none. -/
def Call.sessionUpdate (call : Call D) (db : Db D) (profile : Uuid) : Option (Update String) :=
  match call.operation with
  | .updateSessionBinding _ id _ request =>
    ((db.attempt? id).filter fun found =>
      found.1.profile = profile ∧ found.2.sessionRequestDigest = none).map
        fun _ => ⟨request.expectedSessionId, request.effectiveSessionId⟩
  | .compareAndSetSession target expected new _ =>
    if target = profile then some ⟨expected, new⟩ else none
  | _ => none

def acceptedUpdate (db : Db D) (call : Call D) (profile : Uuid) : Option (Update String) :=
  match apply env call db with
  | .ok _ => call.sessionUpdate db profile
  | .error _ => none

/-- The accepted updates of the profile's session along a run. -/
def sessionUpdates (profile : Uuid) : Db D → List (Call D) → List (Update String)
  | _, [] => []
  | db, call :: rest =>
    (acceptedUpdate env db call profile).toList ++ sessionUpdates profile (step env db call) rest

variable {env} {call : Call D} {db next : Db D} {answer : Reply D}

omit [DecidableEq D] in
theorem Call.sessionAsked_of_update {profile : Uuid} {update : Update String}
    (updates : call.sessionUpdate db profile = some update) :
    SessionAsked call db profile update.expected update.new := by
  simp only [Call.sessionUpdate] at updates
  split at updates
  · next context id leaseToken request asked =>
    rw [Option.map_eq_some_iff] at updates
    obtain ⟨⟨execution, _⟩, found, rfl⟩ := updates
    rw [Option.filter_eq_some_iff, Db.attempt?_eq_some] at found
    have target : execution.profile = profile := by
      simpa using (of_decide_eq_true found.2).1
    exact .inl ⟨context, id, leaseToken, request, execution, asked, found.1.1, target, rfl, rfl⟩
  · next conversationRef asked =>
    split at updates
    · next same =>
      cases updates
      exact .inr ⟨conversationRef, same ▸ asked⟩
    · cases updates
  · cases updates

theorem apply_session (named : db.SessionsNamed)
    (success : apply env call db = .ok (answer, next)) (profile : Uuid)
    (undeleted : ¬ next.ProfileDeleted profile) :
    Chain (db.session profile) (call.sessionUpdate db profile).toList (next.session profile) := by
  by_cases asked : ∃ expected new, SessionAsked call db profile expected new
  · obtain ⟨expected, new, ⟨context, id, leaseToken, request, execution, operation, holder, target,
      rfl, rfl⟩ | ⟨conversationRef, operation⟩⟩ := asked
    · obtain ⟨now, _⟩ := call
      cases operation
      simp only [apply, reply_eq_ok] at success
      obtain ⟨binding, success, _⟩ := success
      obtain ⟨other, _, _, _, isHolder, kind⟩ :=
        updateSessionBinding_cases env now context id leaseToken request db next binding success
      have same : other = execution := by
        have stored := ((Db.attempt?_eq_some _ _ _ _).mp isHolder.found).1
        exact Option.some.inj (stored.symm.trans holder)
      subst same
      rcases kind with ⟨_, _, receipt, _, _, rfl⟩ | ⟨_, first, binds, _, rfl⟩
      · have replayed : Call.sessionUpdate
            ⟨now, .updateSessionBinding context id leaseToken request⟩ next profile = none := by
          simp [Call.sessionUpdate, isHolder.found, receipt.request]
        rw [replayed]
        rfl
      · have updates : Call.sessionUpdate
            ⟨now, .updateSessionBinding context id leaseToken request⟩ db profile =
              some ⟨request.expectedSessionId, request.effectiveSessionId⟩ := by
          simp [Call.sessionUpdate, isHolder.found, first, target]
        obtain ⟨written, _, current⟩ := bindSession_cases other.profile request _ _ binds
        rw [updates]
        refine ⟨?_, ?_⟩
        · rw [← target]
          exact current
        · subst target
          simp [Db.session, written]
    · obtain ⟨now, _⟩ := call
      cases operation
      simp only [apply, reply_eq_ok] at success
      obtain ⟨binding, success, _⟩ := success
      have updates : Call.sessionUpdate
          (⟨now, .compareAndSetSession profile expected new conversationRef⟩ : Call D) db profile =
            some ⟨expected, new⟩ := by
        simp [Call.sessionUpdate]
      rw [updates]
      obtain ⟨_, _, ⟨_, unknown, unexpected, rfl⟩ | ⟨_, bound, already, rfl⟩ |
        ⟨_, bound, current, rfl⟩⟩ :=
        compareAndSetSession_cases profile expected new conversationRef binding db next success
      · refine ⟨.inl ?_, ?_⟩
        · simp [Db.session, unknown, unexpected]
        · simp [Db.session]
      · have present : next.session profile = some new := by
          simp [Db.session, bound, already]
        exact ⟨.inr present, present⟩
      · refine ⟨.inl ?_, ?_⟩
        · rcases current with current | ⟨_, empty⟩
          · simp [Db.session, bound, current]
          · exact absurd (by simp [Db.session, bound, empty]) (named profile)
        · simp [Db.session]
  · have none : call.sessionUpdate db profile = none := by
      cases updates : call.sessionUpdate db profile with
      | none => rfl
      | some => exact absurd ⟨_, _, Call.sessionAsked_of_update updates⟩ asked
    rw [none]
    have unasked : ∀ expected new, ¬ SessionAsked call db profile expected new :=
      fun expected new isAsked => asked ⟨expected, new, isAsked⟩
    have frame := (apply_evolution env call db next answer success).relates
      (fun db next => (db.ProfileDeleted profile → next.ProfileDeleted profile) ∧
        (¬ next.ProfileDeleted profile → next.session profile = db.session profile))
      (fun db => ⟨id, fun _ => rfl⟩)
      (fun earlier later => ⟨fun deleted => later.1 (earlier.1 deleted), fun undeleted =>
        (later.2 undeleted).trans (earlier.2 fun deleted => undeleted (later.1 deleted))⟩)
      (fun db next write =>
        ⟨write.staysDeleted profile, write.sessionFrame profile unasked⟩)
    exact frame.2 undeleted

/-! ## Along a run -/

theorem run_bindings (db : Db D) (calls : List (Call D)) (named : db.SessionsNamed) :
    (run env db calls).SessionsNamed ∧
      bindingRecords.Continues ConversationBinding.SameConversation db (run env db calls) :=
  run_carries env (fun _ _ => True) Db.SessionsNamed (fun _ _ db => db.SessionsNamed)
    (bindingRecords.Continues ConversationBinding.SameConversation)
    (Records.Continues.refl fun _ => rfl)
    (Records.Continues.trans _ fun earlier later => later.trans earlier)
    (fun _ _ holds _ => holds)
    (fun _ _ _ _ write holds => ⟨write.sessionsNamed holds, write.bindingsContinue⟩)
    (fun _ _ _ holds => holds) db calls named
    (Run.meets_of_forall _ (fun _ _ => trivial) db calls)

omit [DecidableEq D] in
theorem sessionsNamed_empty : (Db.empty : Db D).SessionsNamed := by
  intro profile
  simp [Db.session, Db.empty]

theorem run_session (profile : Uuid) (db : Db D) (calls : List (Call D))
    (named : db.SessionsNamed) (undeleted : ¬ (run env db calls).ProfileDeleted profile) :
    Chain (db.session profile) (sessionUpdates env profile db calls)
      ((run env db calls).session profile) := by
  induction calls generalizing db with
  | nil => rfl
  | cons call rest ih =>
    have stepped := @run_bindings _ _ env db [call] named
    have stays : ¬ (step env db call).ProfileDeleted profile := fun deleted =>
      undeleted ((run_bindings (step env db call) rest stepped.1).2.gone profile deleted)
    refine Chain.append ?_ (ih (step env db call) stepped.1 undeleted)
    simp only [acceptedUpdate]
    cases result : apply env call db with
    | error error =>
      rw [step, Run.step_of_error db call error result]
      exact (Register.chain_nil _ _).mpr rfl
    | ok pair =>
      have same : step env db call = pair.2 := Run.step_of_ok db pair.2 call pair.1 result
      rw [same] at stays ⊢
      exact apply_session named result profile stays

end Updates

/-! ## Receipts -/

section Receipts

variable [DecidableEq D] {env : Env D}

def Attempt.SessionKept (attempt later : Attempt D) : Prop :=
  attempt.sessionRequestDigest ≠ none →
    later.sessionRequestDigest = attempt.sessionRequestDigest ∧
      later.sessionLeaseDigest = attempt.sessionLeaseDigest ∧
      later.sessionReceipt = attempt.sessionReceipt

omit [DecidableEq D] in
theorem Attempt.SessionKept.trans {first second third : Attempt D}
    (earlier : first.SessionKept second) (later : second.SessionKept third) :
    first.SessionKept third := by
  intro stored
  obtain ⟨digest, lease, receipt⟩ := earlier stored
  obtain ⟨digest', lease', receipt'⟩ := later (by rw [digest]; exact stored)
  exact ⟨digest'.trans digest, lease'.trans lease, receipt'.trans receipt⟩

theorem Move.sessionKept {call : Call D} {db : Db D} {id : Uuid} {execution : Execution D}
    {number : Nat} {attempt later : Attempt D} {status : ExecutionStatus}
    {routine : Option RoutineExecution}
    (move : Move env call db id execution number attempt later status routine) :
    attempt.SessionKept later := by
  intro stored
  cases move with
  | bindSession _ _ _ _ _ _ _ _ first =>
    exact absurd first stored
  | endWait =>
    simp only [Attempt.endWait]
    split <;> exact ⟨rfl, rfl, rfl⟩
  | finish _ _ _ _ _ outcome =>
    rcases outcome with _ | _ | _ <;> exact ⟨rfl, rfl, rfl⟩
  | retire _ _ _ failure | retireRoutine _ _ _ failure =>
    rcases failure with _ | _ | _ <;> exact ⟨rfl, rfl, rfl⟩
  | _ => exact ⟨rfl, rfl, rfl⟩

def receiptRule (env : Env D) : UnitRule env where
  Condition := fun _ _ _ _ => True
  Holds := fun _ _ => True
  Related := Execution.AttemptsContinue Attempt.SessionKept
  reflexive := .refl fun _ _ => ⟨rfl, rfl, rfl⟩
  transitive := .trans .trans
  birth := fun _ _ _ _ _ => ⟨trivial, trivial⟩
  change := fun _ _ _ _ _ _ _ change =>
    ⟨⟨trivial, trivial⟩, change.attemptsContinue _ (fun _ _ => ⟨rfl, rfl, rfl⟩)
      (fun _ _ _ => ⟨rfl, rfl, rfl⟩) fun _ _ _ _ _ _ move => move.sessionKept⟩

/-- What is kept of the sessions that were bound before, whatever calls come after. -/
structure SessionsKept (env : Env D) (before : List (Call D)) : Prop where
  /-- A conversation's session changes only by an accepted update that expected it. -/
  changed : ∀ call profile binding later,
    (run env Db.empty before).bindings.lookup profile = some binding →
    (run env Db.empty (before ++ [call])).bindings.lookup profile = some later →
    later.hermesSessionId ≠ binding.hermesSessionId →
    ∃ new, acceptedUpdate env (run env Db.empty before) call profile =
        some ⟨binding.hermesSessionId, new⟩ ∧ later.hermesSessionId = some new
  /-- The accepted updates form one chain, until the profile is deleted. -/
  chain : ∀ after profile,
    (run env Db.empty (before ++ after)).deletedProfiles.lookup profile = none →
    Chain ((run env Db.empty before).session profile)
      (sessionUpdates env profile (run env Db.empty before) after)
      ((run env Db.empty (before ++ after)).session profile)
  conversation : ∀ after profile binding later,
    (run env Db.empty before).bindings.lookup profile = some binding →
    (run env Db.empty (before ++ after)).bindings.lookup profile = some later →
    later.cloudConversationRef = binding.cloudConversationRef
  /-- An attempt's receipt is written once. -/
  receipt : ∀ after id execution later number attempt session,
    (run env Db.empty before).executions.lookup id = some execution →
    (run env Db.empty (before ++ after)).executions.lookup id = some later →
    execution.attempt? number = some attempt → attempt.sessionReceipt = some session →
    ∃ kept, later.attempt? number = some kept ∧ kept.sessionReceipt = some session ∧
      kept.sessionRequestDigest = attempt.sessionRequestDigest ∧
      kept.sessionLeaseDigest = attempt.sessionLeaseDigest
  /-- The same request is answered as it was, and nothing is written. -/
  replay : ∀ after now again context id leaseToken request answer next execution profile,
    apply env ⟨now, .updateSessionBinding context id leaseToken request⟩
      (run env Db.empty before) = .ok (answer, next) →
    context.IsCurrent (run env next after) →
    (run env next after).executions.lookup id.execution = some execution →
    (run env next after).profiles.lookup execution.profile = some profile →
    profileAllowsRuntimeWrite profile = true →
    apply env ⟨again, .updateSessionBinding context id leaseToken request⟩ (run env next after) =
      .ok (answer, run env next after)
  /-- An acquisition's session is bound once. -/
  acquisition : ∀ after id execution later number attempt lease (place : Nat)
      (acquisition : RoutineLeaseAcquisition D) session,
    (run env Db.empty before).executions.lookup id = some execution →
    (run env Db.empty (before ++ after)).executions.lookup id = some later →
    execution.attempt? number = some attempt → attempt.lease = some lease →
    lease.acquisitions[place]? = some acquisition → acquisition.sessionReceipt = some session →
    ∃ kept held, ∃ bound : RoutineLeaseAcquisition D,
      later.attempt? number = some kept ∧ kept.lease = some held ∧
      held.acquisitions[place]? = some bound ∧ bound.claimId = acquisition.claimId ∧
      bound.sessionReceipt = some session ∧
      bound.sessionRequestDigest = acquisition.sessionRequestDigest
  /-- A run's session is bound once. -/
  ofRun : ∀ after id execution later routine session,
    (run env Db.empty before).executions.lookup id = some execution →
    (run env Db.empty (before ++ after)).executions.lookup id = some later →
    execution.routine = some routine → routine.hermesSessionId = some session →
    ∃ kept, later.routine = some kept ∧ kept.hermesSessionId = some session

variable (env)

theorem run_empty_named (calls : List (Call D)) : (run env Db.empty calls).SessionsNamed :=
  (run_bindings Db.empty calls sessionsNamed_empty).1

theorem run_conversation (db : Db D) (calls : List (Call D)) (intact : db.Intact)
    (named : db.SessionsNamed) (id : Uuid) (binding : ConversationBinding)
    (profile : RuntimeProfile D) (bound : db.bindings.lookup id = some binding)
    (stored : (run env db calls).profiles.lookup id = some profile) :
    ∃ later, (run env db calls).bindings.lookup id = some later ∧
      binding.SameConversation later := by
  rcases (run_bindings db calls named).2.kept id binding bound with kept | deleted
  · exact kept
  · obtain ⟨workspace, tombstone⟩ := Option.ne_none_iff_exists'.mp deleted
    have absent := (run_intact env calls intact).deleted id workspace tombstone
    rw [absent] at stored
    cases stored

theorem session_changed (before : List (Call D)) (call : Call D) (profile : Uuid)
    (binding later : ConversationBinding)
    (bound : (run env Db.empty before).bindings.lookup profile = some binding)
    (present : (run env Db.empty (before ++ [call])).bindings.lookup profile = some later)
    (changed : later.hermesSessionId ≠ binding.hermesSessionId) :
    ∃ new, acceptedUpdate env (run env Db.empty before) call profile =
        some ⟨binding.hermesSessionId, new⟩ ∧ later.hermesSessionId = some new := by
  have undeleted : ¬ (run env Db.empty (before ++ [call])).ProfileDeleted profile := by
    intro deleted
    have absent := (run_intact env (before ++ [call])
      Db.intact_empty).unbound_of_deleted deleted
    rw [absent] at present
    cases present
  have split : run env Db.empty (before ++ [call]) = run env (run env Db.empty before) [call] :=
    Run.run_append Db.empty before [call]
  rw [split] at present undeleted
  have chain := run_session profile (run env Db.empty before) [call]
    (run_empty_named env before) undeleted
  have isBefore : (run env Db.empty before).session profile = binding.hermesSessionId := by
    simp [Db.session, bound]
  have isAfter : (run env (run env Db.empty before) [call]).session profile =
      later.hermesSessionId := by
    simp [Db.session, present]
  rw [isBefore, isAfter, sessionUpdates, sessionUpdates, List.append_nil] at chain
  exact chain.of_changed changed

theorem session_replayed (before after : List (Call D)) (now again : Instant)
    (context : RuntimeContext) (id : AttemptId) (leaseToken : String) (request : SessionRequest)
    (answer : Reply D) (next : Db D) (execution : Execution D) (profile : RuntimeProfile D)
    (success : apply env ⟨now, .updateSessionBinding context id leaseToken request⟩
      (run env Db.empty before) = .ok (answer, next))
    (current : context.IsCurrent (run env next after))
    (present : (run env next after).executions.lookup id.execution = some execution)
    (stored : (run env next after).profiles.lookup execution.profile = some profile)
    (writable : profileAllowsRuntimeWrite profile = true) :
    apply env ⟨again, .updateSessionBinding context id leaseToken request⟩ (run env next after) =
      .ok (answer, run env next after) := by
  have reached : run env Db.empty
      (before ++ [⟨now, .updateSessionBinding context id leaseToken request⟩]) = next := by
    rw [run, Run.run_append]
    exact Run.step_of_ok _ next _ answer success
  have split : run env next after = run env Db.empty
      ((before ++ [⟨now, .updateSessionBinding context id leaseToken request⟩]) ++ after) := by
    rw [run, run, Run.run_append _ _ after, ← reached]
    rfl
  simp only [apply, reply_eq_ok] at success
  obtain ⟨_, success, rfl⟩ := success
  obtain ⟨former, attempt, tokenDigest, session, conversation, valid, holder, receipt, bound,
    rfl⟩ := updateSessionBinding_receipt env now context id leaseToken request _ next _ success
  obtain ⟨wasStored, wasFound⟩ := (Db.attempt?_eq_some _ _ _ _).mp holder.found
  rw [← reached] at wasStored
  have later := present
  rw [split] at later
  -- The attempt kept its receipt and its lease, the Execution its profile.
  have same := (workRule env).relates _ after (runMeets_of_forall env _ (fun _ _ _ _ => trivial) _ _)
    id.execution former execution wasStored later
  obtain ⟨kept, isKept, session'⟩ := (receiptRule env).relates _ after
    (runMeets_of_forall env _ (fun _ _ _ _ => trivial) _ _)
    id.execution former execution wasStored later id.number attempt wasFound
  obtain ⟨_, isLeased, leaseKept⟩ := ((leaseRowsRule env).relates _ after
    (runMeets_of_forall env _ (fun _ _ _ _ => trivial) _ _)
    id.execution former execution wasStored later).ordinary holder.ordinary id.number attempt wasFound
  cases isKept.symm.trans isLeased
  obtain ⟨digest, leaseDigest, sameReceipt⟩ := session' (by rw [receipt.request]; rintro ⟨⟩)
  obtain ⟨_, held, token⟩ := holder.held
  obtain ⟨keptLease, isHeld, keeps⟩ := leaseKept.held held
  have isHolder : SessionHolder env context id leaseToken (run env next after) execution kept
      tokenDigest :=
    ⟨holder.token, (Db.attempt?_eq_some _ _ _ _).mpr ⟨present, isKept⟩,
      same.workspace.trans holder.home, same.ordinary holder.ordinary,
      keptLease, isHeld, keeps.token.trans token⟩
  have intact : next.Intact := by
    rw [← reached]
    exact run_intact env _ Db.intact_empty
  have named : next.SessionsNamed := by
    rw [← reached]
    exact run_empty_named env _
  have profileStays : (run env next after).profiles.lookup former.profile = some profile := by
    rw [← same.profile]
    exact stored
  obtain ⟨last, isBound, conversation'⟩ :=
    run_conversation env next after intact named former.profile conversation profile bound
      profileStays
  have replayed := updateSessionBinding_replay env again context id leaseToken request
    (run env next after) execution kept tokenDigest session last profile valid isHolder
    ⟨digest.trans receipt.request, leaseDigest.trans receipt.lease,
      sameReceipt.trans receipt.receipt⟩
    (by rw [same.profile]; exact isBound) current stored writable
  simp only [apply, replayed, reply]
  rw [← conversation']

theorem session_bindings_are_lossless (before : List (Call D)) : SessionsKept env before where
  changed := session_changed env before
  chain := by
    intro after profile undeleted
    have split : run env Db.empty (before ++ after) = run env (run env Db.empty before) after :=
      Run.run_append Db.empty before after
    rw [split] at undeleted ⊢
    exact run_session profile _ after (run_empty_named env before) fun deleted => deleted undeleted
  conversation := by
    intro after profile binding later bound present
    have split : run env Db.empty (before ++ after) = run env (run env Db.empty before) after :=
      Run.run_append Db.empty before after
    obtain ⟨row, stored⟩ := (run_intact env (before ++ after) Db.intact_empty).bound profile
      later present
    rw [split] at stored present
    obtain ⟨_, isKept, same⟩ := run_conversation env _ after
      (run_intact env before Db.intact_empty) (run_empty_named env before) profile binding
      row bound stored
    rw [present, Option.some.injEq] at isKept
    exact isKept ▸ same
  receipt := by
    intro after id execution later number attempt session stored present found isReceipt
    have digested : attempt.sessionRequestDigest ≠ none := by
      have kept := (sessionRule env).holds before
        (runMeets_of_forall env _ (fun _ _ _ _ => trivial) _ _) id execution stored number attempt
        found
      have isSome := kept.digested (by rw [isReceipt]; rfl)
      exact Option.ne_none_iff_isSome.mpr isSome
    obtain ⟨kept, isKept, same⟩ := (receiptRule env).relates before after
      (runMeets_of_forall env _ (fun _ _ _ _ => trivial) _ _) id execution later stored present
      number attempt found
    obtain ⟨digest, lease, receipt⟩ := same digested
    exact ⟨kept, isKept, receipt.trans isReceipt, digest, lease⟩
  replay := session_replayed env before
  acquisition := by
    intro after id execution later number attempt lease place acquisition session stored present
      found held listed isReceipt
    have formed := (leaseRowsRule env).holds before
      (runMeets_of_forall env _ (fun _ _ _ _ => trivial) _ _) id execution stored number attempt
      found lease held
    have digested := formed.digested acquisition (List.mem_of_getElem? listed)
      (by rw [isReceipt]; exact nofun)
    obtain ⟨kept, isKept, leases⟩ := ((leaseRowsRule env).relates before after
      (runMeets_of_forall env _ (fun _ _ _ _ => trivial) _ _) id execution later stored
      present).attempts number attempt found
    obtain ⟨next, isNext, continues⟩ := leases lease held
    obtain ⟨bound, isBound, same⟩ := continues.acquisitions place acquisition listed
    obtain ⟨digest, receipt⟩ := same.session digested
    exact ⟨kept, next, bound, isKept, isNext, isBound, same.claim, receipt.trans isReceipt, digest⟩
  ofRun := by
    intro after id execution later routine session stored present has bound
    obtain ⟨kept, isKept, same⟩ := ((workRule env).relates before after
      (runMeets_of_forall env _ (fun _ _ _ _ => trivial) _ _) id execution later stored
      present).run routine has
    exact ⟨kept, isKept, (same.session (by rw [bound]; exact nofun)).trans bound⟩

end Receipts

end Foundry
