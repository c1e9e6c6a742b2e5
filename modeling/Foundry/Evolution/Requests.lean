import Foundry.Evolution.Waits

/-!
# What is kept of a request

An attempt stores the digests and the receipt of the request that ended it, and so
does the acquisition of a routine's lease.  These columns are written once.  An
attempt whose lease is resolved, and whose routine, if it has one, ended with a
sealed acquisition, is not written at all any more.
-/

set_option autoImplicit false

namespace Foundry

variable {D : Type}

/-! ## Columns written once -/

structure Attempt.KeepsRequests (attempt later : Attempt D) : Prop where
  terminal : attempt.terminalRequestDigest ≠ none →
    later.terminalRequestDigest = attempt.terminalRequestDigest
  stopped : attempt.stoppedRequestDigest ≠ none →
    later.stoppedRequestDigest = attempt.stoppedRequestDigest ∧
      later.stoppedLeaseDigest = attempt.stoppedLeaseDigest ∧
      later.stoppedReceipt = attempt.stoppedReceipt

namespace Attempt.KeepsRequests

variable {attempt second third : Attempt D}

theorem refl (attempt : Attempt D) : attempt.KeepsRequests attempt :=
  ⟨fun _ => rfl, fun _ => ⟨rfl, rfl, rfl⟩⟩

theorem trans (earlier : attempt.KeepsRequests second) (later : second.KeepsRequests third) :
    attempt.KeepsRequests third := by
  refine ⟨fun present => ?_, fun present => ?_⟩
  · have same := earlier.terminal present
    exact (later.terminal (by rw [same]; exact present)).trans same
  · obtain ⟨request, lease, receipt⟩ := earlier.stopped present
    obtain ⟨nextRequest, nextLease, nextReceipt⟩ := later.stopped (by rw [request]; exact present)
    exact ⟨nextRequest.trans request, nextLease.trans lease, nextReceipt.trans receipt⟩

end Attempt.KeepsRequests

section

variable [DecidableEq D] {env : Env D} {call : Call D} {db : Db D} {id : Uuid}
  {execution next : Execution D} {number : Nat} {attempt later : Attempt D}
  {status : ExecutionStatus} {written : Option RoutineExecution}

omit [DecidableEq D] in
theorem applyOption_requests (attempt : Attempt D) (outcome : Option (Append D)) :
    (Append.applyOption attempt outcome).terminalRequestDigest = attempt.terminalRequestDigest ∧
      (Append.applyOption attempt outcome).stoppedRequestDigest = attempt.stoppedRequestDigest ∧
      (Append.applyOption attempt outcome).stoppedLeaseDigest = attempt.stoppedLeaseDigest ∧
      (Append.applyOption attempt outcome).stoppedReceipt = attempt.stoppedReceipt := by
  rcases outcome with _ | _ | _ <;> exact ⟨rfl, rfl, rfl, rfl⟩

section

variable (move : Move env call db id execution number attempt later status written)

include move

theorem Move.terminalRequest :
    later.terminalRequestDigest = attempt.terminalRequestDigest ∨
      (execution.routine = none ∧ attempt.terminalRequestDigest = none ∧
        later.hasUnresolvedLease = false) := by
  cases move with
  | finish _ _ _ _ _ _ _ ordinary _ _ first => exact .inr ⟨ordinary, first, rfl⟩
  | endWait =>
    left
    simp only [Attempt.endWait]
    split <;> rfl
  | retire _ _ _ failure => exact .inl (applyOption_requests attempt failure).1
  | retireRoutine _ _ _ failure =>
    exact .inl (applyOption_requests attempt failure).1
  | _ => exact .inl rfl

theorem Move.keepsRequests :
    attempt.KeepsRequests later := by
  refine ⟨fun present => ?_, fun present => ?_⟩
  · rcases move.terminalRequest with same | ⟨_, absent, _⟩
    · exact same
    · exact absurd absent present
  · cases move with
    | stop _ _ _ _ _ _ _ _ _ _ _ _ first | stopRoutine _ _ _ _ _ _ _ _ _ _ _ _ _ _ first =>
      exact absurd first present
    | finish _ _ _ _ _ outcome | retireRoutine _ _ _ outcome =>
      exact (applyOption_requests attempt outcome).2
    | endWait =>
      simp only [Attempt.endWait]
      split <;> exact ⟨rfl, rfl, rfl⟩
    | retire _ _ _ failure => exact (applyOption_requests attempt failure).2
    | _ => exact ⟨rfl, rfl, rfl⟩

end

/-! ## Settled attempts -/

/-- The lease is resolved; a routine has ended, and the authority of the lease it
had last carries a receipt. -/
structure Execution.Settled (execution : Execution D) (number : Nat) (attempt : Attempt D) :
    Prop where
  found : execution.attempt? number = some attempt
  free : attempt.hasUnresolvedLease = false
  ended : ∀ routine, execution.routine = some routine →
    routine.currentAttempt = some number ∧ routine.status.isTerminal = true
  isSealed : execution.routine ≠ none → ∀ lease acquisition, attempt.lease = some lease →
    lease.acquisitionWith lease.tokenDigest = some acquisition →
    acquisition.terminalReceipt ≠ none

theorem Move.not_settled (move : Move env call db id execution number attempt later status written)
    (timely : NoLateApproval call db id execution) :
    ¬ execution.Settled number attempt := by
  intro settled
  have free : ∀ {lease : Lease D}, attempt.lease = some lease →
      lease.state.isUnresolved = false := by
    intro lease held
    have free := settled.free
    rw [Attempt.hasUnresolvedLease, held] at free
    exact free
  have resolved : ∀ {lease : Lease D}, attempt.lease = some lease →
      lease.state.isUnresolved = true → False := by
    intro lease held unresolved
    rw [free held] at unresolved
    cases unresolved
  have inactive : ∀ {lease : Lease D}, attempt.lease = some lease → lease.state = .active →
      False := by
    intro lease held active
    exact resolved held (by rw [active]; rfl)
  have ended : ∀ {routine : RoutineExecution}, execution.routineAt number = some routine →
      routine.status.isTerminal = false → False := by
    intro routine current unfinished
    have terminal := (settled.ended routine ((Execution.routineAt_eq_some _ _ _).mp current).1).2
    rw [unfinished] at terminal
    cases terminal
  cases move with
  | append _ lease _ _ held active | renew lease _ _ held active
  | mutate lease _ _ _ _ _ held active | bindSession lease _ _ _ _ _ held active
  | bindRoutineSession _ lease _ _ _ _ _ held active
  | finish lease _ _ _ _ _ _ _ held active => exact inactive held active
  | stop _ _ _ _ lease _ _ _ _ _ held unresolved
  | stopRoutine _ _ _ _ _ lease _ _ _ _ _ _ held unresolved
  | requestApproval _ lease _ _ _ _ _ _ held unresolved
  | fence _ _ _ _ lease _ _ _ held unresolved | requeue lease _ _ held unresolved
  | requeueRoutine _ lease _ _ held unresolved | close lease _ _ _ held unresolved
  | retire lease _ _ _ _ _ held unresolved | retireRoutine _ lease _ _ _ _ _ held unresolved
  | cleanup _ lease _ _ _ _ held unresolved | cleanupRoutine _ _ lease _ _ _ _ held unresolved
  | abandon _ _ lease _ _ _ _ held unresolved => exact resolved held unresolved
  | record _ _ _ _ _ current result | endWait _ _ _ _ _ _ current _ _ result =>
    exact ended current result.unfinished
  | recordSealed _ _ _ _ _ _ _ _ _ held active =>
    exact inactive held active
  | resume _ _ _ _ current eligible =>
    have has := ((Execution.routineAt_eq_some _ _ _).mp current).1
    exact ended current (unfinished_of_statusAllowsClaim has eligible)
  | approve command routine action _ asked target granted current listed pending unexpired =>
    exact ended current (timely command number routine action asked target granted current
      listed pending unexpired)
  | sealReplay _ lease acquisition _ _ _ _ _ current held token found _ _ unsealed =>
    subst token
    rcases unsealed with active | unsealed
    · exact inactive held active
    · exact settled.isSealed (routine_ne_none current) lease acquisition held found unsealed

omit [DecidableEq D] in
theorem stopLease_of_resolved (attempt : Attempt D) (profile : Uuid)
    (free : attempt.hasUnresolvedLease = false) : attempt.stopLease profile = attempt := by
  have same : (attempt.lease.map fun lease =>
      if lease.profile = profile ∧ lease.state = .active then { lease with state := .stopping }
      else lease) = attempt.lease := by
    cases held : attempt.lease with
    | none => rfl
    | some =>
      rw [Attempt.hasUnresolvedLease, held, Option.any_some] at free
      rw [Option.map_some, if_neg]
      rintro ⟨_, active⟩
      rw [active] at free
      cases free
  rw [Attempt.stopLease, same]

theorem Change.settled (change : Change env call db id execution next)
    (timely : NoLateApproval call db id execution)
    {Holds : ExecutionStatus → RoutineExecution → Attempt D → Prop}
    (holds : execution.RoutineHolds Holds) (settled : execution.Settled number attempt) :
    next.Settled number attempt ∧ next.routineAt number = execution.routineAt number := by
  -- Whatever is written is another attempt of ordinary work.
  have write : ∀ {other : Nat} {later : Attempt D} {status : ExecutionStatus}
      {written : Option RoutineExecution}, execution.routine = none → written = none →
      other ≠ number →
      (execution.write other later status written).Settled number attempt ∧
        (execution.write other later status written).routineAt number =
          execution.routineAt number := by
    rintro _ _ _ _ ordinary rfl different
    refine ⟨⟨?_, settled.free, ?_, ?_⟩, ?_⟩
    · rw [attempt?_write_ne _ _ _ _ _ _ (Ne.symm different)]
      exact settled.found
    · intro routine has
      cases has
    · intro ofRoutine
      exact absurd rfl ofRoutine
    · rw [Execution.routineAt, Execution.routineAt, write_routine, ordinary]
  cases change with
  | move other former _ _ _ found move =>
    have different : other ≠ number := by
      rintro rfl
      obtain rfl : former = attempt := Option.some.inj (found.symm.trans settled.found)
      exact move.not_settled timely settled
    cases ordinary : execution.routine with
    | none => exact write ordinary (move.routine_eq_none_iff.mpr ordinary) different
    | some routine =>
      obtain ⟨_, _, rows, _⟩ := holds routine ordinary
      have isOther := rows.only other (by rw [found]; exact Option.some_ne_none _)
      have isNumber := rows.only number (by rw [settled.found]; exact Option.some_ne_none _)
      exact absurd (isOther.trans isNumber.symm) different
  | claim _ _ ordinary =>
    refine write ordinary rfl ?_
    intro same
    have free := execution.attempt?_nextNumber
    rw [same, settled.found] at free
    cases free
  | claimDetached _ routine _ detached unset =>
    have current := (settled.ended routine detached).1
    rw [unset] at current
    cases current
  | stopLeases profile =>
    refine ⟨⟨?_, settled.free, settled.ended, settled.isSealed⟩, rfl⟩
    rw [Execution.attempt?_stopLeases, settled.found, Option.map_some,
      stopLease_of_resolved attempt profile settled.free]

/-! ## Along a run -/

structure Execution.KeepsRequests (execution later : Execution D) : Prop where
  workspace : later.workspace = execution.workspace
  profile : later.profile = execution.profile
  kind : later.routine = none ↔ execution.routine = none
  requests : execution.AttemptsContinue Attempt.KeepsRequests later
  settled : ∀ number attempt, execution.Settled number attempt →
    later.Settled number attempt ∧ later.routineAt number = execution.routineAt number

/-- Ordinary work that stored a terminal request has no unresolved lease. -/
def Execution.FinishedIsResolved (execution : Execution D) : Prop :=
  execution.routine = none → execution.AllAttempts fun attempt =>
    attempt.terminalRequestDigest ≠ none → attempt.hasUnresolvedLease = false

theorem Execution.FinishedIsResolved.change (resolved : execution.FinishedIsResolved)
    (change : Change env call db id execution next) : next.FinishedIsResolved := by
  intro ordinary
  have before := change.routine_eq_none_iff.mp ordinary
  refine change.allAttempts _ ?_ ?_ ?_ (resolved before)
  · intro attempt new present
    exact absurd new.terminal.1 present
  · intro attempt profile kept present
    simpa using kept present
  · intro number attempt later status routine found move kept present
    rcases move.terminalRequest with same | ⟨_, _, free⟩
    · rw [same] at present
      have free := kept present
      rw [move.holds_lease before] at free
      cases free
    · exact free

def requestRule (env : Env D) : UnitRule env where
  Condition := NoLateApproval
  Holds := fun _ execution => execution.RoutineHolds RoutineRests ∧ execution.FinishedIsResolved
  Related := Execution.KeepsRequests
  reflexive := fun execution =>
    ⟨rfl, rfl, Iff.rfl, .refl .refl execution, fun _ _ settled => ⟨settled, rfl⟩⟩
  transitive := by
    intro first second third earlier later
    refine ⟨later.workspace.trans earlier.workspace, later.profile.trans earlier.profile,
      later.kind.trans earlier.kind, .trans .trans earlier.requests later.requests, ?_⟩
    intro number attempt settled
    obtain ⟨settled, same⟩ := earlier.settled number attempt settled
    obtain ⟨settled, next⟩ := later.settled number attempt settled
    exact ⟨settled, next.trans same⟩
  birth := by
    intro call db id execution born
    refine ⟨⟨born.rests, fun _ => ?_⟩, born.noLateApproval⟩
    exact born.allAttempts _ fun attempt new present => absurd new.terminal.1 present
  change := by
    intro call db id execution next holds timely change
    refine ⟨⟨⟨holds.1.rests timely change, holds.2.change change⟩,
      change.noLateApproval holds.1⟩, ?_, ?_, change.routine_eq_none_iff, ?_, ?_⟩
    · cases change <;> rfl
    · cases change <;> rfl
    · refine change.attemptsContinue _ .refl (fun _ _ => ⟨fun _ => rfl, fun _ => ⟨rfl, rfl, rfl⟩⟩)
        ?_
      intro number attempt later status routine found move
      exact move.keepsRequests
    · intro number attempt settled
      exact change.settled timely holds.1 settled

end

end Foundry
