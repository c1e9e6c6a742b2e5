import Foundry.Evolution.LeaseRows
import Foundry.Evolution.Integrity

/-!
# Claims and unresolved leases

A claim id is kept by an attempt of ordinary work, or by an acquisition of a routine's
lease.  No other row has it, and no Execution and no scope of a profile has two leases
that are not resolved.
-/

set_option autoImplicit false

namespace Foundry

variable {D : Type}

/-! ## The claims of an attempt -/

def Attempt.claims (attempt : Attempt D) : List Uuid :=
  attempt.claimId.toList ++ attempt.acquisitionClaims

variable {attempt : Attempt D}

theorem Attempt.KeepsClaim.claims {later : Attempt D} (keeps : attempt.KeepsClaim later) :
    later.claims = attempt.claims := by
  rw [Attempt.claims, keeps.claim, keeps.acquisitions]
  rfl

theorem Attempt.KeepsClaim.refl (attempt : Attempt D) : attempt.KeepsClaim attempt :=
  ⟨rfl, rfl, fun lease held unresolved => ⟨lease, held, unresolved, rfl, rfl⟩⟩

theorem Attempt.LeaseKept.keepsClaim {later : Attempt D} (kept : attempt.LeaseKept later)
    (claim : later.claimId = attempt.claimId) : attempt.KeepsClaim later where
  claim := claim
  acquisitions := by
    simp only [Attempt.LeaseKept] at kept
    simp only [Attempt.acquisitionClaims]
    generalize attempt.lease = before at kept
    generalize later.lease = after at kept
    cases kept with
    | none => rfl
    | some keeps =>
      exact Log.Amends.map_eq _ (fun _ _ continues => continues.claim) keeps.acquisitions
        keeps.length
  lease := by
    intro lease held unresolved
    obtain ⟨before, isBefore, keeps⟩ := kept.source held
    exact ⟨before, isBefore, keeps.unresolved unresolved, keeps.profile, keeps.scope⟩

section Moves

variable [DecidableEq D] {env : Env D} {call : Call D} {db : Db D} {id : Uuid}
  {execution next : Execution D} {number : Nat} {attempt later : Attempt D}
  {status : ExecutionStatus} {routine : Option RoutineExecution}

theorem Move.claimId (move : Move env call db id execution number attempt later status routine) :
    later.claimId = attempt.claimId := by
  cases move with
  | endWait =>
    simp only [Attempt.endWait]
    split <;> rfl
  | finish _ _ _ _ _ outcome =>
    exact claimId_applyOption attempt outcome
  | retire _ _ _ failure | retireRoutine _ _ _ failure => exact claimId_applyOption attempt failure
  | _ => rfl

section

variable (formed : ∀ lease, attempt.lease = some lease → lease.WellFormed)
  (move : Move env call db id execution number attempt later status routine)

include formed move

theorem Move.keepsClaim
    (quiet : call.operation.service ≠ .claimNextExecution ∨ attempt.KeepsClaim later) :
    attempt.KeepsClaim later := by
  rcases quiet with other | keeps
  · rcases move.leaseKept formed with kept | ⟨_, _, claims, _⟩
    · exact kept.keepsClaim move.claimId
    · exact absurd claims other
  · exact keeps

theorem Move.leaseKept_of_keepsClaim
    (keeps : attempt.KeepsClaim later) : attempt.LeaseKept later := by
  rcases move.leaseKept formed with kept | ⟨_, _, _, _, acquired⟩
  · exact kept
  · have lengths := congrArg List.length keeps.acquisitions
    rcases acquired.source with ⟨unleased, written⟩ | ⟨_, leased, _, written⟩
    · simp [Attempt.acquisitionClaims, unleased, written, GrantTerms.acquire] at lengths
    · simp [Attempt.acquisitionClaims, leased, written, GrantTerms.acquire,
        GrantTerms.renewedLease, Lease.retireCurrent] at lengths

end

theorem Move.runs (move : Move env call db id execution number attempt later status routine)
    (unresolved : later.hasUnresolvedLease = true) :
    status = .running ∨ (status = execution.status ∧ attempt.hasUnresolvedLease = true) := by
  cases move with
  | approve | resume | abandon => exact .inl rfl
  | append | mutate | bindSession => exact .inr ⟨rfl, unresolved⟩
  | renew _ _ _ held active | bindRoutineSession _ _ _ _ _ _ _ held active =>
    exact .inr ⟨rfl, hasUnresolvedLease_of_active held active⟩
  | sealReplay =>
    rw [sealAcquisition_hasUnresolvedLease] at unresolved
    exact .inr ⟨rfl, unresolved⟩
  | stop | stopRoutine | record | recordSealed | endWait => simp at unresolved
  | finish | fence | requestApproval | requeue | requeueRoutine => cases unresolved
  | close _ _ _ _ _ _ _ resolved =>
    rw [expireLease_hasUnresolvedLease _ _ _ _ resolved] at unresolved
    cases unresolved
  | retire _ isRoutine state failure _ _ _ _ _ resolved =>
    have closed := expireLease_hasUnresolvedLease (Append.applyOption attempt failure) call.now
      isRoutine state resolved
    exact absurd (closed.symm.trans unresolved) nofun
  | retireRoutine _ _ state failure event _ _ _ _ _ resolved =>
    have closed := expireLease_hasUnresolvedLease
      ((Append.applyOption attempt failure).endWithResult call.now .failed event) call.now true
      state resolved
    exact absurd (closed.symm.trans unresolved) nofun
  | cleanup _ _ isRoutine =>
    have closed := expireLease_hasUnresolvedLease attempt call.now isRoutine .fenced rfl
    exact absurd (closed.symm.trans unresolved) nofun
  | cleanupRoutine _ _ _ event =>
    have closed := expireLease_hasUnresolvedLease
      (attempt.endWithResult call.now .failed event) call.now true .fenced rfl
    exact absurd (closed.symm.trans unresolved) nofun

end Moves

/-! ## The leases of an Execution -/

variable {execution : Execution D}

theorem Execution.SameWork.scopeKey {next : Execution D}
    (same : execution.SameWork next) : next.scopeKey = execution.scopeKey := by
  cases has : execution.routine with
  | none => rw [Execution.scopeKey, Execution.scopeKey, same.ordinary has, has]
  | some routine =>
    obtain ⟨later, isLater, run⟩ := same.run routine has
    have routineId : later.routineId = routine.routineId := by rw [run.dispatched]
    simp only [Execution.scopeKey, isLater, has, routineId]

structure Execution.ClaimRows (execution : Execution D) : Prop where
  formed : execution.LeasesFormed
  single : execution.RoutineHolds fun _ _ _ => True
  /-- A lease is its Execution's. -/
  owned : ∀ number attempt lease, execution.attempt? number = some attempt →
    attempt.lease = some lease →
    lease.profile = execution.profile ∧ lease.scopeKey = execution.scopeKey
  /-- Ordinary work has its claim id on the attempt, a routine on its acquisitions. -/
  ordinary : execution.routine = none → ∀ number attempt,
    execution.attempt? number = some attempt → attempt.acquisitionClaims = []
  acquired : execution.routine ≠ none → ∀ number attempt,
    execution.attempt? number = some attempt → attempt.claimId = none
  /-- An unresolved lease is the only one, and the Execution runs under it. -/
  running : ∀ number attempt, execution.attempt? number = some attempt →
    attempt.hasUnresolvedLease = true → execution.status = .running
  one : ∀ number other attempt row, execution.attempt? number = some attempt →
    execution.attempt? other = some row → attempt.hasUnresolvedLease = true →
    row.hasUnresolvedLease = true → other = number

section Changes

variable [DecidableEq D] {env : Env D} {call : Call D} {db : Db D} {id : Uuid}
  {execution next : Execution D} {number : Nat} {attempt later : Attempt D}
  {status : ExecutionStatus} {routine : Option RoutineExecution}

section

variable (rows : execution.ClaimRows) (found : execution.attempt? number = some attempt)
  (move : Move env call db id execution number attempt later status routine)

include rows found move

theorem Execution.ClaimRows.alone (other : Nat)
    (row : Attempt D) (isRow : execution.attempt? other = some row) (different : other ≠ number) :
    row.hasUnresolvedLease = false := by
  cases has : execution.routine with
  | none =>
    by_contra unresolved
    exact different (rows.one number other attempt row found isRow (move.holds_lease has)
      (by simpa using unresolved))
  | some =>
    obtain ⟨_, ofRoutine, _⟩ := rows.single.of_move (by rw [has]; exact nofun) found
    exact absurd (ofRoutine.only other (by rw [isRow]; exact nofun)) different

theorem Execution.ClaimRows.owned_of_move (lease : Lease D) (held : later.lease = some lease) :
    lease.profile = execution.profile ∧ lease.scopeKey = execution.scopeKey := by
  rcases move.leaseKept (rows.formed number attempt found) with
    kept | ⟨_, _, _, isCurrent, acquired⟩
  · obtain ⟨former, isFormer, keeps⟩ := kept.source held
    obtain ⟨profile, scope⟩ := rows.owned number attempt former found isFormer
    exact ⟨keeps.profile.trans profile, keeps.scope.trans scope⟩
  · obtain ⟨has, _⟩ := (Execution.routineAt_eq_some _ _ _).mp isCurrent
    rcases acquired.source with ⟨_, written⟩ | ⟨former, leased, _, written⟩
    · cases written.symm.trans held
      refine ⟨rfl, ?_⟩
      simp only [Execution.scopeKey, has]
      rfl
    · cases written.symm.trans held
      exact rows.owned number attempt former found leased

theorem Execution.ClaimRows.of_move :
    (execution.write number later status routine).ClaimRows := by
  have change : Change env call db id execution (execution.write number later status routine) :=
    .move number attempt later status routine found move
  have same := change.sameWork
  constructor
  case formed => exact change.leasesFormed rows.formed
  case single =>
    exact change.routineHolds _ (fun _ _ _ _ holds => holds) (fun _ _ _ _ _ _ _ _ _ => trivial)
      rows.single
  case owned =>
    intro other row lease isRow held
    rw [same.profile, same.scopeKey]
    rcases attempt?_write_cases isRow with ⟨rfl, rfl⟩ | ⟨_, kept⟩
    · exact rows.owned_of_move found move lease held
    · exact rows.owned other row lease kept held
  case ordinary =>
    intro ordinary other row isRow
    have wasOrdinary := change.routine_eq_none_iff.mp ordinary
    rcases attempt?_write_cases isRow with ⟨rfl, rfl⟩ | ⟨_, kept⟩
    · rcases move.leaseKept (rows.formed _ attempt found) with kept | ⟨_, _, _, isCurrent, _⟩
      · rw [(kept.keepsClaim move.claimId).acquisitions]
        exact rows.ordinary wasOrdinary _ attempt found
      · rw [Execution.routineAt_of_none execution _ wasOrdinary] at isCurrent
        cases isCurrent
    · exact rows.ordinary wasOrdinary other row kept
  case acquired =>
    intro has other row isRow
    have had : execution.routine ≠ none := fun none => has (change.routine_eq_none_iff.mpr none)
    rcases attempt?_write_cases isRow with ⟨rfl, rfl⟩ | ⟨_, kept⟩
    · rw [move.claimId]
      exact rows.acquired had _ attempt found
    · exact rows.acquired had other row kept
  case running =>
    intro other row isRow unresolved
    rcases attempt?_write_cases isRow with ⟨rfl, rfl⟩ | ⟨different, kept⟩
    · rcases move.runs unresolved with runs | ⟨unchanged, before⟩
      · exact runs
      · exact unchanged.trans (rows.running _ attempt found before)
    · rw [rows.alone found move other row kept different] at unresolved
      cases unresolved
  case one =>
    intro left right attempt' row isLeft isRight leftUnresolved rightUnresolved
    rcases attempt?_write_cases isLeft with ⟨rfl, rfl⟩ | ⟨isOther, kept⟩
    · rcases attempt?_write_cases isRight with ⟨rfl, rfl⟩ | ⟨different, kept⟩
      · rfl
      · rw [rows.alone found move right row kept different] at rightUnresolved
        cases rightUnresolved
    · rw [rows.alone found move left attempt' kept isOther] at leftUnresolved
      cases leftUnresolved

end

theorem Execution.ClaimRows.of_claim (rows : execution.ClaimRows) (terms : GrantTerms D)
    (change : Change env call db id execution
      (execution.write execution.attempts.nextNumber (Attempt.claimed terms execution.profile)
        .running none))
    (ordinary : execution.routine = none) (queued : execution.status = .queued) :
    (execution.write execution.attempts.nextNumber (Attempt.claimed terms execution.profile)
      .running none).ClaimRows := by
  have same := change.sameWork
  have resolved : ∀ other row, execution.attempt? other = some row →
      row.hasUnresolvedLease = false := by
    intro other row isRow
    by_contra unresolved
    have running := rows.running other row isRow (by simpa using unresolved)
    rw [queued] at running
    cases running
  constructor
  case formed => exact change.leasesFormed rows.formed
  case single => exact fun routine has => by cases has
  case owned =>
    intro other row lease isRow held
    rw [same.profile, same.scopeKey]
    rcases attempt?_write_cases isRow with ⟨rfl, rfl⟩ | ⟨_, kept⟩
    · cases held
      refine ⟨rfl, ?_⟩
      simp only [Execution.scopeKey, ordinary]
      rfl
    · exact rows.owned other row lease kept held
  case ordinary =>
    intro _ other row isRow
    rcases attempt?_write_cases isRow with ⟨rfl, rfl⟩ | ⟨_, kept⟩
    · rfl
    · exact rows.ordinary ordinary other row kept
  case acquired => exact fun has => absurd rfl has
  case running => exact fun _ _ _ _ => rfl
  case one =>
    intro left right attempt row isLeft isRight leftUnresolved rightUnresolved
    rcases attempt?_write_cases isLeft with ⟨rfl, rfl⟩ | ⟨_, kept⟩
    · rcases attempt?_write_cases isRight with ⟨rfl, rfl⟩ | ⟨_, kept⟩
      · rfl
      · rw [resolved right row kept] at rightUnresolved
        cases rightUnresolved
    · rw [resolved left attempt kept] at leftUnresolved
      cases leftUnresolved

theorem Change.claimRows (change : Change env call db id execution next)
    (rows : execution.ClaimRows) : next.ClaimRows := by
  cases change with
  | move _ _ _ _ _ found move => exact rows.of_move found move
  | claim terms service ordinary queued =>
    have change : Change env call db id execution _ := .claim terms service ordinary queued
    exact rows.of_claim terms change ordinary queued
  | claimDetached _ former _ isFormer unset =>
    obtain ⟨_, _, ofRoutine, _⟩ := rows.single former isFormer
    have impossible := unset.symm.trans ofRoutine.current
    cases impossible
  | stopLeases profile service =>
    have change : Change env call db id execution (execution.stopLeases profile) :=
      .stopLeases profile service
    have source : ∀ other row, (execution.stopLeases profile).attempt? other = some row →
        ∃ former, execution.attempt? other = some former ∧ former.KeepsClaim row := by
      intro other row isRow
      rw [Execution.attempt?_stopLeases, Option.map_eq_some_iff] at isRow
      obtain ⟨former, isFormer, rfl⟩ := isRow
      exact ⟨former, isFormer, (stopLease_leaseKept former profile).keepsClaim rfl⟩
    have unresolved : ∀ former row : Attempt D, former.KeepsClaim row →
        row.hasUnresolvedLease = true → former.hasUnresolvedLease = true := by
      intro former row keeps isUnresolved
      obtain ⟨lease, held, pending⟩ := (Option.any_eq_true _ _).mp isUnresolved
      obtain ⟨_, isBefore, wasPending, _⟩ := keeps.lease lease held pending
      exact hasUnresolvedLease_of_held isBefore wasPending
    constructor
    case formed => exact change.leasesFormed rows.formed
    case single =>
      exact change.routineHolds _ (fun _ _ _ _ holds => holds)
        (fun _ _ _ _ _ _ _ _ _ => trivial) rows.single
    case owned =>
      intro other row lease isRow held
      rw [Execution.attempt?_stopLeases, Option.map_eq_some_iff] at isRow
      obtain ⟨former, isFormer, rfl⟩ := isRow
      obtain ⟨before, isBefore, keeps⟩ := (stopLease_leaseKept former profile).source held
      obtain ⟨sameProfile, sameScope⟩ := rows.owned other former before isFormer isBefore
      exact ⟨keeps.profile.trans sameProfile, keeps.scope.trans sameScope⟩
    case ordinary =>
      intro ordinary other row isRow
      obtain ⟨former, isFormer, keeps⟩ := source other row isRow
      rw [keeps.acquisitions]
      exact rows.ordinary ordinary other former isFormer
    case acquired =>
      intro has other row isRow
      obtain ⟨former, isFormer, keeps⟩ := source other row isRow
      rw [keeps.claim]
      exact rows.acquired has other former isFormer
    case running =>
      intro other row isRow isUnresolved
      obtain ⟨former, isFormer, keeps⟩ := source other row isRow
      exact rows.running other former isFormer (unresolved former row keeps isUnresolved)
    case one =>
      intro left right attempt row isLeft isRight leftUnresolved rightUnresolved
      obtain ⟨former, isFormer, keeps⟩ := source left attempt isLeft
      obtain ⟨twin, isTwin, keepsTwin⟩ := source right row isRight
      exact rows.one left right former twin isFormer isTwin
        (unresolved former attempt keeps leftUnresolved)
        (unresolved twin row keepsTwin rightUnresolved)

omit [DecidableEq D] in
theorem Born.claimRows (born : Born call execution) : execution.ClaimRows := by
  have unleased : ∀ number attempt, execution.attempt? number = some attempt →
      attempt.lease = none ∧ attempt.claimId = none := by
    intro number attempt found
    cases born with
    | ordinary _ unclaimed =>
      rw [unclaimed] at found
      cases found
    | routine _ _ _ only =>
      rw [only number] at found
      split at found
      · cases found
        exact ⟨rfl, rfl⟩
      · cases found
  constructor
  case formed => exact born.leasesFormed
  case single => exact born.routineHolds _ fun _ _ _ _ => trivial
  case owned =>
    intro number attempt lease found held
    rw [(unleased number attempt found).1] at held
    cases held
  case ordinary =>
    intro _ number attempt found
    rw [Attempt.acquisitionClaims, (unleased number attempt found).1]
    rfl
  case acquired => exact fun _ number attempt found => (unleased number attempt found).2
  case running =>
    intro number attempt found unresolved
    rw [Attempt.hasUnresolvedLease, (unleased number attempt found).1] at unresolved
    cases unresolved
  case one =>
    intro number other attempt row found _ unresolved
    rw [Attempt.hasUnresolvedLease, (unleased number attempt found).1] at unresolved
    cases unresolved

end Changes

/-! ## The claims of a database -/

/-- An attempt as one write leaves it, when the write grants nothing. -/
def Db.ClaimsKept (db next : Db D) : Prop :=
  ∀ id later row, next.attempt? id = some (later, row) →
    (∃ execution attempt, db.attempt? id = some (execution, attempt) ∧ attempt.KeepsClaim row) ∨
    (row.claims = [] ∧ row.lease = none)

/-- One attempt is leased under a claim id that was not used before. -/
structure Db.ClaimGranted (db next : Db D) (claimId : Uuid) (target : AttemptId)
    (lease : Lease D) : Prop where
  unused : db.ClaimUnused claimId
  free : db.hasUnresolvedLease lease.profile lease.scopeKey = false
  owner : ∃ profile, db.profiles.lookup lease.profile = some profile ∧
    profile.lifecycleState = .active
  granted : ∀ later row, next.attempt? target = some (later, row) → row.lease = some lease ∧
    (row.claims = [claimId] ∨ ∃ execution attempt, db.attempt? target = some (execution, attempt) ∧
      row.claims = attempt.claims ++ [claimId])
  others : ∀ id later row, id ≠ target → next.attempt? id = some (later, row) →
    ∃ execution, db.attempt? id = some (execution, row)

theorem acquisitionClaims_acquire (terms : GrantTerms D) (attempt : Attempt D) (lease : Lease D) :
    (attempt.setLease (terms.acquire lease)).acquisitionClaims =
      lease.acquisitions.map RoutineLeaseAcquisition.claimId ++ [terms.claimId] := by
  simp [Attempt.acquisitionClaims, Attempt.setLease, GrantTerms.acquire]

variable {lease : Lease D}

theorem Granted.claims {terms : GrantTerms D} {number : Nat} (granted : Granted terms execution number lease attempt) :
    attempt.claims = [terms.claimId] ∨ ∃ former, execution.attempt? number = some former ∧
      attempt.claims = former.claims ++ [terms.claimId] := by
  rcases granted.source with ⟨_, _, rfl⟩ | ⟨_, former, _, source, rfl, leased⟩
  · exact .inl rfl
  · have grown : ((former.resumed terms).setLease lease).claims =
        former.claims ++ [terms.claimId] := by
      rcases leased with ⟨unleased, rfl⟩ | ⟨before, held, _, rfl⟩
      · simp only [Attempt.claims, acquisitionClaims_acquire]
        simp [Attempt.setLease, Attempt.resumed, GrantTerms.lease, Attempt.acquisitionClaims,
          unleased]
      · have retired := retireCurrent_claims before terms.now
        simp only [Attempt.claims, acquisitionClaims_acquire, GrantTerms.renewedLease, retired]
        simp [Attempt.setLease, Attempt.resumed, Attempt.acquisitionClaims, held]
    rcases source with found | ⟨_, rfl⟩
    · exact .inr ⟨former, found, grown⟩
    · exact .inl grown

section Writes

variable [DecidableEq D] {env : Env D} {call : Call D} {start db next : Db D}

theorem Write.claims_cases (write : Write env call start db next)
    (rows : ∀ id execution, db.executions.lookup id = some execution → execution.ClaimRows) :
    db.ClaimsKept next ∨ ∃ claimId target lease, db.ClaimGranted next claimId target lease ∧
      ∃ context slots, call.operation = .claimNextExecution context claimId slots ∧
        ∀ later row, next.attempt? target = some (later, row) →
          later.workspace = context.workspace := by
  have unchanged : ∀ other : Db D, other.executions = db.executions → db.ClaimsKept other := by
    intro other same id later row present
    rw [Db.attempt?_eq_some, same] at present
    exact .inl ⟨later, row, (Db.attempt?_eq_some _ _ _ _).mpr present, .refl row⟩
  cases write with
  | create _ _ birth =>
    refine .inl fun id later row present => ?_
    simp only [Db.attempt?_eq_some, Table.lookup_insert_eq] at present
    obtain ⟨stored, found⟩ := present
    split at stored
    · cases stored
      refine .inr ?_
      cases birth with
      | ordinary _ unclaimed =>
        rw [unclaimed] at found
        cases found
      | routine _ _ _ only =>
        rw [only] at found
        split at found
        · cases found
          exact ⟨rfl, rfl⟩
        · cases found
    · exact .inl ⟨later, row, (Db.attempt?_eq_some _ _ _ _).mpr ⟨stored, found⟩, .refl row⟩
  | move _ given attempt _ _ _ stored held move quiet =>
    refine .inl fun id later row present => .inl ?_
    simp only [Db.attempt?_eq_some, Db.putExecution, Table.lookup_insert_eq] at present
    obtain ⟨written, found⟩ := present
    split at written
    · next same =>
      cases written
      rcases attempt?_write_cases found with ⟨isTarget, rfl⟩ | ⟨_, kept⟩
      · refine ⟨given, attempt, ?_, move.keepsClaim ((rows _ given stored).formed _ attempt held)
          quiet⟩
        rw [Db.attempt?_eq_some, same, isTarget]
        exact ⟨stored, held⟩
      · refine ⟨given, row, ?_, .refl row⟩
        rw [Db.attempt?_eq_some, same]
        exact ⟨stored, kept⟩
    · exact ⟨later, row, (Db.attempt?_eq_some _ _ _ _).mpr ⟨written, found⟩, .refl row⟩
  | grant context slots terms target given granted number lease asked stored home grants change
      unused free _ owner =>
    obtain ⟨attempt, isGranted, _, found, kept⟩ := grant_granted terms given granted number lease
      grants
    obtain ⟨profile, scope⟩ := (change.claimRows (rows target given stored)).owned number attempt
      lease found isGranted.held
    rw [change.sameWork.profile] at profile
    rw [change.sameWork.scopeKey] at scope
    refine .inr ⟨terms.claimId, ⟨target, number⟩, lease, ⟨unused, by rw [profile, scope]; exact free,
      by rw [profile]; exact owner, ?_, ?_⟩, context, slots, asked, ?_⟩
    · intro later row present
      simp only [Db.attempt?_eq_some, Db.putExecution, Table.lookup_insert_eq, if_true,
        Option.some.injEq] at present
      obtain ⟨rfl, isRow⟩ := present
      cases found.symm.trans isRow
      refine ⟨isGranted.held, ?_⟩
      rcases isGranted.claims with only | ⟨former, isFormer, grown⟩
      · exact .inl only
      · exact .inr ⟨given, former, (Db.attempt?_eq_some _ _ _ _).mpr ⟨stored, isFormer⟩, grown⟩
    · intro id later row different present
      simp only [Db.attempt?_eq_some, Db.putExecution, Table.lookup_insert_eq] at present
      obtain ⟨written, isRow⟩ := present
      split at written
      · next same =>
        cases written
        have otherNumber : id.number ≠ number := by
          intro sameNumber
          exact different (by rw [← same, ← sameNumber])
        rw [kept id.number otherNumber] at isRow
        refine ⟨given, ?_⟩
        rw [Db.attempt?_eq_some, same]
        exact ⟨stored, isRow⟩
      · exact ⟨later, (Db.attempt?_eq_some _ _ _ _).mpr ⟨written, isRow⟩⟩
    · intro later row present
      simp only [Db.attempt?_eq_some, Db.putExecution, Table.lookup_insert_eq, if_true,
        Option.some.injEq] at present
      rw [← present.1, change.keepsWorkspace, home]
  | stopLeases profile =>
    refine .inl fun id later row present => .inl ?_
    simp only [Db.attempt?_eq_some, Db.stopLeases, Table.lookup_updateAll,
      Option.map_eq_some_iff] at present
    obtain ⟨⟨execution, stored, rfl⟩, found⟩ := present
    rw [Execution.attempt?_stopLeases, Option.map_eq_some_iff] at found
    obtain ⟨former, isFormer, rfl⟩ := found
    exact ⟨execution, former, (Db.attempt?_eq_some _ _ _ _).mpr ⟨stored, isFormer⟩,
      (stopLease_leaseKept former profile).keepsClaim rfl⟩
  | decideApproval _ _ _ _ decides =>
    obtain ⟨_, rfl⟩ := recordApprovalDecision_frame decides
    exact .inl (unchanged _ rfl)
  | compareAndSet _ _ _ _ _ _ _ sets =>
    obtain ⟨_, rfl⟩ := compareAndSetSession_frame sets
    exact .inl (unchanged _ rfl)
  | purge _ _ _ _ _ _ _ _ _ _ purges =>
    obtain ⟨_, _, executions, _⟩ := purgeProfile_eq purges
    refine .inl fun id later row present => .inl ?_
    rw [Db.attempt?_eq_some, executions, Table.lookup_keep_eq_some] at present
    exact ⟨later, row, (Db.attempt?_eq_some _ _ _ _).mpr ⟨present.1.1, present.2⟩, .refl row⟩
  | _ => exact .inl (unchanged _ rfl)

/-- What claims leave in a database: no claim id is bound twice, and no scope of a
profile has two unresolved leases. -/
structure Db.ClaimsHeld (db : Db D) : Prop where
  rows : ∀ id execution, db.executions.lookup id = some execution → execution.ClaimRows
  distinct : ∀ id execution attempt, db.attempt? id = some (execution, attempt) →
    attempt.claims.Nodup
  unique : ∀ id other execution twin attempt row claimId,
    db.attempt? id = some (execution, attempt) → db.attempt? other = some (twin, row) →
    claimId ∈ attempt.claims → claimId ∈ row.claims → other = id
  leases : ∀ id other execution twin attempt row lease second,
    db.attempt? id = some (execution, attempt) → db.attempt? other = some (twin, row) →
    attempt.lease = some lease → row.lease = some second → lease.state.isUnresolved = true →
    second.state.isUnresolved = true → second.profile = lease.profile →
    second.scopeKey = lease.scopeKey → other = id

variable {claimId : Uuid} {id : AttemptId}

omit [DecidableEq D] in
theorem Db.ClaimUnused.not_mem (unused : db.ClaimUnused claimId)
    (present : db.attempt? id = some (execution, attempt)) : claimId ∉ attempt.claims := by
  obtain ⟨stored, found⟩ := (Db.attempt?_eq_some _ _ _ _).mp present
  obtain ⟨noClaim, noAcquisition⟩ := unused id.execution execution id.number attempt stored found
  simp only [Attempt.claims, List.mem_append, Option.mem_toList, not_or]
  exact ⟨noClaim, noAcquisition⟩

variable {target : AttemptId}

omit [DecidableEq D] in
theorem Db.ClaimGranted.mem {other : Uuid}
    (grants : db.ClaimGranted next claimId target lease) {later : Execution D} {row : Attempt D}
    (present : next.attempt? target = some (later, row)) (member : other ∈ row.claims) :
    other = claimId ∨ ∃ execution attempt, db.attempt? target = some (execution, attempt) ∧
      other ∈ attempt.claims := by
  rcases (grants.granted later row present).2 with only | ⟨execution, attempt, found, grown⟩
  · rw [only] at member
    exact .inl (List.mem_singleton.mp member)
  · rw [grown, List.mem_append, List.mem_singleton] at member
    rcases member with earlier | same
    · exact .inr ⟨execution, attempt, found, earlier⟩
    · exact .inl same

omit [DecidableEq D] in
theorem Db.hasUnresolvedLease_of_attempt (present : db.attempt? id = some (execution, attempt))
    (held : attempt.lease = some lease) (unresolved : lease.state.isUnresolved = true) :
    db.hasUnresolvedLease lease.profile lease.scopeKey = true := by
  obtain ⟨stored, found⟩ := (Db.attempt?_eq_some _ _ _ _).mp present
  refine List.any_eq_true.mpr ⟨(id, lease), (db.mem_leases _ _).mpr
    ⟨execution, attempt, stored, found, held⟩, ?_⟩
  simp [unresolved]

omit [DecidableEq D] in
theorem Db.ClaimsHeld.of_kept (held : db.ClaimsHeld) (kept : db.ClaimsKept next)
    (rows : ∀ id execution, next.executions.lookup id = some execution → execution.ClaimRows) :
    next.ClaimsHeld where
  rows := rows
  distinct := by
    intro id later row present
    rcases kept id later row present with ⟨execution, attempt, found, keeps⟩ | ⟨empty, _⟩
    · rw [keeps.claims]
      exact held.distinct id execution attempt found
    · rw [empty]
      exact List.nodup_nil
  unique := by
    intro id other later twin attempt row claimId isLater isTwin member isMember
    rcases kept id later attempt isLater with ⟨execution, former, found, keeps⟩ | ⟨empty, _⟩
    · rcases kept other twin row isTwin with ⟨owner, before, isBefore, keepsRow⟩ | ⟨empty, _⟩
      · rw [keeps.claims] at member
        rw [keepsRow.claims] at isMember
        exact held.unique id other execution owner former before claimId found isBefore member
          isMember
      · rw [empty] at isMember
        cases isMember
    · rw [empty] at member
      cases member
  leases := by
    intro id other later twin attempt row lease second isLater isTwin isLease isSecond unresolved
      pending profile scope
    rcases kept id later attempt isLater with ⟨execution, former, found, keeps⟩ | ⟨_, none⟩
    · rcases kept other twin row isTwin with ⟨owner, before, isBefore, keepsRow⟩ | ⟨_, none⟩
      · obtain ⟨first, isFirst, wasUnresolved, sameProfile, sameScope⟩ :=
          keeps.lease lease isLease unresolved
        obtain ⟨last, isLast, wasPending, lastProfile, lastScope⟩ :=
          keepsRow.lease second isSecond pending
        refine held.leases id other execution owner former before first last found isBefore isFirst
          isLast wasUnresolved wasPending ?_ ?_
        · rw [← lastProfile, profile, sameProfile]
        · rw [← lastScope, scope, sameScope]
      · rw [none] at isSecond
        cases isSecond
    · rw [none] at isLease
      cases isLease

omit [DecidableEq D] in
theorem Db.ClaimsHeld.of_granted (held : db.ClaimsHeld)
    {granted : Lease D} (grants : db.ClaimGranted next claimId target granted)
    (rows : ∀ id execution, next.executions.lookup id = some execution → execution.ClaimRows) :
    next.ClaimsHeld := by
  -- A claim at the target and at another attempt is the granted one, or was there before.
  have apart : ∀ id later twin attempt row other, id ≠ target →
      next.attempt? target = some (later, attempt) → next.attempt? id = some (twin, row) →
      other ∈ attempt.claims → other ∉ row.claims := by
    intro id later twin attempt row other different isLater isTwin member isMember
    obtain ⟨owner, found⟩ := grants.others id twin row different isTwin
    rcases grants.mem isLater member with rfl | ⟨execution, former, isFormer, earlier⟩
    · exact grants.unused.not_mem found isMember
    · exact different (held.unique target id execution owner former row other isFormer found earlier
        isMember)
  have free : ∀ id twin row lease, id ≠ target → next.attempt? id = some (twin, row) →
      row.lease = some lease → lease.state.isUnresolved = true →
      ¬ (lease.profile = granted.profile ∧ lease.scopeKey = granted.scopeKey) := by
    rintro id twin row _ different isTwin isLease unresolved ⟨profile, scope⟩
    obtain ⟨_, found⟩ := grants.others id twin row different isTwin
    have taken := Db.hasUnresolvedLease_of_attempt found isLease unresolved
    rw [profile, scope, grants.free] at taken
    cases taken
  constructor
  case rows => exact rows
  case distinct =>
    intro id later row present
    by_cases isTarget : id = target
    · subst isTarget
      rcases (grants.granted later row present).2 with only | ⟨execution, attempt, found, grown⟩
      · rw [only]
        exact List.nodup_singleton _
      · rw [grown, List.nodup_append]
        refine ⟨held.distinct id execution attempt found, List.nodup_singleton _, ?_⟩
        rintro _ member _ isLast rfl
        rw [List.mem_singleton.mp isLast] at member
        exact grants.unused.not_mem found member
    · obtain ⟨execution, found⟩ := grants.others id later row isTarget present
      exact held.distinct id execution row found
  case unique =>
    intro id other later twin attempt row shared isLater isTwin member isMember
    by_cases isTarget : id = target <;> by_cases isOther : other = target
    · exact isOther.trans isTarget.symm
    · subst isTarget
      exact absurd isMember (apart other later twin attempt row shared isOther isLater isTwin member)
    · subst isOther
      exact absurd member (apart id twin later row attempt shared isTarget isTwin isLater isMember)
    · obtain ⟨execution, found⟩ := grants.others id later attempt isTarget isLater
      obtain ⟨owner, isOwner⟩ := grants.others other twin row isOther isTwin
      exact held.unique id other execution owner attempt row shared found isOwner member isMember
  case leases =>
    intro id other later twin attempt row lease second isLater isTwin isLease isSecond unresolved
      pending profile scope
    by_cases isTarget : id = target <;> by_cases isOther : other = target
    · exact isOther.trans isTarget.symm
    · subst isTarget
      rw [(grants.granted later attempt isLater).1, Option.some.injEq] at isLease
      subst isLease
      exact absurd ⟨profile, scope⟩ (free other twin row second isOther isTwin isSecond pending)
    · subst isOther
      rw [(grants.granted twin row isTwin).1, Option.some.injEq] at isSecond
      subst isSecond
      exact absurd ⟨profile.symm, scope.symm⟩
        (free id later attempt lease isTarget isLater isLease unresolved)
    · obtain ⟨execution, found⟩ := grants.others id later attempt isTarget isLater
      obtain ⟨owner, isOwner⟩ := grants.others other twin row isOther isTwin
      exact held.leases id other execution owner attempt row lease second found isOwner isLease
        isSecond unresolved pending profile scope

theorem Write.claimsHeld (write : Write env call start db next) (held : db.ClaimsHeld) :
    next.ClaimsHeld := by
  have rows : ∀ id execution, next.executions.lookup id = some execution →
      execution.ClaimRows := by
    intro id later present
    rcases write.source id later present with ⟨execution, stored, rfl | change⟩ | created
    · exact held.rows id later stored
    · exact change.claimRows (held.rows id execution stored)
    · exact created.birth.claimRows
  rcases write.claims_cases held.rows with kept | ⟨_, _, _, grants, _⟩
  · exact held.of_kept kept rows
  · exact held.of_granted grants rows

omit [DecidableEq D] in
theorem claimsHeld_empty : (Db.empty : Db D).ClaimsHeld := by
  constructor <;> intros <;> simp_all [Db.empty, Db.attempt?]

theorem run_claimsHeld (env : Env D) (calls : List (Call D)) :
    (run env Db.empty calls).ClaimsHeld :=
  run_keeps env Db.ClaimsHeld (fun _ _ _ _ write => write.claimsHeld) Db.empty calls
    claimsHeld_empty

/-- In every run the rows keep their owners, claims and unresolved leases stay apart, and an
Execution stays the work it was, its leases going on, or is gone for good. -/
theorem executions_stay_or_are_gone (env : Env D) (first rest : List (Call D)) :
    let later := run env Db.empty (first ++ rest)
    later.Intact ∧ later.ClaimsHeld ∧ ∀ id execution,
      (run env Db.empty first).executions.lookup id = some execution →
      (∃ next, later.executions.lookup id = some next ∧ execution.SameWork next ∧
        execution.LeasesContinue next) ∨ ∀ more, (run env later more).Removed id := by
  refine ⟨run_intact env _ Db.intact_empty, run_claimsHeld env _, fun id execution stored => ?_⟩
  have free : RunMeets env (fun _ _ _ _ => True) Db.empty (first ++ rest) :=
    runMeets_of_forall env _ (fun _ _ _ _ => trivial) _ _
  cases present : (run env Db.empty (first ++ rest)).executions.lookup id with
  | some next =>
    exact .inl ⟨next, rfl, (workRule env).relates first rest free id _ _ stored present,
      (leaseRowsRule env).relates first rest free id _ _ stored present⟩
  | none =>
    have drawn : id < (run env Db.empty (first ++ rest)).supply := by
      rw [run, Run.run_append]
      exact run_keeps env (id < Db.supply ·)
        (fun _ _ _ _ write drawn => drawn.trans_le write.units.supply) _ rest
        ((run_intact env first Db.intact_empty).numbered id execution stored)
    exact .inr fun more => run_keeps env (Db.Removed · id) (fun _ _ _ _ write => write.removed id) _
      more ⟨drawn, present⟩

end Writes

end Foundry
