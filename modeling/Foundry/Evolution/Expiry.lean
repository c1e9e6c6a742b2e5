import Foundry.Evolution.ClaimRows

/-!
# What the reconciliation of expired leases leaves

Each pass of the loop settles one expired lease and leaves every other attempt as it was.
So after the loop the listed leases are resolved, and the rows of all other attempts are
the rows from before.
-/

set_option autoImplicit false

namespace Foundry

open Raise

variable {D : Type}

/-- The attempt's own row is as it was, and its Execution is the same work; so are the
Workspaces and profiles. -/
structure Db.SameAttempt (id : AttemptId) (db next : Db D) : Prop where
  kept : ∀ execution attempt, db.attempt? id = some (execution, attempt) →
    ∃ later, next.attempt? id = some (later, attempt) ∧ execution.SameWork later
  source : ∀ later attempt, next.attempt? id = some (later, attempt) →
    ∃ execution, db.attempt? id = some (execution, attempt)
  profiles : next.profiles = db.profiles
  workspaces : next.workspaces = db.workspaces

namespace Db.SameAttempt

variable {id : AttemptId} {first second third : Db D}

theorem refl (db : Db D) : Db.SameAttempt id db db :=
  ⟨fun execution _ present => ⟨execution, present, .refl execution⟩,
    fun later _ present => ⟨later, present⟩, rfl, rfl⟩

theorem trans (earlier : Db.SameAttempt id first second)
    (later : Db.SameAttempt id second third) : Db.SameAttempt id first third where
  kept := by
    intro execution attempt present
    obtain ⟨middle, isMiddle, before⟩ := earlier.kept execution attempt present
    obtain ⟨last, isLast, after⟩ := later.kept middle attempt isMiddle
    exact ⟨last, isLast, before.trans after⟩
  source := by
    intro last attempt present
    obtain ⟨middle, isMiddle⟩ := later.source last attempt present
    exact earlier.source middle attempt isMiddle
  profiles := later.profiles.trans earlier.profiles
  workspaces := later.workspaces.trans earlier.workspaces

theorem of_write {db next : Db D} {target : AttemptId} {execution : Execution D}
    {moved : Attempt D} {status : ExecutionStatus} {routine : Option RoutineExecution}
    (stored : db.executions.lookup target.execution = some execution)
    (same : execution.SameWork (execution.write target.number moved status routine))
    (executions : next.executions =
      db.executions.insert target.execution (execution.write target.number moved status routine))
    (profiles : next.profiles = db.profiles) (workspaces : next.workspaces = db.workspaces)
    (different : id ≠ target) : Db.SameAttempt id db next := by
  have otherNumber : id.execution = target.execution → id.number ≠ target.number := by
    intro sameExecution sameNumber
    apply different
    cases id
    cases target
    simp_all
  refine ⟨?_, ?_, profiles, workspaces⟩
  · intro owner attempt present
    rw [Db.attempt?_eq_some] at present
    by_cases sameExecution : id.execution = target.execution
    · rw [sameExecution, stored, Option.some.injEq] at present
      obtain ⟨rfl, found⟩ := present
      refine ⟨execution.write target.number moved status routine, ?_, same⟩
      rw [Db.attempt?_eq_some, executions, sameExecution, AList.lookup_insert,
        attempt?_write_ne _ _ _ _ _ _ (otherNumber sameExecution)]
      exact ⟨rfl, found⟩
    · refine ⟨owner, ?_, .refl owner⟩
      rw [Db.attempt?_eq_some, executions, AList.lookup_insert_ne sameExecution]
      exact present
  · intro later attempt present
    rw [Db.attempt?_eq_some, executions] at present
    by_cases sameExecution : id.execution = target.execution
    · rw [sameExecution, AList.lookup_insert, Option.some.injEq] at present
      obtain ⟨rfl, found⟩ := present
      rw [attempt?_write_ne _ _ _ _ _ _ (otherNumber sameExecution)] at found
      exact ⟨execution, (Db.attempt?_eq_some _ _ _ _).mpr ⟨sameExecution ▸ stored, found⟩⟩
    · rw [AList.lookup_insert_ne sameExecution] at present
      exact ⟨later, (Db.attempt?_eq_some _ _ _ _).mpr present⟩

end Db.SameAttempt

/-! ## One pass -/

section Passes

variable [DecidableEq D] (env : Env D) (call : Call D)

theorem reconcileOne_cases {db next : Db D} (workspaceId : Uuid) (workspace : Workspace)
    (id : AttemptId) (service : call.operation.service = .claimNextExecution)
    (success : reconcileOne env call.now workspaceId workspace db id = .ok next) :
    (next = db ∧ ∀ execution attempt lease profile,
      db.attempt? id = some (execution, attempt) → attempt.lease = some lease →
      lease.isStale call.now = true → execution.workspace = workspaceId →
      db.profiles.lookup execution.profile = some profile → profile.workspace ≠ workspaceId) ∨
    ∃ execution attempt moved status routine,
      db.attempt? id = some (execution, attempt) ∧
      execution.SameWork (execution.write id.number moved status routine) ∧
      next.executions =
        db.executions.insert id.execution (execution.write id.number moved status routine) ∧
      next.profiles = db.profiles ∧ next.workspaces = db.workspaces ∧ attempt.Expires moved ∧
      ((∀ lease, attempt.lease = some lease → lease.WellFormed) → attempt.LeaseKept moved) ∧
      ∃ lease, attempt.lease = some lease ∧ lease.isStale call.now = true := by
  simp only [reconcileOne] at success
  split at success
  · next absent =>
    simp only [pure_eq_ok] at success
    refine .inl ⟨success.symm, ?_⟩
    intro execution attempt lease profile present _ _ home
    rw [Db.attemptIn, present, Option.filter_some_eq_none] at absent
    simp [home] at absent
  · next execution attempt found =>
    obtain ⟨stored, isAttempt, _⟩ := (Db.attemptIn_eq_some _ _ _ _ _).mp found
    have present := (Db.attempt?_eq_some _ _ _ _).mpr ⟨stored, isAttempt⟩
    split at success
    · next profile lease _ isStale =>
      rw [Option.filter_eq_some_iff] at isStale
      have unresolved : lease.state.isUnresolved = true := by
        have stale := isStale.2
        simp only [Lease.isStale, decide_eq_true_eq] at stale
        exact stale.1
      simp only [bind_eq_ok, pure_eq_ok] at success
      obtain ⟨reconciled, success, _, _, rfl⟩ := success
      obtain ⟨moved, status, routine, move, same, expires, _⟩ :=
        reconcileExpiredLease_move env call db service isStale.1 unresolved success
      have change : Change env call db id.execution execution _ :=
        .move id.number attempt moved status routine isAttempt move
      refine .inr ⟨execution, attempt, moved, status, routine, present, change.sameWork, ?_, rfl,
        rfl, expires, fun formed => move.leaseKept_of_keepsClaim formed expires.keeps, lease,
        isStale⟩
      rw [same]
      rfl
    · next other =>
      simp only [pure_eq_ok] at success
      refine .inl ⟨success.symm, ?_⟩
      intro owner row lease profile isRow held stale home owned inside
      rw [present, Option.some.injEq, Prod.mk.injEq] at isRow
      obtain ⟨rfl, rfl⟩ := isRow
      refine other profile lease ?_ ?_
      · rw [Option.filter_eq_some_iff]
        exact ⟨owned, by simpa using inside⟩
      · rw [Option.filter_eq_some_iff]
        exact ⟨held, stale⟩

theorem reconcileOne_same {db next : Db D} (workspaceId : Uuid) (workspace : Workspace)
    (id other : AttemptId) (service : call.operation.service = .claimNextExecution)
    (different : other ≠ id)
    (success : reconcileOne env call.now workspaceId workspace db id = .ok next) :
    Db.SameAttempt other db next := by
  rcases reconcileOne_cases env call workspaceId workspace id service success with
    ⟨rfl, _⟩ | ⟨_, _, _, _, _, present, same, executions, profiles,
      workspaces, _⟩
  · exact .refl next
  · exact .of_write ((Db.attempt?_eq_some _ _ _ _).mp present).1 same executions profiles workspaces
      different

/-! ## The loop -/

theorem reconcileLoop_same (workspaceId : Uuid) (workspace : Workspace) (ids : List AttemptId)
    (other : AttemptId) (service : call.operation.service = .claimNextExecution)
    (different : other ∉ ids) (db next : Db D)
    (success : ids.foldlM (reconcileOne env call.now workspaceId workspace) db = .ok next) :
    Db.SameAttempt other db next :=
  foldlM_relates (Db.SameAttempt other) .refl .trans _ ids db next
    (fun id listed _ _ pass => reconcileOne_same env call workspaceId workspace id other service
      (fun same => different (same ▸ listed)) pass)
    success

end Passes

section Batch

variable {db : Db D}

theorem Db.nodup_staleLeases (workspaceId : Uuid) (now : Instant) :
    (db.staleLeases workspaceId now).Nodup := by
  refine List.Nodup.sublist ((List.take_sublist _ _).map Prod.fst) ?_
  refine ((List.perm_insertionSort leaseOrder _).map Prod.fst).nodup_iff.mpr ?_
  exact db.nodup_leases.sublist (List.filter_sublist.map Prod.fst)

theorem Db.of_mem_staleLeases {workspaceId : Uuid} {now : Instant} {id : AttemptId}
    (listed : id ∈ db.staleLeases workspaceId now) :
    ∃ execution attempt lease profile, db.attempt? id = some (execution, attempt) ∧
      attempt.lease = some lease ∧ lease.isStale now = true ∧
      db.profiles.lookup lease.profile = some profile ∧ profile.workspace = workspaceId := by
  simp only [Db.staleLeases, List.mem_map] at listed
  obtain ⟨⟨_, lease⟩, taken, rfl⟩ := listed
  have member := (List.mem_insertionSort leaseOrder).mp (List.mem_of_mem_take taken)
  obtain ⟨isLease, holds⟩ := List.mem_filter.mp member
  obtain ⟨execution, attempt, stored, found, held⟩ := (db.mem_leases _ _).mp isLease
  simp only [decide_eq_true_eq] at holds
  obtain ⟨profile, isProfile, home⟩ := (Option.any_eq_true _ _).mp holds.1
  exact ⟨execution, attempt, lease, profile, (Db.attempt?_eq_some _ _ _ _).mpr ⟨stored, found⟩, held,
    holds.2, isProfile, of_decide_eq_true home⟩

variable [DecidableEq D] {reconciled : Db D}

section

variable (env : Env D) (call : Call D) (workspaceId : Uuid) (workspace : Workspace)
  (service : call.operation.service = .claimNextExecution)

include service

theorem reconcileExpiredLeases_same
    (success : reconcileExpiredLeases env call.now workspaceId workspace db = .ok reconciled)
    (id : AttemptId) (fresh : id ∉ db.staleLeases workspaceId call.now) :
    Db.SameAttempt id db reconciled :=
  reconcileLoop_same env call workspaceId workspace _ id service fresh db reconciled success

theorem reconcileExpiredLeases_workspaces
    (success : reconcileExpiredLeases env call.now workspaceId workspace db = .ok reconciled) :
    reconciled.workspaces = db.workspaces := by
  refine foldlM_relates (fun first second : Db D => second.workspaces = first.workspaces)
    (fun _ => rfl) (fun earlier later => later.trans earlier) _ _ db reconciled ?_ success
  intro id _ state next pass
  rcases reconcileOne_cases env call workspaceId workspace id service pass with
    ⟨rfl, _⟩ | ⟨_, _, _, _, _, _, _, _, _, workspaces, _⟩
  · rfl
  · exact workspaces

theorem reconcileExpiredLeases_settles (intact : db.Intact) (held : db.ClaimsHeld)
    (success : reconcileExpiredLeases env call.now workspaceId workspace db = .ok reconciled)
    (id : AttemptId) (listed : id ∈ db.staleLeases workspaceId call.now) :
    ∃ execution attempt lease later moved, db.attempt? id = some (execution, attempt) ∧
      attempt.lease = some lease ∧ lease.isStale call.now = true ∧
      reconciled.attempt? id = some (later, moved) ∧ attempt.Expires moved ∧
      attempt.LeaseKept moved ∧ execution.SameWork later := by
  obtain ⟨execution, attempt, lease, _, present, isLease, stale, isProfile, home⟩ :=
    Db.of_mem_staleLeases listed
  obtain ⟨stored, found⟩ := (Db.attempt?_eq_some _ _ _ _).mp present
  obtain ⟨owned, _⟩ := (held.rows _ execution stored).owned _ attempt lease found isLease
  obtain ⟨owner, isOwner, ownerHome⟩ := intact.home _ execution stored
  rw [owned, isOwner, Option.some.injEq] at isProfile
  subst isProfile
  obtain ⟨before, after, state, next, split, first, pass, rest⟩ :=
    foldlM_at _ _ id listed db reconciled success
  have distinct := db.nodup_staleLeases workspaceId call.now
  rw [split, List.nodup_append] at distinct
  obtain ⟨_, latter, apart⟩ := distinct
  have same := reconcileLoop_same env call workspaceId workspace before id service
    (fun member => apart id member id (List.mem_cons_self ..) rfl) db state first
  obtain ⟨during, isDuring, work⟩ := same.kept execution attempt present
  rcases reconcileOne_cases env call workspaceId workspace id service pass with
    ⟨_, excluded⟩ | ⟨_, _, moved, status, routine, isPresent, written, executions, _,
      _, expires, keeps, _⟩
  · refine absurd ?_ (excluded during attempt lease owner isDuring isLease stale ?_ ?_)
    · exact home
    · rw [work.workspace, ← ownerHome]
      exact home
    · rw [same.profiles, work.profile]
      exact isOwner
  · rw [isDuring, Option.some.injEq, Prod.mk.injEq] at isPresent
    obtain ⟨rfl, rfl⟩ := isPresent
    have isMoved : next.attempt? id =
        some (during.write id.number moved status routine, moved) := by
      rw [Db.attempt?_eq_some, executions, AList.lookup_insert]
      exact ⟨rfl, attempt?_write_same ..⟩
    have kept := reconcileLoop_same env call workspaceId workspace after id service
      (List.nodup_cons.mp latter).1 next reconciled rest
    obtain ⟨last, isLast, rest⟩ := kept.kept _ moved isMoved
    exact ⟨execution, attempt, lease, last, moved, present, isLease, stale, isLast, expires,
      keeps ((held.rows _ execution stored).formed _ attempt found), (work.trans written).trans rest⟩

theorem reconcileExpiredLeases_attempt (intact : db.Intact) (held : db.ClaimsHeld)
    (success : reconcileExpiredLeases env call.now workspaceId workspace db = .ok reconciled)
    (id : AttemptId) (execution : Execution D) (attempt : Attempt D)
    (present : db.attempt? id = some (execution, attempt)) :
    ∃ later row, reconciled.attempt? id = some (later, row) ∧ row.claims = attempt.claims ∧
      execution.SameWork later ∧
      (row = attempt ∨ attempt.Expires row ∧ attempt.LeaseKept row ∧
        ∃ lease, attempt.lease = some lease ∧ lease.isStale call.now = true) := by
  by_cases listed : id ∈ db.staleLeases workspaceId call.now
  · obtain ⟨_, _, lease, later, moved, isFormer, isLease, stale, isMoved, expires, kept,
      work⟩ :=
      reconcileExpiredLeases_settles env call workspaceId workspace service intact held success id
        listed
    rw [present, Option.some.injEq, Prod.mk.injEq] at isFormer
    obtain ⟨rfl, rfl⟩ := isFormer
    exact ⟨later, moved, isMoved, expires.keeps.claims, work,
      .inr ⟨expires, kept, lease, isLease, stale⟩⟩
  · obtain ⟨later, isLater, work⟩ := (reconcileExpiredLeases_same env call workspaceId workspace
      service success id listed).kept execution attempt present
    exact ⟨later, attempt, isLater, rfl, work, .inl rfl⟩

theorem reconcileExpiredLeases_source
    (success : reconcileExpiredLeases env call.now workspaceId workspace db = .ok reconciled)
    (id : AttemptId) (later : Execution D) (row : Attempt D)
    (present : reconciled.attempt? id = some (later, row)) :
    ∃ execution attempt, db.attempt? id = some (execution, attempt) := by
  by_cases listed : id ∈ db.staleLeases workspaceId call.now
  · obtain ⟨execution, attempt, _, _, found, _⟩ := Db.of_mem_staleLeases listed
    exact ⟨execution, attempt, found⟩
  · obtain ⟨execution, found⟩ := (reconcileExpiredLeases_same env call workspaceId workspace
      service success id listed).source later row present
    exact ⟨execution, row, found⟩

end

end Batch

end Foundry
