import Foundry.Pool.Writes

/-!
# The operations as writes

Each transaction of the pool is a chain of writes, in a store that meets the invariant: the
claim and the records of a worker are maintenance, an assignment may mark stale candidates and
then transfers one bundle.
-/

set_option autoImplicit false

namespace Foundry

open Raise
open Relation (ReflTransGen)

variable {D : Type} {store next : PoolStore D}

/-- The rewriting of an unassigned bundle that maintenance may do. -/
structure BundleColumns.Maintains (bundle : ReadyWorkspaceBundle) (columns : BundleColumns) :
    Prop where
  stays : columns.state ≠ .assigned
  workspace : columns.workspace = bundle.workspace
  preparing : columns.state = .preparing → bundle.state = .preparing

variable {bundle : ReadyWorkspaceBundle} {id : Uuid} {columns : BundleColumns}

theorem MaintenanceWrite.of_save (stored : store.bundles.lookup id = some bundle)
    (unassigned : bundle.state ≠ .assigned) (maintains : columns.Maintains bundle)
    (saved : store.saveBundle id columns = .ok next) : MaintenanceWrite store next := by
  obtain ⟨constrained, rfl⟩ := PoolStore.saveBundle_eq_ok saved
  exact .kept id bundle columns constrained stored unassigned maintains.stays
    maintains.workspace maintains.preparing

theorem MaintenanceWrite.refl (store : PoolStore D) : MaintenanceWrite store store :=
  .quiet store rfl rfl (Nat.le_refl _)

/-! ## Records -/

variable {now : Instant} {claim : PoolClaim}

theorem PoolClaim.unassigned_of_held (sound : store.Sound)
    (held : claim.held now store = some bundle) :
    store.bundles.lookup claim.bundle = some bundle ∧ bundle.state ≠ .assigned := by
  rw [PoolClaim.held, Option.filter_eq_some_iff] at held
  obtain ⟨stored, owned⟩ := held
  have owner : bundle.phaseClaimOwner = some claim.owner := (of_decide_eq_true owned).1
  refine ⟨stored, ?_⟩
  intro assigned
  rw [sound.free claim.bundle bundle stored assigned] at owner
  cases owner

variable {wrote : Bool}

theorem PoolClaim.record_maintains
    {rewrite : ReadyWorkspaceBundle → Option BundleColumns} (sound : store.Sound)
    (keeps : ∀ bundle columns, bundle.state ≠ .assigned → rewrite bundle = some columns →
      columns.Maintains bundle)
    (success : claim.record now store rewrite = .ok (wrote, next)) :
    MaintenanceWrite store next := by
  rw [PoolClaim.record] at success
  split at success
  · cases success
    exact .refl store
  · next columns rewritten =>
    simp only [bind_eq_ok, return_eq_ok] at success
    obtain ⟨_, success, _, rfl⟩ := success
    obtain ⟨bundle, held, same⟩ := Option.bind_eq_some_iff.mp rewritten
    obtain ⟨stored, unassigned⟩ := PoolClaim.unassigned_of_held sound held
    exact .of_save stored unassigned (keeps bundle columns unassigned same) success

theorem PoolClaim.recordWith_maintains
    {rewrite : ReadyWorkspaceBundle → Workspace → Option BundleColumns} (sound : store.Sound)
    (keeps : ∀ bundle workspace columns, bundle.state ≠ .assigned →
      rewrite bundle workspace = some columns → columns.Maintains bundle)
    (success : claim.recordWith now store rewrite = .ok (wrote, next)) :
    MaintenanceWrite store next := by
  refine PoolClaim.record_maintains sound ?_ success
  intro bundle columns unassigned rewritten
  obtain ⟨workspace, _, same⟩ := Option.bind_eq_some_iff.mp rewritten
  exact keeps bundle workspace columns unassigned same

theorem BundleColumns.Maintains.of_same
    (unassigned : bundle.state ≠ .assigned) (state : columns.state = bundle.state)
    (workspace : columns.workspace = bundle.workspace) : columns.Maintains bundle where
  stays := by
    rw [state]
    exact unassigned
  workspace := workspace
  preparing := by
    intro prepares
    rw [← state]
    exact prepares

theorem BundleColumns.Maintains.of_state (stays : columns.state ≠ .assigned)
    (leaves : columns.state ≠ .preparing) (workspace : columns.workspace = bundle.workspace) :
    columns.Maintains bundle where
  stays := stays
  workspace := workspace
  preparing := by
    intro prepares
    exact absurd prepares leaves

variable {code : String}

section Records

variable {env : Env D} {poolEnv : PoolEnv D} {config : PoolConfig} {now : Instant} {claim : PoolClaim} {wrote : Bool}

variable {volumeRef : Option String}

theorem PoolClaim.recordBlankVolume_maintains (sound : store.Sound)
    (success : claim.recordBlankVolume env now store volumeRef = .ok (wrote, next)) :
    MaintenanceWrite store next := by
  rw [PoolClaim.recordBlankVolume] at success
  split at success
  · cases success
    exact .refl store
  · refine PoolClaim.recordWith_maintains sound ?_ success
    intro bundle workspace columns unassigned rewritten
    simp only [Option.ite_none_right_eq_some, Option.some.injEq] at rewritten
    obtain ⟨_, rfl⟩ := rewritten
    exact .of_same unassigned rfl rfl

theorem PoolClaim.recordFreshBlankVolume_maintains (sound : store.Sound)
    (success : claim.recordFreshBlankVolume now store volumeRef = .ok (wrote, next)) :
    MaintenanceWrite store next := by
  rw [PoolClaim.recordFreshBlankVolume] at success
  split at success
  · cases success
    exact .refl store
  · refine PoolClaim.recordWith_maintains sound ?_ success
    intro bundle workspace columns unassigned rewritten
    simp only [Option.ite_none_right_eq_some, Option.some.injEq] at rewritten
    obtain ⟨_, rfl⟩ := rewritten
    exact .of_same unassigned rfl rfl

theorem PoolClaim.transitionToParking_maintains (sound : store.Sound)
    (success : claim.transitionToParking now store = .ok (wrote, next)) :
    MaintenanceWrite store next := by
  refine PoolClaim.record_maintains sound ?_ success
  intro bundle columns _ rewritten
  simp only [Option.ite_none_right_eq_some, Option.some.injEq] at rewritten
  obtain ⟨_, rfl⟩ := rewritten
  exact .of_state (by simp) (by simp) rfl

theorem PoolClaim.transitionToEvicting_maintains (sound : store.Sound)
    (success : claim.transitionToEvicting now store code = .ok (wrote, next)) :
    MaintenanceWrite store next := by
  refine PoolClaim.record_maintains sound ?_ success
  intro bundle columns _ rewritten
  simp only [Option.ite_none_right_eq_some, Option.some.injEq] at rewritten
  obtain ⟨_, rfl⟩ := rewritten
  exact .of_state (by simp) (by simp) rfl

theorem PoolClaim.recordTerminalFailure_maintains (sound : store.Sound)
    (success : claim.recordTerminalFailure config now store code = .ok (wrote, next)) :
    MaintenanceWrite store next := by
  refine PoolClaim.record_maintains sound ?_ success
  intro bundle columns _ rewritten
  simp only [Option.ite_none_right_eq_some, Option.some.injEq] at rewritten
  obtain ⟨_, rfl⟩ := rewritten
  exact .of_state (by simp) (by simp) rfl

theorem PoolRecord.write_maintains (record : PoolRecord) (sound : store.Sound)
    (success : record.write poolEnv config now claim store = .ok (wrote, next)) :
    MaintenanceWrite store next := by
  cases record with
  | ready | sleeping | evicted =>
    refine PoolClaim.recordWith_maintains sound ?_ success
    intro bundle workspace columns _ rewritten
    simp only [Option.ite_none_right_eq_some, Option.some.injEq] at rewritten
    obtain ⟨_, rfl⟩ := rewritten
    exact .of_state (by simp) (by simp) rfl
  | health | sleep =>
    refine PoolClaim.recordWith_maintains sound ?_ success
    intro bundle workspace columns unassigned rewritten
    simp only [Option.ite_none_right_eq_some, Option.some.injEq] at rewritten
    obtain ⟨_, rfl⟩ := rewritten
    exact .of_same unassigned rfl rfl
  | pending | phaseRetry =>
    refine PoolClaim.record_maintains sound ?_ success
    intro bundle columns unassigned rewritten
    cases rewritten
    exact .of_same unassigned rfl rfl
  | retry =>
    refine PoolClaim.record_maintains sound ?_ success
    intro bundle columns unassigned rewritten
    simp only [Option.some.injEq] at rewritten
    split at rewritten
    · subst rewritten
      exact .of_state (by simp) (by simp) rfl
    · subst rewritten
      exact .of_same unassigned rfl rfl
  | terminalFailure | refused => exact PoolClaim.recordTerminalFailure_maintains sound success

end Records

/-! ## Steps of a worker -/

theorem PoolWorker.afterWrite_maintains {env : PoolEnv D} {worker : PoolWorker}
    {yes no : PoolPoint} {result : Except RuntimeError (Bool × PoolStore D)}
    (maintains : ∀ written after, result = .ok (written, after) → MaintenanceWrite store after) :
    MaintenanceWrite store (worker.afterWrite env now yes no result store).2 := by
  cases result with
  | ok pair => exact maintains pair.1 pair.2 rfl
  | error => exact .refl store

theorem PoolWorker.step_maintains (env : PoolEnv D) (now : Instant) (input : PoolInput)
    (worker : PoolWorker) (sound : store.Sound) :
    MaintenanceWrite store (worker.step env now input store).2 := by
  cases input with
  | answered | raised => exact .refl store
  | goesOn =>
    simp only [PoolWorker.step, PoolWorker.goesOn]
    split
    · exact .refl store
    · split <;> exact .refl store
    · exact .refl store
    · exact .refl store
    · split <;> exact .refl store
    · split <;> exact .refl store
    · apply PoolWorker.afterWrite_maintains
      intro written after success
      exact PoolClaim.recordBlankVolume_maintains sound success
    · apply PoolWorker.afterWrite_maintains
      intro written after success
      exact PoolClaim.recordFreshBlankVolume_maintains sound success
    · apply PoolWorker.afterWrite_maintains
      intro written after success
      exact PoolClaim.transitionToParking_maintains sound success
    · apply PoolWorker.afterWrite_maintains
      intro written after success
      exact PoolClaim.transitionToEvicting_maintains sound success
    · exact .refl store
    · exact .refl store
    · exact .refl store
    · exact .refl store
    · split
      · next success => exact PoolRecord.write_maintains _ sound success
      · exact .refl store
    · exact .refl store

/-! ## Claims -/

variable {order : Uuid × ReadyWorkspaceBundle → Uuid × ReadyWorkspaceBundle → Prop}
  {test : Uuid → ReadyWorkspaceBundle → Bool} {limit : Nat}

theorem PoolStore.mem_firstBundles [DecidableRel order]
    {row : Uuid × ReadyWorkspaceBundle} (member : row ∈ store.firstBundles limit order test) :
    store.bundles.lookup row.1 = some row.2 ∧ test row.1 row.2 = true := by
  have listed := (List.mem_insertionSort order).mp (List.mem_of_mem_take member)
  obtain ⟨stored, holds⟩ := List.mem_filter.mp listed
  exact ⟨(Table.mem_rows _ _ _).mp stored, holds⟩

/-- The selected bundle is stored, and its new columns may be written. -/
def PoolStore.Selection.Valid (selection : PoolStore.Selection) (store : PoolStore D) : Prop :=
  ∃ bundle, store.bundles.lookup selection.id = some bundle ∧ bundle.state ≠ .assigned ∧
    selection.columns.Maintains bundle

theorem PoolStore.firstUnclaimed_valid [DecidableRel order]
    {choose : ReadyWorkspaceBundle → Workspace → Option (BundleColumns × PoolAction)}
    {selection : PoolStore.Selection}
    (tested : ∀ id bundle, test id bundle = true → bundle.state ≠ .assigned)
    (keeps : ∀ bundle workspace chosen, bundle.state ≠ .assigned →
      choose bundle workspace = some chosen → chosen.1.Maintains bundle)
    (found : store.firstUnclaimed now (store.firstBundles limit order test) choose =
      some selection) : selection.Valid store := by
  obtain ⟨row, member, selected⟩ := List.exists_of_findSome?_eq_some found
  obtain ⟨stored, holds⟩ := PoolStore.mem_firstBundles member
  obtain ⟨workspace, _, mapped⟩ := Option.bind_eq_some_iff.mp selected
  obtain ⟨chosen, choice, rfl⟩ := Option.map_eq_some_iff.mp mapped
  have unassigned := tested row.1 row.2 holds
  exact ⟨row.2, stored, unassigned, keeps row.2 workspace chosen unassigned choice⟩

section Claims

variable {env : Env D} {config : PoolConfig} {now : Instant} {locked : List Uuid}
  {selection : PoolStore.Selection}

theorem PoolStore.dueBundle_valid
    (found : store.dueBundle config now locked = some selection) : selection.Valid store := by
  refine PoolStore.firstUnclaimed_valid ?_ ?_ found
  · intro id bundle tested assigned
    simp [assigned] at tested
  · intro bundle workspace chosen unassigned choice
    obtain ⟨_, _, rfl⟩ := Option.map_eq_some_iff.mp choice
    exact .of_same unassigned rfl rfl

theorem PoolStore.drainReadyBundle_valid
    (found : store.drainReadyBundle now locked = some selection) : selection.Valid store := by
  refine PoolStore.firstUnclaimed_valid ?_ ?_ found
  · intro id bundle tested assigned
    simp [assigned] at tested
  · intro bundle workspace chosen _ choice
    simp only [Option.ite_none_right_eq_some, Option.some.injEq] at choice
    obtain ⟨_, rfl⟩ := choice
    exact .of_state (by simp) (by simp) rfl

theorem PoolStore.staleReadyBundle_valid
    (found : store.staleReadyBundle env config now locked = some selection) :
    selection.Valid store := by
  refine PoolStore.firstUnclaimed_valid ?_ ?_ found
  · intro id bundle tested assigned
    simp [assigned] at tested
  · intro bundle workspace chosen _ choice
    simp only [Option.ite_none_right_eq_some, Option.some.injEq] at choice
    obtain ⟨_, rfl⟩ := choice
    exact .of_state (by simp) (by simp) rfl

theorem PoolStore.parkingCandidate_valid
    (found : store.parkingCandidate env config now locked = some selection) :
    selection.Valid store := by
  refine PoolStore.firstUnclaimed_valid ?_ ?_ found
  · intro id bundle tested assigned
    simp [assigned] at tested
  · intro bundle workspace chosen _ choice
    simp only [Option.ite_none_right_eq_some, Option.some.injEq] at choice
    obtain ⟨_, rfl⟩ := choice
    exact .of_state (by simp) (by simp) rfl

theorem PoolStore.candidateIn_valid {state : ReadyWorkspaceBundleState} {action : PoolAction}
    (unassigned : state ≠ .assigned)
    (found : store.candidateIn config now locked state action = some selection) :
    selection.Valid store := by
  refine PoolStore.firstUnclaimed_valid ?_ ?_ found
  · intro id bundle tested assigned
    simp only [Bool.and_eq_true, decide_eq_true_eq] at tested
    exact unassigned (tested.1.1.1.1.1.symm.trans assigned)
  · intro bundle workspace chosen unassigned choice
    simp only [Option.ite_none_right_eq_some, Option.some.injEq] at choice
    obtain ⟨_, rfl⟩ := choice
    exact .of_same unassigned rfl rfl

theorem PoolStore.claimable_valid {drain : Bool}
    (found : store.claimable env config now locked drain = some selection) :
    selection.Valid store := by
  simp only [PoolStore.claimable, Option.orElse_eq_orElse, Option.orElse_eq_or,
    Option.or_eq_some_iff] at found
  rcases found with due | ⟨_, drained | ⟨_, stale | ⟨_, slept | ⟨_, health⟩⟩⟩⟩
  · exact PoolStore.dueBundle_valid due
  · rw [Option.ite_none_right_eq_some] at drained
    exact PoolStore.drainReadyBundle_valid drained.2
  · exact PoolStore.staleReadyBundle_valid stale
  · rw [Option.ite_none_right_eq_some, Option.or_eq_some_iff] at slept
    rcases slept.2 with parks | ⟨_, sleeps⟩
    · exact PoolStore.parkingCandidate_valid parks
    · exact PoolStore.candidateIn_valid (by decide) sleeps
  · rw [Option.ite_none_right_eq_some] at health
    exact PoolStore.candidateIn_valid (by decide) health.2

theorem PoolStore.not_preparing_of_count (sound : store.Sound) (none : store.preparingCount < 1)
    (id : Uuid) (bundle : ReadyWorkspaceBundle) (stored : store.bundles.lookup id = some bundle) :
    bundle.state ≠ .preparing := by
  intro prepares
  obtain ⟨_, located, pool⟩ := sound.pooled id bundle stored
  have pooled : store.isPooledBundle bundle = true := by
    rw [PoolStore.isPooledBundle, located]
    refine pool.mpr ?_
    rw [prepares]
    decide
  have member : (id, bundle) ∈ store.bundles.rows.filter fun row =>
      store.isPooledBundle row.2 && decide (row.2.state = .preparing) := by
    refine List.mem_filter.mpr ⟨(Table.mem_rows _ _ _).mpr stored, ?_⟩
    simp [pooled, prepares]
  have counted := List.length_pos_of_mem member
  rw [PoolStore.preparingCount, PoolStore.countBundles] at none
  omega

/-- What a claim names is a stored bundle and its Workspace. -/
def PoolClaim.Names (claim : PoolClaim) (store : PoolStore D) : Prop :=
  ∃ bundle, store.bundles.lookup claim.bundle = some bundle ∧
    bundle.workspace = claim.workspace

variable {claim : Option PoolClaim}

theorem PoolStore.reserve_maintains {owner : Uuid} (sound : store.Sound)
    (success : store.reserve env config now owner = .ok (claim, next)) :
    MaintenanceWrite store next ∧ ∀ made, claim = some made → made.Names next := by
  rw [PoolStore.reserve] at success
  split at success
  · cases success
    exact ⟨.refl store, by simp⟩
  split at success
  · cases success
    exact ⟨.refl store, by simp⟩
  split at success
  · cases success
    exact ⟨.refl store, by simp⟩
  next _ _ spare =>
    simp only [bind_eq_ok, require_eq_ok, return_eq_ok] at success
    obtain ⟨_, unused, _, written, rfl, rfl⟩ := success
    obtain ⟨constrained, rfl⟩ := PoolStore.saveBundle_eq_ok written
    have none : store.preparingCount < 1 := by
      rw [config.onePreparing] at spare
      omega
    constructor
    · refine MaintenanceWrite.reserved _ (store.db.supply + 1) (store.db.supply + 2) _ _ constrained
        (Nat.le_add_right _ _) (Nat.le_add_right _ _) ?_ ?_ (isPooled_of_reserved _) unused rfl rfl
        (PoolStore.not_preparing_of_count sound none) rfl rfl
      · exact Nat.lt_succ_of_lt (Nat.lt_succ_self _)
      · exact Nat.lt_succ_self _
    · rintro _ ⟨⟩
      exact ⟨_, AList.lookup_insert _, rfl⟩

theorem PoolStore.claimOrReserve_maintains {allowCreate drain : Bool} (sound : store.Sound)
    (success : store.claimOrReserve env config now locked allowCreate drain = .ok (claim, next)) :
    ReflTransGen MaintenanceWrite store next ∧ ∀ made, claim = some made → made.Names next := by
  have drawn : MaintenanceWrite store store.draw := .quiet store.draw rfl rfl (Nat.le_succ _)
  have soundDrawn : store.draw.Sound := drawn.sound sound
  rw [PoolStore.claimOrReserve] at success
  split at success
  · next selection found =>
    simp only [bind_eq_ok, return_eq_ok] at success
    obtain ⟨_, written, rfl, rfl⟩ := success
    obtain ⟨bundle, stored, unassigned, maintains⟩ := PoolStore.claimable_valid found
    have claimed : BundleColumns.Maintains bundle { selection.columns with
        phaseClaimOwner := some store.db.supply
        phaseClaimUntil := some (now + seconds config.phaseClaimSeconds) } :=
      ⟨maintains.stays, maintains.workspace, maintains.preparing⟩
    refine ⟨(ReflTransGen.single drawn).tail (.of_save stored unassigned claimed written), ?_⟩
    rintro _ ⟨⟩
    obtain ⟨_, rfl⟩ := PoolStore.saveBundle_eq_ok written
    exact ⟨_, AList.lookup_insert _, rfl⟩
  · split at success
    · obtain ⟨write, names⟩ := PoolStore.reserve_maintains soundDrawn success
      exact ⟨(ReflTransGen.single drawn).tail write, names⟩
    · cases success
      exact ⟨.single drawn, by simp⟩

end Claims

/-! ## Assignment -/

theorem PoolStore.tryMark_maintains (stored : store.bundles.lookup id = some bundle)
    (unassigned : bundle.state ≠ .assigned) :
    MaintenanceWrite store (store.tryMarkCandidateEvicting id bundle now code) := by
  rw [PoolStore.tryMarkCandidateEvicting]
  split
  · next marked =>
    rw [PoolStore.markCandidateEvicting] at marked
    refine .of_save stored unassigned ?_ marked
    exact .of_state (by simp) (by simp) rfl
  · exact .refl store

def PoolStore.isSpare (workspaceId : Uuid) (store : PoolStore D) : Bool :=
  store.bundles.rows.any fun row => row.2.workspace = workspaceId ∧ row.2.isAssignable = true

theorem PoolStore.isSpare_iff (workspaceId : Uuid) :
    store.isSpare workspaceId = true ↔ ∃ id bundle, store.bundles.lookup id = some bundle ∧
      bundle.workspace = workspaceId ∧ bundle.isAssignable = true := by
  simp only [PoolStore.isSpare, List.any_eq_true, decide_eq_true_eq, Prod.exists, Table.mem_rows]

theorem PoolStore.isAssigned_iff (workspaceId : Uuid) :
    store.isAssigned workspaceId = true ↔ ∃ id bundle, store.bundles.lookup id = some bundle ∧
      bundle.workspace = workspaceId ∧ bundle.state = .assigned := by
  simp only [PoolStore.isAssigned, List.any_eq_true, decide_eq_true_eq, Prod.exists, Table.mem_rows]

theorem PoolStore.isSpare_of_tryMark {workspaceId : Uuid}
    (spare : (store.tryMarkCandidateEvicting id bundle now code).isSpare workspaceId = true) :
    store.isSpare workspaceId = true := by
  rw [PoolStore.tryMarkCandidateEvicting] at spare
  split at spare
  · next marked =>
    obtain ⟨_, rfl⟩ := PoolStore.saveBundle_eq_ok marked
    obtain ⟨other, row, stored, same, assignable⟩ := (PoolStore.isSpare_iff _).mp spare
    obtain ⟨_, rfl⟩ | ⟨_, stored⟩ := Table.cases_insert stored
    · simp [ReadyWorkspaceBundle.isAssignable, ReadyWorkspaceBundleState.isSpare] at assignable
    · exact (PoolStore.isSpare_iff _).mpr ⟨other, row, stored, same, assignable⟩
  · exact spare

theorem requestOnboardingWakeLocked_tenantRef (env : Env D) (now : Instant) (id operationId : Uuid)
    (workspace : Workspace) (power : PowerDb D) :
    (requestOnboardingWakeLocked env now id operationId workspace power).tenantRef =
      workspace.tenantRef := by
  rw [requestOnboardingWakeLocked]
  split
  · rfl
  split
  · rfl
  · rfl
  all_goals
    split <;> rfl

theorem PoolStore.assignedWorkspace_tenantRef (env : Env D) (now : Instant) (tenantRef : String)
    (sleeping : Bool) (id : Uuid) (workspace : Workspace) :
    (store.assignedWorkspace env now tenantRef sleeping id workspace).tenantRef = tenantRef := by
  rw [PoolStore.assignedWorkspace]
  split
  · exact requestOnboardingWakeLocked_tenantRef ..
  · rfl

/-- What an assignment did: its writes, the Workspace it gives, and the only Workspace that
may have become assigned. -/
structure Assigns (tenantRef : String) (store : PoolStore D) (given : Option Uuid)
    (next : PoolStore D) : Prop where
  writes : ReflTransGen PoolWrite store next
  gives : ∀ id, given = some id → ∃ workspace, next.db.workspaces.lookup id = some workspace ∧
    workspace.tenantRef = tenantRef
  assigned : ∀ id, next.isAssigned id = true → store.isAssigned id = true ∨
    store.isSpare id = true

section Assignment

variable {env : Env D} {settings : PoolSettings} {now : Instant} {tenantRef : String}
  {locked : List Uuid} {given : Option Uuid}

theorem Assigns.refl (store : PoolStore D) : Assigns tenantRef store none store where
  writes := .refl
  gives := by
    intro id gives
    cases gives
  assigned := fun _ assigned => .inl assigned

theorem Assigns.after_mark
    (stored : store.bundles.lookup id = some bundle) (unassigned : bundle.state ≠ .assigned)
    (rest : Assigns tenantRef (store.tryMarkCandidateEvicting id bundle now code) given next) :
    Assigns tenantRef store given next where
  writes := .head (.maintained _ (PoolStore.tryMark_maintains stored unassigned)) rest.writes
  gives := rest.gives
  assigned := by
    intro workspaceId assigned
    rcases rest.assigned workspaceId assigned with before | spare
    · exact .inl ((PoolStore.tryMark_maintains stored unassigned).isAssigned_of _ before)
    · exact .inr (PoolStore.isSpare_of_tryMark spare)

theorem ReadyWorkspaceBundle.unassigned_of_isAssignable
    (assignable : bundle.isAssignable = true) : bundle.state ≠ .assigned := by
  intro assigned
  simp [ReadyWorkspaceBundle.isAssignable, ReadyWorkspaceBundleState.isSpare, assigned]
    at assignable

theorem PoolStore.transfer_assigns {candidate : ReadyWorkspaceBundle}
    {workspace : Workspace} (canonical : isCanonicalCloudWorkspaceRef tenantRef = true)
    (stored : store.bundles.lookup id = some candidate) (assignable : candidate.isAssignable = true)
    (located : store.db.workspaces.lookup candidate.workspace = some workspace)
    (pooled : workspace.isPooled = true)
    (success : store.transfer env now tenantRef id candidate workspace = .ok next) :
    Assigns tenantRef store (some candidate.workspace) next := by
  simp only [PoolStore.transfer, bind_eq_ok, require_eq_ok] at success
  obtain ⟨_, unused, written⟩ := success
  obtain ⟨constrained, rfl⟩ := PoolStore.saveBundle_eq_ok written
  have tenant := @PoolStore.assignedWorkspace_tenantRef D store env now tenantRef
    (decide (candidate.state = .sleeping)) candidate.workspace workspace
  have free : candidate.phaseClaimOwner = none := by
    simp only [ReadyWorkspaceBundle.isAssignable, decide_eq_true_eq] at assignable
    exact assignable.2.1
  constructor
  · refine .single (PoolWrite.transferred _ id candidate _ constrained workspace _ stored located
      pooled ?_ ?_ rfl rfl free ?_ rfl rfl)
    · rw [tenant]
      exact canonical
    · rw [tenant]
      exact unused
    · exact Nat.le_succ _
  · rintro _ ⟨⟩
    exact ⟨_, AList.lookup_insert _, tenant⟩
  · intro workspaceId assigned
    obtain ⟨other, row, found, same, state⟩ := (PoolStore.isAssigned_iff _).mp assigned
    obtain ⟨_, rfl⟩ | ⟨_, found⟩ := Table.cases_insert found
    · exact .inr ((PoolStore.isSpare_iff _).mpr ⟨id, candidate, stored, same, assignable⟩)
    · exact .inl ((PoolStore.isAssigned_iff _).mpr ⟨other, row, found, same, state⟩)

theorem PoolStore.assignFirst_assigns (canonical : isCanonicalCloudWorkspaceRef tenantRef = true)
    (candidates : List Uuid)
    (success : PoolStore.assignFirst env settings now tenantRef locked candidates store =
      .ok (given, next)) : Assigns tenantRef store given next := by
  induction candidates generalizing store with
  | nil =>
    simp only [PoolStore.assignFirst, return_eq_ok] at success
    obtain ⟨rfl, rfl⟩ := success
    exact .refl store
  | cons _ _ ih =>
    rw [PoolStore.assignFirst] at success
    split at success
    · exact ih success
    next candidate found =>
      simp only [Option.filter_eq_some_iff, Bool.and_eq_true] at found
      obtain ⟨stored, assignable, _⟩ := found
      have unassigned := ReadyWorkspaceBundle.unassigned_of_isAssignable assignable
      split at success
      · exact .after_mark stored unassigned (ih success)
      next workspace located =>
        split at success
        · next isEligible =>
          simp only [bind_eq_ok, return_eq_ok] at success
          obtain ⟨_, moved, rfl, rfl⟩ := success
          have pooled : workspace.isPooled = true := by
            simp only [PoolStore.eligible, decide_eq_true_eq] at isEligible
            tauto
          exact PoolStore.transfer_assigns canonical stored assignable located pooled moved
        · split at success
          · exact ih success
          · exact .after_mark stored unassigned (ih success)

variable {row : Uuid × Workspace}

theorem PoolStore.workspaceByTenant_gives
    (found : store.db.workspaceByTenant tenantRef = some row) :
    store.db.workspaces.lookup row.1 = some row.2 ∧ row.2.tenantRef = tenantRef := by
  have member := List.mem_of_find?_eq_some found
  have isTenant := List.find?_some found
  exact ⟨(Table.mem_rows _ _ _).mp member, of_decide_eq_true isTenant⟩

theorem Assigns.found (found : store.db.workspaceByTenant tenantRef = some row) :
    Assigns tenantRef store (some row.1) store where
  writes := .refl
  gives := by
    rintro _ ⟨⟩
    obtain ⟨stored, tenant⟩ := PoolStore.workspaceByTenant_gives found
    exact ⟨row.2, stored, tenant⟩
  assigned := fun _ assigned => .inl assigned

theorem PoolStore.assignReadyWorkspaceOnce_assigns
    (canonical : isCanonicalCloudWorkspaceRef tenantRef = true)
    (success : store.assignReadyWorkspaceOnce env settings now tenantRef locked =
      .ok (given, next)) : Assigns tenantRef store given next := by
  rw [PoolStore.assignReadyWorkspaceOnce] at success
  split at success
  · next existing found =>
    cases success
    exact .found found
  · exact PoolStore.assignFirst_assigns canonical _ success

theorem PoolStore.assignReadyWorkspace_assigns
    (success : store.assignReadyWorkspace env settings now tenantRef locked = .ok (given, next)) :
    Assigns tenantRef store given next := by
  rw [PoolStore.assignReadyWorkspace] at success
  split at success
  · cases success
    exact .refl store
  next enabled =>
    have canonical : isCanonicalCloudWorkspaceRef tenantRef = true := by
      rw [not_or, Bool.not_eq_false] at enabled
      exact enabled.1
    split at success
    · next assigned once =>
      cases success
      exact PoolStore.assignReadyWorkspaceOnce_assigns canonical once
    · split at success
      · cases success
        cases found : store.db.workspaceByTenant tenantRef with
        | none => exact .refl store
        | some => exact .found found
      · cases success

theorem PoolStore.registerFromPool_assigns
    (success : store.registerFromPool env settings now tenantRef locked = .ok (id, next)) :
    Assigns tenantRef store (some id) next := by
  simp only [PoolStore.registerFromPool, bind_eq_ok, require_eq_ok] at success
  obtain ⟨_, _, success⟩ := success
  split at success
  · next existing found =>
    cases success
    exact .found found
  next unused =>
    simp only [bind_eq_ok, Prod.exists] at success
    obtain ⟨_, middle, taken, success⟩ := success
    have assigns := PoolStore.assignReadyWorkspace_assigns taken
    split at success
    · cases success
      exact assigns
    · simp only [bind_eq_ok, Prod.exists, return_eq_ok] at success
      obtain ⟨_, _, registered, rfl, rfl⟩ := success
      simp only [registerWorkspace, bind_eq_ok, require_eq_ok] at registered
      obtain ⟨_, _, registered⟩ := registered
      split at registered
      · next other workspace known =>
        cases registered
        refine ⟨assigns.writes, ?_, assigns.assigned⟩
        rintro _ ⟨⟩
        obtain ⟨stored, tenant⟩ := @PoolStore.workspaceByTenant_gives D middle _ _ known
        exact ⟨workspace, stored, tenant⟩
      · next missing =>
        cases registered
        refine ⟨assigns.writes.tail ?_, ?_, assigns.assigned⟩
        · exact .registered _ middle.db.supply (Workspace.registered tenantRef) (Nat.le_refl _)
            (Nat.lt_succ_self _) missing rfl rfl
        · rintro _ ⟨⟩
          exact ⟨_, AList.lookup_insert _, rfl⟩

end Assignment

end Foundry
