import Mathlib.Logic.Relation
import Foundry.Pool.System

/-!
# The writes of the pool

`MaintenanceWrite` says what one write of a maintenance worker can do and `PoolWrite` what any
write can do; `PoolStore.Sound` is the invariant of the tables.
-/

set_option autoImplicit false

namespace Foundry

open Raise
open Relation (ReflTransGen)

variable {D : Type}

/-! ## Tenants of the pool -/

theorem isPooled_of_reserved (text : String) :
    (Workspace.registered ("pool:" ++ text)).isPooled = true := by
  have isStart : "pool:".toList <+: ("pool:" ++ text).toList := by simp
  exact String.startsWith_string_iff.mpr isStart

theorem not_isPooled_of_canonical (workspace : Workspace)
    (canonical : isCanonicalCloudWorkspaceRef workspace.tenantRef = true) :
    workspace.isPooled = false := by
  by_contra pooled
  have isPool : "pool:".isPrefixOf workspace.tenantRef = true := by
    simpa only [Workspace.isPooled, Bool.not_eq_false] using pooled
  have isStart : "pool:".toList <+: workspace.tenantRef.toList :=
    String.startsWith_string_iff.mp isPool
  obtain ⟨_, same⟩ := isStart
  simp only [isCanonicalCloudWorkspaceRef, ← same, decide_eq_true_eq] at canonical
  have first := canonical.2
  simp at first

/-! ## Writes -/

inductive MaintenanceWrite (store : PoolStore D) : PoolStore D → Prop
  | quiet (next : PoolStore D) (bundles : next.bundles = store.bundles)
      (workspaces : next.db.workspaces = store.db.workspaces)
      (supply : store.db.supply ≤ next.db.supply) : MaintenanceWrite store next
  | kept (id : Uuid) (bundle : ReadyWorkspaceBundle) (columns : BundleColumns)
      (constrained : columns.Constrained) (stored : store.bundles.lookup id = some bundle)
      (unassigned : bundle.state ≠ .assigned) (stays : columns.state ≠ .assigned)
      (workspace : columns.workspace = bundle.workspace)
      (preparing : columns.state = .preparing → bundle.state = .preparing) :
      MaintenanceWrite store (store.putBundle id ⟨columns, constrained⟩)
  | reserved (next : PoolStore D) (workspaceId id : Uuid) (tenantRef : String)
      (columns : BundleColumns) (constrained : columns.Constrained)
      (workspaceFresh : store.db.supply ≤ workspaceId) (fresh : store.db.supply ≤ id)
      (workspaceDrawn : workspaceId < next.db.supply) (drawn : id < next.db.supply)
      (pooled : (Workspace.registered tenantRef).isPooled = true)
      (unused : store.db.workspaceByTenant tenantRef = none)
      (workspace : columns.workspace = workspaceId) (state : columns.state = .preparing)
      (only : ∀ other bundle, store.bundles.lookup other = some bundle →
        bundle.state ≠ .preparing)
      (bundles : next.bundles = store.bundles.insert id ⟨columns, constrained⟩)
      (workspaces : next.db.workspaces =
        store.db.workspaces.insert workspaceId (Workspace.registered tenantRef)) :
      MaintenanceWrite store next

inductive PoolWrite (store : PoolStore D) : PoolStore D → Prop
  | maintained (next : PoolStore D) (write : MaintenanceWrite store next) : PoolWrite store next
  /-- A bundle and its Workspace go to a tenant. -/
  | transferred (next : PoolStore D) (id : Uuid) (candidate : ReadyWorkspaceBundle)
      (columns : BundleColumns) (constrained : columns.Constrained)
      (workspace assigned : Workspace)
      (stored : store.bundles.lookup id = some candidate)
      (found : store.db.workspaces.lookup candidate.workspace = some workspace)
      (pooled : workspace.isPooled = true)
      (canonical : isCanonicalCloudWorkspaceRef assigned.tenantRef = true)
      (unused : store.db.workspaceByTenant assigned.tenantRef = none)
      (same : columns.workspace = candidate.workspace) (state : columns.state = .assigned)
      (free : columns.phaseClaimOwner = none)
      (supply : store.db.supply ≤ next.db.supply)
      (bundles : next.bundles = store.bundles.insert id ⟨columns, constrained⟩)
      (workspaces : next.db.workspaces =
        store.db.workspaces.insert candidate.workspace assigned) : PoolWrite store next
  /-- A Workspace keeps its tenant. -/
  | rewritten (next : PoolStore D) (id : Uuid) (workspace columns : Workspace)
      (stored : store.db.workspaces.lookup id = some workspace)
      (tenant : columns.tenantRef = workspace.tenantRef)
      (supply : store.db.supply ≤ next.db.supply)
      (bundles : next.bundles = store.bundles)
      (workspaces : next.db.workspaces = store.db.workspaces.insert id columns) :
      PoolWrite store next
  | registered (next : PoolStore D) (id : Uuid) (workspace : Workspace)
      (fresh : store.db.supply ≤ id) (drawn : id < next.db.supply)
      (unused : store.db.workspaceByTenant workspace.tenantRef = none)
      (bundles : next.bundles = store.bundles)
      (workspaces : next.db.workspaces = store.db.workspaces.insert id workspace) :
      PoolWrite store next
  /-- The onboarding error of an assigned bundle. -/
  | noted (id : Uuid) (bundle : ReadyWorkspaceBundle) (columns : BundleColumns)
      (constrained : columns.Constrained) (stored : store.bundles.lookup id = some bundle)
      (assigned : bundle.state = .assigned) (stays : columns.state = .assigned)
      (workspace : columns.workspace = bundle.workspace)
      (owner : columns.phaseClaimOwner = bundle.phaseClaimOwner) :
      PoolWrite store (store.putBundle id ⟨columns, constrained⟩)

/-! ## The invariant -/

/-- An unassigned bundle has a pooled Workspace; an assigned one has a tenant's Workspace and
no claim. -/
structure PoolStore.Sound (store : PoolStore D) : Prop where
  free : ∀ id bundle, store.bundles.lookup id = some bundle → bundle.state = .assigned →
    bundle.phaseClaimOwner = none
  pooled : ∀ id bundle, store.bundles.lookup id = some bundle →
    ∃ workspace, store.db.workspaces.lookup bundle.workspace = some workspace ∧
      (workspace.isPooled = true ↔ bundle.state ≠ .assigned)
  /-- A Workspace has one bundle. -/
  single : store.bundles.Apart fun bundle other => bundle.workspace = other.workspace
  preparing : store.bundles.Apart fun bundle other =>
    bundle.state = .preparing ∧ other.state = .preparing
  tenants : store.db.workspaces.Apart fun workspace other =>
    workspace.tenantRef = other.tenantRef
  drawnBundles : ∀ id bundle, store.bundles.lookup id = some bundle → id < store.db.supply
  drawnWorkspaces : ∀ id workspace, store.db.workspaces.lookup id = some workspace →
    id < store.db.supply

variable {tenantRef : String}

theorem Db.ne_tenant_of_unused {db : Db D}
    (unused : db.workspaceByTenant tenantRef = none) (id : Uuid) (workspace : Workspace)
    (stored : db.workspaces.lookup id = some workspace) : workspace.tenantRef ≠ tenantRef := by
  intro same
  have noneMatches := List.find?_eq_none.mp unused (id, workspace)
    ((Table.mem_rows _ _ _).mpr stored)
  exact noneMatches (decide_eq_true same)

namespace PoolStore.Sound

variable {store next : PoolStore D}

theorem empty : (PoolStore.empty : PoolStore D).Sound where
  free := by
    intro id bundle stored
    simp [PoolStore.empty] at stored
  pooled := by
    intro id bundle stored
    simp [PoolStore.empty] at stored
  single := Table.apart_empty _
  preparing := Table.apart_empty _
  tenants := Table.apart_empty _
  drawnBundles := by
    intro id bundle stored
    simp [PoolStore.empty] at stored
  drawnWorkspaces := by
    intro id workspace stored
    simp [PoolStore.empty, Db.empty] at stored

section

variable (sound : store.Sound)

include sound

theorem frame (bundles : next.bundles = store.bundles)
    (workspaces : next.db.workspaces = store.db.workspaces)
    (supply : store.db.supply ≤ next.db.supply) : next.Sound where
  free := bundles ▸ sound.free
  pooled := by
    rw [bundles, workspaces]
    exact sound.pooled
  single := bundles ▸ sound.single
  preparing := bundles ▸ sound.preparing
  tenants := workspaces ▸ sound.tenants
  drawnBundles := by
    intro id bundle stored
    rw [bundles] at stored
    exact Nat.lt_of_lt_of_le (sound.drawnBundles id bundle stored) supply
  drawnWorkspaces := by
    intro id workspace stored
    rw [workspaces] at stored
    exact Nat.lt_of_lt_of_le (sound.drawnWorkspaces id workspace stored) supply

variable {columns : BundleColumns} {id : Uuid}

theorem putBundle {bundle : ReadyWorkspaceBundle} (constrained : columns.Constrained)
    (stored : store.bundles.lookup id = some bundle)
    (workspace : columns.workspace = bundle.workspace)
    (assigned : columns.state = .assigned ↔ bundle.state = .assigned)
    (free : columns.state = .assigned → columns.phaseClaimOwner = none)
    (preparing : columns.state = .preparing → bundle.state = .preparing) :
    (store.putBundle id ⟨columns, constrained⟩).Sound where
  free := by
    intro other row found isAssigned
    obtain ⟨_, rfl⟩ | ⟨_, found⟩ := Table.cases_insert found
    · exact free isAssigned
    · exact sound.free other row found isAssigned
  pooled := by
    intro other row found
    obtain ⟨_, rfl⟩ | ⟨_, found⟩ := Table.cases_insert found
    · obtain ⟨owner, located, pool⟩ := sound.pooled id bundle stored
      refine ⟨owner, ?_, pool.trans (not_congr assigned.symm)⟩
      rw [← located]
      exact congrArg store.db.workspaces.lookup workspace
    · exact sound.pooled other row found
  single := by
    refine sound.single.insert (fun _ _ same => same.symm) id _ ?_
    intro other row found same
    exact sound.single other id row bundle found stored (same.symm.trans workspace)
  preparing := by
    refine sound.preparing.insert (fun _ _ both => ⟨both.2, both.1⟩) id _ ?_
    intro other row found both
    exact sound.preparing other id row bundle found stored ⟨both.2, preparing both.1⟩
  tenants := sound.tenants
  drawnBundles := by
    intro other row found
    simp only [PoolStore.putBundle] at found
    obtain ⟨rfl, _⟩ | ⟨_, found⟩ := Table.cases_insert found
    · exact sound.drawnBundles other bundle stored
    · exact sound.drawnBundles other row found
  drawnWorkspaces := sound.drawnWorkspaces

theorem insertWorkspace {workspace : Workspace}
    (alone : ∀ other row, store.db.workspaces.lookup other = some row →
      row.tenantRef = workspace.tenantRef → other = id)
    (pool : ∀ bundleId bundle, store.bundles.lookup bundleId = some bundle →
      bundle.workspace = id → (workspace.isPooled = true ↔ bundle.state ≠ .assigned))
    (drawn : id < next.db.supply) (supply : store.db.supply ≤ next.db.supply)
    (bundles : next.bundles = store.bundles)
    (workspaces : next.db.workspaces = store.db.workspaces.insert id workspace) :
    next.Sound where
  free := bundles ▸ sound.free
  pooled := by
    intro bundleId bundle stored
    rw [bundles] at stored
    obtain ⟨owner, located, states⟩ := sound.pooled bundleId bundle stored
    rw [workspaces, Table.lookup_insert_eq]
    by_cases same : bundle.workspace = id
    · rw [if_pos same]
      exact ⟨workspace, rfl, pool bundleId bundle stored same⟩
    · rw [if_neg same]
      exact ⟨owner, located, states⟩
  single := bundles ▸ sound.single
  preparing := bundles ▸ sound.preparing
  tenants := by
    rw [workspaces]
    refine sound.tenants.insert (fun _ _ same => same.symm) id workspace ?_
    intro other row found same
    exact alone other row found same.symm
  drawnBundles := by
    intro bundleId bundle stored
    rw [bundles] at stored
    exact Nat.lt_of_lt_of_le (sound.drawnBundles bundleId bundle stored) supply
  drawnWorkspaces := by
    intro other row found
    rw [workspaces] at found
    obtain ⟨same, _⟩ | ⟨_, found⟩ := Table.cases_insert found
    · rw [same]
      exact drawn
    · exact Nat.lt_of_lt_of_le (sound.drawnWorkspaces other row found) supply

theorem reserve {workspaceId : Uuid} (constrained : columns.Constrained)
    (workspaceFresh : store.db.supply ≤ workspaceId) (fresh : store.db.supply ≤ id)
    (workspaceDrawn : workspaceId < next.db.supply) (drawn : id < next.db.supply)
    (pooled : (Workspace.registered tenantRef).isPooled = true)
    (unused : store.db.workspaceByTenant tenantRef = none)
    (workspace : columns.workspace = workspaceId) (state : columns.state = .preparing)
    (only : ∀ other bundle, store.bundles.lookup other = some bundle → bundle.state ≠ .preparing)
    (bundles : next.bundles = store.bundles.insert id ⟨columns, constrained⟩)
    (workspaces : next.db.workspaces =
      store.db.workspaces.insert workspaceId (Workspace.registered tenantRef)) : next.Sound := by
  have supply : store.db.supply ≤ next.db.supply := Nat.le_trans fresh (Nat.le_of_lt drawn)
  have newWorkspace : ∀ other row, store.bundles.lookup other = some row →
      row.workspace ≠ workspaceId := by
    intro other row found same
    obtain ⟨owner, located, _⟩ := sound.pooled other row found
    have old := sound.drawnWorkspaces row.workspace owner located
    rw [same] at old
    exact absurd workspaceFresh (Nat.not_le_of_lt old)
  have unassigned : columns.state ≠ .assigned := by
    rw [state]
    decide
  refine {
    free := ?_
    pooled := ?_
    single := ?_
    preparing := ?_
    tenants := ?_
    drawnBundles := ?_
    drawnWorkspaces := ?_ }
  · intro other row found isAssigned
    rw [bundles] at found
    obtain ⟨_, rfl⟩ | ⟨_, found⟩ := Table.cases_insert found
    · exact absurd isAssigned unassigned
    · exact sound.free other row found isAssigned
  · intro other row found
    rw [bundles, Table.lookup_insert_eq] at found
    rw [workspaces, Table.lookup_insert_eq]
    split at found
    · cases found
      rw [if_pos workspace]
      refine ⟨_, rfl, ?_⟩
      constructor
      · intro _
        exact unassigned
      · intro _
        exact pooled
    · rw [if_neg (newWorkspace other row found)]
      exact sound.pooled other row found
  · rw [bundles]
    refine sound.single.insert (fun _ _ same => same.symm) id _ ?_
    intro other row found same
    exact absurd (same.symm.trans workspace) (newWorkspace other row found)
  · rw [bundles]
    refine sound.preparing.insert (fun _ _ both => ⟨both.2, both.1⟩) id _ ?_
    intro other row found both
    exact absurd both.2 (only other row found)
  · rw [workspaces]
    refine sound.tenants.insert (fun _ _ same => same.symm) workspaceId _ ?_
    intro other row found same
    exact absurd same.symm (Db.ne_tenant_of_unused unused other row found)
  · intro other row found
    rw [bundles] at found
    obtain ⟨same, _⟩ | ⟨_, found⟩ := Table.cases_insert found
    · rw [same]
      exact drawn
    · exact Nat.lt_of_lt_of_le (sound.drawnBundles other row found) supply
  · intro other row found
    rw [workspaces] at found
    obtain ⟨same, _⟩ | ⟨_, found⟩ := Table.cases_insert found
    · rw [same]
      exact workspaceDrawn
    · exact Nat.lt_of_lt_of_le (sound.drawnWorkspaces other row found) supply

theorem transfer {candidate : ReadyWorkspaceBundle} (constrained : columns.Constrained) {assigned : Workspace}
    (stored : store.bundles.lookup id = some candidate)
    (canonical : isCanonicalCloudWorkspaceRef assigned.tenantRef = true)
    (unused : store.db.workspaceByTenant assigned.tenantRef = none)
    (same : columns.workspace = candidate.workspace) (state : columns.state = .assigned)
    (free : columns.phaseClaimOwner = none) (supply : store.db.supply ≤ next.db.supply)
    (bundles : next.bundles = store.bundles.insert id ⟨columns, constrained⟩)
    (workspaces : next.db.workspaces =
      store.db.workspaces.insert candidate.workspace assigned) : next.Sound := by
  obtain ⟨owner, located, _⟩ := sound.pooled id candidate stored
  have taken : assigned.isPooled = false := not_isPooled_of_canonical assigned canonical
  refine {
    free := ?_
    pooled := ?_
    single := ?_
    preparing := ?_
    tenants := ?_
    drawnBundles := ?_
    drawnWorkspaces := ?_ }
  · intro other row found isAssigned
    rw [bundles] at found
    obtain ⟨_, rfl⟩ | ⟨_, found⟩ := Table.cases_insert found
    · exact free
    · exact sound.free other row found isAssigned
  · intro other row found
    rw [bundles, Table.lookup_insert_eq] at found
    rw [workspaces, Table.lookup_insert_eq]
    split at found
    · cases found
      rw [if_pos same]
      refine ⟨assigned, rfl, ?_⟩
      rw [taken]
      simp [state]
    · next different =>
      have apart : row.workspace ≠ candidate.workspace := by
        intro shared
        exact different (sound.single other id row candidate found stored shared)
      rw [if_neg apart]
      exact sound.pooled other row found
  · rw [bundles]
    refine sound.single.insert (fun _ _ shared => shared.symm) id _ ?_
    intro other row found shared
    exact sound.single other id row candidate found stored (shared.symm.trans same)
  · rw [bundles]
    refine sound.preparing.insert (fun _ _ both => ⟨both.2, both.1⟩) id _ ?_
    intro other row found both
    rw [state] at both
    cases both.1
  · rw [workspaces]
    refine sound.tenants.insert (fun _ _ shared => shared.symm) candidate.workspace assigned ?_
    intro other row found shared
    exact absurd shared.symm (Db.ne_tenant_of_unused unused other row found)
  · intro other row found
    rw [bundles] at found
    obtain ⟨isId, _⟩ | ⟨_, found⟩ := Table.cases_insert found
    · rw [isId]
      exact Nat.lt_of_lt_of_le (sound.drawnBundles id candidate stored) supply
    · exact Nat.lt_of_lt_of_le (sound.drawnBundles other row found) supply
  · intro other row found
    rw [workspaces] at found
    obtain ⟨isWorkspace, _⟩ | ⟨_, found⟩ := Table.cases_insert found
    · rw [isWorkspace]
      exact Nat.lt_of_lt_of_le (sound.drawnWorkspaces _ owner located) supply
    · exact Nat.lt_of_lt_of_le (sound.drawnWorkspaces other row found) supply

end

end PoolStore.Sound

/-! ## What every write keeps -/

section Writes

variable {store next : PoolStore D}

theorem MaintenanceWrite.sound (write : MaintenanceWrite store next) (sound : store.Sound) :
    next.Sound := by
  cases write with
  | quiet _ bundles workspaces supply => exact sound.frame bundles workspaces supply
  | kept _ _ _ constrained stored unassigned stays workspace preparing =>
    refine sound.putBundle constrained stored workspace ?_ ?_ preparing
    · exact ⟨fun is => absurd is stays, fun is => absurd is unassigned⟩
    · intro is
      exact absurd is stays
  | reserved next workspaceId id tenantRef columns constrained workspaceFresh fresh
      workspaceDrawn drawn pooled unused workspace state only bundles workspaces =>
    exact sound.reserve constrained workspaceFresh fresh workspaceDrawn drawn pooled unused
      workspace state only bundles workspaces

theorem PoolWrite.sound (write : PoolWrite store next) (sound : store.Sound) : next.Sound := by
  cases write with
  | maintained _ write => exact write.sound sound
  | transferred next id candidate columns constrained workspace assigned stored found pooled
      canonical unused same state free supply bundles workspaces =>
    exact sound.transfer constrained stored canonical unused same state free supply bundles
      workspaces
  | rewritten _ id workspace _ stored tenant supply bundles workspaces =>
    refine sound.insertWorkspace ?_ ?_ ?_ supply bundles workspaces
    · intro other row found same
      exact sound.tenants other id row workspace found stored (same.trans tenant)
    · intro bundleId bundle found same
      obtain ⟨_, located, states⟩ := sound.pooled bundleId bundle found
      rw [same, stored] at located
      cases located
      rw [← states, Workspace.isPooled, Workspace.isPooled, tenant]
    · exact Nat.lt_of_lt_of_le (sound.drawnWorkspaces id workspace stored) supply
  | registered _ _ _ fresh drawn unused bundles workspaces =>
    refine sound.insertWorkspace ?_ ?_ drawn (Nat.le_trans fresh (Nat.le_of_lt drawn)) bundles
      workspaces
    · intro other row found same
      exact absurd same (Db.ne_tenant_of_unused unused other row found)
    · intro bundleId bundle found same
      obtain ⟨owner, located, _⟩ := sound.pooled bundleId bundle found
      have old := sound.drawnWorkspaces bundle.workspace owner located
      rw [same] at old
      exact absurd fresh (Nat.not_le_of_lt old)
  | noted id bundle _ constrained stored assigned stays workspace owner =>
    refine sound.putBundle constrained stored workspace ?_ ?_ ?_
    · exact ⟨fun _ => assigned, fun _ => stays⟩
    · intro _
      rw [owner]
      exact sound.free id bundle stored assigned
    · intro is
      rw [stays] at is
      cases is

theorem MaintenanceWrite.assigned_row (write : MaintenanceWrite store next) (sound : store.Sound)
    (id : Uuid) (bundle : ReadyWorkspaceBundle) (stored : store.bundles.lookup id = some bundle)
    (assigned : bundle.state = .assigned) : next.bundles.lookup id = some bundle := by
  cases write with
  | quiet _ bundles =>
    rw [bundles]
    exact stored
  | kept other _ _ _ found unassigned =>
    have different : id ≠ other := by
      intro same
      rw [same, found] at stored
      cases stored
      exact unassigned assigned
    rw [PoolStore.putBundle, Table.lookup_insert_eq, if_neg different]
    exact stored
  | reserved _ _ other _ _ _ _ fresh _ _ _ _ _ _ _ bundles =>
    have old := sound.drawnBundles id bundle stored
    have different : id ≠ other := by
      intro same
      rw [same] at old
      exact absurd fresh (Nat.not_le_of_lt old)
    rw [bundles, Table.lookup_insert_eq, if_neg different]
    exact stored

section

variable (write : PoolWrite store next) (sound : store.Sound) (id : Uuid)

include write sound

theorem PoolWrite.bundle_row
    (bundle : ReadyWorkspaceBundle) (stored : store.bundles.lookup id = some bundle) :
    ∃ later, next.bundles.lookup id = some later ∧ later.workspace = bundle.workspace ∧
      (bundle.state = .assigned → later.state = .assigned) := by
  have written : ∀ (other : Uuid) (row : ReadyWorkspaceBundle) (columns : BundleColumns)
      (constrained : columns.Constrained), store.bundles.lookup other = some row →
      columns.workspace = row.workspace →
      (row.state = .assigned → columns.state = .assigned) →
      ∃ later, (store.bundles.insert other ⟨columns, constrained⟩).lookup id = some later ∧
        later.workspace = bundle.workspace ∧
        (bundle.state = .assigned → later.state = .assigned) := by
    intro other row columns constrained found workspace states
    rw [Table.lookup_insert_eq]
    by_cases same : id = other
    · rw [same, found] at stored
      cases stored
      rw [if_pos same]
      exact ⟨_, rfl, workspace, states⟩
    · rw [if_neg same]
      exact ⟨bundle, stored, rfl, fun is => is⟩
  cases write with
  | maintained _ write =>
    cases write with
    | quiet _ bundles =>
      rw [bundles]
      exact ⟨bundle, stored, rfl, fun is => is⟩
    | kept other row columns constrained found unassigned _ workspace =>
      exact written other row columns constrained found workspace
        (fun is => absurd is unassigned)
    | reserved _ _ other _ _ _ _ fresh _ _ _ _ _ _ _ bundles =>
      have old := sound.drawnBundles id bundle stored
      have different : id ≠ other := by
        intro same
        rw [same] at old
        exact absurd fresh (Nat.not_le_of_lt old)
      rw [bundles, Table.lookup_insert_eq, if_neg different]
      exact ⟨bundle, stored, rfl, fun is => is⟩
  | transferred _ other candidate columns constrained _ _ found _ _ _ _ same state _ _ bundles =>
    rw [bundles]
    exact written other candidate columns constrained found same (fun _ => state)
  | rewritten _ _ _ _ _ _ _ bundles | registered _ _ _ _ _ _ bundles =>
    rw [bundles]
    exact ⟨bundle, stored, rfl, fun is => is⟩
  | noted other row columns constrained found _ stays workspace =>
    exact written other row columns constrained found workspace (fun _ => stays)

theorem PoolWrite.tenant_row
    (workspace : Workspace) (stored : store.db.workspaces.lookup id = some workspace)
    (taken : workspace.isPooled = false) :
    ∃ later, next.db.workspaces.lookup id = some later ∧
      later.tenantRef = workspace.tenantRef := by
  cases write with
  | maintained _ write =>
    cases write with
    | quiet _ _ workspaces =>
      rw [workspaces]
      exact ⟨workspace, stored, rfl⟩
    | kept => exact ⟨workspace, stored, rfl⟩
    | reserved _ other _ _ _ _ fresh _ _ _ _ _ same _ _ _ workspaces =>
      have old := sound.drawnWorkspaces id workspace stored
      have different : id ≠ other := by
        intro same
        rw [same] at old
        exact absurd fresh (Nat.not_le_of_lt old)
      rw [workspaces, Table.lookup_insert_eq, if_neg different]
      exact ⟨workspace, stored, rfl⟩
  | transferred _ _ candidate _ _ _ _ _ located pooled _ _ _ _ _ _ _ workspaces =>
    have different : id ≠ candidate.workspace := by
      intro shared
      rw [shared, located] at stored
      cases stored
      rw [pooled] at taken
      cases taken
    rw [workspaces, Table.lookup_insert_eq, if_neg different]
    exact ⟨workspace, stored, rfl⟩
  | rewritten _ other _ columns found tenant _ _ workspaces =>
    rw [workspaces, Table.lookup_insert_eq]
    by_cases same : id = other
    · rw [same, found] at stored
      cases stored
      rw [if_pos same]
      exact ⟨columns, rfl, tenant⟩
    · rw [if_neg same]
      exact ⟨workspace, stored, rfl⟩
  | registered _ other _ fresh _ _ _ workspaces =>
    have old := sound.drawnWorkspaces id workspace stored
    have different : id ≠ other := by
      intro same
      rw [same] at old
      exact absurd fresh (Nat.not_le_of_lt old)
    rw [workspaces, Table.lookup_insert_eq, if_neg different]
    exact ⟨workspace, stored, rfl⟩
  | noted => exact ⟨workspace, stored, rfl⟩

end

theorem MaintenanceWrite.isAssigned_of (write : MaintenanceWrite store next) (workspaceId : Uuid)
    (assigned : next.isAssigned workspaceId = true) : store.isAssigned workspaceId = true := by
  simp only [PoolStore.isAssigned, List.any_eq_true, decide_eq_true_eq, Prod.exists,
    Table.mem_rows] at assigned ⊢
  obtain ⟨id, bundle, stored, same, state⟩ := assigned
  cases write with
  | quiet _ bundles =>
    rw [bundles] at stored
    exact ⟨id, bundle, stored, same, state⟩
  | kept _ _ _ _ _ _ stays =>
    obtain ⟨_, rfl⟩ | ⟨_, stored⟩ := Table.cases_insert stored
    · exact absurd state stays
    · exact ⟨id, bundle, stored, same, state⟩
  | reserved _ _ _ _ _ _ _ _ _ _ _ _ _ prepares _ bundles =>
    rw [bundles] at stored
    obtain ⟨_, rfl⟩ | ⟨_, stored⟩ := Table.cases_insert stored
    · rw [prepares] at state
      cases state
    · exact ⟨id, bundle, stored, same, state⟩

end Writes

end Foundry
