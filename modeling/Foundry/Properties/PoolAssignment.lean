import Foundry.Pool.Steps
import Foundry.System

/-!
# Ready-pool assignment

Over every run of assignment requests, maintenance workers and the rest of the service: a
pooled Workspace goes to one tenant and a tenant has one Workspace, an assigned bundle stays
assigned without a claim and no maintenance changes it, and one bundle is prepared at a time.

A worker does not check its claim before it activates or inspects, nor between two calls of a
preparation, so it may call the adapter against a bundle that a tenant was given since.
-/

set_option autoImplicit false

namespace Foundry

open Raise
open Relation (ReflTransGen)

variable {D : Type} {store next : PoolStore D}

/-! ## Chains of writes -/

theorem PoolStore.Sound.after_writes (writes : ReflTransGen PoolWrite store next)
    (sound : store.Sound) : next.Sound := by
  induction writes with
  | refl => exact sound
  | tail _ last ih => exact last.sound ih

section

variable (writes : ReflTransGen MaintenanceWrite store next)

include writes

theorem PoolStore.Sound.after_maintenance (sound : store.Sound) : next.Sound := by
  induction writes with
  | refl => exact sound
  | tail _ last ih => exact last.sound ih

theorem PoolWrite.chain_of_maintenance :
    ReflTransGen PoolWrite store next := by
  induction writes with
  | refl => exact .refl
  | tail _ last ih => exact ih.tail (.maintained _ last)

theorem PoolStore.assigned_row_after
    (sound : store.Sound) (id : Uuid) (bundle : ReadyWorkspaceBundle)
    (stored : store.bundles.lookup id = some bundle) (assigned : bundle.state = .assigned) :
    next.bundles.lookup id = some bundle := by
  induction writes with
  | refl => exact stored
  | tail earlier last ih =>
    exact last.assigned_row (sound.after_maintenance earlier) id bundle ih assigned

theorem PoolStore.isAssigned_of_maintenance
    (workspaceId : Uuid) (assigned : next.isAssigned workspaceId = true) :
    store.isAssigned workspaceId = true := by
  induction writes with
  | refl => exact assigned
  | tail _ last ih => exact ih (last.isAssigned_of workspaceId assigned)

end

section

variable (writes : ReflTransGen PoolWrite store next) (sound : store.Sound) (id : Uuid)

include writes sound

theorem PoolStore.bundle_row_after (bundle : ReadyWorkspaceBundle)
    (stored : store.bundles.lookup id = some bundle) :
    ∃ later, next.bundles.lookup id = some later ∧ later.workspace = bundle.workspace ∧
      (bundle.state = .assigned → later.state = .assigned) := by
  induction writes with
  | refl => exact ⟨bundle, stored, rfl, fun assigned => assigned⟩
  | tail earlier last ih =>
    obtain ⟨middle, found, same, states⟩ := ih
    obtain ⟨later, present, kept, stays⟩ :=
      last.bundle_row (sound.after_writes earlier) id middle found
    exact ⟨later, present, kept.trans same, fun assigned => stays (states assigned)⟩

theorem PoolStore.tenant_row_after (workspace : Workspace)
    (stored : store.db.workspaces.lookup id = some workspace)
    (canonical : isCanonicalCloudWorkspaceRef workspace.tenantRef = true) :
    ∃ later, next.db.workspaces.lookup id = some later ∧
      later.tenantRef = workspace.tenantRef := by
  induction writes with
  | refl => exact ⟨workspace, stored, rfl⟩
  | tail earlier last ih =>
    obtain ⟨middle, found, same⟩ := ih
    have taken : middle.isPooled = false := by
      refine not_isPooled_of_canonical middle ?_
      rw [same]
      exact canonical
    obtain ⟨later, present, kept⟩ :=
      last.tenant_row (sound.after_writes earlier) id middle found taken
    exact ⟨later, present, kept.trans same⟩

end

variable {claim : PoolClaim}

theorem PoolClaim.Names.after (names : claim.Names store)
    (writes : ReflTransGen PoolWrite store next) (sound : store.Sound) : claim.Names next := by
  obtain ⟨bundle, stored, same⟩ := names
  obtain ⟨later, present, kept, _⟩ :=
    PoolStore.bundle_row_after writes sound claim.bundle bundle stored
  exact ⟨later, present, kept.trans same⟩

variable {now : Instant}

theorem PoolClaim.not_isAssigned_of_held {bundle : ReadyWorkspaceBundle} (sound : store.Sound)
    (held : claim.held now store = some bundle) (same : bundle.workspace = claim.workspace) :
    store.isAssigned claim.workspace = false := by
  obtain ⟨stored, unassigned⟩ := PoolClaim.unassigned_of_held sound held
  rw [Bool.eq_false_iff]
  intro assigned
  obtain ⟨other, row, found, shared, state⟩ := (PoolStore.isAssigned_iff _).mp assigned
  have isBundle := sound.single other claim.bundle row bundle found stored (shared.trans same.symm)
  rw [isBundle, stored] at found
  cases found
  exact unassigned state

/-! ## Calls that no check precedes -/

/-- The worker's next call of the adapter comes without another look at its claim. -/
def PoolPoint.callsAhead (action : PoolAction) : PoolPoint → Bool
  | .loading => action = .prepare ∨ action = .sleep ∨ action = .health
  | .calling _ _ false => true
  | .calling .activate _ true => true
  | .calling .inspect _ true | .validating _ _ _ => action = .prepare
  | .refreshing .inspect | .refreshing .freshVolume | .recordingBlank _ _ => true
  | _ => false

def PoolWorker.callsAhead (worker : PoolWorker) : Bool :=
  worker.point.callsAhead worker.claim.action

variable {input : PoolInput}

namespace PoolWorker

variable {env : PoolEnv D} {exc : PoolRaised} {now : Instant} {worker : PoolWorker}

theorem sleepFailed_callsAhead : (worker.sleepFailed exc now).callsAhead = false := by
  rw [sleepFailed]
  split <;> rfl

theorem escapes_callsAhead : (worker.escapes exc now).callsAhead = false := by
  rw [escapes]
  split
  · exact sleepFailed_callsAhead
  · rfl

theorem inspectionFailed_callsAhead
    (ahead : (worker.inspectionFailed env exc now).callsAhead = true) :
    worker.claim.action = .prepare := by
  rw [inspectionFailed] at ahead
  split at ahead
  · next action => exact action
  · rw [sleepFailed_callsAhead] at ahead
    cases ahead
  · rw [healthFailed] at ahead
    split at ahead <;> cases ahead
  · rw [escapes_callsAhead] at ahead
    cases ahead
  · rw [escapes_callsAhead] at ahead
    cases ahead

theorem raises_callsAhead (ahead : (worker.raises env exc now).callsAhead = true) :
    worker.callsAhead = true := by
  rw [raises] at ahead
  split at ahead
  · next issued point => cases issued <;> simp [callsAhead, PoolPoint.callsAhead, point]
  · next point => simp [callsAhead, PoolPoint.callsAhead, point]
  · next point => simp [callsAhead, PoolPoint.callsAhead, point]
  · next issued point =>
    have prepares := inspectionFailed_callsAhead ahead
    cases issued <;> simp [callsAhead, PoolPoint.callsAhead, point, prepares]
  · next point =>
    have prepares := inspectionFailed_callsAhead ahead
    simp [callsAhead, PoolPoint.callsAhead, point, prepares]
  · cases ahead
  · next point => simp [callsAhead, PoolPoint.callsAhead, point]
  · rw [parkFailed] at ahead
    split at ahead
    · cases ahead
    · split at ahead <;> cases ahead
  · rw [parkFailed] at ahead
    split at ahead
    · cases ahead
    · split at ahead <;> cases ahead
  · rw [cleanupFailed] at ahead
    split at ahead
    · cases ahead
    · split at ahead <;> cases ahead
  · rw [cleanupFailed] at ahead
    split at ahead
    · cases ahead
    · split at ahead <;> cases ahead
  all_goals first
    | (rw [escapes_callsAhead] at ahead; cases ahead)
    | exact ahead

theorem afterWrite_callsAhead {wrote refused : PoolPoint}
    {result : Except RuntimeError (Bool × PoolStore D)}
    (noneWrote : wrote.callsAhead worker.claim.action = false)
    (noneRefused : refused.callsAhead worker.claim.action = false)
    (ahead : (worker.afterWrite env now wrote refused result store).1.callsAhead = true) :
    worker.callsAhead = true := by
  cases result with
  | error => exact raises_callsAhead ahead
  | ok =>
    simp only [afterWrite, callsAhead, moveTo] at ahead
    split at ahead
    · rw [noneWrote] at ahead
      cases ahead
    · rw [noneRefused] at ahead
      cases ahead

theorem step_callsAhead (sound : store.Sound) (names : worker.claim.Names store)
    (ahead : (worker.step env now input store).1.callsAhead = true) :
    worker.callsAhead = true ∨ store.isAssigned worker.claim.workspace = false := by
  have unassigned : ∀ (at' : Instant) (test : ReadyWorkspaceBundle → Bool),
      (worker.claim.held at' store).any test = true →
      store.isAssigned worker.claim.workspace = false := by
    intro at' test holds
    obtain ⟨_, held, _⟩ := (Option.any_eq_true _ _).mp holds
    obtain ⟨_, stored, same⟩ := names
    have isRow := (PoolClaim.unassigned_of_held sound held).1
    rw [stored] at isRow
    cases isRow
    exact PoolClaim.not_isAssigned_of_held sound held same
  cases input with
  | raised => exact .inl (raises_callsAhead ahead)
  | answered =>
    left
    simp only [step, answered] at ahead
    split at ahead
    · next point => simp [callsAhead, PoolPoint.callsAhead, point]
    · next point =>
      split at ahead
      · cases ahead
      · have prepares : worker.claim.action = .prepare := of_decide_eq_true ahead
        simp [callsAhead, PoolPoint.callsAhead, point, prepares]
    · cases ahead
    · split at ahead
      · cases ahead
      · exact raises_callsAhead ahead
    · split at ahead
      · exact raises_callsAhead ahead
      · cases ahead
    · exact ahead
  | goesOn =>
    simp only [step, goesOn] at ahead
    split at ahead
    · split at ahead
      · next live => exact .inr (unassigned _ _ live)
      · cases ahead
    · next point =>
      left
      split at ahead
      · rw [begins] at ahead
        split at ahead
        · cases ahead
        · cases ahead
        all_goals
          next action => simp [callsAhead, PoolPoint.callsAhead, point, action]
      · cases ahead
    · next point => exact .inl (by simp [callsAhead, PoolPoint.callsAhead, point])
    · exact .inl ahead
    · next point =>
      left
      split at ahead
      · simp only [refreshed] at ahead
        split at ahead
        · simp [callsAhead, PoolPoint.callsAhead, point]
        · simp [callsAhead, PoolPoint.callsAhead, point]
        · cases ahead
        · cases ahead
        · split at ahead <;> cases ahead
      · cases ahead
      · exact raises_callsAhead ahead
    · next point =>
      left
      split at ahead
      · rw [validated] at ahead
        split at ahead
        · next action => simp [callsAhead, PoolPoint.callsAhead, point, action]
        · cases ahead
        all_goals cases ahead
      · exact raises_callsAhead ahead
    · next point =>
      exact .inl (by simp [callsAhead, PoolPoint.callsAhead, point])
    · exact .inl (afterWrite_callsAhead rfl rfl ahead)
    · exact .inl (afterWrite_callsAhead rfl rfl ahead)
    · exact .inl (afterWrite_callsAhead rfl rfl ahead)
    · split at ahead <;> cases ahead
    · right
      split at ahead
      · next allowed =>
        rw [PoolClaim.parkSideEffectAllowed, Bool.and_eq_true] at allowed
        exact unassigned _ _ allowed.1
      · cases ahead
    · split at ahead <;> cases ahead
    · right
      split at ahead
      · next allowed =>
        rw [PoolClaim.cleanupSideEffectAllowed, Bool.and_eq_true] at allowed
        exact unassigned _ _ allowed.1
      · cases ahead
    · split at ahead
      · cases ahead
      · exact .inl (raises_callsAhead ahead)
    · exact .inl ahead

end PoolWorker

/-! ## Events -/

theorem Elsewhere.apply_writes (change : Elsewhere D) (store : PoolStore D) :
    PoolWrite store (change.apply store) ∧
      ∀ id, (change.apply store).isAssigned id = true → store.isAssigned id = true := by
  have still : PoolWrite store store := .maintained store (.refl store)
  cases change with
  | workspace id columns =>
    simp only [Elsewhere.apply]
    split
    · exact ⟨still, fun _ assigned => assigned⟩
    · next stored found =>
      exact ⟨.rewritten _ id stored { columns with tenantRef := stored.tenantRef } found rfl
        (Nat.le_refl _) rfl rfl, fun _ assigned => assigned⟩
  | credentials | profiles | executions =>
    exact ⟨.maintained _ (.quiet _ rfl rfl (Nat.le_refl _)), fun _ assigned => assigned⟩
  | onboardingError id =>
    simp only [Elsewhere.apply]
    split
    · exact ⟨still, fun _ assigned => assigned⟩
    next bundle found =>
      obtain ⟨stored, isAssigned⟩ := (Option.filter_eq_some_iff).mp found
      have state : bundle.state = .assigned := of_decide_eq_true isAssigned
      split
      · next saved =>
        obtain ⟨constrained, rfl⟩ := PoolStore.saveBundle_eq_ok saved
        refine ⟨.noted id bundle _ constrained stored state state rfl rfl, ?_⟩
        intro workspaceId assigned
        obtain ⟨other, row, present, same, rowState⟩ :=
          (PoolStore.isAssigned_iff _).mp assigned
        rw [PoolStore.putBundle, Table.lookup_insert_eq] at present
        refine (PoolStore.isAssigned_iff _).mpr ?_
        split at present
        · cases present
          exact ⟨id, bundle, stored, same, state⟩
        · exact ⟨other, row, present, same, rowState⟩
      · exact ⟨still, fun _ assigned => assigned⟩

namespace PoolWorld

variable {env : PoolEnv D} {world reached : PoolWorld D} {event : PoolEvent D}

section

variable (tenantRef : String) (given : Option Uuid)

theorem gives_store :
    (world.gives tenantRef given).store = world.store := by
  rw [gives]
  split <;> rfl

theorem gives_workers :
    (world.gives tenantRef given).workers = world.workers := by
  rw [gives]
  split <;> rfl

theorem gives_calls :
    (world.gives tenantRef given).calls = world.calls := by
  rw [gives]
  split <;> rfl

end

theorem mem_gives {tenantRef : String} {given : Option Uuid} {entry : String × Uuid}
    (member : entry ∈ (world.gives tenantRef given).received) :
    entry ∈ world.received ∨
      isCanonicalCloudWorkspaceRef tenantRef = true ∧ given = some entry.2 ∧
        entry.1 = tenantRef := by
  rw [gives] at member
  split at member
  · exact .inl member
  · next found =>
    obtain ⟨isGiven, canonical⟩ := (Option.filter_eq_some_iff).mp found
    rcases List.mem_cons.mp member with same | earlier
    · subst same
      exact .inr ⟨canonical, isGiven, rfl⟩
    · exact .inl earlier

theorem maintenance_writes (sound : world.store.Sound) (maintenance : event.isMaintenance = true)
    (success : apply env event world = .ok ((), reached)) :
    ReflTransGen MaintenanceWrite world.store reached.store := by
  cases event with
  | assign | register | elsewhere => cases maintenance
  | markEvicting =>
    simp only [apply, PoolStore.markReadyBundleEvicting, bind_eq_ok, require_eq_ok, return_eq_ok] at success
    obtain ⟨_, ⟨_, _, success⟩, _, rfl⟩ := success
    split at success
    · cases success
      exact .refl
    · next found =>
      cases success
      obtain ⟨stored, spare⟩ := (Option.filter_eq_some_iff).mp found
      refine .single (PoolStore.tryMark_maintains stored ?_)
      intro assigned
      rw [assigned] at spare
      cases spare
  | claim =>
    simp only [apply, bind_eq_ok] at success
    obtain ⟨_, _, success⟩ := success
    split at success
    · cases success
      exact .refl
    · simp only [bind_eq_ok, return_eq_ok] at success
      obtain ⟨⟨claim, _⟩, claimed, _, rfl⟩ := success
      have writes := (PoolStore.claimOrReserve_maintains sound claimed).1
      cases claim with
      | none => exact writes
      | some => exact writes
  | work _ now input =>
    simp only [apply, return_eq_ok, true_and] at success
    subst success
    rw [work]
    split
    · exact .refl
    · exact .single (PoolWorker.step_maintains env now input _ sound)

structure Sound (world : PoolWorld D) : Prop where
  store : world.store.Sound
  claims : ∀ number worker, world.workers.lookup number = some worker →
    worker.claim.Names world.store
  received : ∀ entry ∈ world.received, isCanonicalCloudWorkspaceRef entry.1 = true ∧
    ∃ workspace, world.store.db.workspaces.lookup entry.2 = some workspace ∧
      workspace.tenantRef = entry.1

theorem Sound.empty : (PoolWorld.empty : PoolWorld D).Sound where
  store := PoolStore.Sound.empty
  claims := by
    intro number worker found
    simp [PoolWorld.empty] at found
  received := by
    intro entry member
    cases member

theorem Sound.moved (sound : world.Sound)
    (writes : ReflTransGen PoolWrite world.store reached.store)
    (claims : ∀ number worker, reached.workers.lookup number = some worker →
      worker.claim.Names reached.store ∨ ∃ former, world.workers.lookup number = some former ∧
        worker.claim = former.claim)
    (received : ∀ entry ∈ reached.received, entry ∈ world.received ∨
      isCanonicalCloudWorkspaceRef entry.1 = true ∧
        ∃ workspace, reached.store.db.workspaces.lookup entry.2 = some workspace ∧
          workspace.tenantRef = entry.1) : reached.Sound where
  store := sound.store.after_writes writes
  claims := by
    intro number worker found
    rcases claims number worker found with names | ⟨former, stored, same⟩
    · exact names
    · rw [same]
      exact (sound.claims number former stored).after writes sound.store
  received := by
    intro entry member
    rcases received entry member with before | given
    · obtain ⟨canonical, workspace, stored, tenant⟩ := sound.received entry before
      refine ⟨canonical, ?_⟩
      have named : isCanonicalCloudWorkspaceRef workspace.tenantRef = true := by
        rw [tenant]
        exact canonical
      obtain ⟨later, present, kept⟩ :=
        PoolStore.tenant_row_after writes sound.store entry.2 workspace stored named
      exact ⟨later, present, kept.trans tenant⟩
    · exact given

theorem work_workers (number other : Nat) (now : Instant) (input : PoolInput)
    {worker : PoolWorker} (found : (world.work env number now input).workers.lookup other =
      some worker) :
    ∃ former, world.workers.lookup other = some former ∧
      (worker = former ∨ worker = (former.step env now input world.store).1) := by
  rw [work] at found
  split at found
  · exact ⟨worker, found, .inl rfl⟩
  · next former stored =>
    obtain ⟨rfl, rfl⟩ | ⟨_, found⟩ := Table.cases_insert found
    · exact ⟨former, stored, .inr rfl⟩
    · exact ⟨worker, found, .inl rfl⟩

theorem work_received (number : Nat) (now : Instant) (input : PoolInput) :
    (world.work env number now input).received = world.received := by
  rw [work]
  split
  · rfl
  · simp only [logCall]
    split <;> rfl

theorem assigns_writes (assigns : event.assigns = true)
    (success : apply env event world = .ok ((), reached)) :
    ∃ tenantRef given store, Assigns tenantRef world.store given store ∧
      reached = ({ world with store := store } : PoolWorld D).gives tenantRef given := by
  cases event with
  | assign _ _ tenantRef =>
    simp only [apply, bind_eq_ok, return_eq_ok, true_and] at success
    obtain ⟨⟨given, store⟩, assigned, rfl⟩ := success
    exact ⟨tenantRef, given, store, PoolStore.assignReadyWorkspace_assigns assigned, rfl⟩
  | register _ _ tenantRef =>
    simp only [apply, bind_eq_ok, return_eq_ok, true_and] at success
    obtain ⟨⟨id, store⟩, registered, rfl⟩ := success
    exact ⟨tenantRef, some id, store, PoolStore.registerFromPool_assigns registered, rfl⟩
  | markEvicting | claim | work | elsewhere => cases assigns

theorem apply_writes (sound : world.store.Sound)
    (success : apply env event world = .ok ((), reached)) :
    ReflTransGen PoolWrite world.store reached.store := by
  by_cases assigns : event.assigns = true
  · obtain ⟨_, _, _, assigned, rfl⟩ := assigns_writes assigns success
    rw [gives_store]
    exact assigned.writes
  by_cases maintenance : event.isMaintenance = true
  · exact PoolWrite.chain_of_maintenance (maintenance_writes sound maintenance success)
  cases event with
  | elsewhere change =>
    simp only [apply, return_eq_ok, true_and] at success
    subst success
    exact .single (change.apply_writes world.store).1
  | assign | register => exact absurd rfl assigns
  | markEvicting | claim | work => exact absurd rfl maintenance

theorem Sound.apply (sound : world.Sound) (success : apply env event world = .ok ((), reached)) :
    reached.Sound := by
  have writes := apply_writes sound.store success
  have kept : reached.workers = world.workers → ∀ number worker,
      reached.workers.lookup number = some worker → worker.claim.Names reached.store ∨
        ∃ former, world.workers.lookup number = some former ∧ worker.claim = former.claim := by
    intro same number worker found
    rw [same] at found
    exact .inr ⟨worker, found, rfl⟩
  by_cases assigns : event.assigns = true
  · obtain ⟨tenantRef, given, _, assigned, rfl⟩ := assigns_writes assigns success
    refine sound.moved writes (kept (gives_workers tenantRef given)) ?_
    intro entry member
    rcases mem_gives member with before | ⟨canonical, isGiven, rfl⟩
    · exact .inl before
    · right
      rw [gives_store]
      exact ⟨canonical, assigned.gives entry.2 isGiven⟩
  cases event with
  | assign | register => exact absurd rfl assigns
  | elsewhere =>
    simp only [PoolWorld.apply, return_eq_ok, true_and] at success
    subst success
    exact sound.moved writes (kept rfl) fun _ member => .inl member
  | markEvicting =>
    simp only [PoolWorld.apply, bind_eq_ok, return_eq_ok, true_and] at success
    obtain ⟨_, _, rfl⟩ := success
    exact sound.moved writes (kept rfl) fun _ member => .inl member
  | claim =>
    simp only [PoolWorld.apply, bind_eq_ok] at success
    obtain ⟨_, _, success⟩ := success
    split at success
    · simp only [return_eq_ok, true_and] at success
      subst success
      exact sound
    · simp only [bind_eq_ok, return_eq_ok, true_and] at success
      obtain ⟨⟨claim, _⟩, claimed, rfl⟩ := success
      have names := (PoolStore.claimOrReserve_maintains sound.store claimed).2
      cases claim with
      | none => exact sound.moved writes (kept rfl) fun _ member => .inl member
      | some made =>
        refine sound.moved writes ?_ fun _ member => .inl member
        intro number worker found
        obtain ⟨_, rfl⟩ | ⟨_, found⟩ := Table.cases_insert found
        · exact .inl (names made rfl)
        · exact .inr ⟨worker, found, rfl⟩
  | work number now input =>
    simp only [PoolWorld.apply, return_eq_ok, true_and] at success
    subst success
    refine sound.moved writes ?_ ?_
    · intro other worker found
      obtain ⟨former, stored, same | stepped⟩ := work_workers number other now input found
      · exact .inr ⟨former, stored, congrArg PoolWorker.claim same⟩
      · refine .inr ⟨former, stored, ?_⟩
        rw [stepped]
        exact PoolWorker.step_claim input world.store
    · intro entry member
      rw [work_received] at member
      exact .inl member

theorem Sound.after (sound : world.Sound) (events : List (PoolEvent D)) :
    (world.after env events).Sound :=
  Run.invariant PoolWorld.Sound
    (fun _ _ _ _ holds success => Sound.apply holds success) world events sound

/-! ## Calls against assigned bundles -/

/-- A worker with a call ahead works on a bundle that may be assigned. -/
def isHindered (world : PoolWorld D) : Bool :=
  world.workers.rows.any fun row =>
    row.2.callsAhead && world.store.isSpare row.2.claim.workspace

/-- No worker with a call ahead works on an assigned bundle, and none has called against
one. -/
structure Spared (world : PoolWorld D) : Prop where
  ahead : ∀ number worker, world.workers.lookup number = some worker →
    worker.callsAhead = true → world.store.isAssigned worker.claim.workspace = false
  calls : ∀ record ∈ world.calls, record.assigned = false

theorem Spared.empty : (PoolWorld.empty : PoolWorld D).Spared where
  ahead := by
    intro number worker found
    simp [PoolWorld.empty] at found
  calls := by
    intro record member
    cases member

theorem Spared.frame (spared : world.Spared) (workers : reached.workers = world.workers)
    (calls : reached.calls = world.calls)
    (assigned : ∀ number worker, world.workers.lookup number = some worker →
      worker.callsAhead = true → reached.store.isAssigned worker.claim.workspace = true →
        world.store.isAssigned worker.claim.workspace = true) : reached.Spared where
  ahead := by
    intro number worker found ahead
    rw [workers] at found
    rw [Bool.eq_false_iff]
    intro isAssigned
    have before := assigned number worker found ahead isAssigned
    rw [spared.ahead number worker found ahead] at before
    cases before
  calls := by
    rw [calls]
    exact spared.calls

theorem Spared.assigns (spared : world.Spared) (assigns : event.assigns = true)
    (free : world.isHindered = false)
    (success : PoolWorld.apply env event world = .ok ((), reached)) : reached.Spared := by
  obtain ⟨tenantRef, given, _, assigned, rfl⟩ := assigns_writes assigns success
  refine spared.frame (gives_workers tenantRef given) (gives_calls tenantRef given) ?_
  intro number worker found ahead isAssigned
  rw [gives_store] at isAssigned
  rcases assigned.assigned worker.claim.workspace isAssigned with before | spare
  · exact before
  · have listed : (number, worker) ∈ world.workers.rows := (Table.mem_rows _ _ _).mpr found
    have hindered := List.any_eq_false.mp free (number, worker) listed
    rw [ahead, spare] at hindered
    cases hindered rfl

theorem mem_calls_work {number : Nat}
    {record : PoolCallRecord} (member : record ∈ (world.work env number now input).calls) :
    record ∈ world.calls ∨ ∃ worker, world.workers.lookup number = some worker ∧
      worker.callsAhead = true ∧
        record.assigned = world.store.isAssigned worker.claim.workspace := by
  rw [work] at member
  split at member
  · exact .inl member
  · next worker found =>
    simp only [logCall] at member
    split at member
    · next point =>
      rcases List.mem_cons.mp member with same | before
      · refine .inr ⟨worker, found, ?_, congrArg PoolCallRecord.assigned same⟩
        simp [PoolWorker.callsAhead, PoolPoint.callsAhead, point]
      · exact .inl before
    · exact .inl member

theorem Spared.work (spared : world.Spared) (sound : world.Sound) (number : Nat) (now : Instant)
    (input : PoolInput) (writes : ReflTransGen MaintenanceWrite world.store
      (world.work env number now input).store) :
    (world.work env number now input).Spared where
  ahead := by
    intro other worker found ahead
    rw [Bool.eq_false_iff]
    intro isAssigned
    have before := PoolStore.isAssigned_of_maintenance writes worker.claim.workspace isAssigned
    obtain ⟨former, stored, same | stepped⟩ := work_workers number other now input found
    · subst same
      rw [spared.ahead other worker stored ahead] at before
      cases before
    · subst stepped
      rw [PoolWorker.step_claim] at before
      rcases PoolWorker.step_callsAhead sound.store (sound.claims other former stored) ahead
        with wasAhead | unassigned
      · rw [spared.ahead other former stored wasAhead] at before
        cases before
      · rw [unassigned] at before
        cases before
  calls := by
    intro record member
    rcases mem_calls_work member with before | ⟨worker, found, ahead, assigned⟩
    · exact spared.calls record before
    · rw [assigned]
      exact spared.ahead number worker found ahead

theorem Spared.apply (spared : world.Spared) (sound : world.Sound)
    (free : event.assigns = true → world.isHindered = false)
    (success : PoolWorld.apply env event world = .ok ((), reached)) : reached.Spared := by
  by_cases assigns : event.assigns = true
  · exact spared.assigns assigns (free assigns) success
  cases event with
  | assign | register => exact absurd rfl assigns
  | elsewhere change =>
    simp only [PoolWorld.apply, return_eq_ok, true_and] at success
    subst success
    refine spared.frame rfl rfl ?_
    intro number worker found ahead isAssigned
    exact (change.apply_writes world.store).2 _ isAssigned
  | markEvicting =>
    have writes := maintenance_writes sound.store rfl success
    simp only [PoolWorld.apply, bind_eq_ok, return_eq_ok, true_and] at success
    obtain ⟨_, _, rfl⟩ := success
    refine spared.frame rfl rfl ?_
    intro number worker found ahead isAssigned
    exact PoolStore.isAssigned_of_maintenance writes _ isAssigned
  | work number now input =>
    have writes := maintenance_writes sound.store rfl success
    simp only [PoolWorld.apply, return_eq_ok, true_and] at success
    subst success
    exact spared.work sound number now input writes
  | claim =>
    have writes := maintenance_writes sound.store rfl success
    have still : ∀ number worker, world.workers.lookup number = some worker →
        worker.callsAhead = true → reached.store.isAssigned worker.claim.workspace = true →
          world.store.isAssigned worker.claim.workspace = true := by
      intro number worker found ahead isAssigned
      exact PoolStore.isAssigned_of_maintenance writes _ isAssigned
    simp only [PoolWorld.apply, bind_eq_ok] at success
    obtain ⟨_, _, success⟩ := success
    split at success
    · simp only [return_eq_ok, true_and] at success
      subst success
      exact spared
    · simp only [bind_eq_ok, return_eq_ok, true_and] at success
      obtain ⟨⟨claim, _⟩, _, rfl⟩ := success
      cases claim with
      | none => exact spared.frame rfl rfl still
      | some =>
        refine ⟨?_, spared.calls⟩
        intro number worker found ahead
        obtain ⟨_, rfl⟩ | ⟨_, found⟩ := Table.cases_insert found
        · cases ahead
        · rw [Bool.eq_false_iff]
          intro isAssigned
          have before := still number worker found ahead isAssigned
          rw [spared.ahead number worker found ahead] at before
          cases before

theorem Spared.after (events : List (PoolEvent D)) (sound : world.Sound) (spared : world.Spared)
    (meets : Run.Meets (PoolWorld.apply env)
      (fun world event => event.assigns = true → world.isHindered = false) world events) :
    (world.after env events).Spared :=
  (Run.invariant_where (fun world event => event.assigns = true → world.isHindered = false)
    (fun world => world.Sound ∧ world.Spared)
    (fun _ _ _ _ free holds success =>
      ⟨holds.1.apply success, holds.2.apply holds.1 free success⟩)
    world events ⟨sound, spared⟩ meets).2

theorem Sound.assigned_after (sound : world.Sound) (events : List (PoolEvent D)) (id : Uuid)
    (bundle : ReadyWorkspaceBundle) (stored : world.store.bundles.lookup id = some bundle)
    (assigned : bundle.state = .assigned) :
    ∃ later, (world.after env events).store.bundles.lookup id = some later ∧
      later.workspace = bundle.workspace ∧ later.state = .assigned := by
  induction events generalizing world bundle with
  | nil => exact ⟨bundle, stored, rfl, assigned⟩
  | cons event _ ih =>
    rcases Run.step_cases (PoolWorld.apply env) world event with
      ⟨_, _, success, same⟩ | same
    · obtain ⟨later, present, kept, states⟩ := PoolStore.bundle_row_after
        (apply_writes sound.store success) sound.store id bundle stored
      obtain ⟨final, found, workspace, state⟩ :=
        ih (sound.apply success) later present (states assigned)
      refine ⟨final, ?_, workspace.trans kept, state⟩
      rw [PoolWorld.after, Run.run_cons, same]
      exact found
    · obtain ⟨final, found, workspace, state⟩ := ih sound bundle stored assigned
      refine ⟨final, ?_, workspace, state⟩
      rw [PoolWorld.after, Run.run_cons, same]
      exact found

end PoolWorld

/-! ## The pool -/

/-- In every run a pooled Workspace has one tenant and a tenant one Workspace, an assigned
bundle stays assigned without a claim, maintenance leaves it as it is, and one bundle is
prepared at a time.  In a run that assigns nothing while a worker with an unchecked call ahead
works on a spare bundle, no call of the adapter finds its bundle assigned. -/
theorem ready_pool_assignment (env : PoolEnv D) (events : List (PoolEvent D)) :
    let world := PoolWorld.empty.after env events
    (∀ tenantRef id other, (tenantRef, id) ∈ world.received →
      (tenantRef, other) ∈ world.received → id = other) ∧
    (∀ tenantRef other id, (tenantRef, id) ∈ world.received →
      (other, id) ∈ world.received → tenantRef = other) ∧
    (∀ id bundle, world.store.bundles.lookup id = some bundle → bundle.state = .assigned →
      bundle.phaseClaimOwner = none ∧ bundle.phaseClaimUntil = none ∧
        (∀ more, ∃ later, (world.after env more).store.bundles.lookup id = some later ∧
          later.workspace = bundle.workspace ∧ later.state = .assigned) ∧
        ∀ event : PoolEvent D, event.isMaintenance = true →
          (Run.step (PoolWorld.apply env) world event).store.bundles.lookup id = some bundle) ∧
    (∀ id other bundle same, world.store.bundles.lookup id = some bundle →
      world.store.bundles.lookup other = some same → bundle.state = .preparing →
        same.state = .preparing → id = other) ∧
    (Run.Meets (PoolWorld.apply env)
        (fun world event => event.assigns = true → world.isHindered = false)
        PoolWorld.empty events →
      ∀ record ∈ world.calls, record.assigned = false) := by
  intro world
  have sound : world.Sound := PoolWorld.Sound.empty.after events
  refine ⟨?_, ?_, ?_, ?_, ?_⟩
  · intro tenantRef id other member same
    obtain ⟨_, workspace, stored, tenant⟩ := sound.received _ member
    obtain ⟨_, shared, found, also⟩ := sound.received _ same
    exact sound.store.tenants id other workspace shared stored found (tenant.trans also.symm)
  · intro tenantRef other id member same
    obtain ⟨_, _, stored, tenant⟩ := sound.received _ member
    obtain ⟨_, _, found, also⟩ := sound.received _ same
    rw [stored] at found
    cases found
    exact tenant.symm.trans also
  · intro id bundle stored assigned
    have free := sound.store.free id bundle stored assigned
    have consistent := bundle.constrained.claim_consistent
    rw [free] at consistent
    refine ⟨free, Option.not_isSome_iff_eq_none.mp (by simp [← consistent]), ?_, ?_⟩
    · intro more
      exact sound.assigned_after more id bundle stored assigned
    · intro event maintenance
      rcases Run.step_cases (PoolWorld.apply env) world event with
        ⟨_, _, success, same⟩ | same
      · rw [same]
        exact PoolStore.assigned_row_after
          (PoolWorld.maintenance_writes sound.store maintenance success) sound.store id bundle
          stored assigned
      · rw [same]
        exact stored
  · intro id other bundle same stored found prepares alsoPrepares
    exact sound.store.preparing id other bundle same stored found ⟨prepares, alsoPrepares⟩
  · intro meets
    exact (PoolWorld.Spared.after events PoolWorld.Sound.empty PoolWorld.Spared.empty meets).calls

/-- A bundle has a Workspace of its own, pooled until the bundle is assigned; a worker's claim and
a tenant's reference name rows that exist. -/
theorem pool_rows_are_sound (env : PoolEnv D) (events : List (PoolEvent D)) :
    (PoolWorld.empty.after env events).Sound :=
  .after .empty events

/-! ## A slow preparation -/

def poolEnv : PoolEnv PlainDigest where
  foundry := Env.plain
  poolConfigFingerprint := fun _ _ => "sha256:release"
  isImmutableImage := fun _ => true
  recordsFreshVolume := true

def poolSettings : PoolSettings where
  target := 1
  region := "ams"
  releaseFingerprint := "sha256:release"
  configVersion := 1
  maxPreparing := 1
  maxAttempts := 5
  readyTtlSeconds := 900
  healthFreshnessSeconds := 60
  phaseClaimSeconds := 60
  sleepEnabled := false
  cpuKind := "shared"
  cpus := 2
  memoryMb := 2048
  volumeSizeGb := 10

def poolTenant : String := "00000000-0000-4000-8000-000000000001"

/-- The Workspace of the first reservation, activated and ready. -/
def activatedWorkspace (now : Instant) : Workspace :=
  { Workspace.registered "" with
    flyAppRef := some "app"
    volumeRef := some "volume"
    machineRef := some "machine"
    machineGeneration := 1
    readyGeneration := some 1
    readyStartEpoch := some 0
    readyBootId := some 7
    readyAt := some now
    runtimeLastSeenAt := some now }

def readySnapshot : PoolProviderSnapshot where
  appRef := "app"
  volumeRef := "volume"
  machineRef := "machine"
  region := "ams"
  machineState := "started"
  healthContainers := [("hermes", "started"), ("allies-runtime", "started")]
  ownershipWorkspaceId := some 2
  ownershipOperationId := none
  ownershipGeneration := 1
  volumeAttachedMachineRef := some "machine"
  images := [("hermes", "hermes@sha256"), ("allies-runtime", "runtime@sha256")]
  configFingerprint := "sha256:release"
  cpuKind := some "shared"
  cpus := some 2
  memoryMb := some 2048
  volumeSizeGb := some 10
  blank := true

/-- The steps of a preparation from its claim to the ready bundle. -/
def preparation (worker : Nat) (now : Instant) : List (PoolEvent PlainDigest) :=
  ([.goesOn, .goesOn, .goesOn, .answered .nothing, .goesOn, .goesOn,
    .answered (.snapshot readySnapshot), .goesOn, .goesOn, .goesOn] : List PoolInput).map
      (PoolEvent.work worker now)

/-- The service activates the Workspace of the first reservation. -/
def activation (now : Instant) : List (PoolEvent PlainDigest) :=
  [.elsewhere (.workspace 2 (activatedWorkspace now)),
    .elsewhere (.credentials ((∅ : Table Uuid RuntimeCredential).insert 90 ⟨2, 1, none⟩))]

def promptPreparation : List (PoolEvent PlainDigest) :=
  [.claim poolSettings 0 false []] ++ activation 0 ++ preparation 0 0 ++
    [.assign poolSettings (seconds 1) poolTenant []]

/-- The activation of the first worker outlasts its claim: a second worker prepares the
bundle, a tenant is given it, and then the first worker inspects. -/
def slowPreparation : List (PoolEvent PlainDigest) :=
  [.claim poolSettings 0 false [], .work 0 0 .goesOn, .work 0 0 .goesOn, .work 0 0 .goesOn] ++
    activation (seconds 1200) ++ [.claim poolSettings (seconds 1200) false []] ++
    preparation 1 (seconds 1200) ++
    [.assign poolSettings (seconds 1201) poolTenant [],
      .work 0 (seconds 1202) (.answered .nothing), .work 0 (seconds 1202) .goesOn,
      .work 0 (seconds 1202) .goesOn]

/-- The late worker calls the adapter against the tenant's bundle. -/
theorem assigned_bundle_is_inspected :
    ∃ record ∈ (PoolWorld.empty.after poolEnv slowPreparation).calls,
      record.call = .inspect ∧ record.assigned = true := by
  have called : (PoolWorld.empty.after poolEnv slowPreparation).calls.any (fun record =>
      decide (record.call = .inspect ∧ record.assigned = true)) = true := by
    decide +kernel
  obtain ⟨record, member, holds⟩ := List.any_eq_true.mp called
  exact ⟨record, member, of_decide_eq_true holds⟩

theorem prompt_preparation_is_spared :
    (PoolWorld.empty.after poolEnv promptPreparation).received = [(poolTenant, 2)] ∧
      ∀ record ∈ (PoolWorld.empty.after poolEnv promptPreparation).calls,
        record.assigned = false := by
  constructor
  · decide +kernel
  · refine (ready_pool_assignment poolEnv promptPreparation).2.2.2.2 ?_
    decide +kernel

end Foundry
