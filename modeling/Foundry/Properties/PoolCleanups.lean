import Foundry.Lib.Totals
import Foundry.Pool.Attendance
import Foundry.Properties.PoolAssignment

/-!
# Cleanup claims

The selector claims a bundle for cleanup when it is evicting, or has failed for the last time; the
check before the side effect takes evicting bundles only.
-/

set_option autoImplicit false

namespace Foundry

open Raise

variable {D : Type}

/-! ## The clock of a pass -/

def quietTurns (clock : Nat → Instant) (steps : Nat) : List (PoolTurn D) :=
  (List.range steps).map fun step => .quiet (clock step)

def IsLiveClock (config : PoolConfig) (now : Instant) (clock : Nat → Instant) : Prop :=
  ∀ step, now ≤ clock step ∧ clock step < now + seconds config.phaseClaimSeconds

def PoolClaim.worker (settings : PoolSettings) (config : PoolConfig) (now : Instant)
    (claim : PoolClaim) : PoolWorker :=
  ⟨claim, settings, config, now, .checking, false⟩

variable {workspace : Workspace}

section

variable {env : PoolEnv D} {worker : PoolWorker}

theorem PoolWorker.attend_succ {store : PoolStore D} (clock : Nat → Instant) (steps : Nat) :
    worker.attend env store (quietTurns clock (steps + 1)) =
      (worker.attend env store (quietTurns clock steps)).1.goesOn env (clock steps)
        (worker.attend env store (quietTurns clock steps)).2 := by
  rw [quietTurns, List.range_succ, List.map_append, PoolWorker.attend_append]
  rfl

theorem PoolWorker.attend_waits {store : PoolStore D}
    {clock : Nat → Instant} {steps : Nat} {call : PoolCall}
    (waits : (worker.attend env store (quietTurns clock steps)).1.point =
      .calling call workspace true) (more : Nat) :
    worker.attend env store (quietTurns clock (more + steps)) =
      worker.attend env store (quietTurns clock steps) := by
  induction more with
  | zero => rw [Nat.zero_add]
  | succ _ ih =>
    rw [Nat.add_right_comm, PoolWorker.attend_succ, ih, PoolWorker.goesOn, waits]

theorem PoolWorker.goesOn_recording
    {store next : PoolStore D} {record : PoolRecord} {observedAt now : Instant} {wrote : Bool}
    (recording : worker.point = .recording record observedAt)
    (success : record.write env worker.config observedAt worker.claim store = .ok (wrote, next)) :
    worker.goesOn env now store =
      (worker.moveTo (.done (record.outcome wrote
        ((next.bundles.lookup worker.claim.bundle).any fun bundle => bundle.state = .failed))),
        next) := by
  rw [PoolWorker.goesOn, recording]
  dsimp only
  rw [success]

end

theorem claimValueLive_mono {token : Option Uuid} {expiresAt : Option Instant}
    {now later : Instant} (lapsed : claimValueLive token expiresAt now = false)
    (after : now ≤ later) : claimValueLive token expiresAt later = false := by
  unfold claimValueLive at lapsed ⊢
  cases expiresAt with
  | none => exact lapsed
  | some expiry =>
    cases token with
    | none => rfl
    | some =>
      have past : ¬ now < expiry := by simpa using lapsed
      have still : ¬ later < expiry := fun early => past (Nat.lt_of_le_of_lt after early)
      simp [still]

theorem Workspace.claimLive_mono {now later : Instant}
    (unclaimed : workspace.claimLive now = false) (after : now ≤ later) :
    workspace.claimLive later = false := by
  rw [Workspace.claimLive, Bool.or_eq_false_iff] at unclaimed ⊢
  exact ⟨claimValueLive_mono unclaimed.1 after, claimValueLive_mono unclaimed.2 after⟩

section Claims

variable {config : PoolConfig} {now time : Instant} {claim : PoolClaim} {store : PoolStore D}
  {bundle : ReadyWorkspaceBundle} {workspace : Workspace}

section

variable (begins : claim.Begins config now store bundle workspace)

include begins

section

variable (live : time < now + seconds config.phaseClaimSeconds)

include live

theorem PoolClaim.Begins.held :
    claim.held time store = some bundle := by
  rw [PoolClaim.held, begins.stored, Option.filter_some, if_pos]
  refine decide_eq_true ⟨begins.owner, ?_⟩
  rw [begins.lapse, Option.any_some]
  exact decide_eq_true live

theorem PoolClaim.Begins.isLive :
    claim.isLive time store = true := by
  rw [PoolClaim.isLive, begins.held live]
  simp [begins.home]

end

section

variable (cleans : claim.action = .cleanup) (unoccupied : store.isOccupied claim.workspace = false)
  (after : now ≤ time)

include cleans unoccupied after

theorem PoolClaim.Begins.cleanupAllowed :
    store.cleanupAllowed claim.workspace workspace time = true := by
  obtain ⟨isPooled, unclaimed, _⟩ := begins.cleanup cleans
  rw [PoolStore.cleanupAllowed, isPooled, Workspace.claimLive_mono unclaimed after, unoccupied]
  rfl

theorem PoolClaim.Begins.cleanupSideEffectAllowed
    (live : time < now + seconds config.phaseClaimSeconds) :
    claim.cleanupSideEffectAllowed time store = decide (bundle.state = .evicting) := by
  rw [PoolClaim.cleanupSideEffectAllowed, begins.held live, PoolClaim.claimedWorkspace,
    begins.located]
  simp [begins.home, begins.cleanupAllowed cleans unoccupied after]

end

end

end Claims

/-! ## The pass up to the adapter -/

section Pass

variable {env : PoolEnv D} {settings : PoolSettings} {config : PoolConfig} {now : Instant}
  {claim : PoolClaim} {store : PoolStore D} {bundle : ReadyWorkspaceBundle}
  {workspace : Workspace} {clock : Nat → Instant}

section

variable (begins : claim.Begins config now store bundle workspace)
  (cleans : claim.action = .cleanup) (unoccupied : store.isOccupied claim.workspace = false)
  (live : IsLiveClock config now clock)

include begins cleans unoccupied live

theorem attend_cleanup_allowing :
    (claim.worker settings config now).attend env store (quietTurns clock 3) =
      ((claim.worker settings config now).moveTo (.cleanupAllowing workspace), store) := by
  have started : now < now + seconds config.phaseClaimSeconds :=
    Nat.lt_of_le_of_lt (live 0).1 (live 0).2
  have first : (claim.worker settings config now).attend env store (quietTurns clock 1) =
      ((claim.worker settings config now).moveTo .loading, store) := by
    rw [PoolWorker.attend_succ]
    change ((claim.worker settings config now).moveTo
      (if claim.isLive now store then .loading else .done .skipped), store) = _
    rw [begins.isLive started]
    rfl
  have second : (claim.worker settings config now).attend env store (quietTurns clock 2) =
      ((claim.worker settings config now).moveTo (.cleanupChecking workspace), store) := by
    rw [PoolWorker.attend_succ, first]
    simp only [PoolWorker.goesOn, PoolWorker.moveTo, PoolClaim.worker, PoolClaim.claimedWorkspace,
      begins.located, PoolWorker.begins, cleans]
  rw [PoolWorker.attend_succ, second]
  have allowed := begins.cleanupAllowed cleans unoccupied (live 2).1
  simp only [PoolWorker.goesOn, PoolWorker.moveTo, PoolClaim.worker, allowed, if_true]

theorem attend_cleanup_evicting (evicting : bundle.state = .evicting) :
    (claim.worker settings config now).attend env store (quietTurns clock 5) =
      ((claim.worker settings config now).moveTo (.calling .cleanup workspace true), store) := by
  have third := @attend_cleanup_allowing D env settings config now claim store bundle workspace
    clock begins cleans unoccupied live
  have allowed := begins.cleanupSideEffectAllowed cleans unoccupied (live 3).1 (live 3).2
  rw [evicting] at allowed
  rw [PoolWorker.attend_succ, PoolWorker.attend_succ, third]
  simp only [PoolWorker.goesOn, PoolWorker.moveTo, PoolClaim.worker, allowed, decide_true, if_true]

theorem attend_cleanup_skips (other : bundle.state ≠ .evicting) (more : Nat) :
    (claim.worker settings config now).attend env store (quietTurns clock (more + 4)) =
      ((claim.worker settings config now).moveTo (.done .skipped), store) := by
  induction more with
  | zero =>
    have third := @attend_cleanup_allowing D env settings config now claim store bundle
      workspace clock begins cleans unoccupied live
    have refused := begins.cleanupSideEffectAllowed cleans unoccupied (live 3).1 (live 3).2
    rw [decide_eq_false other] at refused
    rw [PoolWorker.attend_succ, third]
    simp only [PoolWorker.goesOn, PoolWorker.moveTo, PoolClaim.worker, refused,
      Bool.false_eq_true, if_false]
  | succ _ ih =>
    rw [Nat.add_right_comm, PoolWorker.attend_succ, ih]
    rfl

end

end Pass

/-! ## The answer of the adapter -/

/-- The Workspace is still there, in the pool, unclaimed and empty. -/
def PoolStore.IsCleanable (workspaceId : Uuid) (now : Instant) (store : PoolStore D) : Prop :=
  ∃ workspace, store.db.workspaces.lookup workspaceId = some workspace ∧
    store.cleanupAllowed workspaceId workspace now = true

variable {bundle : ReadyWorkspaceBundle}

theorem Elsewhere.apply_bundle (change : Elsewhere D) {store : PoolStore D} {id : Uuid} (stored : store.bundles.lookup id = some bundle)
    (unassigned : bundle.state ≠ .assigned) :
    (change.apply store).bundles.lookup id = some bundle := by
  cases change with
  | workspace =>
    unfold Elsewhere.apply
    dsimp only
    split
    · exact stored
    · exact stored
  | credentials | profiles | executions => exact stored
  | onboardingError other =>
    unfold Elsewhere.apply
    dsimp only
    split
    · exact stored
    · next found =>
      obtain ⟨isOther, isAssigned⟩ := Option.filter_eq_some_iff.mp found
      have different : id ≠ other := by
        rintro rfl
        rw [stored, Option.some.injEq] at isOther
        rw [← isOther] at isAssigned
        exact unassigned (of_decide_eq_true isAssigned)
      split
      · next saved =>
        obtain ⟨_, rfl⟩ := PoolStore.saveBundle_eq_ok saved
        exact (AList.lookup_insert_ne different).trans stored
      · exact stored

theorem PoolStore.change_bundle (changes : List (Elsewhere D)) {store : PoolStore D} {id : Uuid} (stored : store.bundles.lookup id = some bundle)
    (unassigned : bundle.state ≠ .assigned) :
    (store.change changes).bundles.lookup id = some bundle := by
  induction changes generalizing store with
  | nil => exact stored
  | cons change _ ih => exact ih (change.apply_bundle stored unassigned)

section Answer

variable {env : PoolEnv D} {settings : PoolSettings} {config : PoolConfig} {now time : Instant}
  {claim : PoolClaim} {store : PoolStore D} {bundle : ReadyWorkspaceBundle}

def ReadyWorkspaceBundle.evictedColumns (bundle : ReadyWorkspaceBundle) (now : Instant) :
    BundleColumns :=
  { bundle.toBundleColumns.released with
    state := .evicted
    nextAttemptAt := now }

theorem ReadyWorkspaceBundle.evicted_constrained (unassigned : bundle.state ≠ .assigned) :
    (bundle.evictedColumns time).Constrained := by
  have constrained := bundle.constrained
  refine ⟨constrained.region_nonempty, constrained.release_nonempty, constrained.config_positive,
    constrained.attempts_bounded, rfl, ?_, ?_, ?_⟩
  · refine iff_of_false ReadyWorkspaceBundleState.noConfusion ?_
    intro timed
    exact unassigned (constrained.assignment_timestamp.mpr timed)
  · intro ready
    cases ready
  · rintro (parks | sleeps)
    · cases parks
    · cases sleeps

theorem PoolClaim.markEvicted_evicts (held : claim.held time store = some bundle)
    (storable : bundle.toBundleColumns.Storable) (unassigned : bundle.state ≠ .assigned)
    (cleanable : store.IsCleanable claim.workspace time) :
    claim.markEvicted time store = .ok (true, store.putBundle claim.bundle
      ⟨bundle.evictedColumns time, bundle.evicted_constrained unassigned⟩) := by
  obtain ⟨_, located, allowed⟩ := cleanable
  have stored : store.bundles.lookup claim.bundle = some bundle :=
    (Option.filter_eq_some_iff.mp held).1
  have saves := @PoolStore.saveBundle_succeeds D store claim.bundle (bundle.evictedColumns time)
    ⟨storable.region, storable.release, storable.version, storable.attempts, storable.code⟩
    (bundle.evicted_constrained unassigned) ReadyWorkspaceBundleState.noConfusion
    (by rw [stored]; simpa using unassigned)
  unfold PoolClaim.markEvicted PoolClaim.recordWith PoolClaim.record
  rw [held, PoolClaim.claimedWorkspace, located]
  simp only [Option.bind_some]
  rw [if_pos ⟨unassigned, allowed⟩]
  change (do
    let next ← store.saveBundle claim.bundle (bundle.evictedColumns time)
    return (true, next)) = _
  rw [saves]
  rfl

def PoolStore.occupies (store : PoolStore D) (bundle : ReadyWorkspaceBundle) : Bool :=
  match bundle.state with
  | .preparing | .ready | .parking | .sleeping | .evicting => true
  | .failed => store.holdsResources bundle.workspace
  | .assigned | .evicted => false

theorem PoolStore.occupiedCount_eq (store : PoolStore D) :
    store.occupiedCount = (store.bundles.rows.filter fun row =>
      (fun bundle => store.isPooledBundle bundle && store.occupies bundle) row.2).length := rfl

theorem PoolStore.occupiedCount_evict (stored : store.bundles.lookup claim.bundle = some bundle)
    (evicting : bundle.state = .evicting) (pooled : store.isPooledBundle bundle = true)
    (constrained : (bundle.evictedColumns time).Constrained) :
    (store.putBundle claim.bundle ⟨bundle.evictedColumns time, constrained⟩).occupiedCount + 1 =
      store.occupiedCount := by
  have counted : (store.isPooledBundle bundle && store.occupies bundle) = true := by
    rw [pooled, PoolStore.occupies, evicting]
    rfl
  have left : (store.isPooledBundle ⟨bundle.evictedColumns time, constrained⟩ &&
      store.occupies ⟨bundle.evictedColumns time, constrained⟩) = false := Bool.and_false _
  rw [PoolStore.occupiedCount_eq, PoolStore.occupiedCount_eq]
  exact @Table.length_filter_insert Uuid ReadyWorkspaceBundle _ store.bundles
    (fun bundle => store.isPooledBundle bundle && store.occupies bundle) claim.bundle bundle
    ⟨bundle.evictedColumns time, constrained⟩ stored counted left

end Answer

/-! ## Cleanups -/

def cleanupAnswer (changes : List (Elsewhere D)) (answeredAt recordedAt : Instant)
    (answer : PoolAnswer) : List (PoolTurn D) :=
  [⟨changes, answeredAt, .answered answer⟩, .quiet recordedAt]

/-- The pass of a cleanup claim reaches the adapter after some steps; and where the adapter does not
say no, and the claim and the Workspace are as they were, the bundle is evicted and occupies
nothing. -/
def PoolWorker.CleansUp (env : PoolEnv D) (worker : PoolWorker) (store : PoolStore D)
    (clock : Nat → Instant) : Prop :=
  ∃ steps workspace,
    (worker.attend env store (quietTurns clock steps)).1.point = .calling .cleanup workspace true ∧
    ∀ changes answeredAt recordedAt answer, answer ≠ .flag false →
      answeredAt < worker.claimedAt + seconds worker.config.phaseClaimSeconds →
      (store.change changes).IsCleanable worker.claim.workspace answeredAt →
      let ended := worker.attend env store
        (quietTurns clock steps ++ cleanupAnswer changes answeredAt recordedAt answer)
      ended.1.point = .done .evicted ∧
        (ended.2.bundles.lookup worker.claim.bundle).map (fun bundle => bundle.state) =
          some .evicted ∧
        ended.2.occupiedCount + 1 = (store.change changes).occupiedCount

section Cleanups

variable {env : PoolEnv D} {settings : PoolSettings} {config : PoolConfig} {now : Instant}
  {claim : PoolClaim} {store : PoolStore D} {bundle : ReadyWorkspaceBundle}
  {workspace : Workspace} {clock : Nat → Instant}

theorem cleansUp_of_evicting (begins : claim.Begins config now store bundle workspace)
    (cleans : claim.action = .cleanup) (unoccupied : store.isOccupied claim.workspace = false)
    (live : IsLiveClock config now clock) (evicting : bundle.state = .evicting) :
    (claim.worker settings config now).CleansUp env store clock := by
  have reached := @attend_cleanup_evicting D env settings config now claim store bundle workspace
    clock begins cleans unoccupied live evicting
  refine ⟨5, workspace, by rw [reached]; rfl, ?_⟩
  intro changes answeredAt recordedAt answer accepted inTime cleanable
  have stored := PoolStore.change_bundle changes begins.stored begins.unassigned
  have held : claim.held answeredAt (store.change changes) = some bundle := by
    rw [PoolClaim.held, stored, Option.filter_some, if_pos]
    refine decide_eq_true ⟨begins.owner, ?_⟩
    rw [begins.lapse, Option.any_some]
    exact decide_eq_true inTime
  have evicts := claim.markEvicted_evicts held begins.storable begins.unassigned cleanable
  have answered : (claim.worker settings config now).attend env store
      (quietTurns clock 5 ++ [⟨changes, answeredAt, .answered answer⟩]) =
      ((claim.worker settings config now).moveTo (.recording .evicted answeredAt),
        store.change changes) := by
    rw [PoolWorker.attend_append, reached]
    simp only [PoolWorker.attend, List.foldl_cons, List.foldl_nil, PoolWorker.meet,
      PoolWorker.step, PoolWorker.answered, PoolWorker.moveTo, if_neg accepted]
  have ended : (claim.worker settings config now).attend env store
      (quietTurns clock 5 ++ cleanupAnswer changes answeredAt recordedAt answer) =
      ((claim.worker settings config now).moveTo (.done .evicted),
        (store.change changes).putBundle claim.bundle
          ⟨bundle.evictedColumns answeredAt, bundle.evicted_constrained begins.unassigned⟩) := by
    have split : quietTurns clock 5 ++ cleanupAnswer changes answeredAt recordedAt answer =
        (quietTurns clock 5 ++ [⟨changes, answeredAt, .answered answer⟩]) ++
          [PoolTurn.quiet recordedAt] := by
      rw [List.append_assoc]
      rfl
    rw [split, PoolWorker.attend_append, answered]
    exact @PoolWorker.goesOn_recording D env
      ((claim.worker settings config now).moveTo (.recording .evicted answeredAt))
      (store.change changes) _ .evicted answeredAt recordedAt true rfl evicts
  have pooled : (store.change changes).isPooledBundle bundle = true := by
    obtain ⟨row, located, allowed⟩ := cleanable
    simp only [PoolStore.cleanupAllowed, Bool.and_eq_true] at allowed
    have located : (store.change changes).db.workspaces.lookup claim.workspace = some row := located
    rw [PoolStore.isPooledBundle, begins.home, located]
    exact allowed.1.1
  dsimp only
  rw [ended]
  refine ⟨rfl, ?_, ?_⟩
  · change ((AList.insert claim.bundle _ (store.change changes).bundles).lookup claim.bundle).map _ = _
    rw [AList.lookup_insert]
    rfl
  · exact PoolStore.occupiedCount_evict stored evicting pooled _

/-- A claim for cleanup on an unassigned bundle cleans it up exactly where the bundle is evicting. -/
theorem cleanup_claims_clean_up_iff_evicting (env : PoolEnv D) (settings : PoolSettings)
    (config : PoolConfig) (now : Instant) (locked : List Uuid) (allowCreate drain : Bool)
    (store claimed : PoolStore D) (claim : PoolClaim) (clock : Nat → Instant)
    (selected : store.claimOrReserve env.foundry config now locked allowCreate drain =
      .ok (some claim, claimed))
    (cleans : claim.action = .cleanup) (unoccupied : claimed.isOccupied claim.workspace = false)
    (live : IsLiveClock config now clock) :
    (claim.worker settings config now).CleansUp env claimed clock ↔
      (claimed.bundles.lookup claim.bundle).any (fun bundle => bundle.state = .evicting) = true := by
  obtain ⟨bundle, workspace, begins⟩ := PoolStore.claimOrReserve_begins selected
  rw [begins.stored, Option.any_some, decide_eq_true_eq]
  constructor
  · rintro ⟨steps, _, reaches, _⟩
    by_contra other
    have skips := @attend_cleanup_skips D env settings config now claim claimed bundle workspace
      clock begins cleans unoccupied live other steps
    have waits := PoolWorker.attend_waits reaches 4
    rw [Nat.add_comm, skips] at waits
    rw [← waits] at reaches
    cases reaches
  · exact cleansUp_of_evicting begins cleans unoccupied live

end Cleanups

/-! ## Runs -/

def turnedAway : PoolWorld PlainDigest :=
  PoolWorld.empty.after poolEnv
    ([.claim poolSettings 0 false []] ++ activation 0 ++ preparation 0 0 ++
      [.markEvicting 3 "health" (seconds 1)])

/-- The claim that the selector issues at this time, and what it leaves. -/
def issued (settings : PoolSettings) (now : Instant) (world : PoolWorld PlainDigest) :
    Option (PoolConfig × PoolClaim × PoolStore PlainDigest) :=
  (poolConfig settings).toOption.bind fun config =>
    (world.store.claimOrReserve poolEnv.foundry config now [] true false).toOption.bind
      fun result => result.1.map fun claim => (config, claim, result.2)

theorem evicting_bundle_is_cleaned_up :
    ∃ config claim claimed, issued poolSettings (seconds 2) turnedAway =
        some (config, claim, claimed) ∧ claim.action = .cleanup ∧
      (claim.worker poolSettings config (seconds 2)).CleansUp poolEnv claimed
        (fun _ => seconds 2) := by
  have chosen : (issued poolSettings (seconds 2) turnedAway).any (fun result =>
      result.2.1.action = .cleanup && !result.2.2.isOccupied result.2.1.workspace &&
        decide (0 < result.1.phaseClaimSeconds) &&
        (result.2.2.bundles.lookup result.2.1.bundle).any fun bundle =>
          bundle.state = .evicting) = true := by
    decide +kernel
  obtain ⟨⟨config, claim, claimed⟩, isIssued, holds⟩ := (Option.any_eq_true _ _).mp chosen
  simp only [Bool.and_eq_true, decide_eq_true_eq, Bool.not_eq_true'] at holds
  obtain ⟨⟨⟨cleans, unoccupied⟩, positive⟩, evicting⟩ := holds
  refine ⟨config, claim, claimed, isIssued, cleans, ?_⟩
  unfold issued at isIssued
  obtain ⟨_, _, isIssued⟩ := Option.bind_eq_some_iff.mp isIssued
  obtain ⟨⟨made, left⟩, result, isIssued⟩ := Option.bind_eq_some_iff.mp isIssued
  obtain ⟨_, isMade, same⟩ := Option.map_eq_some_iff.mp isIssued
  cases same
  have isMade : made = some claim := isMade
  rw [isMade, toOption_eq_some] at result
  refine (cleanup_claims_clean_up_iff_evicting poolEnv poolSettings config (seconds 2) [] true false
    turnedAway.store left claim (fun _ => seconds 2) result cleans unoccupied ?_).mpr evicting
  intro _
  exact ⟨Nat.le_refl _, Nat.lt_add_of_pos_right (Nat.mul_pos positive (by decide))⟩

/-- A preparation whose one attempt fails after the provider made an app. -/
def failedPreparation : List (PoolEvent PlainDigest) :=
  [.claim { poolSettings with maxAttempts := 1 } 0 false [], .work 0 0 .goesOn, .work 0 0 .goesOn,
    .work 0 0 .goesOn, .elsewhere (.workspace 2 (activatedWorkspace 0)),
    .work 0 0 (.raised ⟨false, true, false, some "provider_error"⟩), .work 0 0 .goesOn]

/-- The next claim on that bundle, and the pass of its worker. -/
def cleanupPass (worker : Nat) (now : Instant) : List (PoolEvent PlainDigest) :=
  .claim { poolSettings with maxAttempts := 1 } now false [] ::
    List.replicate 6 (.work worker now .goesOn)

/-- The bundle has failed for the last time: it is claimed for cleanup again and again, the adapter
is never called, and the bundle keeps its place in the pool. -/
theorem failed_bundle_is_never_cleaned_up :
    let world := PoolWorld.empty.after poolEnv
      (failedPreparation ++ cleanupPass 1 (seconds 100) ++ cleanupPass 2 (seconds 2000))
    ([1, 2].map fun worker => (world.workers.lookup worker).map fun worker =>
        (worker.claim.action, worker.point)) =
        [some (.cleanup, .done .skipped), some (.cleanup, .done .skipped)] ∧
      (world.calls.map fun record => record.call) = [.activate] ∧
      world.store.isOccupied 2 = false ∧ world.store.occupiedCount = 1 ∧
      (world.store.bundles.lookup 3).map (fun bundle => bundle.state) = some .failed := by
  decide +kernel

end Foundry
