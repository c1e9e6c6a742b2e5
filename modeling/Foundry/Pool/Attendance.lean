import Foundry.Pool.System

/-!
# A worker and its claim

A claim from its selection to the end of its pass: the row the selector leaves, and the steps of
the worker with the writes of others between them.
-/

set_option autoImplicit false

namespace Foundry

open Raise

variable {D : Type}

/-! ## Turns -/

/-- What a worker meets: the writes of others before its step, the clock, and its input. -/
structure PoolTurn (D : Type) where
  changes : List (Elsewhere D)
  now : Instant
  input : PoolInput

def PoolTurn.quiet (now : Instant) : PoolTurn D := ⟨[], now, .goesOn⟩

def PoolStore.change (store : PoolStore D) (changes : List (Elsewhere D)) : PoolStore D :=
  changes.foldl (fun store change => change.apply store) store

namespace PoolWorker

variable (env : PoolEnv D)

def meet (state : PoolWorker × PoolStore D) (turn : PoolTurn D) : PoolWorker × PoolStore D :=
  state.1.step env turn.now turn.input (state.2.change turn.changes)

def attend (worker : PoolWorker) (store : PoolStore D) (turns : List (PoolTurn D)) :
    PoolWorker × PoolStore D :=
  turns.foldl (meet env) (worker, store)

variable {env} {worker next : PoolWorker} {store later : PoolStore D}

theorem attend_append (first second : List (PoolTurn D)) :
    worker.attend env store (first ++ second) =
      (worker.attend env store first).1.attend env (worker.attend env store first).2 second :=
  List.foldl_append

end PoolWorker

/-! ## Saves -/

/-- What the `save` of a bundle checks without looking at the stored row. -/
structure BundleColumns.Storable (columns : BundleColumns) : Prop where
  region : stripped columns.region ≠ ""
  release : stripped columns.releaseFingerprint ≠ ""
  version : 0 < columns.configVersion
  attempts : columns.attemptCount ≤ readyPoolMaxAttempts
  code : columns.safeErrorCode.all (fun code => code = "" ∨ isSafeCode code = true) = true

section Saves

variable {store next : PoolStore D} {id : Uuid} {columns : BundleColumns}

theorem PoolStore.saveBundle_storable (saved : store.saveBundle id columns = .ok next) :
    columns.Storable := by
  simp only [PoolStore.saveBundle, bind_eq_ok, require_eq_ok] at saved
  obtain ⟨_, region, _, release, _, version, _, attempts, _, _, _, code, _⟩ := saved
  exact ⟨region, release, version, attempts, code⟩

theorem PoolStore.saveBundle_succeeds (storable : columns.Storable)
    (constrained : columns.Constrained) (unassigned : columns.state ≠ .assigned)
    (stored : (store.bundles.lookup id).all (fun bundle => bundle.state ≠ .assigned) = true) :
    store.saveBundle id columns = .ok (store.putBundle id ⟨columns, constrained⟩) := by
  unfold PoolStore.saveBundle
  rw [require_of _ _ storable.region, require_of _ _ storable.release,
    require_of _ _ storable.version, require_of _ _ storable.attempts,
    require_of _ _ (fun assigned => absurd assigned unassigned),
    require_of _ _ storable.code, require_of _ _ (fun _ => stored)]
  simp only [ok_bind]
  rw [dif_pos constrained]
  rfl

end Saves

/-! ## Selection -/

structure PoolClaim.Begins (config : PoolConfig) (now : Instant) (claim : PoolClaim)
    (store : PoolStore D) (bundle : ReadyWorkspaceBundle) (workspace : Workspace) : Prop where
  stored : store.bundles.lookup claim.bundle = some bundle
  home : bundle.workspace = claim.workspace
  owner : bundle.phaseClaimOwner = some claim.owner
  lapse : bundle.phaseClaimUntil = some (now + seconds config.phaseClaimSeconds)
  storable : bundle.toBundleColumns.Storable
  unassigned : bundle.state ≠ .assigned
  located : store.db.workspaces.lookup claim.workspace = some workspace
  cleanup : claim.action = .cleanup → workspace.isPooled = true ∧
    workspace.claimLive now = false ∧
    (bundle.state = .evicting ∨ bundle.state = .failed ∧ config.maxAttempts ≤ bundle.attemptCount)
  prepare : claim.action = .prepare →
    bundle.state = .preparing ∨ bundle.state = .failed ∧ bundle.attemptCount < config.maxAttempts

structure PoolStore.Selection.Fits (config : PoolConfig) (now : Instant)
    (selection : PoolStore.Selection) (store : PoolStore D) (workspace : Workspace) : Prop where
  unassigned : selection.columns.state ≠ .assigned
  located : store.db.workspaces.lookup selection.columns.workspace = some workspace
  cleanup : selection.action = .cleanup → workspace.isPooled = true ∧
    workspace.claimLive now = false ∧
    (selection.columns.state = .evicting ∨
      selection.columns.state = .failed ∧ config.maxAttempts ≤ selection.columns.attemptCount)
  prepare : selection.action = .prepare →
    selection.columns.state = .preparing ∨
      selection.columns.state = .failed ∧ selection.columns.attemptCount < config.maxAttempts

section Selections

variable {env : Env D} {config : PoolConfig} {now : Instant} {locked : List Uuid}
  {store next : PoolStore D} {selection : PoolStore.Selection}

theorem PoolStore.firstUnclaimed_cases {limit : Nat}
    {order : Uuid × ReadyWorkspaceBundle → Uuid × ReadyWorkspaceBundle → Prop}
    [DecidableRel order] {test : Uuid → ReadyWorkspaceBundle → Bool}
    {choose : ReadyWorkspaceBundle → Workspace → Option (BundleColumns × PoolAction)}
    (found : store.firstUnclaimed now (store.firstBundles limit order test) choose =
      some selection) :
    ∃ id bundle workspace, test id bundle = true ∧
      store.db.workspaces.lookup bundle.workspace = some workspace ∧
      workspace.claimLive now = false ∧
      choose bundle workspace = some (selection.columns, selection.action) := by
  obtain ⟨row, member, selected⟩ := List.exists_of_findSome?_eq_some found
  have listed := (List.mem_insertionSort order).mp (List.mem_of_mem_take member)
  obtain ⟨_, holds⟩ := List.mem_filter.mp listed
  obtain ⟨workspace, isWorkspace, mapped⟩ := Option.bind_eq_some_iff.mp selected
  obtain ⟨located, unclaimed⟩ := Option.filter_eq_some_iff.mp isWorkspace
  obtain ⟨_, choice, rfl⟩ := Option.map_eq_some_iff.mp mapped
  exact ⟨row.1, row.2, workspace, holds, located, by simpa using unclaimed, choice⟩

variable {workspace : Workspace} {action : PoolAction}

theorem PoolStore.dueAction_cases {bundle : ReadyWorkspaceBundle} (decided : store.dueAction config bundle workspace = some action) :
    ((bundle.state = .evicting ∨ bundle.state = .failed ∧
        config.maxAttempts ≤ bundle.attemptCount) ∧ action = .cleanup) ∨
      (¬ (bundle.state = .evicting ∨ bundle.state = .failed ∧
          config.maxAttempts ≤ bundle.attemptCount) ∧
        (bundle.state = .parking ∧ action = .park ∨
          bundle.state ≠ .parking ∧ action = .prepare)) := by
  unfold PoolStore.dueAction at decided
  dsimp only at decided
  split at decided
  · cases decided
  · split at decided
    · cases decided
    · split at decided
      · next cleans =>
        cases decided
        exact .inl ⟨cleans, rfl⟩
      · next keeps =>
        refine .inr ⟨keeps, ?_⟩
        split at decided
        · next parks =>
          cases decided
          exact .inl ⟨parks, rfl⟩
        · next prepares =>
          cases decided
          exact .inr ⟨prepares, rfl⟩

theorem PoolStore.dueBundle_fits (found : store.dueBundle config now locked = some selection) :
    ∃ workspace, selection.Fits config now store workspace := by
  obtain ⟨_, _, workspace, tested, located, unclaimed, choice⟩ :=
    PoolStore.firstUnclaimed_cases found
  obtain ⟨_, decided, same⟩ := Option.map_eq_some_iff.mp choice
  rw [Prod.mk.injEq] at same
  obtain ⟨columns, rfl⟩ := same
  simp only [Bool.and_eq_true, decide_eq_true_eq] at tested
  obtain ⟨⟨⟨⟨pooled, state⟩, _⟩, _⟩, _⟩ := tested
  have isPooled : workspace.isPooled = true := by
    rw [PoolStore.isPooledBundle, located] at pooled
    exact pooled
  refine ⟨workspace, ?_, columns ▸ located, ?_, ?_⟩
  · rw [← columns]
    rcases state with state | state | state | state <;> rw [state] <;> decide
  · intro cleans
    rw [← columns]
    rcases PoolStore.dueAction_cases decided with ⟨ended, _⟩ | ⟨_, ⟨_, other⟩ | ⟨_, other⟩⟩
    · exact ⟨isPooled, unclaimed, ended⟩
    · rw [other] at cleans
      cases cleans
    · rw [other] at cleans
      cases cleans
  · intro prepares
    rw [← columns]
    rcases PoolStore.dueAction_cases decided with ⟨_, other⟩ | ⟨goesOn, ⟨_, other⟩ | ⟨unparked, _⟩⟩
    · rw [other] at prepares
      cases prepares
    · rw [other] at prepares
      cases prepares
    · rw [not_or, not_and, Nat.not_le] at goesOn
      rcases state with state | state | state | state
      · exact absurd state goesOn.1
      · exact absurd state unparked
      · exact .inl state
      · exact .inr ⟨state, goesOn.2 state⟩

theorem PoolStore.Selection.Fits.of_evicting
    (located : store.db.workspaces.lookup selection.columns.workspace = some workspace)
    (isPooled : workspace.isPooled = true) (unclaimed : workspace.claimLive now = false)
    (state : selection.columns.state = .evicting) (action : selection.action = .cleanup) :
    selection.Fits config now store workspace := by
  refine ⟨by rw [state]; decide, located, fun _ => ⟨isPooled, unclaimed, .inl state⟩, ?_⟩
  intro prepares
  rw [action] at prepares
  cases prepares

theorem PoolStore.drainReadyBundle_fits
    (found : store.drainReadyBundle now locked = some selection) :
    ∃ workspace, selection.Fits config now store workspace := by
  obtain ⟨_, _, workspace, _, located, unclaimed, choice⟩ :=
    PoolStore.firstUnclaimed_cases found
  simp only [Option.ite_none_right_eq_some, Option.some.injEq, Prod.mk.injEq] at choice
  obtain ⟨isPooled, columns, action⟩ := choice
  exact ⟨workspace, .of_evicting (columns ▸ located) isPooled unclaimed (by rw [← columns])
    action.symm⟩

theorem PoolStore.staleReadyBundle_fits
    (found : store.staleReadyBundle env config now locked = some selection) :
    ∃ workspace, selection.Fits config now store workspace := by
  obtain ⟨_, _, workspace, _, located, unclaimed, choice⟩ :=
    PoolStore.firstUnclaimed_cases found
  simp only [Option.ite_none_right_eq_some, Option.some.injEq, Prod.mk.injEq] at choice
  obtain ⟨isPooled, columns, action⟩ := choice
  exact ⟨workspace, .of_evicting (columns ▸ located) isPooled.1 unclaimed (by rw [← columns])
    action.symm⟩

theorem PoolStore.Selection.Fits.of_other (unassigned : selection.columns.state ≠ .assigned)
    (located : store.db.workspaces.lookup selection.columns.workspace = some workspace)
    (action : selection.action ≠ .cleanup ∧ selection.action ≠ .prepare) :
    selection.Fits config now store workspace :=
  ⟨unassigned, located, fun cleans => absurd cleans action.1,
    fun prepares => absurd prepares action.2⟩

theorem PoolStore.parkingCandidate_fits
    (found : store.parkingCandidate env config now locked = some selection) :
    ∃ workspace, selection.Fits config now store workspace := by
  obtain ⟨_, _, workspace, _, located, _, choice⟩ := PoolStore.firstUnclaimed_cases found
  simp only [Option.ite_none_right_eq_some, Option.some.injEq, Prod.mk.injEq] at choice
  obtain ⟨_, columns, action⟩ := choice
  refine ⟨workspace, .of_other ?_ (columns ▸ located) ?_⟩
  · rw [← columns]
    simp
  · rw [← action]
    decide

theorem PoolStore.candidateIn_fits {state : ReadyWorkspaceBundleState}
    (unassigned : state ≠ .assigned) (other : action ≠ .cleanup ∧ action ≠ .prepare)
    (found : store.candidateIn config now locked state action = some selection) :
    ∃ workspace, selection.Fits config now store workspace := by
  obtain ⟨_, _, workspace, tested, located, _, choice⟩ :=
    PoolStore.firstUnclaimed_cases found
  simp only [Option.ite_none_right_eq_some, Option.some.injEq, Prod.mk.injEq] at choice
  obtain ⟨_, columns, same⟩ := choice
  simp only [Bool.and_eq_true, decide_eq_true_eq] at tested
  refine ⟨workspace, .of_other ?_ (columns ▸ located) (same ▸ other)⟩
  rw [← columns]
  exact tested.1.1.1.1.1 ▸ unassigned

theorem PoolStore.claimable_fits {drain : Bool}
    (found : store.claimable env config now locked drain = some selection) :
    ∃ workspace, selection.Fits config now store workspace := by
  simp only [PoolStore.claimable, Option.orElse_eq_orElse, Option.orElse_eq_or,
    Option.or_eq_some_iff] at found
  rcases found with due | ⟨_, drained | ⟨_, stale | ⟨_, slept | ⟨_, health⟩⟩⟩⟩
  · exact PoolStore.dueBundle_fits due
  · rw [Option.ite_none_right_eq_some] at drained
    exact PoolStore.drainReadyBundle_fits drained.2
  · exact PoolStore.staleReadyBundle_fits stale
  · rw [Option.ite_none_right_eq_some, Option.or_eq_some_iff] at slept
    rcases slept.2 with parks | ⟨_, sleeps⟩
    · exact PoolStore.parkingCandidate_fits parks
    · exact PoolStore.candidateIn_fits (by decide) (by decide) sleeps
  · rw [Option.ite_none_right_eq_some] at health
    exact PoolStore.candidateIn_fits (by decide) (by decide) health.2

variable {claim : PoolClaim}

theorem PoolStore.reserve_begins {owner : Uuid}
    (success : store.reserve env config now owner = .ok (some claim, next)) :
    ∃ bundle workspace, claim.Begins config now next bundle workspace := by
  unfold PoolStore.reserve at success
  split at success
  · cases success
  split at success
  · cases success
  split at success
  · cases success
  simp only [bind_eq_ok, require_eq_ok, return_eq_ok, Option.some.injEq] at success
  obtain ⟨_, _, _, written, rfl, rfl⟩ := success
  have storable := PoolStore.saveBundle_storable written
  obtain ⟨_, rfl⟩ := PoolStore.saveBundle_eq_ok written
  refine ⟨_, _, AList.lookup_insert _, rfl, rfl, rfl, storable, by simp [reservedColumns],
    AList.lookup_insert _, ?_, fun _ => .inl rfl⟩
  intro cleans
  cases cleans

theorem PoolStore.claimOrReserve_begins {allowCreate drain : Bool}
    (success : store.claimOrReserve env config now locked allowCreate drain =
      .ok (some claim, next)) :
    ∃ bundle workspace, claim.Begins config now next bundle workspace := by
  unfold PoolStore.claimOrReserve at success
  dsimp only at success
  split at success
  · next found =>
    simp only [bind_eq_ok, return_eq_ok, Option.some.injEq] at success
    obtain ⟨_, written, rfl, rfl⟩ := success
    obtain ⟨workspace, fits⟩ := PoolStore.claimable_fits found
    have storable := PoolStore.saveBundle_storable written
    obtain ⟨_, rfl⟩ := PoolStore.saveBundle_eq_ok written
    exact ⟨_, workspace, AList.lookup_insert _, rfl, rfl, rfl, storable, fits.unassigned,
      fits.located, fits.cleanup, fits.prepare⟩
  · split at success
    · exact PoolStore.reserve_begins success
    · cases success

end Selections

end Foundry
