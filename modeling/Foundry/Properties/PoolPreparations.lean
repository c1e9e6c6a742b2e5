import Foundry.Properties.PoolCleanups

/-!
# Prepare claims

The selector claims a bundle for preparation when it is preparing, or has failed with attempts left;
the writes that finish a preparation take preparing bundles only.
-/

set_option autoImplicit false

namespace Foundry

open Raise

variable {D : Type}

/-! ## Passes -/

/-- The steps of a preparation up to the answer to its activation. -/
def activating (clock : Nat → Instant) (changes : List (Elsewhere D)) (input : PoolInput) :
    List (PoolTurn D) :=
  [.quiet (clock 0), .quiet (clock 1), .quiet (clock 2), ⟨changes, clock 3, input⟩]

def inspecting (clock : Nat → Instant) (changes : List (Elsewhere D)) (input : PoolInput) :
    List (PoolTurn D) :=
  [.quiet (clock 4), .quiet (clock 5), ⟨changes, clock 6, input⟩]

def closing (clock : Nat → Instant) : List (PoolTurn D) :=
  [.quiet (clock 7), .quiet (clock 8), .quiet (clock 9)]

inductive PreparationEnding where
  | activationFails (exc : PoolRaised)
  | inspectionFails (activated : PoolAnswer) (exc : PoolRaised)
  /-- The answer is validated next. -/
  | inspected (activated answer : PoolAnswer)

/-- A pass of a prepare claim, with the writes of others during its two calls. -/
structure Preparation (D : Type) where
  clock : Nat → Instant
  duringActivation : List (Elsewhere D)
  duringInspection : List (Elsewhere D)
  ending : PreparationEnding

namespace Preparation

def turns (preparation : Preparation D) : List (PoolTurn D) :=
  let first := activating preparation.clock preparation.duringActivation
  let second := inspecting preparation.clock preparation.duringInspection
  match preparation.ending with
  | .activationFails exc => first (.raised exc) ++ closing preparation.clock
  | .inspectionFails activated exc =>
    first (.answered activated) ++ second (.raised exc) ++ closing preparation.clock
  | .inspected activated answer =>
    first (.answered activated) ++ second (.answered answer) ++ closing preparation.clock

variable (preparation : Preparation D) (claimed : PoolStore D)

def activated : PoolStore D := claimed.change preparation.duringActivation

def inspected : PoolStore D :=
  (preparation.activated claimed).change preparation.duringInspection

/-- The store when the last of the provider's steps has ended. -/
def found : PoolStore D :=
  match preparation.ending with
  | .activationFails _ => preparation.activated claimed
  | .inspectionFails _ _ | .inspected _ _ => preparation.inspected claimed

def caughtAt : Instant :=
  match preparation.ending with
  | .activationFails _ => preparation.clock 3
  | .inspectionFails _ _ => preparation.clock 6
  | .inspected _ _ => preparation.clock 7

/-- The exception that ends the provider's steps, or that the validation of the answer raises. -/
def failure (env : PoolEnv D) (settings : PoolSettings) (config : PoolConfig)
    (claim : PoolClaim) : Option PoolRaised :=
  match preparation.ending with
  | .activationFails exc => some exc
  | .inspectionFails _ exc => some exc
  | .inspected _ answer =>
    (claim.claimedWorkspace (preparation.activated claimed)).bind fun row =>
      match validateReady env settings config (preparation.clock 6) false false claim.workspace
          row answer (preparation.inspected claimed) with
      | .ok _ => none
      | .error exc => some exc

def volume : Option String :=
  match preparation.ending with
  | .activationFails _ | .inspectionFails _ _ => none
  | .inspected _ answer => answer.volumeRef

end Preparation

/-! ## Idle rows -/

/-- The columns of a row that is neither spare nor assigned follow those of an unassigned row. -/
structure BundleColumns.Idles (bundle : ReadyWorkspaceBundle) (columns : BundleColumns) :
    Prop where
  region : columns.region = bundle.region
  release : columns.releaseFingerprint = bundle.releaseFingerprint
  version : columns.configVersion = bundle.configVersion
  attempts : columns.attemptCount ≤ readyPoolMaxAttempts
  claim : columns.phaseClaimOwner.isSome = columns.phaseClaimUntil.isSome
  assignment : columns.assignedAt = bundle.assignedAt
  state : columns.state = .preparing ∨ columns.state = .failed ∨ columns.state = .evicting
  code : columns.safeErrorCode.all (fun code => code = "" ∨ isSafeCode code = true) = true

section Idle

variable {bundle : ReadyWorkspaceBundle} {columns : BundleColumns} {store : PoolStore D}
  {id : Uuid}

section

variable (idles : columns.Idles bundle) (unassigned : bundle.state ≠ .assigned)

include idles unassigned

theorem BundleColumns.Idles.constrained : columns.Constrained := by
  have constrained := bundle.constrained
  have untimed : ¬ bundle.assignedAt.isSome = true :=
    fun timed => unassigned (constrained.assignment_timestamp.mpr timed)
  refine ⟨idles.region ▸ constrained.region_nonempty, idles.release ▸ constrained.release_nonempty,
    idles.version ▸ constrained.config_positive, idles.attempts, idles.claim, ?_, ?_, ?_⟩
  · rw [idles.assignment]
    rcases idles.state with state | state | state <;> simp [state, untimed]
  · rcases idles.state with state | state | state <;> simp [state]
  · rcases idles.state with state | state | state <;> simp [state]

theorem BundleColumns.Idles.saves (storable : bundle.toBundleColumns.Storable)
    (stored : store.bundles.lookup id = some bundle) :
    store.saveBundle id columns =
      .ok (store.putBundle id ⟨columns, idles.constrained unassigned⟩) := by
  refine PoolStore.saveBundle_succeeds ⟨?_, ?_, ?_, idles.attempts, idles.code⟩ _ ?_ ?_
  · rw [idles.region]
    exact storable.region
  · rw [idles.release]
    exact storable.release
  · rw [idles.version]
    exact storable.version
  · rcases idles.state with state | state | state <;> rw [state] <;> decide
  · rw [stored]
    simpa using unassigned

end

end Idle

/-! ## The held row -/

/-- A claim that was issued at `now` has not lapsed. -/
def PoolConfig.Lasts (config : PoolConfig) (now time : Instant) : Prop :=
  time < now + seconds config.phaseClaimSeconds

/-- The row of a prepare claim, in a store that others may have written to. -/
structure PoolClaim.Prepares (config : PoolConfig) (now : Instant) (claim : PoolClaim)
    (store : PoolStore D) (bundle : ReadyWorkspaceBundle) : Prop where
  action : claim.action = .prepare
  stored : store.bundles.lookup claim.bundle = some bundle
  home : bundle.workspace = claim.workspace
  owner : bundle.phaseClaimOwner = some claim.owner
  lapse : bundle.phaseClaimUntil = some (now + seconds config.phaseClaimSeconds)
  storable : bundle.toBundleColumns.Storable
  state : bundle.state = .preparing ∨ bundle.state = .failed
  located : (claim.claimedWorkspace store).isSome = true
  lasts : config.Lasts now now
  bounded : config.maxAttempts ≤ readyPoolMaxAttempts

theorem Elsewhere.apply_located (change : Elsewhere D) {store : PoolStore D} {id : Uuid}
    (located : (store.db.workspaces.lookup id).isSome = true) :
    ((change.apply store).db.workspaces.lookup id).isSome = true := by
  cases change with
  | workspace other =>
    unfold Elsewhere.apply
    dsimp only
    split
    · exact located
    · by_cases same : id = other
      · rw [same, PoolStore.putWorkspace, Db.putWorkspace, AList.lookup_insert]
        rfl
      · rw [PoolStore.putWorkspace, Db.putWorkspace, AList.lookup_insert_ne same]
        exact located
  | credentials | profiles | executions => exact located
  | onboardingError =>
    unfold Elsewhere.apply
    dsimp only
    split
    · exact located
    · split
      · next saved =>
        obtain ⟨_, rfl⟩ := PoolStore.saveBundle_eq_ok saved
        exact located
      · exact located

section Held

variable {config : PoolConfig} {now time : Instant} {claim : PoolClaim} {store : PoolStore D}
  {bundle : ReadyWorkspaceBundle} {workspace : Workspace} {settings : PoolSettings}

theorem poolConfig_bounds (configured : poolConfig settings = .ok config) :
    config.maxAttempts ≤ readyPoolMaxAttempts ∧ 0 < config.phaseClaimSeconds := by
  unfold poolConfig at configured
  simp only [bind_eq_ok, require_eq_ok] at configured
  obtain ⟨_, _, _, _, configured⟩ := configured
  split at configured
  · simp only [bind_eq_ok, require_eq_ok, pure_eq_ok] at configured
    obtain ⟨_, attempts, _, _, rfl⟩ := configured
    exact ⟨attempts.2, Nat.lt_of_lt_of_le (by decide) (Nat.le_max_left ..)⟩
  · cases configured

theorem PoolClaim.Begins.prepares (begins : claim.Begins config now store bundle workspace)
    (action : claim.action = .prepare) (configured : poolConfig settings = .ok config) :
    claim.Prepares config now store bundle := by
  obtain ⟨bounded, positive⟩ := poolConfig_bounds configured
  refine ⟨action, begins.stored, begins.home, begins.owner, begins.lapse, begins.storable,
    (begins.prepare action).imp_right And.left, ?_,
    Nat.lt_add_of_pos_right (Nat.mul_pos positive (by decide)), bounded⟩
  rw [PoolClaim.claimedWorkspace, begins.located]
  rfl

namespace PoolClaim.Prepares

section

variable (prepares : claim.Prepares config now store bundle)

include prepares

theorem unassigned :
    bundle.state ≠ .assigned := by
  rcases prepares.state with state | state <;> rw [state] <;> decide

theorem change (changes : List (Elsewhere D)) :
    claim.Prepares config now (store.change changes) bundle := by
  have stored := PoolStore.change_bundle changes prepares.stored prepares.unassigned
  refine { prepares with stored := stored, located := ?_ }
  have located := prepares.located
  clear prepares stored
  induction changes generalizing store with
  | nil => exact located
  | cons change _ ih => exact ih (change.apply_located located)

theorem held (lasts : config.Lasts now time) :
    claim.held time store = some bundle := by
  rw [PoolClaim.held, prepares.stored, Option.filter_some, if_pos]
  refine decide_eq_true ⟨prepares.owner, ?_⟩
  rw [prepares.lapse, Option.any_some]
  exact decide_eq_true lasts

theorem lapsed (past : ¬ config.Lasts now time) : claim.held time store = none := by
  rw [PoolClaim.held, prepares.stored, Option.filter_some, if_neg]
  intro held
  have live := (of_decide_eq_true held).2
  rw [prepares.lapse, Option.any_some] at live
  have early : time < now + seconds config.phaseClaimSeconds := of_decide_eq_true live
  exact past early

end

section

variable {rewrite : ReadyWorkspaceBundle → Option BundleColumns}

theorem writes {columns : BundleColumns}
    {constrained : columns.Constrained} (prepares : claim.Prepares config now store bundle)
    (lasts : config.Lasts now time) (applies : rewrite bundle = some columns)
    (saves : store.saveBundle claim.bundle columns =
      .ok (store.putBundle claim.bundle ⟨columns, constrained⟩)) :
    claim.record time store rewrite =
      .ok (true, store.putBundle claim.bundle ⟨columns, constrained⟩) := by
  rw [PoolClaim.record, prepares.held lasts, Option.bind_some, applies]
  dsimp only
  rw [saves]
  rfl

theorem refuses (prepares : claim.Prepares config now store bundle)
    (refused : config.Lasts now time → rewrite bundle = none) :
    claim.record time store rewrite = .ok (false, store) := by
  have nothing : (claim.held time store).bind rewrite = none := by
    by_cases lasts : config.Lasts now time
    · rw [prepares.held lasts, Option.bind_some, refused lasts]
    · rw [prepares.lapsed lasts]
      rfl
  rw [PoolClaim.record, nothing]
  rfl

end

end PoolClaim.Prepares

end Held

/-! ## Stages -/

section Stages

variable {env : PoolEnv D} {settings : PoolSettings} {config : PoolConfig} {now : Instant}
  {claim : PoolClaim} {store : PoolStore D} {bundle : ReadyWorkspaceBundle} {row : Workspace}
  {clock : Nat → Instant}

end Stages

/-! ## A pass that succeeds -/

/-- The volume may be recorded as the blank one of the bundle. -/
def ReadyWorkspaceBundle.TakesVolume (bundle : ReadyWorkspaceBundle) (volume : String) : Prop :=
  bundle.state = .preparing ∧
    (bundle.blankVolumeRef = none ∨ bundle.blankVolumeRef = some volume)

def PoolStore.ShowsBlank (env : PoolEnv D) (time : Instant) (workspaceId : Uuid) (volume : String)
    (store : PoolStore D) : Prop :=
  ∃ workspace, store.db.workspaces.lookup workspaceId = some workspace ∧
    workspace.volumeRef = some volume ∧
    store.dbBlankReady env.foundry time workspaceId workspace true = true

def ReadyWorkspaceBundle.blankColumns (bundle : ReadyWorkspaceBundle) (volume : String) :
    BundleColumns :=
  { bundle.toBundleColumns with blankVolumeRef := some volume }

def ReadyWorkspaceBundle.readyColumns (bundle : ReadyWorkspaceBundle) (config : PoolConfig)
    (volume : String) (now : Instant) : BundleColumns :=
  { (bundle.blankColumns volume).renewed config now with
    state := .ready
    readyAt := some now }

section Success

variable {env : PoolEnv D} {settings : PoolSettings} {config : PoolConfig} {now time : Instant}
  {claim : PoolClaim} {store : PoolStore D} {bundle : ReadyWorkspaceBundle}
  {row : Workspace} {clock : Nat → Instant} {snapshot : PoolProviderSnapshot} {volume : String}

variable {workspaceId : Uuid}

theorem ReadyWorkspaceBundle.blank_idles (preparing : bundle.state = .preparing)
    (storable : bundle.toBundleColumns.Storable) (volume : String) :
    (bundle.blankColumns volume).Idles bundle :=
  ⟨rfl, rfl, rfl, bundle.constrained.attempts_bounded, bundle.constrained.claim_consistent, rfl,
    .inl preparing, storable.code⟩

theorem ReadyWorkspaceBundle.ready_constrained (unassigned : bundle.state ≠ .assigned)
    (volume : String) : (bundle.readyColumns config volume time).Constrained := by
  have constrained := bundle.constrained
  refine ⟨constrained.region_nonempty, constrained.release_nonempty, constrained.config_positive,
    Nat.zero_le _, rfl, ?_, fun _ => ⟨rfl, rfl, rfl⟩, ?_⟩
  · refine iff_of_false ReadyWorkspaceBundleState.noConfusion ?_
    intro timed
    exact unassigned (constrained.assignment_timestamp.mpr timed)
  · rintro (parks | sleeps)
    · cases parks
    · cases sleeps

structure PoolClaim.Accepts (env : PoolEnv D) (config : PoolConfig) (now time : Instant)
    (claim : PoolClaim) (store : PoolStore D) (bundle : ReadyWorkspaceBundle) (volume : String) :
    Prop where
  takes : bundle.TakesVolume volume
  lasts : config.Lasts now time
  shows : store.ShowsBlank env time claim.workspace volume

theorem recordBlankVolume_eq (nonempty : volume ≠ "") :
    claim.recordBlankVolume env.foundry time store (some volume) =
      claim.recordWith time store fun bundle workspace =>
        if bundle.workspace = claim.workspace ∧ bundle.state = .preparing ∧
            (bundle.blankVolumeRef = none ∨ bundle.blankVolumeRef = some volume) ∧
            workspace.volumeRef = some volume ∧
            store.dbBlankReady env.foundry time claim.workspace workspace true = true then
          some { bundle.toBundleColumns with blankVolumeRef := some volume }
        else none := by
  have filtered : (some volume).filter (· ≠ "") = some volume :=
    Option.filter_eq_some_iff.mpr ⟨rfl, decide_eq_true nonempty⟩
  rw [PoolClaim.recordBlankVolume, filtered]

section

variable (prepares : claim.Prepares config now store bundle)

include prepares

theorem PoolClaim.Prepares.records
    (accepts : claim.Accepts env config now time store bundle volume) (nonempty : volume ≠ "") :
    ∃ constrained, claim.recordBlankVolume env.foundry time store (some volume) =
      .ok (true, store.putBundle claim.bundle ⟨bundle.blankColumns volume, constrained⟩) := by
  obtain ⟨_, located, attached, blank⟩ := accepts.shows
  have idles := bundle.blank_idles accepts.takes.1 prepares.storable volume
  refine ⟨idles.constrained prepares.unassigned, ?_⟩
  rw [recordBlankVolume_eq nonempty]
  refine prepares.writes accepts.lasts ?_
    (idles.saves prepares.unassigned prepares.storable prepares.stored)
  rw [PoolClaim.claimedWorkspace, located, Option.bind_some]
  exact if_pos ⟨prepares.home, accepts.takes.1, accepts.takes.2, attached, blank⟩

theorem PoolClaim.Prepares.marks (accepts : claim.Accepts env config now time store bundle volume)
    (constrained : (bundle.blankColumns volume).Constrained) :
    ∃ ready, claim.markReady env.foundry config time
        (store.putBundle claim.bundle ⟨bundle.blankColumns volume, constrained⟩) =
      .ok (true, (store.putBundle claim.bundle ⟨bundle.blankColumns volume, constrained⟩).putBundle
        claim.bundle ⟨bundle.readyColumns config volume time, ready⟩) := by
  obtain ⟨workspace, located, attached, blank⟩ := accepts.shows
  have recorded : claim.Prepares config now
      (store.putBundle claim.bundle ⟨bundle.blankColumns volume, constrained⟩)
      ⟨bundle.blankColumns volume, constrained⟩ :=
    { action := prepares.action
      stored := AList.lookup_insert _
      home := prepares.home
      owner := prepares.owner
      lapse := prepares.lapse
      storable := ⟨prepares.storable.region, prepares.storable.release, prepares.storable.version,
        prepares.storable.attempts, prepares.storable.code⟩
      state := prepares.state
      located := prepares.located
      lasts := prepares.lasts
      bounded := prepares.bounded }
  have stays : claim.claimedWorkspace
      (store.putBundle claim.bundle ⟨bundle.blankColumns volume, constrained⟩) =
      some workspace := located
  refine ⟨bundle.ready_constrained prepares.unassigned volume, ?_⟩
  rw [PoolClaim.markReady, PoolClaim.recordWith]
  refine recorded.writes accepts.lasts ?_ (PoolStore.saveBundle_succeeds ?_ _ ?_ ?_)
  · rw [stays, Option.bind_some]
    exact if_pos ⟨prepares.home, accepts.takes.1, attached.symm, blank⟩
  · exact ⟨prepares.storable.region, prepares.storable.release, prepares.storable.version,
      Nat.zero_le _, rfl⟩
  · exact ReadyWorkspaceBundleState.noConfusion
  · rw [recorded.stored, Option.all_some]
    exact decide_eq_true prepares.unassigned

end

end Success

/-! ## A pass that fails -/

section Failure

variable {env : PoolEnv D} {settings : PoolSettings} {config : PoolConfig}
  {now time : Instant} {claim : PoolClaim} {store : PoolStore D} {bundle : ReadyWorkspaceBundle}
  {code : String}

section

variable (code : Option String) {fallback : String} (isSafe : isSafeCode fallback = true)

include isSafe

end

namespace PoolClaim.Prepares

section

variable (prepares : claim.Prepares config now store bundle)

include prepares

end

end PoolClaim.Prepares

/-- What a failure leaves after two more steps: the worker writes no more, and the count of the row
has grown or not. -/
structure PoolClaim.Settles (env : PoolEnv D) (claim : PoolClaim) (bundle : ReadyWorkspaceBundle)
    (charged : Prop) (settled : PoolWorker × PoolStore D) : Prop where
  quiet : ∀ later, (settled.1.goesOn env later settled.2).2 = settled.2
  counted : ∃ row, settled.2.bundles.lookup claim.bundle = some row ∧
    (bundle.attemptCount < row.attemptCount ↔ charged)

variable {exc : PoolRaised} {caughtAt first second : Instant} {point : PoolPoint} {charged : Prop}

theorem PoolClaim.Settles.of_done {worker : PoolWorker} {outcome : PoolOutcome}
    {row : ReadyWorkspaceBundle} (stored : store.bundles.lookup claim.bundle = some row)
    (counts : bundle.attemptCount < row.attemptCount ↔ charged) :
    claim.Settles env bundle charged (worker.moveTo (.done outcome), store) :=
  ⟨fun _ => rfl, row, stored, counts⟩

section

variable (prepares : claim.Prepares config now store bundle)

include prepares

end

end Failure

/-! ## Passes that make progress -/

section Progress

variable (env : PoolEnv D) (settings : PoolSettings) (config : PoolConfig) (now : Instant)
  (claim : PoolClaim) (claimed : PoolStore D) (bundle : ReadyWorkspaceBundle)
  (preparation : Preparation D)

def Preparation.leaves : Option ReadyWorkspaceBundle :=
  ((claim.worker settings config now).attend env claimed
    preparation.turns).2.bundles.lookup claim.bundle

variable {env settings config now claim claimed bundle}

end Progress

end Foundry
