import Foundry.Fleet.Moves

/-!
# The transactions of the power workers

Each transaction of the power workers is a `RowMove` of one row, with what it does to the
intents that wait for the operation of that row.
-/

set_option autoImplicit false

namespace Foundry

open Raise

variable {D : Type}

/-! ## Intents that follow a row -/

def RuntimeOperationState.isWaking : RuntimeOperationState → Bool
  | .requested | .starting | .awaitingReadiness => true
  | .idle | .stopping => false

/-- The intent waits for the operation that the row names, and that is a start. -/
structure Workspace.Tracks (workspace : Workspace) (intent : RuntimeIntent) : Prop where
  operation : intent.coalescedOperationId = workspace.runtimeOperationId
  named : workspace.runtimeOperationId.isSome = true
  waking : workspace.runtimeOperationState.isWaking = true

theorem Workspace.Tracks.dressed {workspace later : Workspace} {intent : RuntimeIntent}
    (tracks : workspace.Tracks intent) (dressing : workspace.Dresses later) :
    later.Tracks intent := by
  obtain ⟨operation, named, waking⟩ := tracks
  rw [← dressing.operation] at operation named
  rw [← dressing.state] at waking
  exact ⟨operation, named, waking⟩

/-- The WAKING intents after a row of Workspace `id` moved. -/
def IntentsFollow (id : Uuid) (workspace later : Workspace)
    (intents next : Table (Uuid × Uuid) RuntimeIntent) : Prop :=
  ∀ key intent, next.lookup key = some intent → intent.outcome = .waking →
    (intents.lookup key = some intent ∧
      (key.1 = id → workspace.Tracks intent → later.Tracks intent)) ∨
    (key.1 = id ∧ later.Tracks intent)

namespace IntentsFollow

variable {id : Uuid} {workspace later : Workspace} {intents : Table (Uuid × Uuid) RuntimeIntent}

theorem kept (tracks : ∀ intent, workspace.Tracks intent → later.Tracks intent) :
    IntentsFollow id workspace later intents intents :=
  fun _ intent stored _ => .inl ⟨stored, fun _ => tracks intent⟩

theorem dressed (dressing : workspace.Dresses later) :
    IntentsFollow id workspace later intents intents :=
  kept fun _ tracks => tracks.dressed dressing

theorem asleep (state : workspace.runtimeOperationState.isWaking = false) :
    IntentsFollow id workspace later intents intents := by
  refine kept fun intent tracks => ?_
  have waking := tracks.waking
  rw [state] at waking
  cases waking

theorem settled (outcome : RuntimeIntentOutcome) (final : outcome ≠ .waking) :
    IntentsFollow id workspace later intents
      (settleIntents id workspace.runtimeOperationId outcome intents) := by
  intro key intent stored waking
  simp only [settleIntents, Table.lookup_updateAll, Option.map_eq_some_iff] at stored
  obtain ⟨_, found, rfl⟩ := stored
  split at waking
  · exact absurd waking final
  · next other =>
    rw [if_neg other]
    refine .inl ⟨found, ?_⟩
    intro same tracks
    exact absurd ⟨same, tracks.operation, waking⟩ other

theorem inserted (keyId : Uuid) (intent : RuntimeIntent)
    (follows : IntentsFollow id workspace later intents intents)
    (tracked : intent.outcome = .waking → later.Tracks intent) :
    IntentsFollow id workspace later intents (intents.insert (id, keyId) intent) := by
  intro key other stored waking
  rw [Table.lookup_insert_eq] at stored
  split at stored
  · next same =>
    rw [Option.some.injEq] at stored
    subst stored same
    exact .inr ⟨rfl, tracked waking⟩
  · exact follows key other stored waking

end IntentsFollow

/-! ## Stores -/

/-- Every row of the store moved, and every WAKING intent still waits for what it waited for
or waits for its row. -/
structure PowerDb.Moves (actor : Actor D) (store next : PowerDb D) : Prop where
  /-- Only a call of the system writes anything but Workspace rows. -/
  work : (∃ operation, actor = .caller operation) ∨
    next.db = { store.db with workspaces := next.db.workspaces, supply := next.db.supply }
  supply : store.db.supply ≤ next.db.supply
  numbered : next.db.WorkspacesNumbered
  row : ∀ id workspace, store.db.workspaces.lookup id = some workspace →
    ∃ later, next.db.workspaces.lookup id = some later ∧
      RowMove store.db.supply next.db.supply id actor workspace later
  new : ∀ id later, next.db.workspaces.lookup id = some later →
    store.db.workspaces.lookup id = none →
    ∃ tenantRef, (Workspace.registered tenantRef).Dresses later
  intent : ∀ key intent, next.intents.lookup key = some intent → intent.outcome = .waking →
    (store.intents.lookup key = some intent ∧
      ∀ workspace, store.db.workspaces.lookup key.1 = some workspace →
        workspace.Tracks intent →
        ∃ later, next.db.workspaces.lookup key.1 = some later ∧ later.Tracks intent) ∨
    ∃ later, next.db.workspaces.lookup key.1 = some later ∧ later.Tracks intent

namespace PowerDb.Moves

variable {actor : Actor D} {store next : PowerDb D}

theorem of_same (numbered : store.db.WorkspacesNumbered)
    (written : next.db = { store.db with supply := next.db.supply })
    (supply : store.db.supply ≤ next.db.supply)
    (intents : ∀ key intent, next.intents.lookup key = some intent → intent.outcome = .waking →
      store.intents.lookup key = some intent) : Moves actor store next := by
  have same : next.db.workspaces = store.db.workspaces := by rw [written]
  refine ⟨.inr (by rw [written]), supply, ?_, ?_, ?_, ?_⟩
  · intro id workspace stored
    rw [same] at stored
    exact Nat.lt_of_lt_of_le (numbered id workspace stored) supply
  · intro id workspace stored
    exact ⟨workspace, by rw [same]; exact stored, .refl _ _ _ _ _⟩
  · intro id later stored unknown
    rw [same, unknown] at stored
    cases stored
  · intro key intent stored waking
    refine .inl ⟨intents key intent stored waking, ?_⟩
    intro workspace found tracks
    exact ⟨workspace, by rw [same]; exact found, tracks⟩

theorem refl (numbered : store.db.WorkspacesNumbered) : Moves actor store store :=
  of_same numbered rfl (Nat.le_refl _) fun _ _ stored _ => stored

theorem of_row (work : (∃ operation, actor = .caller operation) ∨
      next.db = { store.db with workspaces := next.db.workspaces, supply := next.db.supply })
    (numbered : store.db.WorkspacesNumbered) (id : Uuid) (workspace later : Workspace)
    (stored : store.db.workspaces.lookup id = some workspace)
    (same : next.db.workspaces = store.db.workspaces.insert id later)
    (supply : store.db.supply ≤ next.db.supply)
    (move : RowMove store.db.supply next.db.supply id actor workspace later)
    (follows : IntentsFollow id workspace later store.intents next.intents) :
    Moves actor store next := by
  have written : next.db.workspaces.lookup id = some later := by
    rw [same, Table.lookup_insert_eq, if_pos rfl]
  have others : ∀ other, other ≠ id →
      next.db.workspaces.lookup other = store.db.workspaces.lookup other := by
    intro other different
    rw [same, Table.lookup_insert_eq, if_neg different]
  refine ⟨work, supply, ?_, ?_, ?_, ?_⟩
  · intro other row found
    by_cases isSame : other = id
    · exact Nat.lt_of_lt_of_le (isSame ▸ numbered id workspace stored) supply
    · rw [others other isSame] at found
      exact Nat.lt_of_lt_of_le (numbered other row found) supply
  · intro other row found
    by_cases isSame : other = id
    · subst isSame
      cases stored.symm.trans found
      exact ⟨later, written, move⟩
    · exact ⟨row, by rw [others other isSame]; exact found, .refl _ _ _ _ _⟩
  · intro other row found unknown
    by_cases isSame : other = id
    · rw [isSame, stored] at unknown
      cases unknown
    · rw [others other isSame, unknown] at found
      cases found
  · intro key intent found waking
    rcases follows key intent found waking with ⟨known, follow⟩ | ⟨same, tracks⟩
    · refine .inl ⟨known, ?_⟩
      intro row present tracks
      by_cases isSame : key.1 = id
      · rw [isSame, stored, Option.some.injEq] at present
        subst present
        exact ⟨later, by rw [isSame]; exact written, follow isSame tracks⟩
      · exact ⟨row, by rw [others key.1 isSame]; exact present, tracks⟩
    · exact .inr ⟨later, by rw [same]; exact written, tracks⟩

theorem of_put (numbered : store.db.WorkspacesNumbered) (id : Uuid) (workspace later : Workspace)
    (stored : store.db.workspaces.lookup id = some workspace) (written : next.db = { store.db with
      workspaces := store.db.workspaces.insert id later, supply := next.db.supply })
    (supply : store.db.supply ≤ next.db.supply)
    (move : RowMove store.db.supply next.db.supply id actor workspace later)
    (follows : IntentsFollow id workspace later store.intents next.intents) :
    Moves actor store next :=
  of_row (.inr (by rw [written])) numbered id workspace later stored (by rw [written]) supply move
    follows

end PowerDb.Moves

/-! ## Failure -/

section Failure

variable (env : Env D) (now : Instant) (id : Uuid) (retryExecution clearKeepWarm : Bool)
variable (workspace : Workspace) (store : PowerDb D)

theorem markOperationFailedLocked_writes :
    ∃ later, (markOperationFailedLocked env now id retryExecution clearKeepWarm workspace
          store).db = { store.db with
            workspaces := store.db.workspaces.insert id later
            supply := (markOperationFailedLocked env now id retryExecution clearKeepWarm workspace
              store).db.supply } ∧
      (markOperationFailedLocked env now id retryExecution clearKeepWarm workspace
          store).intents =
        (if workspace.runtimeOperationId.isSome then
          settleIntents id workspace.runtimeOperationId .failed store.intents
        else store.intents) ∧
      store.db.supply ≤ (markOperationFailedLocked env now id retryExecution clearKeepWarm
        workspace store).db.supply ∧
      ((later = workspace.retried now store.db.supply ∧
          workspace.runtimeOperationRetryCount < executionWakeMaxRetries ∧
          store.db.supply < (markOperationFailedLocked env now id retryExecution clearKeepWarm
            workspace store).db.supply) ∨
        later = workspace.abandoned clearKeepWarm) := by
  simp only [markOperationFailedLocked]
  split
  · next retried =>
    have below := (of_decide_eq_true retried).2.2
    refine ⟨workspace.retried now store.db.supply, ?_, ?_, ?_, .inl ⟨rfl, below, ?_⟩⟩ <;>
      simp only [setOnboardingErrorLocked] <;> repeat' split
    all_goals first | rfl | exact Nat.le_succ _ | exact Nat.lt_succ_self _
  · refine ⟨workspace.abandoned clearKeepWarm, ?_, ?_, ?_, .inr rfl⟩ <;>
      simp only [setOnboardingErrorLocked] <;> repeat' split
    all_goals rfl

variable {id workspace store}

variable {actor : Actor D}

theorem markOperationFailedLocked_moves (numbered : store.db.WorkspacesNumbered)
    (stored : store.db.workspaces.lookup id = some workspace)
    (active : workspace.runtimeOperationState ≠ .idle ∨
      workspace.runtimeOperationId.isSome = true) :
    store.Moves actor (markOperationFailedLocked env now id retryExecution clearKeepWarm workspace
      store) := by
  obtain ⟨later, rows, intents, supply, cases⟩ :=
    markOperationFailedLocked_writes env now id retryExecution clearKeepWarm workspace store
  refine .of_put numbered id workspace later stored rows supply ?_ ?_
  · rcases cases with ⟨rfl, below, drawn⟩ | rfl
    · exact .retries now store.db.supply ⟨Nat.le_refl _, drawn⟩ active below rfl
    · exact .abandons clearKeepWarm rfl
  · rw [intents]
    split
    · exact .settled .failed (by decide)
    · next unnamed =>
      refine .kept fun intent tracks => ?_
      exact absurd tracks.named unnamed

theorem markOperationFailed_moves (claim : OperationClaim)
    (numbered : store.db.WorkspacesNumbered) :
    store.Moves actor (markOperationFailed env now claim retryExecution clearKeepWarm store) := by
  simp only [markOperationFailed]
  split
  · next found =>
    obtain ⟨stored, current⟩ := Option.filter_eq_some_iff.mp found
    have named := (of_decide_eq_true current).1
    exact markOperationFailedLocked_moves env now retryExecution clearKeepWarm numbered stored
      (.inr (by rw [named]; rfl))
  · exact .refl numbered

end Failure

/-! ## Starts, stops and recoveries -/

section

variable (claim : OperationClaim) (state : RuntimeOperationState) (store : PowerDb D)
  (workspace : Workspace)

theorem ownedOperation_eq_ok :
    ownedOperation claim state store = .ok workspace ↔
      store.db.workspaces.lookup claim.workspace = some workspace ∧
        claim.isCurrent workspace = true ∧ workspace.runtimeOperationState = state := by
  simp only [ownedOperation, bind_eq_ok, orRaise_eq_ok, require_eq_ok, pure_eq_ok]
  constructor
  · rintro ⟨_, stored, _, owned, rfl⟩
    exact ⟨stored, owned⟩
  · rintro ⟨stored, owned⟩
    exact ⟨workspace, stored, (), owned, rfl⟩

theorem sameExpiredClaim_eq_some :
    sameExpiredClaim claim state store = some workspace ↔
      store.db.workspaces.lookup claim.workspace = some workspace ∧
        claim.isCurrent workspace = true ∧ workspace.runtimeOperationState = state := by
  simp only [sameExpiredClaim, Option.filter_eq_some_iff, decide_eq_true_eq]

end

theorem advanceRuntimeStartEpochLocked_eq_ok {workspace advanced : Workspace} :
    advanceRuntimeStartEpochLocked workspace = .ok advanced ↔
      workspace.runtimeStartEpoch < 2 ^ 63 - 1 ∧
        advanced = { workspace.forgetReadiness with
          runtimeStartEpoch := workspace.runtimeStartEpoch + 1 } := by
  simp only [advanceRuntimeStartEpochLocked, bind_eq_ok, require_eq_ok, pure_eq_ok]
  constructor
  · rintro ⟨_, below, rfl⟩
    exact ⟨below, rfl⟩
  · rintro ⟨below, rfl⟩
    exact ⟨(), below, rfl⟩

section Transactions

variable {actor : Actor D} {store next : PowerDb D}

theorem claimRequestedOperation_moves (env : Env D) (now : Instant) (id : Uuid)
    (numbered : store.db.WorkspacesNumbered) :
    store.Moves actor (claimRequestedOperation env now id store).2 := by
  simp only [claimRequestedOperation]
  split
  · exact .refl numbered
  · next workspace found =>
    obtain ⟨stored, claimable⟩ := Option.filter_eq_some_iff.mp found
    split
    · next named _ =>
      split
      · exact markOperationFailedLocked_moves env now false false numbered stored
          (.inr (by rw [named]; rfl))
      · refine .of_put numbered id workspace _ stored rfl (Nat.le_succ _)
          (.claimsStart now store.db.supply (.only _) claimable rfl) (.kept ?_)
        rintro _ ⟨operation, named, _⟩
        exact ⟨operation, named, rfl⟩
    · exact .refl numbered

theorem prepareStart_moves (now : Instant) (frame : WakeFrame)
    (numbered : store.db.WorkspacesNumbered)
    (success : prepareStart now frame.claim store = .ok next) :
    store.Moves (.worker (.prepareStart frame)) next := by
  simp only [prepareStart, bind_eq_ok, ownedOperation_eq_ok, pure_eq_ok] at success
  obtain ⟨workspace, ⟨stored, current, state⟩, _, advances, rfl⟩ := success
  have moved := advances
  rw [advanceRuntimeStartEpochLocked_eq_ok] at moved
  obtain ⟨_, rfl⟩ := moved
  refine .of_put numbered frame.claim.workspace workspace _ stored rfl (Nat.le_refl _)
    (.preparesStart frame _ rfl rfl current state advances ?_) (.kept ?_)
  · exact ⟨rfl, rfl, Nat.le_refl _, id, rfl, rfl, rfl, rfl, rfl, rfl, .inl, rfl, rfl, rfl, rfl,
      .inl rfl⟩
  · rintro _ ⟨operation, named, waking⟩
    exact ⟨operation, named, waking⟩

theorem markAwaitingReadiness_moves (claim : OperationClaim)
    (numbered : store.db.WorkspacesNumbered)
    (success : markAwaitingReadiness claim store = .ok next) :
    store.Moves (.worker (.markAwaiting claim)) next := by
  simp only [markAwaitingReadiness, bind_eq_ok, ownedOperation_eq_ok, pure_eq_ok] at success
  obtain ⟨workspace, ⟨stored, current, state⟩, rfl⟩ := success
  refine .of_put numbered claim.workspace workspace _ stored rfl (Nat.le_refl _)
    (.marksAwaiting claim rfl rfl current state rfl) (.kept ?_)
  rintro _ ⟨operation, named, _⟩
  exact ⟨operation, named, rfl⟩

theorem expireUnacknowledgedReadiness_moves (env : Env D) (settings : PowerSettings)
    (now : Instant) (id : Uuid) (numbered : store.db.WorkspacesNumbered) :
    store.Moves actor (expireUnacknowledgedReadiness env settings now id store) := by
  simp only [expireUnacknowledgedReadiness]
  split
  · next found =>
    obtain ⟨stored, overdue⟩ := Option.filter_eq_some_iff.mp found
    refine markOperationFailedLocked_moves env now true false numbered stored (.inl ?_)
    rw [(of_decide_eq_true overdue).1]
    decide
  · exact .refl numbered

section

variable (settings : PowerSettings) (now : Instant)

theorem claimIdleOperation_moves (id : Uuid)
    (numbered : store.db.WorkspacesNumbered) :
    store.Moves actor (claimIdleOperation settings now id store).2 := by
  simp only [claimIdleOperation]
  split
  · exact .refl numbered
  · next workspace found =>
    obtain ⟨stored, candidate⟩ := Option.filter_eq_some_iff.mp found
    obtain ⟨_, state, _, _, _, binding, _⟩ := of_decide_eq_true candidate
    refine .of_put numbered id workspace _ stored rfl (Nat.le_add_right _ 2)
      (.claimsStop now store.db.supply (store.db.supply + 1) (.first _) (.second _)
        state (of_decide_eq_true binding).1 rfl) (.asleep ?_)
    rw [state]
    rfl

theorem prepareStop_moves (claim : OperationClaim)
    (numbered : store.db.WorkspacesNumbered)
    (success : prepareStop settings now claim store = .ok next) : store.Moves actor next := by
  simp only [prepareStop, bind_eq_ok, ownedOperation_eq_ok, require_eq_ok, pure_eq_ok] at success
  obtain ⟨workspace, ⟨stored, current, state⟩, _, _, advanced, advances, rfl⟩ := success
  refine .of_put numbered claim.workspace workspace _ stored rfl (Nat.le_refl _)
    (.preparesStop claim advanced current state advances rfl) (.asleep ?_)
  rw [state]
  rfl

end

section

variable (claim : OperationClaim) (numbered : store.db.WorkspacesNumbered)

include numbered

theorem finalizeStop_moves
    (success : finalizeStop claim store = .ok next) : store.Moves actor next := by
  simp only [finalizeStop, bind_eq_ok, ownedOperation_eq_ok, pure_eq_ok] at success
  obtain ⟨workspace, ⟨stored, _, state⟩, rfl⟩ := success
  refine .of_put numbered claim.workspace workspace _ stored rfl (Nat.le_refl _)
    (.stops state rfl) (.asleep ?_)
  rw [state]
  rfl

theorem recoverStartAsAwaiting_moves :
    store.Moves (.worker (.recoverStartAsAwaiting claim)) (recoverStartAsAwaiting claim store) := by
  simp only [recoverStartAsAwaiting]
  split
  · next workspace found =>
    obtain ⟨stored, current, state⟩ := (sameExpiredClaim_eq_some _ _ _ _).mp found
    refine .of_put numbered claim.workspace workspace _ stored rfl (Nat.le_refl _)
      (.recoversAwaiting claim rfl rfl current state rfl) (.kept ?_)
    rintro _ ⟨operation, named, _⟩
    exact ⟨operation, named, rfl⟩
  · exact .refl numbered

theorem recoverStartAsRequested_moves :
    store.Moves actor (recoverStartAsRequested claim store) := by
  simp only [recoverStartAsRequested]
  split
  · next workspace found =>
    obtain ⟨stored, _, state⟩ := (sameExpiredClaim_eq_some _ _ _ _).mp found
    refine .of_put numbered claim.workspace workspace _ stored rfl (Nat.le_refl _)
      (.recoversRequested state rfl) (.kept ?_)
    rintro _ ⟨operation, named, _⟩
    exact ⟨operation, named, rfl⟩
  · exact .refl numbered

theorem recoverStopAsFinished_moves
    (success : recoverStopAsFinished claim store = .ok next) : store.Moves actor next := by
  simp only [recoverStopAsFinished] at success
  split at success
  · next workspace found =>
    obtain ⟨stored, _, state⟩ := (sameExpiredClaim_eq_some _ _ _ _).mp found
    simp only [bind_eq_ok, pure_eq_ok] at success
    obtain ⟨advanced, advances, rfl⟩ := success
    refine .of_put numbered claim.workspace workspace _ stored rfl (Nat.le_refl _)
      (.finishesStop advanced state advances rfl) (.asleep ?_)
    rw [state]
    rfl
  · simp only [pure_eq_ok] at success
    exact success ▸ .refl numbered

end

theorem recoverStopAsClaimed_moves (now : Instant) (claim : OperationClaim)
    (numbered : store.db.WorkspacesNumbered) :
    store.Moves actor (recoverStopAsClaimed now claim store).2 := by
  simp only [recoverStopAsClaimed]
  split
  · next workspace found =>
    obtain ⟨stored, _, state⟩ := (sameExpiredClaim_eq_some _ _ _ _).mp found
    refine .of_put numbered claim.workspace workspace _ stored rfl (Nat.le_add_right _ 2)
      (.reclaimsStop now store.db.supply (store.db.supply + 1) (.first _) (.second _)
        state rfl) (.asleep ?_)
    rw [state]
    rfl
  · exact .refl numbered

theorem clearExpiredOperation_moves (env : Env D) (now : Instant) (id : Uuid)
    (numbered : store.db.WorkspacesNumbered) :
    store.Moves actor (clearExpiredOperation env now id store) := by
  simp only [clearExpiredOperation]
  split
  · next found =>
    obtain ⟨stored, claimed⟩ := Option.filter_eq_some_iff.mp found
    exact markOperationFailedLocked_moves env now false false numbered stored
      (.inr (of_decide_eq_true claimed).1)
  · exact .refl numbered

/-! ## Releases and activations -/

theorem recordAppliedImages_moves (id : Uuid) (machine : MachineRecord) (images : Images)
    (numbered : store.db.WorkspacesNumbered) :
    store.Moves actor (recordAppliedImages id machine images store) := by
  simp only [recordAppliedImages]
  split
  · next workspace found =>
    obtain ⟨stored, _⟩ := Option.filter_eq_some_iff.mp found
    have dressing : workspace.Dresses { workspace with appliedImages := images } :=
      ⟨rfl, rfl, Nat.le_refl _, fun known => known, rfl, rfl, rfl, rfl, rfl, rfl, .inl, rfl, rfl,
        rfl, rfl, .inl rfl⟩
    exact .of_put numbered id workspace _ stored rfl (Nat.le_refl _) (.dressed dressing)
      (.dressed dressing)
  · exact .refl numbered

theorem claimedRelease_tracks (now : Instant) (operationId token : Uuid) (pin : ReleasePin)
    (workspace : Workspace) (intent : RuntimeIntent) (tracks : workspace.Tracks intent) :
    (workspace.claimedRelease now operationId token pin).Tracks intent := by
  obtain ⟨operation, named, _⟩ := tracks
  refine ⟨?_, rfl, rfl⟩
  cases known : workspace.runtimeOperationId with
  | none =>
    rw [known] at named
    cases named
  | some => simp [Workspace.claimedRelease, operation, known]

section

variable (settings : PowerSettings) (now : Instant) (id : Uuid) (machine : Option MachineRecord)
  (images : Images)

theorem pinRelease_eq_some (onWake : Bool) (workspace : Workspace)
    (db : Db D) (pin : ReleasePin) (advanced : Workspace)
    (success : pinRelease settings now id machine images onWake workspace db =
      .ok (some (pin, advanced))) :
    workspace.provisioningPhase = .idle ∧ workspace.machineRef.isSome = true ∧
      advanceRuntimeStartEpochLocked workspace = .ok advanced := by
  simp only [pinRelease] at success
  split at success
  · simp only [pure_eq_ok] at success
    cases success
  · next idle =>
    simp only [bind_eq_ok, orRaise_eq_ok, require_eq_ok] at success
    obtain ⟨_, _, _, _, _, ⟨bound, _⟩, _, _, success⟩ := success
    split at success
    · simp only [pure_eq_ok] at success
      cases success
    · split at success
      · simp only [pure_eq_ok] at success
        cases success
      · split at success
        · simp only [pure_eq_ok] at success
          cases success
        · simp only [bind_eq_ok, require_eq_ok] at success
          obtain ⟨_, _, success⟩ := success
          split at success
          · simp only [throw_eq_ok] at success
          · next advances =>
            simp only [pure_eq_ok, Option.some.injEq, Prod.mk.injEq] at success
            obtain ⟨_, rfl⟩ := success
            exact ⟨not_not.mp idle, by rw [bound]; rfl, advances⟩

theorem claimRelease_moves (wakeClaim : Option OperationClaim)
    (token : Option Uuid) (numbered : store.db.WorkspacesNumbered)
    (success : claimRelease settings now id machine images wakeClaim store = .ok (token, next)) :
    store.Moves actor next := by
  simp only [claimRelease, bind_eq_ok, orRaise_eq_ok, require_eq_ok] at success
  obtain ⟨workspace, stored, _, _, _, _, success⟩ := success
  split at success
  · simp only [return_eq_ok] at success
    exact success.2 ▸ .refl numbered
  · split at success
    · next pin pinned =>
      cases success
      exact .of_put numbered id workspace _ stored rfl (Nat.le_add_right _ 2)
        (.resumesRelease now store.db.supply (store.db.supply + 1) pin (.first _) (.second _)
          pinned rfl)
        (.kept (claimedRelease_tracks now _ _ pin workspace))
    · next unpinned =>
      simp only [bind_eq_ok] at success
      obtain ⟨_, pins, success⟩ := success
      split at success
      · simp only [return_eq_ok] at success
        exact success.2 ▸ .refl numbered
      · next pin _ =>
        cases success
        obtain ⟨idle, bound, advances⟩ := pinRelease_eq_some _ _ _ _ _ _ _ _ _ _ pins
        have moved := advances
        rw [advanceRuntimeStartEpochLocked_eq_ok] at moved
        obtain ⟨_, rfl⟩ := moved
        refine .of_put numbered id workspace _ stored rfl (Nat.le_add_right _ 2)
          (.pinsRelease now store.db.supply (store.db.supply + 1) pin _ (.first _)
            (.second _) unpinned idle bound advances rfl) (.kept ?_)
        intro intent tracks
        exact claimedRelease_tracks now _ _ pin _ intent
          ⟨tracks.operation, tracks.named, tracks.waking⟩

end

theorem claimActivation_moves (now : Instant) (id : Uuid) (token : Option Uuid)
    (numbered : store.db.WorkspacesNumbered)
    (success : claimActivation now id store = .ok (token, next)) : store.Moves actor next := by
  simp only [claimActivation, bind_eq_ok, orRaise_eq_ok, require_eq_ok] at success
  obtain ⟨workspace, stored, _, _, success⟩ := success
  split at success
  · simp only [return_eq_ok] at success
    exact success.2 ▸ .refl numbered
  · next free =>
    cases success
    have state : workspace.runtimeOperationState ≠ .starting ∧
        workspace.runtimeOperationState ≠ .stopping :=
      ⟨fun starting => free (.inl starting), fun stopping => free (.inr (.inl stopping))⟩
    refine .of_put numbered id workspace _ stored rfl (Nat.le_succ _)
      (.claimsActivation now store.db.supply (.only _) state rfl) (.kept ?_)
    rintro _ ⟨operation, named, waking⟩
    exact ⟨operation, named, waking⟩

theorem releaseActivationClaim_moves (id token : Uuid) (numbered : store.db.WorkspacesNumbered)
    (owner : actor = .worker (.activating id token) ∨
      ∃ wake raised, actor = .worker (.releaseClaim id wake token raised)) :
    store.Moves actor (releaseActivationClaim id token store) := by
  simp only [releaseActivationClaim]
  split
  · next workspace found =>
    obtain ⟨stored, held⟩ := Option.filter_eq_some_iff.mp found
    refine .of_put numbered id workspace _ stored rfl (Nat.le_refl _)
      (.clearsClaim token (of_decide_eq_true held) owner rfl) (.kept ?_)
    rintro _ ⟨operation, named, waking⟩
    exact ⟨operation, named, waking⟩
  · exact .refl numbered

end Transactions

end Foundry
