import Foundry.Evolution.ClaimRows
import Foundry.Evolution.Receipts

/-!
# The life cycle of a profile

A profile is fenced when a cleanup or a deletion of it is requested.  From then on it is
never ACTIVE, no lease is granted for it, and it ends DEPROVISIONED or in repair, or is
deleted.  Only a cleanup that requires quiescence, which is the one of a deletion, has an
attempt and a proof.
-/

set_option autoImplicit false

namespace Foundry

open Raise

variable {D : Type}

def RuntimeProfile.isFenced (profile : RuntimeProfile D) : Bool :=
  match profile.lifecycleState with
  | .pending | .active => false
  | .cleanupPending | .deprovisioned | .repairRequired => true

structure RuntimeProfile.Ages (profile later : RuntimeProfile D) : Prop where
  epoch : profile.lifecycleEpoch ≤ later.lifecycleEpoch
  fenced : profile.isFenced = true → later.isFenced = true

theorem RuntimeProfile.Ages.refl (profile : RuntimeProfile D) : profile.Ages profile :=
  ⟨Nat.le_refl _, fun fenced => fenced⟩

theorem RuntimeProfile.Ages.trans {first second third : RuntimeProfile D}
    (earlier : first.Ages second) (later : second.Ages third) : first.Ages third :=
  ⟨Nat.le_trans earlier.epoch later.epoch, fun fenced => later.fenced (earlier.fenced fenced)⟩

def profileRecords : Records (Db D) Uuid (RuntimeProfile D) where
  find := fun db id => db.profiles.lookup id
  Gone := Db.ProfileDeleted

def Db.ProfileFenced (db : Db D) (id : Uuid) : Prop :=
  db.ProfileDeleted id ∨ ∃ profile, db.profiles.lookup id = some profile ∧ profile.isFenced = true

/-- A profile is fenced exactly when it has a cleanup operation, and requires quiescence
only then. -/
structure RuntimeProfile.Fences (profile : RuntimeProfile D) : Prop where
  operation : profile.isFenced = true ↔ profile.cleanupOperationId ≠ none
  quiescence : profile.cleanupRequiresQuiescence = true → profile.cleanupOperationId ≠ none

section Steps

variable {env : Env D} {call : Call D} {start db : Db D} {id : Uuid}
  {profile later : RuntimeProfile D}

section

variable (step : ProfileStep env call start db id profile later)

include step

theorem ProfileStep.ages :
    profile.Ages later := by
  cases step with
  | materialize _ _ _ _ _ _ _ _ _ _ unfenced =>
    refine ⟨Nat.le_refl _, ?_⟩
    intro fenced
    rcases unfenced with state | state <;> simp [RuntimeProfile.isFenced, state] at fenced
  | requestCleanup | delete => exact ⟨Nat.le_succ _, fun _ => rfl⟩
  | deprovision | repair => exact ⟨Nat.le_refl _, fun _ => rfl⟩
  | observe =>
    simp only [observeDeadline]
    split
    · exact ⟨Nat.le_refl _, fun _ => rfl⟩
    · exact .refl profile
  | seed | retry => exact ⟨Nat.le_refl _, fun fenced => fenced⟩

theorem ProfileStep.fences
    (fences : profile.Fences) : later.Fences := by
  cases step with
  | materialize _ _ _ _ _ _ _ _ _ _ unfenced =>
    have unset : profile.cleanupOperationId = none := by
      by_contra set
      have fenced := fences.operation.mpr set
      rcases unfenced with state | state <;> simp [RuntimeProfile.isFenced, state] at fenced
    refine ⟨?_, fences.quiescence⟩
    simp [RuntimeProfile.isFenced, unset]
  | requestCleanup | delete => exact ⟨by simp [RuntimeProfile.isFenced], by simp⟩
  | deprovision _ _ _ _ _ _ _ _ _ _ operates =>
    exact ⟨by simp [RuntimeProfile.isFenced, operates], by simp [operates]⟩
  | repair _ _ begun =>
    have set : profile.cleanupOperationId ≠ none := by
      rcases begun with set | pending
      · exact set
      · exact fences.operation.mp (by simp [RuntimeProfile.isFenced, pending])
    exact ⟨by simpa [RuntimeProfile.isFenced, RuntimeProfile.requireRepair] using set,
      fun _ => set⟩
  | observe _ quiescing =>
    have set := fences.quiescence quiescing
    simp only [observeDeadline]
    split
    · exact ⟨by simpa [RuntimeProfile.isFenced] using set, fun _ => set⟩
    · exact fences
  | seed | retry => exact ⟨fences.operation, fences.quiescence⟩

end

end Steps

section Writes

variable [DecidableEq D] {env : Env D} {call : Call D} {start db next : Db D}

section

variable (write : Write env call start db next)

include write

theorem Write.profilesAge :
    profileRecords.Continues RuntimeProfile.Ages db next where
  kept := by
    intro id profile stored
    rcases write.profileKept id profile stored with ⟨later, present, _⟩ | deleted
    · refine .inl ⟨later, present, ?_⟩
      have isStored : db.profiles.lookup id = some profile := stored
      cases write.profileSource id later present with
      | kept found =>
        obtain rfl := Option.some.inj (found.symm.trans isStored)
        exact .refl later
      | stepped _ found step =>
        obtain rfl := Option.some.inj (found.symm.trans isStored)
        exact step.ages
      | forgotten _ found _ forgets =>
        obtain rfl := Option.some.inj (found.symm.trans isStored)
        subst forgets
        exact ⟨Nat.le_refl _, fun fenced => fenced⟩
      | created _ _ _ _ _ unknown =>
        rw [unknown] at isStored
        cases isStored
    · exact .inr deleted
  gone := write.staysDeleted

theorem Write.profilesFence
    (fences : ∀ id profile, db.profiles.lookup id = some profile → profile.Fences)
    (id : Uuid) (later : RuntimeProfile D) (present : next.profiles.lookup id = some later) :
    later.Fences := by
  cases write.profileSource id later present with
  | kept stored => exact fences id later stored
  | stepped profile stored step => exact step.fences (fences id profile stored)
  | forgotten profile stored _ forgets =>
    subst forgets
    exact ⟨(fences id profile stored).operation, (fences id profile stored).quiescence⟩
  | created _ _ _ _ _ _ _ _ isPending =>
    subst isPending
    exact ⟨by simp [RuntimeProfile.isFenced, RuntimeProfile.pending],
      by simp [RuntimeProfile.pending]⟩

theorem Write.staysFenced (id : Uuid) (fenced : db.ProfileFenced id) : next.ProfileFenced id := by
  rcases fenced with deleted | ⟨profile, stored, isFenced⟩
  · exact .inl (write.staysDeleted id deleted)
  · rcases write.profilesAge.kept id profile stored with ⟨later, present, ages⟩ | deleted
    · exact .inr ⟨later, present, ages.fenced isFenced⟩
    · exact .inl deleted

end

omit [DecidableEq D] in
theorem Db.ProfileFenced.not_active {id : Uuid} {profile : RuntimeProfile D} (intact : db.Intact)
    (fenced : db.ProfileFenced id) (stored : db.profiles.lookup id = some profile) :
    profile.lifecycleState ≠ .active := by
  intro active
  rcases fenced with deleted | ⟨_, found, isFenced⟩
  · obtain ⟨workspace, tombstone⟩ := Option.ne_none_iff_exists'.mp deleted
    rw [intact.deleted id workspace tombstone] at stored
    cases stored
  · obtain rfl := Option.some.inj (found.symm.trans stored)
    simp [RuntimeProfile.isFenced, active] at isFenced

theorem Write.grantsNone (write : Write env call start db next) (intact : db.Intact)
    (held : db.ClaimsHeld) (profileId : Uuid) (fenced : db.ProfileFenced profileId)
    (id : AttemptId) (leased : id ∈ next.unresolvedLeasesOf profileId) :
    id ∈ db.unresolvedLeasesOf profileId := by
  rw [Db.mem_unresolvedLeasesOf] at leased ⊢
  obtain ⟨later, row, lease, stored, isRow, isLease, owner, unresolved⟩ := leased
  have present : next.attempt? id = some (later, row) :=
    (Db.attempt?_eq_some _ _ _ _).mpr ⟨stored, isRow⟩
  rcases write.claims_cases held.rows with kept | ⟨_, target, _, grants, _⟩
  · rcases kept id later row present with ⟨execution, attempt, found, keeps⟩ | ⟨_, unleased⟩
    · obtain ⟨before, isBefore, wasUnresolved, sameProfile, _⟩ := keeps.lease lease isLease
        unresolved
      obtain ⟨isStored, isAttempt⟩ := (Db.attempt?_eq_some _ _ _ _).mp found
      exact ⟨execution, attempt, before, isStored, isAttempt, isBefore,
        sameProfile.symm.trans owner, wasUnresolved⟩
    · rw [unleased] at isLease
      cases isLease
  · by_cases isTarget : id = target
    · subst isTarget
      obtain ⟨isGranted, _⟩ := grants.granted later row present
      obtain rfl := Option.some.inj (isGranted.symm.trans isLease)
      obtain ⟨_, stored, active⟩ := grants.owner
      rw [owner] at stored
      exact absurd active (fenced.not_active intact stored)
    · obtain ⟨execution, found⟩ := grants.others id later row isTarget present
      obtain ⟨isStored, isAttempt⟩ := (Db.attempt?_eq_some _ _ _ _).mp found
      exact ⟨execution, row, lease, isStored, isAttempt, isLease, owner, unresolved⟩

end Writes

/-! ## Cleanup receipts -/

/-- The proof of a deletion: of this attempt, by the runtime that is ready, and quiesced. -/
structure CleanupProof.Complete (proof : CleanupProof) (workspace : Workspace)
    (profile : RuntimeProfile D) : Prop where
  attempt : proof.attemptId = profile.cleanupAttemptId
  generation : proof.machineGeneration = some workspace.machineGeneration
  epoch : proof.runtimeStartEpoch = some workspace.runtimeStartEpoch
  ready : workspace.readyGeneration = some workspace.machineGeneration ∧
    workspace.readyStartEpoch = some workspace.runtimeStartEpoch
  boot : ∃ boot, proof.runtimeBootId = some boot ∧ workspace.readyBootId = some boot
  hermes : proof.hermesInstanceId.isSome = true
  quiesced : proof.quiesced = true

structure Deprovisions (call : Call D) (db : Db D) (id : Uuid) (profile : RuntimeProfile D)
    (context : RuntimeContext) (operation : Uuid) (digest : D) (proof : CleanupProof)
    (workspace : Workspace) : Prop where
  asked : call.operation = .acceptCleanupReceipt context id operation profile.lifecycleEpoch digest
    .deprovisioned 0 proof
  stored : db.workspaces.lookup context.workspace = some workspace
  home : profile.workspace = context.workspace
  credential : workspace.machineGeneration = context.machineGeneration
  operates : profile.cleanupOperationId = some operation
  requested : profile.cleanupRequestDigest = some digest
  unleased : db.unresolvedLeasesOf id = []
  proven : profile.cleanupRequiresQuiescence = true → proof.Complete workspace profile

section Receipts

variable [DecidableEq D] {env : Env D} {call : Call D} {start db next : Db D} {id : Uuid}

theorem Evolution.deprovisions (evolution : Evolution env call start db next)
    (other : ∀ context operation epoch digest proof, call.operation ≠
      .acceptCleanupReceipt context id operation epoch digest .deprovisioned 0 proof)
    (later : RuntimeProfile D) (present : next.profiles.lookup id = some later)
    (removed : later.lifecycleState = .deprovisioned) :
    ∃ profile, db.profiles.lookup id = some profile ∧ profile.lifecycleState = .deprovisioned := by
  refine evolution.keeps (fun next => ∀ later, next.profiles.lookup id = some later →
    later.lifecycleState = .deprovisioned → ∃ profile, db.profiles.lookup id = some profile ∧
      profile.lifecycleState = .deprovisioned) ?_ (fun later stored removed =>
        ⟨later, stored, removed⟩) later present removed
  intro middle next write holds later present removed
  cases write.profileSource id later present with
  | kept stored => exact holds later stored removed
  | stepped profile stored step =>
    refine holds profile stored ?_
    cases step with
    | deprovision context operation epoch digest proof _ _ asked =>
      exact absurd asked (other context operation epoch digest proof)
    | observe =>
      simp only [observeDeadline] at removed
      split at removed
      · cases removed
      · exact removed
    | seed => exact removed
    | retry => exact removed
    | materialize | requestCleanup | repair | delete => cases removed
  | forgotten _ _ active forgets =>
    subst forgets
    exact absurd (active.symm.trans removed) (by rintro ⟨⟩)
  | created _ _ _ _ _ _ _ _ isPending =>
    subst isPending
    cases removed

omit [DecidableEq D] in
theorem checkCleanupProof_complete (now : Instant) (workspace : Workspace)
    (profile : RuntimeProfile D) (epoch : Nat) (proof : CleanupProof)
    (proven : checkCleanupProof now workspace profile epoch true proof = .ok ())
    (quiesces : profile.cleanupRequiresQuiescence = true) : proof.Complete workspace profile := by
  simp only [checkCleanupProof, quiesces, if_true, bind_eq_ok, require_eq_ok] at proven
  obtain ⟨_, ⟨attempt, _⟩, _, _, _, ⟨generation, start, isBoot, boot, ready, isReady, hermes⟩,
    quiesced⟩ := proven
  obtain ⟨given, isGiven⟩ := Option.isSome_iff_exists.mp isBoot
  exact ⟨attempt.symm, generation, start, ⟨ready.trans generation, isReady.trans start⟩,
    ⟨given, isGiven, boot.symm.trans isGiven⟩, hermes, quiesced⟩

omit [DecidableEq D] in
theorem Db.unresolvedLeasesOf_nil (none : db.unresolvedLeaseCount id = 0) :
    db.unresolvedLeasesOf id = [] := by
  simpa [Db.unresolvedLeaseCount, Db.unresolvedLeasesOf] using none

theorem apply_deprovisions (answer : Reply D) (profile later : RuntimeProfile D)
    (success : apply env call db = .ok (answer, next))
    (stored : db.profiles.lookup id = some profile) (kept : profile.lifecycleState ≠ .deprovisioned)
    (present : next.profiles.lookup id = some later)
    (removed : later.lifecycleState = .deprovisioned) :
    ∃ context operation digest proof workspace,
      Deprovisions call db id profile context operation digest proof workspace := by
  by_cases receipt : ∃ context operation epoch digest proof, call.operation =
      .acceptCleanupReceipt context id operation epoch digest .deprovisioned 0 proof
  · obtain ⟨context, operation, _, digest, proof, asked⟩ := receipt
    simp only [apply, asked, reply_eq_ok, acceptCleanupReceipt, bind_eq_ok, orRaise_eq_ok,
      require_eq_ok, Option.filter_eq_some_iff, decide_eq_true_eq] at success
    obtain ⟨_, ⟨workspace, isWorkspace, _, credential, row, ⟨found, home⟩, _, operates, _,
      requested, _, proven, success⟩, _⟩ := success
    obtain rfl := Option.some.inj (found.symm.trans stored)
    split at success
    · simp only [bind_eq_ok, return_eq_ok] at success
      obtain ⟨_, _, _, rfl⟩ := success
      obtain rfl := Option.some.inj (present.symm.trans stored)
      exact absurd removed kept
    · simp only [bind_eq_ok, require_eq_ok] at success
      obtain ⟨_, isEpoch, _, unleased, _⟩ := success
      subst isEpoch
      exact ⟨context, operation, digest, proof, workspace, asked, isWorkspace, home, credential,
        operates, requested, Db.unresolvedLeasesOf_nil unleased,
        checkCleanupProof_complete call.now workspace row _ proof proven⟩
  · obtain ⟨_, found, wasRemoved⟩ := (apply_evolution env call db next answer
      success).deprovisions (fun context operation epoch digest proof asked =>
        receipt ⟨context, operation, epoch, digest, proof, asked⟩) later present removed
    obtain rfl := Option.some.inj (found.symm.trans stored)
    exact absurd wasRemoved kept

theorem apply_superseded (context : RuntimeContext) (operation : Uuid) (epoch : Nat) (digest : D)
    (result : CleanupResult) (count : Nat) (proof : CleanupProof) (profile : RuntimeProfile D)
    (asked : call.operation = .acceptCleanupReceipt context id operation epoch digest result count
      proof)
    (stored : db.profiles.lookup id = some profile)
    (quiesces : profile.cleanupRequiresQuiescence = true)
    (superseded : proof.attemptId ≠ profile.cleanupAttemptId) :
    (∃ error, apply env call db = .error error) ∧ step env db call = db := by
  cases outcome : apply env call db with
  | error error => exact ⟨⟨error, rfl⟩, Run.step_of_error db call error outcome⟩
  | ok pair =>
    obtain ⟨_, _⟩ := pair
    simp only [apply, asked, reply_eq_ok, acceptCleanupReceipt, bind_eq_ok, orRaise_eq_ok,
      Option.filter_eq_some_iff] at outcome
    obtain ⟨_, ⟨_, _, _, _, _, ⟨found, _⟩, _, _, _, _, _, proven, _⟩, _⟩ := outcome
    obtain rfl := Option.some.inj (found.symm.trans stored)
    simp only [checkCleanupProof, quiesces, if_true, bind_eq_ok, require_eq_ok] at proven
    obtain ⟨_, ⟨attempt, _⟩, _⟩ := proven
    exact absurd attempt.symm superseded

end Receipts

/-! ## Along a run -/

/-- The life of the profiles from one database of a run to a later one, and what a call
does then. -/
structure ProfilesLive [DecidableEq D] (env : Env D) (db later : Db D) : Prop where
  /-- The epoch does not decrease, and a fenced profile stays fenced. -/
  ages : ∀ id profile, db.profiles.lookup id = some profile →
    (∃ row, later.profiles.lookup id = some row ∧ profile.Ages row) ∨ later.ProfileDeleted id
  fenced : ∀ id profile, later.profiles.lookup id = some profile →
    (profile.cleanupOperationId ≠ none ↔
      profile.lifecycleState ≠ .pending ∧ profile.lifecycleState ≠ .active)
  deleted : ∀ id, db.ProfileDeleted id → later.ProfileDeleted id ∧ later.profiles.lookup id = none
  /-- No lease comes to a profile whose cleanup or deletion is requested. -/
  unleased : ∀ id, db.ProfileFenced id → ∀ attempt ∈ later.unresolvedLeasesOf id,
    attempt ∈ db.unresolvedLeasesOf id
  removed : ∀ call answer next id profile row, apply env call later = .ok (answer, next) →
    later.profiles.lookup id = some profile → profile.lifecycleState ≠ .deprovisioned →
    next.profiles.lookup id = some row → row.lifecycleState = .deprovisioned →
    ∃ context operation digest proof workspace,
      Deprovisions call later id profile context operation digest proof workspace
  superseded : ∀ (call : Call D) context id operation epoch digest result count proof profile,
    call.operation = .acceptCleanupReceipt context id operation epoch digest result count proof →
    later.profiles.lookup id = some profile → profile.cleanupRequiresQuiescence = true →
    proof.attemptId ≠ profile.cleanupAttemptId →
    (∃ error, apply env call later = .error error) ∧ step env later call = later

section Runs

variable [DecidableEq D] (env : Env D)

theorem profiles_live (first rest : List (Call D)) :
    ProfilesLive env (run env Db.empty first) (run env (run env Db.empty first) rest) := by
  have intact := run_intact env first Db.intact_empty
  have held := run_claimsHeld env first
  have fences : ∀ id profile, (run env Db.empty first).profiles.lookup id = some profile →
      profile.Fences :=
    run_keeps env (fun db => ∀ id profile, db.profiles.lookup id = some profile → profile.Fences)
      (fun _ _ _ _ write => write.profilesFence) Db.empty first (by simp [Db.empty])
  generalize run env Db.empty first = db at intact held fences
  have laterIntact := run_intact env rest intact
  have laterFences : ∀ id profile, (run env db rest).profiles.lookup id = some profile →
      profile.Fences :=
    run_keeps env (fun db => ∀ id profile, db.profiles.lookup id = some profile → profile.Fences)
      (fun _ _ _ _ write => write.profilesFence) db rest fences
  have aged : profileRecords.Continues RuntimeProfile.Ages db (run env db rest) :=
    (run_carries env (fun _ _ => True) (fun _ => True) (fun _ _ _ => True)
      (profileRecords.Continues RuntimeProfile.Ages) (.refl .refl)
      (.trans RuntimeProfile.Ages .trans) (fun _ _ _ _ => trivial)
      (fun _ _ _ _ write _ => ⟨trivial, write.profilesAge⟩) (fun _ _ _ _ => trivial) db rest
      trivial (Run.meets_of_forall _ (fun _ _ => trivial) db rest)).2
  constructor
  case ages => exact aged.kept
  case fenced =>
    intro id profile stored
    rw [← (laterFences id profile stored).operation]
    simp only [RuntimeProfile.isFenced]
    cases profile.lifecycleState <;> simp
  case deleted =>
    intro id deleted
    have gone := aged.gone id deleted
    obtain ⟨workspace, tombstone⟩ := Option.ne_none_iff_exists'.mp gone
    exact ⟨gone, laterIntact.deleted id workspace tombstone⟩
  case unleased =>
    intro id fenced
    refine (run_keeps env (fun later => later.Intact ∧ later.ClaimsHeld ∧ later.ProfileFenced id ∧
      ∀ attempt ∈ later.unresolvedLeasesOf id, attempt ∈ db.unresolvedLeasesOf id) ?_ db rest
      ⟨intact, held, fenced, fun _ listed => listed⟩).2.2.2
    rintro _ _ _ _ write ⟨intact, held, fenced, within⟩
    exact ⟨write.intact intact, write.claimsHeld held, write.staysFenced id fenced,
      fun attempt listed => within attempt (write.grantsNone intact held id fenced attempt listed)⟩
  case removed =>
    intro call answer next id profile row success stored kept present removed
    exact apply_deprovisions answer profile row success stored kept present removed
  case superseded =>
    intro call context id operation epoch digest result count proof profile asked stored quiesces
    exact apply_superseded context operation epoch digest result count proof profile asked stored
      quiesces

end Runs

def plainCleanup : Call PlainDigest := ⟨0, .requestProfileCleanup 0 50 61 "context" (some 1000)⟩

/-- The receipt of that cleanup, without an attempt and without a proof. -/
def plainCleanupReceipt : Call PlainDigest :=
  ⟨0, .acceptCleanupReceipt ⟨0, 1⟩ 50 61 1 (.document (.cleanup 61 "context" 1000)) .deprovisioned 0
    ⟨none, none, none, none, none, false⟩⟩

/-- A plain cleanup ends in DEPROVISIONED without a quiescence proof. -/
theorem plain_cleanup_needs_no_proof :
    ∃ answer next profile row,
      apply Env.plain plainCleanupReceipt (run Env.plain Db.empty (bringUp ++ [plainCleanup])) =
        .ok (answer, next) ∧
      (run Env.plain Db.empty (bringUp ++ [plainCleanup])).profiles.lookup 50 = some profile ∧
      profile.lifecycleState = .cleanupPending ∧ profile.cleanupAttemptId = none ∧
      next.profiles.lookup 50 = some row ∧ row.lifecycleState = .deprovisioned ∧
      ∀ workspace, ¬ CleanupProof.Complete ⟨none, none, none, none, none, false⟩ workspace
        profile := by
  have accepted : (apply Env.plain plainCleanupReceipt
      (run Env.plain Db.empty (bringUp ++ [plainCleanup]))).isOk = true := by decide +kernel
  have before : ((run Env.plain Db.empty (bringUp ++ [plainCleanup])).profiles.lookup 50).any
      (fun profile => decide (profile.lifecycleState = .cleanupPending ∧
        profile.cleanupAttemptId = none)) = true := by decide +kernel
  have after : ((run Env.plain Db.empty ((bringUp ++ [plainCleanup]) ++
      [plainCleanupReceipt])).profiles.lookup 50).any
      (fun profile => decide (profile.lifecycleState = .deprovisioned)) = true := by decide +kernel
  obtain ⟨profile, stored, pending⟩ := (Option.any_eq_true _ _).mp before
  cases result : apply Env.plain plainCleanupReceipt
      (run Env.plain Db.empty (bringUp ++ [plainCleanup])) with
  | error error =>
    rw [result] at accepted
    cases accepted
  | ok pair =>
    obtain ⟨answer, next⟩ := pair
    have reached : run Env.plain Db.empty ((bringUp ++ [plainCleanup]) ++
        [plainCleanupReceipt]) = next :=
      Run.run_snoc_of_ok _ _ _ _ _ result
    rw [reached] at after
    obtain ⟨row, present, removed⟩ := (Option.any_eq_true _ _).mp after
    have isPending := of_decide_eq_true pending
    exact ⟨answer, next, profile, row, rfl, stored, isPending.1, isPending.2, present,
      of_decide_eq_true removed, fun _ complete => absurd complete.quiesced nofun⟩

end Foundry
