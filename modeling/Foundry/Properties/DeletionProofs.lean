import Foundry.Properties.Tombstones
import Foundry.Worker.Reconciler

/-!
# Deletion after proof

A quiescence-required cleanup removes a profile, and reports it deleted, only when its fence is on
the volume, the profile is fenced in the worker, Hermes has proved it quiescent for this very
attempt, the worker has quiesced it, and the desired state, read again, still names it.
-/

set_option autoImplicit false

namespace Foundry

open Script

variable {env : StoreEnv} {key : String} {identity : CleanupIdentity}
  {payload : TombstonePayload} {volume : ProfileVolume}

/-! ## Fences on the volume -/

structure TombstonePayload.Fences (key : String) (identity : CleanupIdentity)
    (payload : TombstonePayload) : Prop where
  status : payload.get "status" = some (.str "CLEANUP_PENDING")
  key : payload.get "profile_key" = some (.str key)
  operation : payload.get "operation_id" = some (.str identity.operationId)
  epoch : payload.get "lifecycle_epoch" = some (.int identity.lifecycleEpoch)
  attempt : payload.get "attempt_id" = identity.attemptId.map Json.str
  digest : payload.get "request_digest" = identity.requestDigest.map Json.str

/-- The volume has the fence of the deletion, or the marker of one that is finished. -/
def ProfileVolume.IsFenced (key : String) (identity : CleanupIdentity) (volume : ProfileVolume) :
    Prop :=
  ∃ payload : TombstonePayload, volume.tombstone = some (.file (.dict payload)) ∧
    (payload.Fences key identity ∨ payload.isDeleted = true ∧
      ∃ receipt, tombstoneReceipt payload = some receipt ∧ receipt.profileKey = key)

/-- The receipt after which `_cleanup` goes on. -/
def CleanupReceipt.Fences (receipt : CleanupReceipt) : Prop :=
  (receipt.status = .fenced ∨ receipt.status = .deprovisioned) ∧ hasText receipt.repairCode = false

variable {value : Option Json} {isForm : String → Bool} {text : String}

theorem text_of_optionalText
    (reads : optionalText isForm value = .ok (some text)) : value = some (.str text) := by
  unfold optionalText at reads
  split at reads
  · cases reads
  · split at reads <;> cases reads
    rfl
  · cases reads

theorem profileKey_of_valid {lib : StoreLibrary} {seconds : String → Option Int}
    (valid : pendingTombstoneIsValid lib payload seconds key = true) :
    payload.get "profile_key" = some (.str key) := by
  unfold pendingTombstoneIsValid at valid
  simp only [Bool.and_eq_true, beq_iff_eq] at valid
  exact valid.1.1.2

theorem repair_fences_not (code : String) (some : code ≠ "") :
    ¬ (identity.repair env key code).Fences := by
  rintro ⟨_, none⟩
  simp [CleanupIdentity.repair, CleanupIdentity.answer, hasText, some] at none

theorem stale_fences_not (epoch : Int) : ¬ (identity.stale env key epoch).Fences := by
  rintro ⟨_, none⟩
  simp [CleanupIdentity.stale, CleanupIdentity.answer, hasText] at none

variable {receipt : CleanupReceipt}

theorem fenceVerdict_fences
    (verdict : fenceVerdict env key identity payload = some receipt) (fences : receipt.Fences) :
    payload.Fences key identity ∨ payload.isDeleted = true ∧
      ∃ terminal, tombstoneReceipt payload = some terminal ∧ terminal.profileKey = key := by
  have notInvalid : receipt ≠ identity.invalid env key := by
    rintro rfl
    exact repair_fences_not _ (by decide) fences
  have notStale : ∀ epoch, receipt ≠ identity.stale env key epoch := by
    rintro epoch rfl
    exact stale_fences_not epoch fences
  unfold fenceVerdict at verdict
  split at verdict
  · next deleted =>
    refine .inr ⟨deleted, ?_⟩
    rw [Option.some.injEq, CleanupIdentity.answerDeleted] at verdict
    split at verdict
    · next terminal reads =>
      split at verdict
      · next named => exact ⟨terminal, reads, named⟩
      · exact absurd verdict.symm notInvalid
    · exact absurd verdict.symm notInvalid
  · split at verdict
    · next pending =>
      split at verdict
      · exact absurd (Option.some.inj verdict).symm notInvalid
      · next valid =>
        split at verdict
        · next epoch _ _ isOperation isEpoch isAttempt isDigest =>
          split at verdict
          · exact absurd (Option.some.inj verdict).symm (notStale epoch)
          · next sameOperation =>
            split at verdict
            · next same =>
              obtain ⟨rfl, deletes⟩ := same
              rw [not_not] at sameOperation
              refine .inl ⟨by simpa using pending, ?_, ?_, isEpoch, ?_, ?_⟩
              · exact profileKey_of_valid (by simpa using valid)
              · rw [isOperation, sameOperation]
              · rw [text_of_optionalText isAttempt, CleanupIdentity.attemptId, deletes]
                rfl
              · rw [text_of_optionalText isDigest, CleanupIdentity.requestDigest, deletes]
                rfl
            · split at verdict
              · exact absurd (Option.some.inj verdict).symm (notStale epoch)
              · cases verdict
        · exact absurd (Option.some.inj verdict).symm notInvalid
    · split at verdict
      · exact absurd (Option.some.inj verdict).symm notInvalid
      · next existing _ =>
        split at verdict
        · exact absurd (Option.some.inj verdict).symm notInvalid
        · split at verdict
          · exact absurd (Option.some.inj verdict).symm (notStale existing.lifecycleEpoch)
          · cases verdict

theorem fences_pending (lib : StoreLibrary) (expiry : Int) (deletes : identity.deletion.isSome) :
    TombstonePayload.Fences key identity (identity.pending lib key expiry) := by
  obtain ⟨⟨attempt, digest⟩, found⟩ := Option.isSome_iff_exists.mp deletes
  have member : ∀ name value, (Json.obj (identity.pending lib key expiry)).get? name = some value →
      value ≠ .null → (identity.pending lib key expiry).get name = some value :=
    fun name value present notNull => get_of_present present notNull
  constructor
  case attempt =>
    rw [CleanupIdentity.attemptId, found]
    exact member _ _ (by simp [CleanupIdentity.pending, CleanupIdentity.tombstone,
      CleanupIdentity.deletionMembers, found, Json.get?]) (by simp)
  case digest =>
    rw [CleanupIdentity.requestDigest, found]
    exact member _ _ (by simp [CleanupIdentity.pending, CleanupIdentity.tombstone,
      CleanupIdentity.deletionMembers, found, Json.get?]) (by simp)
  all_goals
    exact member _ _ (by simp [CleanupIdentity.pending, CleanupIdentity.tombstone, Json.get?])
      (by simp)

/-- What a profile key holds besides its tombstone is left as it was. -/
def ProfileVolume.SameContent (first second : ProfileVolume) : Prop :=
  second.profile = first.profile ∧ second.siblings = first.siblings

theorem fenceDeletion_fences (expiry : Int) (deletes : identity.deletion.isSome) :
    wp volume.SameContent (fun receipt next => receipt.Fences → next.IsFenced key identity)
      (fun receipt next => receipt.Fences → next.IsFenced key identity)
      (fenceDeletion env key identity expiry) volume := by
  unfold fenceDeletion
  refine wp_bind (wp_read (wp_bind (wp_verdict (fun passes => ?_) ?_)))
  · refine wp_bind (wp_verdict (fun unfenced => ?_) ?_)
    · split
      · refine wp_bind ?_
        rw [writeTombstone]
        split
        · exact wp_write ⟨rfl, rfl⟩ (wp_pure fun fences =>
            absurd fences (repair_fences_not _ (by decide)))
        · exact wp_refuse fun fences => absurd fences (repair_fences_not _ (by decide))
      · refine wp_bind ?_
        rw [writeTombstone]
        split
        · exact wp_write ⟨rfl, rfl⟩ (wp_pure fun _ =>
            ⟨_, rfl, .inl (fences_pending env.lib expiry deletes)⟩)
        · exact wp_refuse fun fences => absurd fences (repair_fences_not _ (by decide))
    · intro receipt verdict fences
      unfold ProfileVolume.profileFence at verdict
      split at verdict
      · split at verdict
        · cases verdict
          exact absurd fences (stale_fences_not _)
        · cases verdict
      · cases verdict
  · intro receipt verdict fences
    unfold tombstoneVerdict at verdict
    split at verdict
    · cases verdict
    · next found =>
      split at verdict
      · cases verdict
        exact absurd fences (repair_fences_not _ (by decide))
      · next payload reads =>
        refine ⟨payload, ?_, fenceVerdict_fences verdict fences⟩
        rw [found]
        unfold TombstoneFile.payload? at reads
        split at reads
        · cases reads
          rfl
        · cases reads

/-! ## Checks -/

/-- The response of Hermes: a proof that is complete and bound to the request. -/
structure JsonMembers.Proves (lib : ClientLibrary) (key : String) (request : QuiescenceRequest)
    (payload : JsonMembers) : Prop where
  key : JsonMembers.get payload "profile_key" = some (.str key)
  bound : ∀ field ∈ request.identity, equalsJson lib (JsonMembers.get payload field.1) field.2 = true
  state : JsonMembers.get payload "state" = some (.str "quiesced")
  noError : JsonMembers.get payload "safe_error_code" = some (.str "")
  noOwner : ∀ name ∈ ["active_runs", "active_profile_io", "open_profile_stores", "owned_children"],
    JsonMembers.get payload name = some (.int 0)

/-- A desired state that names the deletion of the attempt, with no lease. -/
structure ProfileDeletion.NamedBy (deletion : ProfileDeletion) (current : ProfileDesiredState) :
    Prop where
  profile : current.profileId = deletion.profile.profileId
  operation : current.cleanupOperationId = some deletion.operationId
  digest : current.cleanupRequestDigest = deletion.profile.cleanupRequestDigest
  epoch : current.lifecycleEpoch = deletion.profile.lifecycleEpoch
  noLease : current.activeLeaseCount = 0

inductive DeletionCheck where
  | listed (profiles : List ProfileDesiredState)
  | started (runtimeStartEpoch : Int)
  | fence (key : String) (identity : CleanupIdentity)
  | admission (key : String)
  | listener (hermesInstanceId : String)
  | proof (key : String) (request : QuiescenceRequest)
  | worker (key : String)
  | desired (deletion : ProfileDeletion)

inductive Passes (lib : ClientLibrary) : DeletionCheck → HostEntry → Prop where
  /-- The desired states that were read. -/
  | listed {before after : RuntimeHost} {profiles : List ProfileDesiredState} :
      Passes lib (.listed profiles) ⟨before, .reconcileProfiles, .ok profiles, after⟩
  /-- The start epoch of the last snapshot. -/
  | started {before after : RuntimeHost} {snapshot : RuntimeReconciliationSnapshot}
      {runtimeStartEpoch : Int} (epoch : snapshot.runtimeStartEpoch = some runtimeStartEpoch) :
      Passes lib (.started runtimeStartEpoch) ⟨before, .lastSnapshot, .ok (some snapshot), after⟩
  /-- The deletion fence is on the volume. -/
  | fence {before after : RuntimeHost} {key : String} {identity : CleanupIdentity}
      {expiresAt : Option Int} {receipt : CleanupReceipt}
      (fenced : (after.volumes key).IsFenced key identity) :
      Passes lib (.fence key identity)
        ⟨before, .fenceDeletion key identity expiresAt, .ok receipt, after⟩
  /-- The worker admits nothing more for the profile. -/
  | admission {before after : RuntimeHost} {key : String} (fenced : key ∈ after.registry.fenced) :
      Passes lib (.admission key) ⟨before, .fenceProfile key, .ok (), after⟩
  /-- Hermes names the process that listens now. -/
  | listener {before after : RuntimeHost} {payload : JsonMembers} {hermesInstanceId : String}
      (reads : readInstanceId payload = some hermesInstanceId) :
      Passes lib (.listener hermesInstanceId) ⟨before, .capabilities, .ok payload, after⟩
  | proof {before after : RuntimeHost} {key : String} {request : QuiescenceRequest} {status : Nat}
      {payload : JsonMembers} (proves : payload.Proves lib key request) :
      Passes lib (.proof key request)
        ⟨before, .postQuiesce key request, .ok (status, payload), after⟩
  /-- A `quiesce` of the registry has returned. -/
  | worker {before after : RuntimeHost} {key : String} {number : Nat} {call : QuiesceCall}
      (found : after.registry.quiescing.lookup number = some call)
      (returned : call.phase = .returned "quiesced") :
      Passes lib (.worker key) ⟨before, .quiesceProfile key, .ok "quiesced", after⟩
  | desired {before after : RuntimeHost} {deletion : ProfileDeletion}
      {profiles : List ProfileDesiredState}
      (named : ∃ current ∈ profiles, deletion.NamedBy current) :
      Passes lib (.desired deletion) ⟨before, .reconcileProfiles, .ok profiles, after⟩

def ProfileDeletion.checks (deletion : ProfileDeletion) (profiles : List ProfileDesiredState)
    (hermesInstanceId : String) : List DeletionCheck :=
  [.listed profiles, .started deletion.runtimeStartEpoch,
    .fence deletion.profile.hermesProfileKey deletion.identity,
    .admission deletion.profile.hermesProfileKey, .listener hermesInstanceId,
    .proof deletion.profile.hermesProfileKey (deletion.request hermesInstanceId),
    .worker deletion.profile.hermesProfileKey, .desired deletion]

/-- The checks of a deletion are among those that passed, and its profile was listed. -/
def ProfileDeletion.IsChecked (deletion : ProfileDeletion) (hermesInstanceId : String)
    (checks : List DeletionCheck) : Prop :=
  ∃ profiles, deletion.profile ∈ profiles ∧
    (deletion.checks profiles hermesInstanceId).Sublist checks

structure CleanupReport.Reports (report : CleanupReport) (found : DeletionReport)
    (deletion : ProfileDeletion) : Prop where
  profile : report.profileId = deletion.profile.profileId
  operation : report.operationId = deletion.operationId
  epoch : report.lifecycleEpoch = deletion.profile.lifecycleEpoch
  digest : report.requestDigest = deletion.profile.cleanupRequestDigest
  attempt : found.attemptId = deletion.attemptId
  generation : found.machineGeneration = deletion.profile.machineGeneration
  startEpoch : found.runtimeStartEpoch = deletion.runtimeStartEpoch

/-- The checks an action needs: those of its deletion, if it belongs to one. -/
def ReconcilerAction.Needs : ReconcilerAction → List DeletionCheck → Prop
  | .cleanup key identity _, checks => identity.deletion.isSome = true →
      ∃ (deletion : ProfileDeletion) (hermesInstanceId : String),
        key = deletion.profile.hermesProfileKey ∧ identity = deletion.identity ∧
          deletion.IsChecked hermesInstanceId checks
  | .cleanupReceipt report, checks => ∀ found, report.deletion = some found →
      ∃ deletion : ProfileDeletion, report.Reports found deletion ∧
        deletion.IsChecked found.hermesInstanceId checks
  | _, _ => True

/-! ## What the calls pass -/

open Journal (IsDone)

section

variable (lib : ClientLibrary) {before after : RuntimeHost}

theorem fence_passes {expiresAt : Option Int} (done : IsDone RuntimeHost.perform
      (⟨before, .fenceDeletion key identity expiresAt, .ok receipt, after⟩ : HostEntry))
    (fences : receipt.Fences) :
    Passes lib (.fence key identity)
      ⟨before, .fenceDeletion key identity expiresAt, .ok receipt, after⟩ := by
  refine .fence ?_
  obtain ⟨fault, done⟩ := done
  simp only [RuntimeHost.perform] at done
  split at done
  · cases done
  · next accepted =>
    rw [Bool.or_eq_true, not_or, Bool.not_eq_true, Bool.not_eq_true] at accepted
    split at done
    · cases done
      exact absurd fences (repair_fences_not _ (by decide))
    · have deletes : identity.deletion.isSome := by
        rw [← Option.not_isNone, accepted.2]
        rfl
      have meets := @fenceDeletion_fences fault.env key identity (before.volumes key)
        (RuntimeHost.expiryOf fault expiresAt) deletes
      unfold RuntimeHost.store at done
      split at done
      · cases done
      · have ends := meets.2
        rw [Prod.mk.injEq] at done
        obtain ⟨replied, rfl⟩ := done
        simp only [RuntimeHost.setVolume, if_true]
        change ((fenceDeletion fault.env key identity
          (RuntimeHost.expiryOf fault expiresAt)).reached (before.volumes key)).IsFenced key identity
        split at ends
        all_goals
          next result =>
            rw [result] at replied
            cases replied
            exact ends fences

theorem admission_passes
    (done : IsDone RuntimeHost.perform (⟨before, .fenceProfile key, .ok (), after⟩ : HostEntry)) :
    Passes lib (.admission key) ⟨before, .fenceProfile key, .ok (), after⟩ := by
  refine .admission ?_
  obtain ⟨_, done⟩ := done
  simp only [RuntimeHost.perform] at done
  split at done
  · next fenced =>
    cases done
    simp only [RegistryState.apply, Raise.bind_eq_ok, Raise.return_eq_ok] at fenced
    obtain ⟨_, _, _, rfl⟩ := fenced
    simp only [RegistryState.addFence]
    split
    · next listed => exact listed
    · exact List.mem_cons_self
  · cases done

theorem worker_passes (done : IsDone RuntimeHost.perform
      (⟨before, .quiesceProfile key, .ok "quiesced", after⟩ : HostEntry)) :
    Passes lib (.worker key) ⟨before, .quiesceProfile key, .ok "quiesced", after⟩ := by
  obtain ⟨_, done⟩ := done
  simp only [RuntimeHost.perform, RuntimeHost.quiesceRegistry] at done
  split at done
  · simp at done
  · cases done
  · cases done
  · split at done
    · next phase =>
      obtain ⟨_, found, returned⟩ := Option.map_eq_some_iff.mp phase
      cases done
      exact .worker found returned
    · cases done

theorem desired_passes {deletion : ProfileDeletion} {profiles : List ProfileDesiredState}
    (named : deletion.isStillNamed profiles = true) :
    Passes lib (.desired deletion) ⟨before, .reconcileProfiles, .ok profiles, after⟩ := by
  refine .desired ?_
  unfold ProfileDeletion.isStillNamed at named
  split at named
  · cases named
  · next current found =>
    simp only [Bool.and_eq_true, decide_eq_true_eq] at named
    obtain ⟨⟨⟨operation, digest⟩, epoch⟩, noLease⟩ := named
    refine ⟨current, List.mem_of_find?_eq_some found, ?_, operation, digest, epoch, noLease⟩
    simpa using List.find?_some found

end

theorem int_of_counterOf {count : Int} (counts : counterOf value = some count) :
    value = some (.int count) := by
  unfold counterOf at counts
  split at counts
  · split at counts <;> cases counts
    rfl
  · cases counts

theorem str_of_textWhere
    (reads : textWhere isForm value = some text) : value = some (.str text) := by
  unfold textWhere at reads
  split at reads
  · split at reads <;> cases reads
    rfl
  · cases reads

theorem proves_of_complete {lib : ClientLibrary} {request : QuiescenceRequest} {status : Nat}
    {payload : JsonMembers} {proof : HermesQuiescence}
    (accepted : acceptQuiescence lib request key status payload = some proof)
    (complete : proof.complete = true) : payload.Proves lib key request := by
  simp only [acceptQuiescence, Option.bind_eq_bind, Option.bind_eq_some_iff, Option.guard_eq_some',
    Option.pure_def, Option.some.injEq] at accepted
  obtain ⟨_, _, _, read, _, _, _, _, rfl⟩ := accepted
  simp only [parseQuiescenceProof, Option.bind_eq_bind, Option.bind_eq_some_iff, Option.guard_eq_some',
    Option.pure_def, Option.some.injEq] at read
  obtain ⟨_, _, _, _, _, ⟨named, _⟩, _, bound, _, isState, _, isCode, _, isRuns, _, isIo,
    _, isStores, _, isChildren, _, _, rfl⟩ := read
  simp only [HermesQuiescence.complete, Bool.and_eq_true, decide_eq_true_eq] at complete
  obtain ⟨⟨⟨⟨⟨rfl, rfl⟩, rfl⟩, rfl⟩, rfl⟩, rfl⟩ := complete
  refine ⟨named, List.all_eq_true.mp bound, str_of_textWhere isState, str_of_textWhere isCode, ?_⟩
  simp only [List.forall_mem_cons]
  exact ⟨int_of_counterOf isRuns, int_of_counterOf isIo, int_of_counterOf isStores,
    int_of_counterOf isChildren, by simp⟩

/-! ## The reconciler earns its actions -/

section Earned

open Program

variable {lib : ClientLibrary} {base checks : List DeletionCheck} {α β : Type}

/-- The program earns its actions from the checks that were passed before it, and keeps those of
the base. -/
def Earned (lib : ClientLibrary) (base : List DeletionCheck)
    (Answers : α → List DeletionCheck → Prop) (program : ReconcilerProgram α)
    (checks : List DeletionCheck) : Prop :=
  program.Follows (Journal.Earns ReconcilerAction.Needs (Passes lib) RuntimeHost.perform)
    (fun value later => base.Sublist later ∧ Answers value later)
    (fun _ later => base.Sublist later) checks

variable {Answers : α → List DeletionCheck → Prop}

theorem earned_answer {value : α} (kept : base.Sublist checks) (answers : Answers value checks) :
    Earned lib base Answers (.answer value) checks :=
  ⟨kept, answers⟩

theorem earned_refuse {raised : ReconcilerError} (kept : base.Sublist checks) :
    Earned lib base Answers (.refuse raised) checks :=
  kept

variable {program : ReconcilerProgram α}

theorem earned_mono {Given : α → List DeletionCheck → Prop}
    (earned : Earned lib base Answers program checks)
    (answers : ∀ value later, base.Sublist later → Answers value later → Given value later) :
    Earned lib base Given program checks :=
  follows_mono earned (fun value later holds => ⟨holds.1, answers value later holds.1 holds.2⟩)
    fun _ _ kept => kept

theorem earned_base {wider : List DeletionCheck}
    (earned : Earned lib wider Answers program checks) (among : base.Sublist wider) :
    Earned lib base Answers program checks :=
  follows_mono earned (fun _ _ holds => ⟨among.trans holds.1, holds.2⟩)
    fun _ _ kept => among.trans kept

variable {next : α → ReconcilerProgram β}

theorem earned_bind {After : β → List DeletionCheck → Prop}
    (first : Earned lib base (fun value later => Earned lib base After (next value) later) program
      checks) : Earned lib base After (program >>= next) checks :=
  follows_bind (follows_mono first (fun _ _ holds => holds.2) fun _ _ kept => kept)

theorem earned_then (first : Earned lib base (fun _ _ => True) program checks)
    (second : ∀ value later, base.Sublist later →
      Earned lib base (fun _ _ => True) (next value) later) :
    Earned lib base (fun _ _ => True) (program >>= next) checks :=
  earned_bind (earned_mono first fun value later kept _ => second value later kept)

section

variable {action : ReconcilerAction} {Answers : action.Value → List DeletionCheck → Prop}

theorem earned_call (kept : base.Sublist checks) (needs : action.Needs checks)
    (answers : ∀ value, Answers value checks) : Earned lib base Answers action.call checks := by
  intro reply
  refine ⟨checks, ⟨needs, checks, List.Sublist.refl _, .inl rfl⟩, ?_⟩
  cases reply with
  | error => exact kept
  | ok value => exact ⟨kept, answers value⟩

theorem earned_check (Good : action.Value → Prop) (check : action.Value → DeletionCheck)
    (kept : base.Sublist checks) (needs : action.Needs checks)
    (passes : ∀ value before after, Good value →
      Journal.IsDone RuntimeHost.perform (⟨before, action, .ok value, after⟩ : HostEntry) →
      Passes lib (check value) ⟨before, action, .ok value, after⟩)
    (good : ∀ value, Good value → Answers value (base ++ [check value]))
    (others : ∀ value, ¬ Good value → Answers value base) :
    Earned lib base Answers action.call checks := by
  intro reply
  cases reply with
  | error => exact ⟨base, ⟨needs, base, kept, .inl rfl⟩, List.Sublist.refl base⟩
  | ok value =>
    by_cases isGood : Good value
    · exact ⟨base ++ [check value], ⟨needs, base, kept, .inr ⟨check value, rfl,
        fun before after done => passes value before after isGood done⟩⟩,
        List.sublist_append_left base _, good value isGood⟩
    · exact ⟨base, ⟨needs, base, kept, .inl rfl⟩, List.Sublist.refl base, others value isGood⟩

end

/-- What is known where a check of a deletion has found something. -/
def Finds (Found : α → List DeletionCheck → Prop) (value : Option α) (later : List DeletionCheck) :
    Prop :=
  ∀ found, value = some found → Found found later

variable {check : ReconcilerProgram (Option α)}

section

variable {Found : α → List DeletionCheck → Prop}

theorem finds_none (later : List DeletionCheck) :
    Finds Found none later := by
  rintro _ ⟨⟩

theorem finds_some {found : α} {later : List DeletionCheck}
    (holds : Found found later) : Finds Found (some found) later := by
  rintro _ ⟨⟩
  exact holds

theorem earned_pendingOnFailure (earned : Earned lib base (Finds Found) check checks) :
    Earned lib base (Finds Found) (pendingOnFailure check) checks := by
  refine follows_rescue (follows_mono earned (fun _ _ holds => holds) ?_)
  intro raised later kept
  split
  · exact earned_answer kept (finds_none later)
  · exact earned_refuse kept

end

theorem earned_unlessPending {next : α → ReconcilerProgram (Option β)} {added : α → DeletionCheck}
    (earned : Earned lib base (Finds fun found later => later = base ++ [added found]) check checks)
    (goesOn : ∀ found, Earned lib (base ++ [added found]) (fun _ _ => True) (next found)
      (base ++ [added found])) :
    Earned lib base (fun _ _ => True) (unlessPending check next) checks := by
  refine earned_bind (earned_mono earned ?_)
  intro value later kept finds
  cases value with
  | none => exact earned_answer kept trivial
  | some found =>
    obtain rfl := finds found rfl
    exact earned_base (goesOn found) (List.sublist_append_left base _)

/-! ### The checks of a deletion -/

variable (deletion : ProfileDeletion)

theorem prepareFence_earned :
    Earned lib base (Finds fun _ later =>
      later = base ++ [.fence deletion.profile.hermesProfileKey deletion.identity])
      deletion.prepareFence base := by
  refine earned_pendingOnFailure (earned_bind (earned_check CleanupReceipt.Fences (fun _ => _)
    (List.Sublist.refl base) trivial (fun receipt _ _ fences done => fence_passes lib done fences)
    ?_ ?_))
  · intro receipt fences
    split
    · exact earned_answer (List.sublist_append_left base _) (finds_none _)
    · exact earned_answer (List.sublist_append_left base _) (finds_some rfl)
  · intro receipt fencesNot
    rw [if_pos]
    · exact earned_answer (List.Sublist.refl base) (finds_none _)
    · by_contra goesOn
      rw [not_or, not_and_or, not_not, not_not, Bool.not_eq_true] at goesOn
      exact fencesNot goesOn

theorem workerFence_earned :
    Earned lib base (Finds fun _ later =>
      later = base ++ [.admission deletion.profile.hermesProfileKey])
      deletion.workerFence base := by
  refine earned_pendingOnFailure (earned_bind (@earned_check _ _ _ (.fenceProfile _) _
    (fun _ => True) (fun _ => _) (List.Sublist.refl base) trivial
    (fun _ _ _ _ done => admission_passes lib done) ?_ ?_))
  · exact fun _ _ => earned_answer (List.sublist_append_left base _) (finds_some rfl)
  · exact fun _ never => absurd trivial never

theorem resolveIdentity_earned :
    Earned lib base (Finds fun hermesInstanceId later =>
      later = base ++ [.listener hermesInstanceId]) ProfileDeletion.resolveIdentity base := by
  refine earned_pendingOnFailure (earned_bind (@earned_check _ _ _ .capabilities _
    (fun payload => (readInstanceId payload).isSome = true)
    (fun payload => .listener ((readInstanceId payload).getD "")) (List.Sublist.refl base) trivial
    ?_ ?_ ?_))
  · intro payload before after reads _
    exact .listener (Option.getD_of_ne_none (Option.isSome_iff_ne_none.mp reads) "").symm
  · intro payload _
    split
    · next reads =>
      refine earned_answer (List.sublist_append_left base _) (finds_some ?_)
      rw [reads]
      rfl
    · exact earned_refuse (List.sublist_append_left base _)
  · intro payload none
    split
    · next reads =>
      rw [reads] at none
      exact absurd rfl none
    · exact earned_refuse (List.Sublist.refl base)

theorem obtainProof_earned (hermesInstanceId : String) :
    Earned lib base (Finds fun _ later => later = base ++
        [.proof deletion.profile.hermesProfileKey (deletion.request hermesInstanceId)])
      (deletion.obtainProof lib hermesInstanceId) base := by
  have kept := List.Sublist.refl base
  refine earned_pendingOnFailure (earned_bind ?_)
  unfold ProfileDeletion.quiesceHermes
  dsimp only
  split
  · exact earned_refuse kept
  · split
    · exact earned_refuse kept
    · refine earned_bind (@earned_check _ _ _ (.postQuiesce _ _) _ (fun response =>
        ∃ proof, acceptQuiescence lib (deletion.request hermesInstanceId)
          deletion.profile.hermesProfileKey response.1 response.2 = some proof ∧
          proof.complete = true)
        (fun _ => .proof deletion.profile.hermesProfileKey (deletion.request hermesInstanceId))
        kept trivial ?_ ?_ ?_)
      · rintro _ _ _ ⟨_, accepted, complete⟩ _
        exact .proof (proves_of_complete accepted complete)
      · intro response _
        have added := List.sublist_append_left base
          [.proof deletion.profile.hermesProfileKey (deletion.request hermesInstanceId)]
        split
        · refine earned_answer added ?_
          split
          · exact earned_answer added (finds_none _)
          · split
            · exact earned_answer added (finds_none _)
            · exact earned_answer added (finds_some rfl)
        · exact earned_refuse added
      · intro response incomplete
        split
        · next proof accepted =>
          refine earned_answer kept ?_
          rw [if_pos]
          · exact earned_answer kept (finds_none _)
          · by_contra complete
            exact incomplete ⟨proof, accepted, by simpa using complete⟩
        · exact earned_refuse kept

theorem workerQuiesce_earned :
    Earned lib base (Finds fun _ later =>
      later = base ++ [.worker deletion.profile.hermesProfileKey])
      deletion.workerQuiesce base := by
  refine earned_pendingOnFailure (earned_bind (@earned_check _ _ _ (.quiesceProfile _) _
    (fun state => state = "quiesced") (fun _ => .worker deletion.profile.hermesProfileKey)
    (List.Sublist.refl base) trivial ?_ ?_ ?_))
  · rintro _ _ _ rfl done
    exact worker_passes lib done
  · rintro _ rfl
    exact earned_answer (List.sublist_append_left base _) (finds_some rfl)
  · intro state different
    rw [if_pos different]
    exact earned_answer (List.Sublist.refl base) (finds_none _)

theorem recheck_earned :
    Earned lib base (Finds fun _ later => later = base ++ [.desired deletion])
      deletion.recheck base := by
  refine follows_rescue (follows_mono (show Earned lib base (Finds fun _ later =>
    later = base ++ [.desired deletion]) _ base from earned_bind (@earned_check _ _ _
      .reconcileProfiles _ (fun profiles => deletion.isStillNamed profiles = true)
      (fun _ => .desired deletion) (List.Sublist.refl base) trivial
      (fun _ _ _ named _ => desired_passes lib named) ?_ ?_)) (fun _ _ holds => holds) ?_)
  · intro profiles named
    rw [if_pos named]
    exact earned_answer (List.sublist_append_left base _) (finds_some rfl)
  · intro profiles notNamed
    rw [if_neg notNamed]
    exact earned_answer (List.Sublist.refl base) (finds_none _)
  · intro raised later kept
    split
    · exact earned_refuse kept
    · exact earned_answer kept (finds_none _)

/-! ### The reconciler -/

theorem removeProfile_earned (profile : ProfileDesiredState) (operationId : String)
    (found : Option (ProfileDeletion × DeletionReport)) (kept : base.Sublist checks)
    (proved : ∀ pair, found = some pair → pair.1.profile = profile ∧
      pair.1.operationId = operationId ∧ pair.2.attemptId = pair.1.attemptId ∧
      pair.2.machineGeneration = profile.machineGeneration ∧
      pair.2.runtimeStartEpoch = pair.1.runtimeStartEpoch ∧
      pair.1.IsChecked pair.2.hermesInstanceId checks) :
    Earned lib base (fun _ _ => True) (ProfileReconciler.removeProfile profile operationId found)
      checks := by
  refine earned_bind (earned_call kept ?_ ?_)
  · cases found with
    | none =>
      intro isDeletion
      cases isDeletion
    | some pair =>
      obtain ⟨rfl, _, _, _, _, isChecked⟩ := proved pair rfl
      exact fun _ => ⟨pair.1, pair.2.hermesInstanceId, rfl, rfl, isChecked⟩
  · intro receipt
    split
    · exact earned_answer kept trivial
    · refine earned_bind (earned_call kept ?_ fun _ => earned_answer kept trivial)
      intro report isReport
      obtain ⟨pair, rfl, rfl⟩ := Option.map_eq_some_iff.mp isReport
      obtain ⟨rfl, rfl, attempt, generation, startEpoch, isChecked⟩ := proved pair rfl
      exact ⟨pair.1, ⟨rfl, rfl, rfl, rfl, attempt, generation, startEpoch⟩, isChecked⟩

variable (reconciler : ProfileReconciler) (profile : ProfileDesiredState)
  {profiles : List ProfileDesiredState}

theorem deleteProfile_earned (bootId : String) (listed : DeletionCheck.listed profiles ∈ base)
    (member : deletion.profile ∈ profiles) :
    Earned reconciler.lib (base ++ [.started deletion.runtimeStartEpoch]) (fun _ _ => True)
      (reconciler.deleteProfile deletion bootId)
      (base ++ [.started deletion.runtimeStartEpoch]) := by
  refine earned_unlessPending (prepareFence_earned deletion) fun _ => ?_
  split
  · exact earned_answer (List.Sublist.refl _) trivial
  · refine earned_unlessPending (workerFence_earned deletion) fun _ => ?_
    refine earned_unlessPending resolveIdentity_earned fun hermesInstanceId => ?_
    refine earned_unlessPending (obtainProof_earned deletion hermesInstanceId) fun _ => ?_
    refine earned_unlessPending (workerQuiesce_earned deletion) fun _ => ?_
    refine earned_unlessPending (recheck_earned deletion) fun _ => ?_
    refine removeProfile_earned _ _ _ (List.Sublist.refl _) ?_
    rintro _ ⟨⟩
    refine ⟨rfl, rfl, rfl, rfl, rfl, profiles, member, ?_⟩
    simp only [List.append_assoc, List.cons_append, List.nil_append]
    exact (List.singleton_sublist.mpr listed).append (List.Sublist.refl _)

section

variable (kept : base.Sublist checks)

include kept

theorem cleanup_earned (listed : DeletionCheck.listed profiles ∈ base)
    (member : profile ∈ profiles) :
    Earned reconciler.lib base (fun _ _ => True) (reconciler.cleanup profile) checks := by
  unfold ProfileReconciler.cleanup
  split
  · exact earned_answer kept trivial
  · split
    · exact earned_answer kept trivial
    · refine earned_bind (@earned_check _ _ _ .lastSnapshot _
        (fun snapshot => (snapshot.bind RuntimeReconciliationSnapshot.runtimeStartEpoch).isSome = true)
        (fun snapshot => .started
          ((snapshot.bind RuntimeReconciliationSnapshot.runtimeStartEpoch).getD 0))
        kept trivial ?_ ?_ ?_)
      · intro snapshot before after isSome _
        obtain ⟨_, found⟩ := Option.isSome_iff_exists.mp isSome
        obtain ⟨_, rfl, isEpoch⟩ := Option.bind_eq_some_iff.mp found
        rw [found]
        exact .started isEpoch
      · intro snapshot _
        have added := List.sublist_append_left base [.started
          ((snapshot.bind RuntimeReconciliationSnapshot.runtimeStartEpoch).getD 0)]
        split
        · split
          · next found _ =>
            split
            · exact earned_answer added trivial
            · rw [found]
              exact earned_base (deleteProfile_earned _ reconciler _ listed member)
                (List.sublist_append_left base _)
          · exact earned_answer added trivial
        · split
          · exact earned_answer added trivial
          · exact removeProfile_earned _ _ none added (by rintro _ ⟨⟩)
      · intro snapshot noEpoch
        have same := List.Sublist.refl base
        split
        · split
          · next found _ =>
            rw [found] at noEpoch
            exact absurd rfl noEpoch
          · exact earned_answer same trivial
        · split
          · exact earned_answer same trivial
          · exact removeProfile_earned _ _ none same (by rintro _ ⟨⟩)

theorem compensate_earned :
    Earned reconciler.lib base (fun _ _ => True) (reconciler.compensate profile) checks := by
  refine earned_bind (@earned_check _ _ _ .reconcileProfiles _ (fun _ => True) DeletionCheck.listed
    kept trivial (fun _ _ _ _ _ => .listed) ?_ fun _ never => absurd trivial never)
  intro latest _
  have added := List.sublist_append_left base [DeletionCheck.listed latest]
  split
  · next current found =>
    split
    · have listed : DeletionCheck.listed latest ∈ base ++ [.listed latest] :=
        List.mem_append_right base List.mem_cons_self
      have cleans := cleanup_earned reconciler current (List.Sublist.refl _) listed
        (List.mem_of_find?_eq_some found)
      exact earned_then (earned_base cleans added) fun _ _ kept => earned_answer kept trivial
    · exact earned_answer added trivial
  · exact earned_answer added trivial

theorem materialize_earned :
    Earned reconciler.lib base (fun _ _ => True) (reconciler.materialize profile) checks := by
  refine earned_bind (earned_call kept trivial fun receipt => ?_)
  split
  · exact earned_answer kept trivial
  · refine follows_rescue (follows_mono (show Earned reconciler.lib base (fun _ _ => True) _ checks
      from earned_bind (earned_call kept trivial fun _ => earned_answer kept trivial))
      (fun _ _ holds => holds) ?_)
    intro raised later kept
    split
    · exact compensate_earned reconciler profile kept
    · exact earned_refuse kept

end

theorem reconcileProfile_earned (report : ProfileReconciler.ReconciliationReport)
    (kept : base.Sublist checks) (listed : DeletionCheck.listed profiles ∈ base)
    (member : profile ∈ profiles) :
    Earned reconciler.lib base (fun _ _ => True) (reconciler.reconcileProfile profile report)
      checks := by
  unfold ProfileReconciler.reconcileProfile
  split
  · refine earned_then (cleanup_earned reconciler profile kept listed member) ?_
    intro receipt later kept
    split
    · split
      · exact earned_answer kept trivial
      · exact earned_answer kept trivial
    · exact earned_answer kept trivial
  · split
    · exact earned_answer kept trivial
    · split
      · exact earned_answer kept trivial
      · refine earned_then (materialize_earned reconciler profile kept) ?_
        intro receipt later kept
        split
        · exact earned_answer kept trivial
        · exact earned_answer kept trivial

theorem reconcileAll_earned (rest : List ProfileDesiredState)
    (report : ProfileReconciler.ReconciliationReport) (kept : base.Sublist checks)
    (listed : DeletionCheck.listed profiles ∈ base) (among : ∀ profile ∈ rest, profile ∈ profiles) :
    Earned reconciler.lib base (fun _ _ => True) (reconciler.reconcileAll rest report) checks := by
  induction rest generalizing report checks with
  | nil => exact earned_answer kept trivial
  | cons profile _ ih =>
    refine earned_then (reconcileProfile_earned reconciler profile report kept listed
      (among profile List.mem_cons_self)) ?_
    exact fun next _ kept => ih next kept fun other member =>
      among other (List.mem_cons_of_mem profile member)

theorem reconcile_earned :
    Earned reconciler.lib [] (fun _ _ => True) reconciler.reconcile [] := by
  refine earned_bind (@earned_check _ _ _ .reconcileProfiles _ (fun _ => True) DeletionCheck.listed
    (List.Sublist.refl []) trivial (fun _ _ _ _ _ => .listed) ?_ fun _ never => absurd trivial never)
  intro desired _
  have loop := @reconcileAll_earned [.listed desired] [.listed desired] reconciler desired desired
    ⟨[], [], [], []⟩ (List.Sublist.refl _) List.mem_cons_self fun _ member => member
  refine earned_then (earned_base loop (List.nil_sublist _)) ?_
  intro report later kept
  split
  · exact earned_refuse kept
  · exact earned_answer kept trivial

end Earned

/-! ## Removals and receipts -/

def ReconcilerAction.isPlain : ReconcilerAction → Bool
  | .materialize _ _ => true
  | .cleanup _ identity _ => identity.deletion.isNone
  | _ => false

/-- A quiescence-required cleanup removed something of the profile. -/
def RemovesFrom (key : String) (entry : HostEntry) : Prop :=
  entry.action.isPlain = false ∧
    ¬ (entry.before.volumes key).SameContent (entry.after.volumes key)

/-- A quiescence-required cleanup reported the profile deleted. -/
def ReportsDeleted (report : CleanupReport) (found : DeletionReport) (entry : HostEntry) : Prop :=
  entry.action = .cleanupReceipt report ∧ report.deletion = some found ∧ report.deleted = true

theorem sameContent_refl (volume : ProfileVolume) : volume.SameContent volume := ⟨rfl, rfl⟩

section

variable {fault : ReconcilerFault} {host : RuntimeHost}

theorem volumes_external {α : Type} (value : α) :
    (host.external fault value).2.volumes = host.volumes := by
  unfold RuntimeHost.external
  split <;> rfl

theorem volumes_quiesceRegistry (key : String) :
    (host.quiesceRegistry fault key).2.volumes = host.volumes := by
  unfold RuntimeHost.quiesceRegistry
  split
  · rfl
  · rfl
  · rfl
  · dsimp only
    split <;> rfl

theorem volumes_store {ε α : Type} {key : String}
    {script : Script ProfileVolume ε α} {outcome : Except ε α → Except ReconcilerError α}
    (other : String) :
    ∃ cut, (host.store fault key script outcome).2.volumes other =
      if other = key then (host.volumes key).leave script cut else host.volumes other := by
  unfold RuntimeHost.store
  split
  · next writes _ _ => exact ⟨some writes, rfl⟩
  · exact ⟨none, rfl⟩

theorem sameContent_fenceDeletion
    (identity : CleanupIdentity) (expiresAt : Option Int) (key other : String) :
    (host.volumes other).SameContent
      ((RuntimeHost.perform fault (.fenceDeletion key identity expiresAt) host).2.volumes other) := by
  simp only [RuntimeHost.perform]
  split
  · exact sameContent_refl _
  · next accepted =>
    rw [Bool.or_eq_true, not_or, Bool.not_eq_true, Bool.not_eq_true] at accepted
    split
    · exact sameContent_refl _
    · have deletes : identity.deletion.isSome := by
        rw [← Option.not_isNone, accepted.2]
        rfl
      obtain ⟨cut, left⟩ := @volumes_store fault host _ _ key (Foundry.fenceDeletion fault.env key
        identity (RuntimeHost.expiryOf fault expiresAt)) RuntimeHost.receiptOf other
      rw [left]
      split
      · next same =>
        rw [same]
        exact leave_of_wp cut (sameContent_refl _) (fenceDeletion_fences _ deletes)
      · exact sameContent_refl _

end

theorem cleanup_of_removes {key : String} {entry : HostEntry}
    (done : Journal.IsDone RuntimeHost.perform entry) (removes : RemovesFrom key entry) :
    ∃ identity expiresAt, entry.action = .cleanup key identity expiresAt ∧
      identity.deletion.isSome = true := by
  obtain ⟨before, action, _, after⟩ := entry
  obtain ⟨notPlain, changed⟩ := removes
  obtain ⟨fault, done⟩ := done
  obtain rfl : (RuntimeHost.perform fault action before).2 = after := congrArg Prod.snd done
  have unmoved : (RuntimeHost.perform fault action before).2.volumes = before.volumes → False := by
    intro same
    refine changed ?_
    rw [same]
    exact sameContent_refl _
  cases action with
  | reconcileProfiles | fenceProfile =>
    refine (unmoved ?_).elim
    simp only [RuntimeHost.perform]
    split <;> rfl
  | lastSnapshot => exact (unmoved rfl).elim
  | materialize => cases notPlain
  | materializationReceipt =>
    exact (unmoved (volumes_external _)).elim
  | fenceDeletion other identity expiresAt =>
    exact (changed (sameContent_fenceDeletion identity expiresAt other key)).elim
  | capabilities | postQuiesce | cleanupReceipt => exact (unmoved (volumes_external _)).elim
  | quiesceProfile other => exact (unmoved (volumes_quiesceRegistry other)).elim
  | cleanup other identity expiresAt =>
    have isDeletion : identity.deletion.isSome = true := by
      rw [← Option.not_isNone]
      simpa [ReconcilerAction.isPlain] using notPlain
    by_cases same : key = other
    · subst same
      exact ⟨identity, expiresAt, rfl, isDeletion⟩
    · refine (changed ?_).elim
      simp only [RuntimeHost.perform]
      split
      · exact sameContent_refl _
      · split
        · exact sameContent_refl _
        · obtain ⟨_, left⟩ := @volumes_store fault before _ _ other
            (Foundry.cleanup fault.env other identity (RuntimeHost.expiryOf fault expiresAt)
              fault.isBounded fault.spoolsGone) RuntimeHost.receiptOf key
          rw [left, if_neg same]
          exact sameContent_refl _

/-- The deletion had been asked for, and all its checks have passed, one after the other. -/
def ProfileDeletion.ProvedIn (lib : ClientLibrary) (deletion : ProfileDeletion)
    (hermesInstanceId : String) (earlier : List HostEntry) : Prop :=
  ∃ profiles, deletion.profile ∈ profiles ∧
    Journal.Passed (Passes lib) (deletion.checks profiles hermesInstanceId) earlier

def DeletesAfterProof (lib : ClientLibrary) (earlier : List HostEntry) (entry : HostEntry) : Prop :=
  (∀ key, RemovesFrom key entry → ∃ (deletion : ProfileDeletion) (hermesInstanceId : String),
    deletion.profile.hermesProfileKey = key ∧
      (∃ expiresAt, entry.action = .cleanup key deletion.identity expiresAt) ∧
      deletion.ProvedIn lib hermesInstanceId earlier) ∧
  ∀ report found, ReportsDeleted report found entry → ∃ deletion : ProfileDeletion,
    report.Reports found deletion ∧ deletion.ProvedIn lib found.hermesInstanceId earlier

/-- However often the reconciler runs, whatever it is answered and wherever it stops, a
quiescence-required cleanup removes and reports only after the full proof. -/
theorem deletion_follows_proof (reconciler : ProfileReconciler) (host : RuntimeHost)
    (calls : List (List ReconcilerFault)) :
    Log.Justified (DeletesAfterProof reconciler.lib)
      (reconcilerRun reconciler host calls).entries := by
  have follow : ∀ attempt ∈ calls.map fun faults => (reconciler.reconcile, faults),
      Earned reconciler.lib [] (fun _ _ => True) attempt.1 [] := by
    intro attempt member
    obtain ⟨_, _, rfl⟩ := List.mem_map.mp member
    exact reconcile_earned reconciler
  have earned : Log.Justified
      (Journal.EarnedAfter ReconcilerAction.Needs (Passes reconciler.lib) RuntimeHost.perform)
      (reconcilerRun reconciler host calls).entries :=
    Journal.earned_attempts _ follow Log.Justified.nil
  intro earlier entry later split
  obtain ⟨done, _, needs, passed⟩ := earned earlier entry later split
  constructor
  · intro key removes
    obtain ⟨_, expiresAt, action, isDeletion⟩ := cleanup_of_removes done removes
    rw [action] at needs
    obtain ⟨deletion, hermesInstanceId, rfl, rfl, profiles, member, among⟩ := needs isDeletion
    exact ⟨deletion, hermesInstanceId, rfl, ⟨expiresAt, action⟩, profiles, member,
      passed.sublist among⟩
  · rintro _ found ⟨action, isDeletion, _⟩
    rw [action] at needs
    obtain ⟨deletion, reports, profiles, member, among⟩ := needs found isDeletion
    exact ⟨deletion, reports, profiles, member, passed.sublist among⟩

/-! ## A whole deletion -/

def deletedKey : String := "ally-v1-1"

def doomedProfile : ProfileDesiredState where
  machineGeneration := 1
  profileId := "profile"
  hermesProfileKey := deletedKey
  lifecycleState := "cleanup_pending"
  lifecycleEpoch := 3
  seedFingerprint := ""
  materializedGeneration := 1
  materializationOperationId := none
  materializationReceiptId := none
  cleanupOperationId := some "00000000-0000-4000-8000-000000000002"
  cleanupRequestDigest := "0000000000000000000000000000000000000000000000000000000000000000"
  cleanupExpiresAt := some 200
  activeLeaseCount := 0
  cleanupAttemptId := some "00000000-0000-4000-8000-000000000001"
  cleanupRequiresQuiescence := true

def doomedDeletion : ProfileDeletion :=
  ⟨doomedProfile, "00000000-0000-4000-8000-000000000002", "00000000-0000-4000-8000-000000000001", 0⟩

def listenerId : String := "00000000-0000-4000-8000-000000000003"

def provingPayload : JsonMembers :=
  [("version", .int 1), ("profile_key", .str deletedKey)] ++
    (doomedDeletion.request listenerId).identity ++
    [("state", .str "quiesced"), ("safe_error_code", .str ""), ("active_runs", .int 0),
      ("active_profile_io", .int 0), ("open_profile_stores", .int 0), ("owned_children", .int 0)]

def answering (payload : JsonMembers) : ReconcilerFault where
  drift := id
  env := .plain
  cleanupTimeout := 60
  seed := none
  isBounded := true
  spoolsGone := true
  isAvailable := true
  raises := none
  snapshot := ⟨1, some 0, [doomedProfile]⟩
  status := 200
  payload := payload
  receipt := ⟨"profile", "deprovisioned"⟩
  quiesceCall := 0
  quiesceEvents := [.goesOn 0 .done, .goesOn 0 .done, .goesOn 0 .done, .goesOn 0 .done]

def capabilities : JsonMembers :=
  [("hermes_instance_id", .str listenerId), ("profile_quiescence_v1", .bool true)]

def doomedReconciler : ProfileReconciler :=
  ⟨some "boot", true, true, ⟨id, fun _ => true, fun _ _ => false, id⟩⟩

def doomedRun : HostJournal :=
  reconcilerRun doomedReconciler
    ⟨fun _ => ⟨.directory .empty, ∅, none⟩, .empty, none⟩
    [(List.replicate 4 (answering provingPayload)) ++ [answering capabilities] ++
      List.replicate 5 (answering provingPayload)]

theorem doomed_profile_is_removed_after_proof :
    ∃ earlier removal later, doomedRun.entries = earlier ++ removal :: later ∧
      RemovesFrom deletedKey removal ∧
      ∃ (deletion : ProfileDeletion) (hermesInstanceId : String),
        deletion.ProvedIn doomedReconciler.lib hermesInstanceId earlier := by
  have shown : ∃ inside : 8 < doomedRun.entries.length,
      doomedRun.entries[8].action.isPlain = false ∧
        (doomedRun.entries[8].before.volumes deletedKey).profile = .directory .empty ∧
        (doomedRun.entries[8].after.volumes deletedKey).profile = .absent := by decide +kernel
  obtain ⟨inside, notPlain, there, absent⟩ := shown
  have parts : doomedRun.entries =
      doomedRun.entries.take 8 ++ doomedRun.entries[8] :: doomedRun.entries.drop 9 := by
    rw [← List.drop_eq_getElem_cons inside, List.take_append_drop]
  have removes : RemovesFrom deletedKey doomedRun.entries[8] := by
    refine ⟨notPlain, fun same => ?_⟩
    have kept := same.1
    rw [there, absent] at kept
    cases kept
  obtain ⟨deletion, hermesInstanceId, _, _, proved⟩ :=
    (deletion_follows_proof doomedReconciler _ _ _ _ _ parts).1 deletedKey removes
  exact ⟨_, _, _, parts, removes, deletion, hermesInstanceId, proved⟩

end Foundry
