import Foundry.Evolution.Basic

/-!
# Where rows come from

For each table, what a write leaves of a row and where a row after it comes from: the
inversion of `Write` by table.  The rows of approvals change by `ApprovalStep`, those
of the outbox by `DeliveryStep`.
-/

set_option autoImplicit false

namespace Foundry

open Raise
open Relation (ReflTransGen)

variable {D : Type}

/-! ## Executions and profiles -/

section Writes

variable [DecidableEq D] {env : Env D} {call : Call D} {start db next : Db D}

section

variable {id : Uuid} {execution next : Execution D}
  (change : Change env call start id execution next)

include id change

theorem Change.keepsIdentity :
    next = { execution with
      status := next.status, attempts := next.attempts, routine := next.routine } := by
  cases change <;> rfl

theorem Change.keepsProfile : next.profile = execution.profile := by
  rw [change.keepsIdentity]

theorem Change.keepsWorkspace :
    next.workspace = execution.workspace := by
  rw [change.keepsIdentity]

end

omit [DecidableEq D] in
theorem purgeProfile_eq {workspaceId profileId : Uuid} {workspace : Workspace}
    {profile : RuntimeProfile D}
    (purges : purgeProfile env workspaceId profileId workspace profile db = .ok next) :
    db.unresolvedLeaseCount profileId = 0 ∧
      next.supply = db.supply ∧
      next.executions = db.executions.keep (fun _ execution => execution.profile ≠ profileId) ∧
      next.deliveries = db.deliveries.keep (fun key _ =>
        (db.executions.lookup key.1.execution).all
          fun execution => execution.profile ≠ profileId) ∧
      next.approvals = db.approvals.keep (fun _ approval => approval.profile ≠ profileId) ∧
      next.bindings = db.bindings.erase profileId ∧
      next.deletedProfiles = db.deletedProfiles.insert profileId workspaceId ∧
      next.profiles = db.profiles.erase profileId := by
  simp only [purgeProfile, bind_eq_ok, require_eq_ok, pure_eq_ok] at purges
  obtain ⟨_, _, _, quiet, rfl⟩ := purges
  exact ⟨quiet, rfl, rfl, rfl, rfl, rfl, rfl, rfl⟩

/-- The Execution was purged with its profile, and so was what belongs to it. -/
structure Db.Purged (db : Db D) (id profile : Uuid) : Prop where
  execution : db.executions.lookup id = none
  deleted : db.deletedProfiles.lookup profile ≠ none
  approvals : ∀ request approval, db.approvals.lookup request = some approval →
    approval.profile ≠ profile
  deliveries : ∀ delivery row, db.deliveries.lookup delivery = some row →
    delivery.1.execution ≠ id

theorem Write.survives (write : Write env call start db next) {id : Uuid}
    {execution : Execution D} (stored : db.executions.lookup id = some execution)
    (numbered : db.population.Numbered) :
    (∃ later, next.executions.lookup id = some later ∧
      (later = execution ∨ Change env call start id execution later)) ∨
    next.Purged id execution.profile := by
  cases write with
  | create =>
    have old : id ≠ db.supply := Nat.ne_of_lt (numbered id execution stored)
    exact .inl ⟨execution, by simp [old, stored], .inl rfl⟩
  | move target _ attempt moved status routine found present move =>
    simp only [Db.putExecution, Table.lookup_insert_eq]
    by_cases same : id = target.execution
    · subst same
      cases stored.symm.trans found
      exact .inl ⟨_, if_pos rfl, .inr (.move target.number attempt moved status routine present
        move)⟩
    · exact .inl ⟨execution, by rw [if_neg same]; exact stored, .inl rfl⟩
  | grant _ _ _ target _ _ _ _ _ found _ _ change =>
    simp only [Db.putExecution, Table.lookup_insert_eq]
    by_cases same : id = target
    · subst same
      cases stored.symm.trans found
      exact .inl ⟨_, if_pos rfl, .inr change⟩
    · exact .inl ⟨execution, by rw [if_neg same]; exact stored, .inl rfl⟩
  | stopLeases profile service =>
    exact .inl ⟨execution.stopLeases profile, by simp [Db.stopLeases, stored],
      .inr (.stopLeases profile service)⟩
  | decideApproval _ _ _ _ decides =>
    obtain ⟨_, rfl⟩ := recordApprovalDecision_frame decides
    exact .inl ⟨execution, stored, .inl rfl⟩
  | compareAndSet _ _ _ _ _ _ _ sets =>
    obtain ⟨_, rfl⟩ := compareAndSetSession_frame sets
    exact .inl ⟨execution, stored, .inl rfl⟩
  | purge _ profileId _ _ _ _ _ _ _ _ purges =>
    obtain ⟨_, _, executions, deliveries, approvals, _, tombstones, _⟩ := purgeProfile_eq purges
    by_cases purged : execution.profile = profileId
    · refine .inr ⟨?_, ?_, ?_, ?_⟩
      · rw [executions, Option.eq_none_iff_forall_ne_some]
        intro later kept
        rw [Table.lookup_keep_eq_some, stored, Option.some.injEq] at kept
        obtain ⟨rfl, stays⟩ := kept
        simp [purged] at stays
      · rw [tombstones, purged, AList.lookup_insert]
        exact nofun
      · intro request approval kept
        rw [approvals, Table.lookup_keep_eq_some] at kept
        rw [purged]
        simpa using kept.2
      · rintro _ _ kept rfl
        rw [deliveries, Table.lookup_keep_eq_some, stored] at kept
        simp [purged] at kept
    · rw [executions]
      exact .inl ⟨execution, (Table.lookup_keep_eq_some _ _ _ _).mpr
        ⟨stored, by simpa using purged⟩, .inl rfl⟩
  | _ => exact .inl ⟨execution, stored, .inl rfl⟩

/-- A write that created an Execution, and wrote nothing else. -/
structure Created (env : Env D) (call : Call D) (db next : Db D) (id : Uuid)
    (execution : Execution D) : Prop where
  isNew : id = db.supply
  birth : Born call execution
  home : ∃ profile, db.profiles.lookup execution.profile = some profile ∧
    profile.workspace = execution.workspace
  fresh : ∀ other stored, db.executions.lookup other = some stored →
    stored.workspace = execution.workspace → stored.idempotencyKey ≠ execution.idempotencyKey
  uncommanded : execution.routine.isSome = true → execution.commandId = none
  commanded : execution.Commanded env
  bound : db.BindsInput execution
  digested : execution.routine = none →
    execution.payloadDigest = env.digestPayload (.execution execution.inputPayload)
  dispatched : ∀ routine, execution.routine = some routine →
    ∃ command, call.operation = .acceptRoutineDispatch command ∧
      execution.DispatchedBy env routine command
  written : next = { db.draw with executions := db.executions.insert db.supply execution }

theorem Write.source (write : Write env call start db next) (id : Uuid) (later : Execution D)
    (present : next.executions.lookup id = some later) :
    (∃ execution, db.executions.lookup id = some execution ∧
      (later = execution ∨ Change env call start id execution later)) ∨
    Created env call db next id later := by
  cases write with
  | create _ profile birth stored home fresh uncommanded commanded bound digested dispatched =>
    obtain ⟨isNew, rfl⟩ | ⟨_, present⟩ := Table.cases_insert present
    · exact .inr ⟨isNew, birth, ⟨profile, stored, home⟩, fresh, uncommanded, commanded, bound,
        digested, dispatched, rfl⟩
    · exact .inl ⟨later, present, .inl rfl⟩
  | move target given attempt moved status routine found held move =>
    obtain ⟨rfl, rfl⟩ | ⟨_, present⟩ := Table.cases_insert present
    · exact .inl ⟨given, found, .inr (.move target.number attempt moved status routine held
        move)⟩
    · exact .inl ⟨later, present, .inl rfl⟩
  | grant _ _ _ _ given _ _ _ _ found _ _ change =>
    obtain ⟨rfl, rfl⟩ | ⟨_, present⟩ := Table.cases_insert present
    · exact .inl ⟨given, found, .inr change⟩
    · exact .inl ⟨later, present, .inl rfl⟩
  | stopLeases profile service =>
    simp only [Db.stopLeases, Table.lookup_updateAll, Option.map_eq_some_iff] at present
    obtain ⟨execution, stored, rfl⟩ := present
    exact .inl ⟨execution, stored, .inr (.stopLeases profile service)⟩
  | decideApproval _ _ _ _ decides =>
    obtain ⟨_, rfl⟩ := recordApprovalDecision_frame decides
    exact .inl ⟨later, present, .inl rfl⟩
  | compareAndSet _ _ _ _ _ _ _ sets =>
    obtain ⟨_, rfl⟩ := compareAndSetSession_frame sets
    exact .inl ⟨later, present, .inl rfl⟩
  | purge _ _ _ _ _ _ _ _ _ _ purges =>
    obtain ⟨_, _, executions, _⟩ := purgeProfile_eq purges
    rw [executions, Table.lookup_keep_eq_some] at present
    exact .inl ⟨later, present.1, .inl rfl⟩
  | _ => exact .inl ⟨later, present, .inl rfl⟩

theorem Write.profileSurvives (write : Write env call start db next) {id : Uuid}
    {profile : RuntimeProfile D} (stored : db.profiles.lookup id = some profile) :
    (∃ later, next.profiles.lookup id = some later ∧ later.workspace = profile.workspace) ∨
    ((∀ execution other, next.executions.lookup other = some execution →
        execution.profile ≠ id) ∧
      next.bindings.lookup id = none ∧ next.deletedProfiles.lookup id ≠ none) := by
  cases write with
  | createProfile other _ _ _ _ _ unknown =>
    have different : id ≠ other := by
      rintro rfl
      rw [unknown] at stored
      cases stored
    exact .inl ⟨profile, by simp [Db.putProfile, different, stored], rfl⟩
  | profile other _ later found step =>
    by_cases isOther : id = other
    · subst isOther
      cases stored.symm.trans found
      exact .inl ⟨later, by simp [Db.putProfile], step.same.1⟩
    · exact .inl ⟨profile, by simp [Db.putProfile, isOther, stored], rfl⟩
  | forgetMaterializations =>
    refine .inl ⟨_, (Table.lookup_updateAll _ _ _).trans (by rw [stored]; rfl), ?_⟩
    dsimp only
    split <;> rfl
  | decideApproval _ _ _ _ decides =>
    obtain ⟨_, rfl⟩ := recordApprovalDecision_frame decides
    exact .inl ⟨profile, stored, rfl⟩
  | compareAndSet _ _ _ _ _ _ _ sets =>
    obtain ⟨_, rfl⟩ := compareAndSetSession_frame sets
    exact .inl ⟨profile, stored, rfl⟩
  | purge _ profileId _ _ _ _ _ _ _ _ purges =>
    obtain ⟨_, _, executions, _, _, bindings, tombstones, profiles⟩ := purgeProfile_eq purges
    by_cases purged : id = profileId
    · subst purged
      refine .inr ⟨?_, by rw [bindings]; exact AList.lookup_erase _ _, ?_⟩
      rotate_left
      · rw [tombstones, AList.lookup_insert]
        rintro ⟨⟩
      intro execution other present
      rw [executions, Table.lookup_keep_eq_some] at present
      simpa using present.2
    · refine .inl ⟨profile, ?_, rfl⟩
      rw [profiles, AList.lookup_erase_ne purged]
      exact stored
  | _ => exact .inl ⟨profile, stored, rfl⟩

/-! ## Bindings -/

/-- The call asks to set the session of the profile's conversation, on behalf of an
attempt or by itself. -/
def SessionAsked (call : Call D) (start : Db D) (profile : Uuid) (expected : Option String)
    (new : String) : Prop :=
  (∃ context id leaseToken request execution,
    call.operation = .updateSessionBinding context id leaseToken request ∧
    start.executions.lookup id.execution = some execution ∧ execution.profile = profile ∧
    request.expectedSessionId = expected ∧ request.effectiveSessionId = new) ∨
  ∃ conversationRef,
    call.operation = .compareAndSetSession profile expected new conversationRef

/-- Where a binding comes from: it was there, perhaps with another session, or is new. -/
inductive BindingSource (call : Call D) (start db : Db D) (id : Uuid)
    (later : ConversationBinding) : Prop
  | kept (stored : db.bindings.lookup id = some later)
  | rotated (binding : ConversationBinding) (expected : Option String) (new : String)
      (stored : db.bindings.lookup id = some binding)
      (asked : SessionAsked call start id expected new) (named : new ≠ "")
      (current : expected = binding.hermesSessionId ∨ binding.hermesSessionId = some "")
      (written : later = { binding with hermesSessionId := some new })
  | reserved (profile : RuntimeProfile D) (stored : db.profiles.lookup id = some profile)
      (unknown : db.bindings.lookup id = none) (unset : later.hermesSessionId = none)
  | created (profile : RuntimeProfile D) (new : String)
      (stored : db.profiles.lookup id = some profile)
      (unknown : db.bindings.lookup id = none) (asked : SessionAsked call start id none new)
      (named : new ≠ "") (set : later.hermesSessionId = some new)

theorem Write.bindingSource (write : Write env call start db next) {id : Uuid}
    {later : ConversationBinding} (present : next.bindings.lookup id = some later) :
    BindingSource call start db id later := by
  cases write with
  | reserveBinding _ profile _ stored unknown =>
    obtain ⟨rfl, rfl⟩ | ⟨_, present⟩ := Table.cases_insert present
    · exact .reserved profile stored unknown rfl
    · exact .kept present
  | bindSession context attempt token request execution profile _ asked holder stored named binds =>
    have isAsked : SessionAsked call start execution.profile request.expectedSessionId
        request.effectiveSessionId :=
      .inl ⟨context, attempt, token, request, execution, asked, holder, rfl, rfl, rfl⟩
    simp only [Foundry.bindSession] at binds
    split at binds
    · next unknown =>
      simp only [bind_eq_ok, require_eq_ok, pure_eq_ok] at binds
      obtain ⟨_, unexpected, _, _, rfl⟩ := binds
      obtain ⟨rfl, rfl⟩ | ⟨_, present⟩ := Table.cases_insert present
      · rw [unexpected] at isAsked
        exact .created profile _ stored unknown isAsked named rfl
      · exact .kept present
    · next binding bound =>
      simp only [bind_eq_ok] at binds
      obtain ⟨_, _, binds⟩ := binds
      split at binds
      · cases binds
        exact .kept present
      · simp only [bind_eq_ok, require_eq_ok, pure_eq_ok] at binds
        obtain ⟨_, current, rfl⟩ := binds
        obtain ⟨rfl, rfl⟩ | ⟨_, present⟩ := Table.cases_insert present
        · exact .rotated binding _ _ bound isAsked named (.inl current) rfl
        · exact .kept present
  | compareAndSet profileId expected new conversationRef binding next asked sets =>
    have isAsked : SessionAsked call start profileId expected new := .inr ⟨conversationRef, asked⟩
    obtain ⟨named, ⟨profile, stored⟩, ⟨_, unknown, unexpected, rfl⟩ |
      ⟨_, _, _, rfl⟩ | ⟨former, bound, current, rfl⟩⟩ := compareAndSetSession_cases profileId expected new
        conversationRef binding db next sets
    · obtain ⟨rfl, rfl⟩ | ⟨_, present⟩ := Table.cases_insert present
      · rw [unexpected] at isAsked
        exact .created profile new stored unknown isAsked named rfl
      · exact .kept present
    · exact .kept present
    · obtain ⟨rfl, rfl⟩ | ⟨_, present⟩ := Table.cases_insert present
      · exact .rotated former expected new bound isAsked named (current.imp_right And.right) rfl
      · exact .kept present
  | decideApproval _ _ _ _ decides =>
    obtain ⟨_, rfl⟩ := recordApprovalDecision_frame decides
    exact .kept present
  | purge _ profileId _ _ _ _ _ _ _ _ purges =>
    obtain ⟨_, _, _, _, _, bindings, _⟩ := purgeProfile_eq purges
    rw [bindings] at present
    by_cases same : id = profileId
    · rw [same, AList.lookup_erase] at present
      cases present
    · rw [AList.lookup_erase_ne same] at present
      exact .kept present
  | _ => exact .kept present

/-! ## Approvals -/

inductive ApprovalStep (call : Call D) (request : Uuid) (approval : ApprovalRequest) :
    ApprovalRequest → Prop
  | reconcile : ApprovalStep call request approval (reconcileApproval call.now approval)
  | cancel : ApprovalStep call request approval (cancelLiveApproval call.now approval)
  | resolve (outcome : ApprovalOutcome) (later : ApprovalRequest)
      (resolves : resolveApproval call.now outcome approval = .ok later) :
      ApprovalStep call request approval later
  | decide (command : ApprovalDecisionCommand)
      (asked : call.operation = .recordApprovalDecision command)
      (named : command.approvalRequestId = request) (owner : approval.attempt = command.attempt)
      (pending : (reconcileApproval call.now approval).status = .pending)
      (window : ensureDecisionWindow call.now (reconcileApproval call.now approval) command =
        .ok ()) :
      ApprovalStep call request approval ((reconcileApproval call.now approval).decided command)

structure ApprovalRequest.SameRequest (approval later : ApprovalRequest) : Prop where
  workspace : later.workspace = approval.workspace
  profile : later.profile = approval.profile
  attempt : later.attempt = approval.attempt
  generation : later.generation = approval.generation
  material : later.material = approval.material

section

variable (now : Instant) (approval : ApprovalRequest)

theorem reconcileApproval_same :
    approval.SameRequest (reconcileApproval now approval) := by
  simp only [reconcileApproval]
  split
  · exact ⟨rfl, rfl, rfl, rfl, rfl⟩
  · split <;> exact ⟨rfl, rfl, rfl, rfl, rfl⟩

theorem cancelLiveApproval_same :
    approval.SameRequest (cancelLiveApproval now approval) := by
  have same := reconcileApproval_same now approval
  simp only [cancelLiveApproval]
  split
  · split
    · exact ⟨same.workspace, same.profile, same.attempt, same.generation, same.material⟩
    · split
      · exact ⟨same.workspace, same.profile, same.attempt, same.generation, same.material⟩
      · exact same
  · exact ⟨rfl, rfl, rfl, rfl, rfl⟩

end

theorem resolveApproval_same (now : Instant) (outcome : ApprovalOutcome)
    (approval later : ApprovalRequest) (success : resolveApproval now outcome approval = .ok later) :
    approval.SameRequest later := by
  have same := reconcileApproval_same now approval
  simp only [resolveApproval] at success
  split at success
  · simp only [bind_eq_ok, pure_eq_ok] at success
    obtain ⟨_, _, rfl⟩ := success
    exact same
  · split at success
    · simp only [pure_eq_ok] at success
      exact success ▸ same
    · cases outcome <;> simp only [bind_eq_ok, pure_eq_ok] at success
      case approved | rejected =>
        obtain ⟨_, _, _, _, rfl⟩ := success
        exact ⟨same.workspace, same.profile, same.attempt, same.generation, same.material⟩
      case expired | cancelled =>
        obtain ⟨_, _, rfl⟩ := success
        exact ⟨same.workspace, same.profile, same.attempt, same.generation, same.material⟩

omit [DecidableEq D] in
theorem ApprovalStep.keepsRequest {request : Uuid} {approval later : ApprovalRequest}
    (step : ApprovalStep call request approval later) : approval.SameRequest later := by
  cases step with
  | reconcile => exact reconcileApproval_same call.now approval
  | cancel => exact cancelLiveApproval_same call.now approval
  | resolve outcome _ resolves => exact resolveApproval_same call.now outcome _ _ resolves
  | decide =>
    have same := reconcileApproval_same call.now approval
    exact ⟨same.workspace, same.profile, same.attempt, same.generation, same.material⟩

section

variable (write : Write env call start db next) {request : Uuid}

include write

theorem Write.approvalSource
    {later : ApprovalRequest} (present : next.approvals.lookup request = some later) :
    (∃ approval, db.approvals.lookup request = some approval ∧
      (later = approval ∨ ApprovalStep call request approval later)) ∨
    (∃ execution attempt lease material, db.approvals.lookup request = none ∧
      call.operation.service = .appendRuntimeEvent ∧ next.executions = db.executions ∧
      db.executions.lookup later.attempt.execution = some execution ∧
      execution.attempt? later.attempt.number = some attempt ∧
      attempt.lease = some lease ∧ lease.state = .active ∧
      later = .opened later.attempt execution attempt material) := by
  cases write with
  | openApproval _ execution attempt lease _ material _ service stored found held active records =>
    simp only [recordApprovalRequestFromEvent, bind_eq_ok] at records
    obtain ⟨_, _, _, _, records⟩ := records
    split at records
    · simp only [bind_eq_ok, pure_eq_ok] at records
      obtain ⟨_, _, rfl⟩ := records
      exact .inl ⟨later, present, .inl rfl⟩
    · next unknown =>
      cases records
      obtain ⟨rfl, rfl⟩ | ⟨_, present⟩ := Table.cases_insert present
      · exact .inr ⟨execution, attempt, lease, material, unknown, service, rfl, stored, found,
          held, active, rfl⟩
      · exact .inl ⟨later, present, .inl rfl⟩
  | resolveApproval _ _ outcome _ resolves =>
    simp only [applyApprovalResolution, bind_eq_ok, orRaise_eq_ok, pure_eq_ok,
      Option.filter_eq_some_iff] at resolves
    obtain ⟨approval, ⟨stored, _⟩, _, resolves, rfl⟩ := resolves
    obtain ⟨rfl, rfl⟩ | ⟨_, present⟩ := Table.cases_insert present
    · exact .inl ⟨approval, stored, .inr (.resolve outcome _ resolves)⟩
    · exact .inl ⟨later, present, .inl rfl⟩
  | decideApproval command _ next asked decides =>
    simp only [recordApprovalDecision, bind_eq_ok, orRaise_eq_ok,
      Option.filter_eq_some_iff] at decides
    obtain ⟨_, _, _, _, approval, ⟨stored, owner⟩, _, _, decides⟩ := decides
    split at decides
    · next pending =>
      simp only [bind_eq_ok, return_eq_ok] at decides
      obtain ⟨_, window, _, _, _, _, _, _, _, rfl⟩ := decides
      obtain ⟨rfl, rfl⟩ | ⟨_, present⟩ := Table.cases_insert present
      · exact .inl ⟨approval, stored, .inr (.decide command asked rfl (by simpa using owner)
          pending window)⟩
      · exact .inl ⟨later, present, .inl rfl⟩
    · simp only [bind_eq_ok, return_eq_ok] at decides
      obtain ⟨_, _, _, rfl⟩ := decides
      obtain ⟨rfl, rfl⟩ | ⟨_, present⟩ := Table.cases_insert present
      · exact .inl ⟨approval, stored, .inr .reconcile⟩
      · exact .inl ⟨later, present, .inl rfl⟩
  | readApproval _ approval stored =>
    obtain ⟨rfl, rfl⟩ | ⟨_, present⟩ := Table.cases_insert present
    · exact .inl ⟨approval, stored, .inr .reconcile⟩
    · exact .inl ⟨later, present, .inl rfl⟩
  | settleApprovals =>
    simp only [cancelLiveApprovalRequests, Table.lookup_updateAll, Option.map_eq_some_iff]
      at present
    obtain ⟨approval, stored, rfl⟩ := present
    refine .inl ⟨approval, stored, ?_⟩
    split
    · exact .inr .cancel
    · exact .inl rfl
  | compareAndSet _ _ _ _ _ _ _ sets =>
    obtain ⟨_, rfl⟩ := compareAndSetSession_frame sets
    exact .inl ⟨later, present, .inl rfl⟩
  | purge _ _ _ _ _ _ _ _ _ _ purges =>
    obtain ⟨_, _, _, _, approvals, _⟩ := purgeProfile_eq purges
    rw [approvals, Table.lookup_keep_eq_some] at present
    exact .inl ⟨later, present.1, .inl rfl⟩
  | _ => exact .inl ⟨later, present, .inl rfl⟩

theorem Write.approvalsKept (absent : next.approvals.lookup request = none) :
    db.approvals.lookup request = none ∨
      ∀ approval, db.approvals.lookup request = some approval →
        ∀ id execution, next.executions.lookup id = some execution →
          execution.profile ≠ approval.profile := by
  cases write with
  | openApproval _ _ _ _ _ _ _ _ _ _ _ _ records =>
    simp only [recordApprovalRequestFromEvent, bind_eq_ok] at records
    obtain ⟨_, _, _, _, records⟩ := records
    split at records
    · simp only [bind_eq_ok, pure_eq_ok] at records
      obtain ⟨_, _, rfl⟩ := records
      exact .inl absent
    · cases records
      exact .inl (Table.lookup_of_insert_none _ _ _ _ absent)
  | resolveApproval _ _ _ _ resolves =>
    simp only [applyApprovalResolution, bind_eq_ok, pure_eq_ok] at resolves
    obtain ⟨_, _, _, _, rfl⟩ := resolves
    exact .inl (Table.lookup_of_insert_none _ _ _ _ absent)
  | decideApproval _ _ _ _ decides =>
    simp only [recordApprovalDecision, bind_eq_ok] at decides
    obtain ⟨_, _, _, _, _, _, _, _, decides⟩ := decides
    split at decides
    · simp only [bind_eq_ok, return_eq_ok] at decides
      obtain ⟨_, _, _, _, _, _, _, _, _, rfl⟩ := decides
      exact .inl (Table.lookup_of_insert_none _ _ _ _ absent)
    · simp only [bind_eq_ok, return_eq_ok] at decides
      obtain ⟨_, _, _, rfl⟩ := decides
      exact .inl (Table.lookup_of_insert_none _ _ _ _ absent)
  | readApproval => exact .inl (Table.lookup_of_insert_none _ _ _ _ absent)
  | settleApprovals =>
    simp only [cancelLiveApprovalRequests, Table.lookup_updateAll, Option.map_eq_none_iff] at absent
    exact .inl absent
  | compareAndSet _ _ _ _ _ _ _ sets =>
    obtain ⟨_, rfl⟩ := compareAndSetSession_frame sets
    exact .inl absent
  | purge _ profileId _ _ next _ _ _ _ _ purges =>
    obtain ⟨_, _, executions, _, approvals, _⟩ := purgeProfile_eq purges
    refine .inr fun approval stored id execution kept => ?_
    rw [executions, Table.lookup_keep_eq_some] at kept
    have purged : approval.profile = profileId := by
      by_contra other
      have stays : next.approvals.lookup request = some approval := by
        rw [approvals, Table.lookup_keep_eq_some]
        exact ⟨stored, by simpa using other⟩
      exact absurd (absent.symm.trans stays) (by rintro ⟨⟩)
    rw [purged]
    simpa using kept.2
  | _ => exact .inl absent

theorem Write.approvalSurvives
    {approval : ApprovalRequest} (stored : db.approvals.lookup request = some approval) :
    (∃ later, next.approvals.lookup request = some later ∧
      (later = approval ∨ ApprovalStep call request approval later)) ∨
    (∀ id execution, next.executions.lookup id = some execution →
      execution.profile ≠ approval.profile) := by
  cases written : next.approvals.lookup request with
  | some later =>
    rcases write.approvalSource written with ⟨_, found, step⟩ | opened
    · rw [stored, Option.some.injEq] at found
      exact .inl ⟨later, rfl, found ▸ step⟩
    · obtain ⟨_, _, _, _, unknown, _⟩ := opened
      exact absurd (unknown.symm.trans stored) nofun
  | none =>
    rcases write.approvalsKept written with absent | purged
    · exact absurd (absent.symm.trans stored) nofun
    · exact .inr (purged approval stored)

end

/-! ## Outbox rows -/

section

variable (write : Write env call start db next) {id : DeliveryId}

include write

theorem Write.deliverySource
    {later : ExecutionEventDelivery} (present : next.deliveries.lookup id = some later) :
    (∃ row, db.deliveries.lookup id = some row ∧
      (later = row ∨ DeliveryStep env call start id row later)) ∨
    (db.deliveries.lookup id = none ∧
      ∃ former execution attempt kept event envelope,
        db.executions.lookup id.1.execution = some execution ∧
        ReflTransGen (Change env call start id.1.execution) former execution ∧
        former.attempt? id.1.number = some attempt ∧
        execution.attempt? id.1.number = some kept ∧
        kept.findEvent id.2 = some event ∧
        env.buildEventEnvelope id.1 former attempt event = .ok (some envelope) ∧
        later = .enqueued envelope event.createdAt) := by
  cases write with
  | enqueue owner former execution attempt kept event envelope stored chain found held known built
      fresh =>
    obtain ⟨rfl, rfl⟩ | ⟨_, present⟩ := Table.cases_insert present
    · exact .inr ⟨fresh, former, execution, attempt, kept, event, envelope, stored, chain, found,
        held, known, built, rfl⟩
    · exact .inl ⟨later, present, .inl rfl⟩
  | delivery _ row _ stored step =>
    obtain ⟨rfl, rfl⟩ | ⟨_, present⟩ := Table.cases_insert present
    · exact .inl ⟨row, stored, .inr step⟩
    · exact .inl ⟨later, present, .inl rfl⟩
  | sweepDeliveries _ step =>
    simp only [Table.lookup_updateAll, Option.map_eq_some_iff] at present
    obtain ⟨row, stored, rfl⟩ := present
    exact .inl ⟨row, stored, step id row⟩
  | decideApproval _ _ _ _ decides =>
    obtain ⟨_, rfl⟩ := recordApprovalDecision_frame decides
    exact .inl ⟨later, present, .inl rfl⟩
  | compareAndSet _ _ _ _ _ _ _ sets =>
    obtain ⟨_, rfl⟩ := compareAndSetSession_frame sets
    exact .inl ⟨later, present, .inl rfl⟩
  | purge _ _ _ _ _ _ _ _ _ _ purges =>
    obtain ⟨_, _, _, deliveries, _⟩ := purgeProfile_eq purges
    rw [deliveries, Table.lookup_keep_eq_some] at present
    exact .inl ⟨later, present.1, .inl rfl⟩
  | _ => exact .inl ⟨later, present, .inl rfl⟩

theorem Write.deliverySurvives
    {row : ExecutionEventDelivery} (stored : db.deliveries.lookup id = some row) :
    (∃ later, next.deliveries.lookup id = some later ∧
      (later = row ∨ DeliveryStep env call start id row later)) ∨
    (∃ execution, db.executions.lookup id.1.execution = some execution ∧
      next.executions.lookup id.1.execution = none) := by
  cases write with
  | enqueue owner _ _ _ _ event _ _ _ _ _ _ _ fresh =>
    have different : id ≠ (owner, event.eventId) := by
      rintro rfl
      rw [fresh] at stored
      cases stored
    exact .inl ⟨row, by rw [AList.lookup_insert_ne different]; exact stored, .inl rfl⟩
  | delivery target _ moved found step =>
    by_cases same : id = target
    · subst same
      cases stored.symm.trans found
      exact .inl ⟨moved, AList.lookup_insert _, .inr step⟩
    · exact .inl ⟨row, by rw [AList.lookup_insert_ne same]; exact stored, .inl rfl⟩
  | sweepDeliveries rewrite step =>
    exact .inl ⟨rewrite id row, by simp [stored], step id row⟩
  | decideApproval _ _ _ _ decides =>
    obtain ⟨_, rfl⟩ := recordApprovalDecision_frame decides
    exact .inl ⟨row, stored, .inl rfl⟩
  | compareAndSet _ _ _ _ _ _ _ sets =>
    obtain ⟨_, rfl⟩ := compareAndSetSession_frame sets
    exact .inl ⟨row, stored, .inl rfl⟩
  | purge _ profileId _ _ _ _ _ _ _ _ purges =>
    obtain ⟨_, _, executions, deliveries, _⟩ := purgeProfile_eq purges
    rw [executions, deliveries]
    by_cases stays : ((db.executions.lookup id.1.execution).all
        fun execution => decide (execution.profile ≠ profileId)) = true
    · exact .inl ⟨row, (Table.lookup_keep_eq_some _ _ _ _).mpr ⟨stored, stays⟩, .inl rfl⟩
    · cases found : db.executions.lookup id.1.execution with
      | none => simp [found] at stays
      | some execution =>
        refine .inr ⟨execution, rfl, ?_⟩
        rw [Option.eq_none_iff_forall_ne_some]
        intro later kept
        rw [Table.lookup_keep_eq_some, found, Option.some.injEq] at kept
        obtain ⟨rfl, other⟩ := kept
        simp only [found, Option.all_some] at stays
        exact absurd other stays
  | _ => exact .inl ⟨row, stored, .inl rfl⟩

end

end Writes

end Foundry
