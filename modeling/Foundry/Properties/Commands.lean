import Foundry.Evolution.Bindings

/-!
# Execution commands

An idempotency key names one Execution of its Workspace.  A command that comes again
finds it: the same content is a duplicate, and other content conflicts.  The lookup of a
command compares the fingerprint alone, over all Workspaces.
-/

set_option autoImplicit false

namespace Foundry

open Raise

variable {D : Type}

/-! ## Stored commands -/

/-- What is known of the stored Executions and of the commands they come from. -/
structure Db.CommandsStored (env : Env D) (db : Db D) : Prop where
  intact : db.Intact
  unique : ∀ id other execution twin, db.executions.lookup id = some execution →
    db.executions.lookup other = some twin → twin.workspace = execution.workspace →
    twin.idempotencyKey = execution.idempotencyKey → other = id
  commanded : ∀ id execution, db.executions.lookup id = some execution → execution.Commanded env
  bound : ∀ id execution, db.executions.lookup id = some execution → db.BindsInput execution
  digested : ∀ id execution, db.executions.lookup id = some execution →
    execution.routine = none →
    execution.payloadDigest = env.digestPayload (.execution execution.inputPayload)
  ordinary : ∀ id execution, db.executions.lookup id = some execution →
    execution.commandId ≠ none → execution.routine = none

theorem commandsStored_empty (env : Env D) : (Db.empty : Db D).CommandsStored env where
  intact := Db.intact_empty
  unique := by
    intro id other execution twin stored
    simp [Db.empty] at stored
  commanded := by
    intro id execution stored
    simp [Db.empty] at stored
  bound := by
    intro id execution stored
    simp [Db.empty] at stored
  digested := by
    intro id execution stored
    simp [Db.empty] at stored
  ordinary := by
    intro id execution stored
    simp [Db.empty] at stored

variable {execution : Execution D} {env : Env D}

theorem Execution.Commanded.of_same {next : Execution D}
    (same : execution.SameWork next) (commanded : execution.Commanded env) :
    next.Commanded env := by
  rw [same.command]
  rcases commanded with none | ⟨command, created⟩
  · exact .inl none
  · exact .inr ⟨command, created.valid, created.key, created.profile, created.same,
      created.payload⟩

section Writes

variable [DecidableEq D] {env : Env D} {call : Call D} {start db next : Db D}

theorem Write.commandsStored (write : Write env call start db next)
    (kept : db.CommandsStored env) : next.CommandsStored env where
  intact := write.intact kept.intact
  unique := by
    intro id other later twin isLater isTwin home key
    rcases write.workSource id later isLater with ⟨execution, stored, same, _⟩ | created <;>
      rcases write.workSource other twin isTwin with ⟨former, found, sameTwin, _⟩ | createdTwin
    · refine kept.unique id other execution former stored found ?_ ?_
      · rw [← same.workspace, ← sameTwin.workspace]
        exact home
      · have first : later.idempotencyKey = execution.idempotencyKey := by rw [same.command]
        have second : twin.idempotencyKey = former.idempotencyKey := by rw [sameTwin.command]
        rw [← first, ← second]
        exact key
    · refine absurd ?_ (createdTwin.fresh id execution stored ?_)
      · have first : later.idempotencyKey = execution.idempotencyKey := by rw [same.command]
        rw [← first]
        exact key.symm
      · rw [← same.workspace]
        exact home.symm
    · refine absurd ?_ (created.fresh other former found ?_)
      · have second : twin.idempotencyKey = former.idempotencyKey := by rw [sameTwin.command]
        rw [← second]
        exact key
      · rw [← sameTwin.workspace]
        exact home
    · rw [created.isNew, createdTwin.isNew]
  commanded := by
    intro id later present
    rcases write.workSource id later present with ⟨execution, stored, same, _⟩ | created
    · exact (kept.commanded id execution stored).of_same same
    · exact created.commanded
  bound := by
    intro id later present reference ordinary names
    rcases write.workSource id later present with ⟨execution, stored, same, wasOrdinary⟩ | created
    · have sameInput : later.inputPayload = execution.inputPayload := by rw [same.command]
      rw [sameInput] at names
      obtain ⟨binding, bound, isReference⟩ := kept.bound id execution stored reference
        (wasOrdinary ordinary) names
      rw [same.profile]
      rcases write.bindingKept execution.profile binding bound with ⟨kept', found, conversation⟩ |
        deleted
      · exact ⟨kept', found, conversation.trans isReference⟩
      · obtain ⟨workspace, tombstone⟩ := Option.ne_none_iff_exists'.mp deleted
        obtain ⟨_, isProfile, _⟩ := (write.intact kept.intact).home id later present
        rw [same.profile, (write.intact kept.intact).deleted _ workspace tombstone] at isProfile
        cases isProfile
    · have sameBindings : next.bindings = db.bindings := by rw [created.written]; rfl
      rw [sameBindings]
      exact created.bound reference ordinary names
  digested := by
    intro id later present ordinary
    rcases write.workSource id later present with ⟨execution, stored, same, wasOrdinary⟩ | created
    · have digest := kept.digested id execution stored (wasOrdinary ordinary)
      rw [same.command]
      exact digest
    · exact created.digested ordinary
  ordinary := by
    intro id later present commanded
    rcases write.workSource id later present with ⟨execution, stored, same, _⟩ | created
    · have sameId : later.commandId = execution.commandId := by rw [same.command]
      rw [sameId] at commanded
      exact same.ordinary (kept.ordinary id execution stored commanded)
    · cases routine : later.routine with
      | none => rfl
      | some => exact absurd (created.uncommanded (by rw [routine]; rfl)) commanded

theorem run_commandsStored (env : Env D) (calls : List (Call D)) :
    (run env Db.empty calls).CommandsStored env :=
  run_keeps env (Db.CommandsStored env) (fun _ _ _ _ write => write.commandsStored) Db.empty calls
    (commandsStored_empty env)

end Writes

/-! ## Content -/

/-- Two commands of the same normalized content; the transport times and the fingerprint
are not part of it. -/
structure ExecutionCommand.SameContent (wire : Wire) (command other : ExecutionCommand) :
    Prop where
  commandId : command.commandId = other.commandId
  idempotencyKey : wire.uuidText command.idempotencyKey = wire.uuidText other.idempotencyKey
  workspace : command.cloudWorkspaceId = other.cloudWorkspaceId
  ordinal : command.conversationTurnOrdinal = other.conversationTurnOrdinal
  ally : command.cloudAllyId = other.cloudAllyId
  conversation : command.cloudConversationId = other.cloudConversationId
  message : command.cloudMessageId = other.cloudMessageId
  binding : command.cloudBindingId = other.cloudBindingId
  payload : normalizeJson wire.nfc (command.payloadValue wire.uuidText) =
    normalizeJson wire.nfc (other.payloadValue wire.uuidText)

variable {command : ExecutionCommand} {wire : Wire}

theorem ExecutionCommand.SameContent.fingerprint {other : ExecutionCommand}
    (same : command.SameContent wire other) :
    wire.commandFingerprint command = wire.commandFingerprint other := by
  simp only [Wire.commandFingerprint, Wire.canonicalFingerprint, ExecutionCommand.contractValue,
    normalizeJson]
  rw [normalizeMembers_congr wire.nfc _ _ ?_ []]
  simp [same.commandId, same.idempotencyKey, same.workspace, same.ordinal, same.ally,
    same.conversation, same.message, same.binding, same.payload]

theorem validateCommand_fingerprint (env : Env D) (command : ExecutionCommand)
    (valid : validateCommand env command = .ok ()) :
    env.commandFingerprint command = .ok command.fingerprint ∧
      isFingerprint command.fingerprint = true := by
  simp only [validateCommand, bind_eq_ok, require_eq_ok] at valid
  obtain ⟨_, formed, _, _, _, _, _, computed, _, same, _⟩ := valid
  simp only [ExecutionCommand.isWellFormed, decide_eq_true_eq] at formed
  exact ⟨by rw [computed, same], formed.2.2.2.2.2.2.2⟩

theorem Execution.CreatedFrom.repeats {first : ExecutionCommand}
    (created : execution.CreatedFrom (env.withContracts wire) first)
    (same : command.SameContent wire first)
    (valid : validateCommand (env.withContracts wire) command = .ok ()) :
    execution.repeats command ((env.withContracts wire).profileIdOf command.cloudBindingId) =
      true := by
  have computed := (validateCommand_fingerprint _ command valid).1
  have original := (validateCommand_fingerprint _ first created.valid).1
  have fingerprint : command.fingerprint = first.fingerprint := by
    have equal : (env.withContracts wire).commandFingerprint command =
        (env.withContracts wire).commandFingerprint first := same.fingerprint
    rw [computed, original, Except.ok.injEq] at equal
    exact equal
  have stored := created.same
  simp only [Execution.repeats, decide_eq_true_eq] at stored ⊢
  rw [same.commandId, same.workspace, same.ally, same.conversation, same.message, same.binding,
    same.ordinal, fingerprint]
  exact ⟨created.profile, stored.2⟩

/-! ## Repeated commands -/

variable {existing : Execution D} {key : String} {workspaceId id : Uuid}

section Repeats

variable {env : Env D} {db : Db D}

theorem Db.executionByKey_eq_some
    (found : db.executionByKey workspaceId key = some (id, execution)) :
    db.executions.lookup id = some execution ∧ execution.workspace = workspaceId ∧
      execution.idempotencyKey = key := by
  have member := List.mem_of_find?_eq_some found
  have holds := List.find?_some found
  simp only [decide_eq_true_eq] at holds
  exact ⟨(Table.mem_rows _ _ _).mp member, holds.1, holds.2⟩

variable {profileId : Uuid} {bindings : Table Uuid ConversationBinding}

theorem ensureConversationBinding_of_bound {mismatch : String → RuntimeError}
    {conversationRef : String} {next : Table Uuid ConversationBinding}
    (binding : ConversationBinding) (bound : bindings.lookup profileId = some binding)
    (success : ensureConversationBinding mismatch profileId conversationRef bindings = .ok next) :
    next = bindings := by
  simp only [ensureConversationBinding, bind_eq_ok, bound, pure_eq_ok] at success
  obtain ⟨_, _, _, _, rfl⟩ := success
  rfl

theorem Db.CommandsStored.bindings_of_repeats (kept : db.CommandsStored env) {target : CommandTarget}
    (resolves : resolveCommand env command db = .ok target)
    (stored : db.executions.lookup id = some existing)
    (repeats : existing.repeats command target.profileId = true) :
    target.bindings = db.bindings := by
  obtain ⟨_, _, _, _, reserves⟩ := resolveCommand_cases env db resolves
  simp only [Execution.repeats, decide_eq_true_eq] at repeats
  have commandId : existing.commandId ≠ none := by
    rw [repeats.2.1]
    rintro ⟨⟩
  rcases kept.commanded id existing stored with ⟨none, _⟩ | ⟨first, created⟩
  · exact absurd none commandId
  · have names : existing.inputPayload.get? "cloud_conversation_ref" =
        some (.str (env.uuidText first.cloudConversationId)) := by
      rw [created.payload]
      exact inputPayload_conversation env first
    obtain ⟨binding, bound, _⟩ := kept.bound id existing stored _
      (kept.ordinary id existing stored commandId) names
    rw [repeats.1] at bound
    exact ensureConversationBinding_of_bound binding bound reserves

theorem createExecutionIntent_of_taken [DecidableEq D] (now : Instant)
    (command : ExecutionCommand) (target : CommandTarget) (id : Uuid) (existing : Execution D)
    (resolves : resolveCommand env command db = .ok target)
    (taken : db.executionByKey target.workspaceId (env.uuidText command.idempotencyKey) =
      some (id, existing)) :
    createExecutionIntent env now command db =
      if existing.repeats command target.profileId then
        (retriedExecution env now target.workspaceId target.workspace target.bindings existing
          db).map fun next => (command.receipt .duplicate existing, next)
      else .error (conflictError "idempotency key already identifies a different execution") := by
  simp only [createExecutionIntent, resolves, ok_bind, taken]
  split
  · next repeats =>
    simp only [require, repeats, if_true, ok_bind]
    cases retriedExecution env now target.workspaceId target.workspace target.bindings existing db
      <;> rfl
  · next different => simp [require, different]

def Db.wakeAgain (db : Db D) (workspaceId : Uuid) (woken : Workspace) : Db D :=
  { db.draw with workspaces := db.workspaces.insert workspaceId woken }

theorem retriedExecution_eq (now : Instant) (workspaceId : Uuid) (workspace : Workspace)
    (existing : Execution D) :
    retriedExecution env now workspaceId workspace db.bindings existing db =
      if existing.status = .queued then
        (requestExecutionWakeLocked env now db.supply workspace).map (db.wakeAgain workspaceId)
      else .ok db := by
  simp only [retriedExecution]
  split
  · cases requestExecutionWakeLocked env now db.supply workspace <;> rfl
  · rfl

def ExecutionCommand.duplicateReceipt (command : ExecutionCommand) : ExecutionReceipt :=
  ⟨.duplicate, command.commandId, command.idempotencyKey, command.fingerprint⟩

theorem Execution.repeats_receipt (repeats : existing.repeats command profileId = true) :
    command.receipt .duplicate existing = command.duplicateReceipt := by
  simp only [Execution.repeats, decide_eq_true_eq] at repeats
  obtain ⟨_, commandId, fingerprint, _⟩ := repeats
  simp [ExecutionCommand.receipt, ExecutionCommand.duplicateReceipt, commandId, fingerprint]

theorem Db.CommandsStored.createExecutionIntent_of_repeats [DecidableEq D]
    (kept : db.CommandsStored env) (now : Instant) (command : ExecutionCommand)
    (target : CommandTarget) (id : Uuid) (existing : Execution D)
    (resolves : resolveCommand env command db = .ok target)
    (taken : db.executionByKey target.workspaceId (env.uuidText command.idempotencyKey) =
      some (id, existing))
    (repeats : existing.repeats command target.profileId = true) :
    createExecutionIntent env now command db =
      if existing.status = .queued then
        (requestExecutionWakeLocked env now db.supply target.workspace).map fun woken =>
          (command.duplicateReceipt, db.wakeAgain target.workspaceId woken)
      else .ok (command.duplicateReceipt, db) := by
  obtain ⟨stored, _⟩ := Db.executionByKey_eq_some taken
  rw [createExecutionIntent_of_taken now command target id existing resolves taken, if_pos repeats,
    kept.bindings_of_repeats resolves stored repeats, retriedExecution_eq,
    Execution.repeats_receipt repeats]
  split
  · cases requestExecutionWakeLocked env now db.supply target.workspace <;> rfl
  · rfl

theorem payloadBinding_of_bound {payload : Json} (binds : db.BindsInput existing)
    (ordinary : existing.routine = none) (owner : existing.profile = profileId)
    (same : payload.get? "cloud_conversation_ref" =
      existing.inputPayload.get? "cloud_conversation_ref")
    (success : payloadBinding profileId payload db.bindings = .ok bindings) :
    bindings = db.bindings := by
  simp only [payloadBinding] at success
  split at success
  · exact ((pure_eq_ok _ _).mp success).symm
  · exact ((pure_eq_ok _ _).mp success).symm
  · next reference names =>
    rw [same] at names
    obtain ⟨binding, bound, _⟩ := binds reference ordinary names
    rw [owner] at bound
    exact ensureConversationBinding_of_bound binding bound success
  · simp at success

theorem createExecution_of_taken [DecidableEq D] (kept : db.CommandsStored env)
    (now : Instant) (workspaceId profileId : Uuid) (key : String) (payload : Json) (id : Uuid)
    (existing : Execution D) (answer : Uuid) (next : Db D)
    (taken : db.executionByKey workspaceId key = some (id, existing))
    (success : createExecution env now workspaceId profileId key payload db = .ok (answer, next)) :
    answer = id ∧ existing.profile = profileId ∧
      existing.payloadDigest = env.digestPayload (.execution payload) ∧
      (existing.routine = none →
        payload.get? "cloud_conversation_ref" =
          existing.inputPayload.get? "cloud_conversation_ref" →
        (existing.status ≠ .queued ∧ next = db) ∨
        (existing.status = .queued ∧ ∃ workspace woken,
          db.workspaces.lookup workspaceId = some workspace ∧
          requestExecutionWakeLocked env now db.supply workspace = .ok woken ∧
          next = db.wakeAgain workspaceId woken)) := by
  obtain ⟨stored, _⟩ := Db.executionByKey_eq_some taken
  simp only [createExecution, bind_eq_ok, orRaise_eq_ok, require_eq_ok, taken] at success
  obtain ⟨_, _, _, _, _, _, _, _, workspace, isWorkspace, _, _, _, reserves, _,
    ⟨owner, digest⟩, _, retried, success⟩ := success
  cases success
  refine ⟨rfl, owner, digest, ?_⟩
  intro ordinary same
  rw [payloadBinding_of_bound (kept.bound _ existing stored) ordinary owner same reserves,
    retriedExecution_eq] at retried
  split at retried
  · next queued =>
    cases wakes : requestExecutionWakeLocked env now db.supply workspace with
    | error =>
      rw [wakes] at retried
      cases retried
    | ok woken =>
      rw [wakes] at retried
      cases retried
      exact .inr ⟨queued, workspace, woken, isWorkspace, wakes, rfl⟩
  · next begun =>
    cases retried
    exact .inl ⟨begun, rfl⟩

end Repeats

/-! ## Lookups of commands -/

section Lookups

variable {env : Env D} {db : Db D}

theorem reconcileExecutionIntent_unchanged (key : Uuid) (fingerprint : String)
    (receipt : ReconciliationReceipt) (next : Db D)
    (success : reconcileExecutionIntent env key fingerprint db = .ok (receipt, next)) :
    next = db := by
  simp only [reconcileExecutionIntent, bind_eq_ok, require_eq_ok] at success
  obtain ⟨_, _, success⟩ := success
  split at success
  · simp only [return_eq_ok] at success
    exact success.2.symm
  · split at success <;> simp only [return_eq_ok] at success <;>
      exact success.2.symm
  · simp only [return_eq_ok] at success
    exact success.2.symm

def Accepts (env : Env D) (db : Db D) (key : Uuid) (fingerprint : String) : Prop :=
  ∃ receipt, reconcileExecutionIntent env key fingerprint db = .ok (receipt, db) ∧
    receipt.status = .accepted

theorem accepts_iff (key : Uuid) (fingerprint : String) :
    Accepts env db key fingerprint ↔
      isFingerprint fingerprint = true ∧ ∃ id execution,
        db.executionsByKey (env.uuidText key) = [(id, execution)] ∧
        execution.commandFingerprint = fingerprint := by
  constructor
  · rintro ⟨_, success, accepted⟩
    simp only [reconcileExecutionIntent, bind_eq_ok, require_eq_ok] at success
    obtain ⟨_, valid, success⟩ := success
    split at success
    · cases success
      cases accepted
    · next id execution only =>
      split at success
      · next same => exact ⟨valid, id, execution, only, same⟩
      · cases success
        cases accepted
    · cases success
      cases accepted
  · rintro ⟨valid, _, execution, only, same⟩
    refine ⟨⟨.accepted, execution.commandId⟩, ?_, rfl⟩
    simp [reconcileExecutionIntent, require, valid, only, same, pure, Except.pure]

theorem isFingerprint_ne_empty {fingerprint : String} (valid : isFingerprint fingerprint = true) :
    fingerprint ≠ "" := by
  rintro rfl
  revert valid
  decide +kernel

theorem Db.CommandsStored.accepts_iff_created (kept : db.CommandsStored env) (key : Uuid)
    (fingerprint : String) :
    Accepts env db key fingerprint ↔
      ∃ id execution first, db.executionsByKey (env.uuidText key) = [(id, execution)] ∧
        execution.CreatedFrom env first ∧ first.fingerprint = fingerprint := by
  rw [accepts_iff]
  constructor
  · rintro ⟨valid, id, execution, only, same⟩
    have listed : (id, execution) ∈ db.executionsByKey (env.uuidText key) := by
      rw [only]
      exact List.mem_singleton_self _
    have stored := (Table.mem_rows _ _ _).mp (List.mem_filter.mp listed).1
    rcases kept.commanded id execution stored with ⟨_, none⟩ | ⟨first, created⟩
    · rw [none] at same
      exact absurd same.symm (isFingerprint_ne_empty valid)
    · have repeats := created.same
      simp only [Execution.repeats, decide_eq_true_eq] at repeats
      exact ⟨id, execution, first, only, created, repeats.2.2.1.symm.trans same⟩
  · rintro ⟨id, execution, first, only, created, rfl⟩
    have repeats := created.same
    simp only [Execution.repeats, decide_eq_true_eq] at repeats
    exact ⟨(validateCommand_fingerprint env first created.valid).2, id, execution, only,
      repeats.2.2.1⟩

theorem Db.executionByKey_of_only
    (only : db.executionsByKey key = [(id, execution)]) (home : execution.workspace = workspaceId) :
    db.executionByKey workspaceId key = some (id, execution) := by
  have listed : (id, execution) ∈ db.executionsByKey key := by
    rw [only]
    exact List.mem_singleton_self _
  obtain ⟨member, isKey⟩ := List.mem_filter.mp listed
  simp only [decide_eq_true_eq] at isKey
  have selected : (db.executionByKey workspaceId key).isSome = true :=
    List.find?_isSome.mpr ⟨(id, execution), member, by simp [home, isKey]⟩
  obtain ⟨⟨other, twin⟩, found⟩ := Option.isSome_iff_exists.mp selected
  obtain ⟨stored, _, sameKey⟩ := Db.executionByKey_eq_some found
  have isTwin : (other, twin) ∈ db.executionsByKey key :=
    List.mem_filter.mpr ⟨(Table.mem_rows _ _ _).mpr stored, by simp [sameKey]⟩
  rw [only] at isTwin
  rw [found, List.mem_singleton.mp isTwin]

theorem Db.CommandsStored.executionsByKey_eq (kept : db.CommandsStored env)
    (taken : db.executionByKey workspaceId key = some (id, existing))
    (sole : ∀ other execution, db.executions.lookup other = some execution →
      execution.idempotencyKey = key → execution.workspace = workspaceId) :
    db.executionsByKey key = [(id, existing)] := by
  obtain ⟨stored, home, isKey⟩ := Db.executionByKey_eq_some taken
  refine Table.filter_rows_eq_singleton stored (by simp [isKey]) ?_
  intro other twin isTwin selected
  simp only [decide_eq_true_eq] at selected
  refine kept.unique id other existing twin stored isTwin ?_ ?_
  · rw [sole other twin isTwin selected, home]
  · rw [selected, isKey]

end Lookups

/-! ## Idempotency -/

/-- Two commands of different content that the fingerprint does not tell apart. -/
def ExecutionCommand.Collides (wire : Wire) (command other : ExecutionCommand) : Prop :=
  ¬ command.SameContent wire other ∧
    wire.commandFingerprint command = wire.commandFingerprint other

theorem Execution.CreatedFrom.sameContent_or_collides {first : ExecutionCommand}
    (created : execution.CreatedFrom (env.withContracts wire) first)
    (valid : validateCommand (env.withContracts wire) command = .ok ())
    (same : command.fingerprint = first.fingerprint) :
    command.SameContent wire first ∨ command.Collides wire first := by
  by_cases content : command.SameContent wire first
  · exact .inl content
  · refine .inr ⟨content, ?_⟩
    have computed := (validateCommand_fingerprint _ command valid).1
    have original := (validateCommand_fingerprint _ first created.valid).1
    exact (computed.trans (by rw [same])).trans original.symm

/-- What becomes of repeated commands and of the lookups of commands. -/
structure CommandsIdempotent [DecidableEq D] (env : Env D) (wire : Wire) (db : Db D) : Prop where
  /-- One Execution for a key of a Workspace. -/
  unique : ∀ id other execution twin, db.executions.lookup id = some execution →
    db.executions.lookup other = some twin → twin.workspace = execution.workspace →
    twin.idempotencyKey = execution.idempotencyKey → other = id
  /-- The content of the first command repeats it; only a collision does besides. -/
  same : ∀ id existing first command, db.executions.lookup id = some existing →
    existing.CreatedFrom env first → validateCommand env command = .ok () →
    command.SameContent wire first →
    existing.repeats command (env.profileIdOf command.cloudBindingId) = true
  different : ∀ id existing first command, db.executions.lookup id = some existing →
    existing.CreatedFrom env first → validateCommand env command = .ok () →
    existing.repeats command (env.profileIdOf command.cloudBindingId) = true →
    command.SameContent wire first ∨ command.Collides wire first
  duplicate : ∀ now command target id existing, resolveCommand env command db = .ok target →
    db.executionByKey target.workspaceId (env.uuidText command.idempotencyKey) =
      some (id, existing) →
    existing.repeats command target.profileId = true →
    existing.commandId = some command.commandId ∧
      createExecutionIntent env now command db =
        if existing.status = .queued then
          (requestExecutionWakeLocked env now db.supply target.workspace).map fun woken =>
            (command.duplicateReceipt, db.wakeAgain target.workspaceId woken)
        else .ok (command.duplicateReceipt, db)
  conflict : ∀ now command target id existing, resolveCommand env command db = .ok target →
    db.executionByKey target.workspaceId (env.uuidText command.idempotencyKey) =
      some (id, existing) →
    existing.repeats command target.profileId = false →
    createExecutionIntent env now command db =
      .error (conflictError "idempotency key already identifies a different execution")
  /-- A plain request compares the profile and the digest of the payload. -/
  plain : ∀ now workspaceId profileId key payload id existing answer next,
    db.executionByKey workspaceId key = some (id, existing) →
    createExecution env now workspaceId profileId key payload db = .ok (answer, next) →
    answer = id ∧ existing.profile = profileId ∧
      existing.payloadDigest = env.digestPayload (.execution payload) ∧
      (existing.routine = none →
        payload.get? "cloud_conversation_ref" =
          existing.inputPayload.get? "cloud_conversation_ref" →
        (existing.status ≠ .queued ∧ next = db) ∨
        (existing.status = .queued ∧ ∃ workspace woken,
          db.workspaces.lookup workspaceId = some workspace ∧
          requestExecutionWakeLocked env now db.supply workspace = .ok woken ∧
          next = db.wakeAgain workspaceId woken))
  unchanged : ∀ key fingerprint receipt next,
    reconcileExecutionIntent env key fingerprint db = .ok (receipt, next) → next = db
  accepts : ∀ key fingerprint, Accepts env db key fingerprint ↔
    ∃ id execution first, db.executionsByKey (env.uuidText key) = [(id, execution)] ∧
      execution.CreatedFrom env first ∧ first.fingerprint = fingerprint
  /-- Where no other Workspace uses the key, the lookup and the creation agree. -/
  agrees : ∀ command target, resolveCommand env command db = .ok target →
    (∀ id execution, db.executions.lookup id = some execution →
      execution.idempotencyKey = env.uuidText command.idempotencyKey →
      execution.workspace = target.workspaceId) →
    ((∃ id existing,
      db.executionByKey target.workspaceId (env.uuidText command.idempotencyKey) =
        some (id, existing) ∧ existing.repeats command target.profileId = true) →
      Accepts env db command.idempotencyKey command.fingerprint) ∧
    (Accepts env db command.idempotencyKey command.fingerprint →
      ∃ id existing,
        db.executionByKey target.workspaceId (env.uuidText command.idempotencyKey) =
          some (id, existing) ∧
        (existing.repeats command target.profileId = true ∨
          ∃ first, existing.CreatedFrom env first ∧ command.Collides wire first))

/-- In every state of every run. -/
theorem execution_commands_are_idempotent [DecidableEq D] (env : Env D) (wire : Wire)
    (calls : List (Call D)) :
    CommandsIdempotent (env.withContracts wire) wire
      (run (env.withContracts wire) Db.empty calls) := by
  have kept := run_commandsStored (env.withContracts wire) calls
  generalize run (env.withContracts wire) Db.empty calls = db at kept
  constructor
  case unique => exact kept.unique
  case same =>
    intro id existing first command _ created valid content
    exact created.repeats content valid
  case different =>
    intro id existing first command _ created valid repeats
    have original := created.same
    simp only [Execution.repeats, decide_eq_true_eq] at original repeats
    exact created.sameContent_or_collides valid (repeats.2.2.1.symm.trans original.2.2.1)
  case duplicate =>
    intro now command target id existing resolves taken repeats
    refine ⟨?_, kept.createExecutionIntent_of_repeats now command target id existing resolves taken
      repeats⟩
    simp only [Execution.repeats, decide_eq_true_eq] at repeats
    exact repeats.2.1
  case conflict =>
    intro now command target id existing resolves taken different
    rw [createExecutionIntent_of_taken now command target id existing resolves taken,
      if_neg (by simp [different])]
  case plain =>
    intro now workspaceId profileId key payload id existing answer next taken success
    exact createExecution_of_taken kept now workspaceId profileId key payload id existing answer
      next taken success
  case unchanged =>
    intro key fingerprint receipt next success
    exact reconcileExecutionIntent_unchanged key fingerprint receipt next success
  case accepts => exact kept.accepts_iff_created
  case agrees =>
    intro command target resolves sole
    obtain ⟨valid, _, isProfile, _⟩ := resolveCommand_cases _ db resolves
    constructor
    · rintro ⟨id, existing, taken, repeats⟩
      simp only [Execution.repeats, decide_eq_true_eq] at repeats
      exact (accepts_iff _ _).mpr ⟨(validateCommand_fingerprint _ command valid).2, id, existing,
        kept.executionsByKey_eq taken sole, repeats.2.2.1⟩
    · intro accepted
      obtain ⟨id, existing, first, only, created, same⟩ :=
        (kept.accepts_iff_created _ _).mp accepted
      have listed : (id, existing) ∈
          db.executionsByKey ((env.withContracts wire).uuidText command.idempotencyKey) := by
        rw [only]
        exact List.mem_singleton_self _
      obtain ⟨member, isKey⟩ := List.mem_filter.mp listed
      have home := sole id existing ((Table.mem_rows _ _ _).mp member) (by simpa using isKey)
      refine ⟨id, existing, Db.executionByKey_of_only only home, ?_⟩
      rcases created.sameContent_or_collides valid same.symm with content | collides
      · rw [isProfile]
        exact .inl (created.repeats content valid)
      · exact .inr ⟨first, created, collides⟩

/-- A command of turn 1 in a Workspace of Cloud, for a profile there. -/
def turnCommand (workspace binding : Uuid) : ExecutionCommand where
  commandId := 80 + workspace
  idempotencyKey := 90
  cloudWorkspaceId := workspace
  conversationTurnOrdinal := 1
  cloudAllyId := 20
  cloudConversationId := 40 + workspace
  cloudMessageId := 41
  cloudBindingId := binding
  text := "text"
  bootstrap := none
  files := none
  issuedAt := ⟨0, true⟩
  deadlineAt := ⟨1, true⟩
  fingerprint := plainFingerprint

def Wire.plain : Wire where
  nfc := fun text => text
  sha256 := fun _ => "aaaaaaaaaaaaaaaaaaaaaaaaaaaaaaaaaaaaaaaaaaaaaaaaaaaaaaaaaaaaaaaa"
  uuidText := fun id => toString id

/-- Two Workspaces with a profile each, and a command for the first one. -/
def commandedWork : List (Call PlainDigest) :=
  [⟨0, .registerWorkspace "10"⟩, ⟨0, .registerWorkspace "11"⟩,
    ⟨0, .ensureRuntimeProfile 0 50 "20" (.obj [])⟩, ⟨0, .ensureRuntimeProfile 1 51 "20" (.obj [])⟩,
    ⟨0, .createExecutionIntent (turnCommand 10 50)⟩]

theorem run_createExecutionIntent (env : Env PlainDigest) (db : Db PlainDigest) (now : Instant)
    (command : ExecutionCommand) (status : ExecutionReceiptStatus)
    (answered : ((createExecutionIntent env now command db).toOption.any fun answer =>
      answer.1.status = status) = true) :
    ∃ receipt, createExecutionIntent env now command db =
      .ok (receipt, run env db [⟨now, .createExecutionIntent command⟩]) ∧
        receipt.status = status := by
  cases success : createExecutionIntent env now command db with
  | error =>
    rw [success] at answered
    cases answered
  | ok answer =>
    rw [success] at answered
    refine ⟨answer.1, ?_, of_decide_eq_true answered⟩
    simp [run, Run.run, Run.step, apply, reply, success]

/-- The same command comes again: it is a duplicate that keeps the Workspace warm for
longer.  After the other Workspace used the key, it is a duplicate still, and a lookup
reports a conflict. -/
theorem duplicate_wakes_and_lookup_crosses_workspaces :
    ∃ before after shared,
      before = run (Env.plain.withContracts .plain) Db.empty commandedWork ∧
      after = run (Env.plain.withContracts .plain) before
        [⟨1, .createExecutionIntent (turnCommand 10 50)⟩] ∧
      shared = run (Env.plain.withContracts .plain) after
        [⟨1, .createExecutionIntent (turnCommand 11 51)⟩] ∧
      (∃ receipt, createExecutionIntent (Env.plain.withContracts .plain) 1 (turnCommand 10 50)
        before = .ok (receipt, after) ∧ receipt.status = .duplicate) ∧
      after ≠ before ∧
      (∃ receipt next, createExecutionIntent (Env.plain.withContracts .plain) 1
        (turnCommand 10 50) shared = .ok (receipt, next) ∧ receipt.status = .duplicate) ∧
      ¬ Accepts (Env.plain.withContracts .plain) shared (turnCommand 10 50).idempotencyKey
        (turnCommand 10 50).fingerprint := by
  refine ⟨_, _, _, rfl, rfl, rfl, ?_, ?_, ?_, ?_⟩
  · exact run_createExecutionIntent _ _ _ _ _ (by decide +kernel)
  · intro same
    have warm := congrArg (fun db : Db PlainDigest =>
      (db.workspaces.lookup 0).map Workspace.speculativeKeepWarmUntil) same
    revert warm
    decide +kernel
  · obtain ⟨receipt, success, status⟩ := run_createExecutionIntent
      (Env.plain.withContracts .plain)
      (run (Env.plain.withContracts .plain)
        (run (Env.plain.withContracts .plain)
          (run (Env.plain.withContracts .plain) Db.empty commandedWork)
          [⟨1, .createExecutionIntent (turnCommand 10 50)⟩])
        [⟨1, .createExecutionIntent (turnCommand 11 51)⟩]) 1 (turnCommand 10 50) .duplicate
      (by decide +kernel)
    exact ⟨receipt, _, success, status⟩
  · rintro ⟨_, success, accepted⟩
    have answer := congrArg (fun answer => answer.toOption.map fun pair => pair.1.status) success
    simp only [Except.toOption, Option.map_some, accepted] at answer
    revert answer
    decide +kernel

end Foundry
