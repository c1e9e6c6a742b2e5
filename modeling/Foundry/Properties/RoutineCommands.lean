import Foundry.Evolution.Receipts
import Foundry.Properties.Commands

/-!
# Repeated routine commands

A dispatch, a decision and a cancellation are answered once: the receipt of the first
answer is stored under the key of the command, and the command that comes again is
answered from it.  The gates in front of the receipt are checked each time.
-/

set_option autoImplicit false

namespace Foundry

open Raise

variable {D : Type}

/-! ## The gates -/

namespace RoutineCommand

def operation : RoutineCommand → Operation D
  | .dispatch command => .acceptRoutineDispatch command
  | .decision command => .decideRoutineApproval command
  | .cancel command => .cancelRoutineWait command

@[simp] theorem routineCommand_operation (command : RoutineCommand) :
    (command.operation : Operation D).routineCommand = some command := by
  cases command <;> rfl

/-- Only a dispatch asks whether the Workspace admits routines. -/
def requireAdmission (env : Env D) (now : Instant) (workspace : Workspace) :
    RoutineCommand → Except RuntimeError Unit
  | .dispatch _ => requireRoutineAdmission env now false workspace
  | .decision _ => pure ()
  | .cancel _ => pure ()

/-- The Workspace and the profile of a command that passes the gates. -/
def admission (env : Env D) (now : Instant) (command : RoutineCommand) (db : Db D) :
    Except RuntimeError (Uuid × Uuid) := do
  let ((workspaceId, workspace), (profileId, _)) ← resolveScope env command.scope db
  command.requireAdmission env now workspace
  return (workspaceId, profileId)

/-- `validate_dispatch`: the run has a conversation of its own. -/
def WellFormed : RoutineCommand → Prop
  | .dispatch command => command.runConversationId ≠ command.mainConversationId
  | .decision _ => True
  | .cancel _ => True

/-- The profile is bound to the main conversation a dispatch names. -/
def BoundIn (env : Env D) (db : Db D) (profileId : Uuid) : RoutineCommand → Prop
  | .dispatch command => ∃ binding, db.bindings.lookup profileId = some binding ∧
      binding.cloudConversationRef = env.uuidText command.mainConversationId
  | .decision _ => True
  | .cancel _ => True

variable {env : Env D} {now : Instant} {command : RoutineCommand} {db : Db D}

section

variable {workspaceId profileId : Uuid}
  (admitted : command.admission env now db = .ok (workspaceId, profileId))

include admitted

theorem admission_eq_ok :
    ∃ workspace profile, resolveScope env command.scope db =
        .ok ((workspaceId, workspace), (profileId, profile)) ∧
      command.requireAdmission env now workspace = .ok () := by
  simp only [admission, bind_eq_ok, pure_eq_ok] at admitted
  obtain ⟨⟨⟨_, workspace⟩, ⟨_, profile⟩⟩, resolved, _, admits, same⟩ := admitted
  obtain ⟨rfl, rfl⟩ := Prod.mk.inj same
  exact ⟨workspace, profile, resolved, admits⟩

theorem admission_profile :
    profileId = command.profileId env ∧ ∃ profile, db.profiles.lookup profileId = some profile ∧
      profile.workspace = workspaceId := by
  obtain ⟨workspace, profile, resolved, _⟩ := admission_eq_ok admitted
  obtain ⟨stored, home, _, isProfile⟩ := resolveScope_profile env db resolved
  exact ⟨isProfile, profile, stored, home⟩

end

end RoutineCommand

section Receipts

variable {db : Db D} (workspace key : Uuid) (kind : RoutineCommandKind) (fingerprint : String)
  (receipt : RoutineCommandReceipt)

section

variable (stored : db.commandReceipts.lookup (workspace, key) = some receipt)

include stored

theorem replayedCommand_same
    (sameKind : receipt.kind = kind) (same : receipt.fingerprint = fingerprint) :
    replayedCommand workspace key kind fingerprint db = .ok (some receipt.response) := by
  simp [replayedCommand, stored, sameKind, same]

theorem replayedCommand_different
    (different : ¬ (receipt.kind = kind ∧ receipt.fingerprint = fingerprint)) :
    replayedCommand workspace key kind fingerprint db =
      .error (idempotencyConflictError "routine command replay conflicts") := by
  simp [replayedCommand, stored, require_of_not _ _ different]

end

theorem replayedCommand_found {response : RoutineCommandResponse}
    (replays : replayedCommand workspace key kind fingerprint db = .ok (some response)) :
    ∃ commandId, db.commandReceipts.lookup (workspace, key) =
      some ⟨commandId, kind, fingerprint, response⟩ := by
  simp only [replayedCommand] at replays
  split at replays
  · simp at replays
  · next stored found =>
    simp only [bind_eq_ok, require_eq_ok, pure_eq_ok, Option.some.injEq] at replays
    obtain ⟨_, ⟨rfl, rfl⟩, rfl⟩ := replays
    exact ⟨stored.commandId, found⟩

end Receipts

section

variable (profileId : Uuid) (conversationRef : String)

theorem ensureMainBinding_bound (bindings next : Table Uuid ConversationBinding)
    (success : ensureMainBinding profileId conversationRef bindings = .ok next) :
    ∃ binding, next.lookup profileId = some binding ∧
      binding.cloudConversationRef = conversationRef := by
  simp only [ensureMainBinding] at success
  split at success
  · next binding stored =>
    simp only [bind_eq_ok, require_eq_ok, pure_eq_ok] at success
    obtain ⟨_, same, rfl⟩ := success
    exact ⟨binding, stored, same⟩
  · simp only [bind_eq_ok, pure_eq_ok] at success
    obtain ⟨_, _, rfl⟩ := success
    exact ⟨_, AList.lookup_insert _, rfl⟩

section

variable (bindings : Table Uuid ConversationBinding)

theorem ensureMainBinding_again (binding : ConversationBinding)
    (stored : bindings.lookup profileId = some binding)
    (same : binding.cloudConversationRef = conversationRef) :
    ensureMainBinding profileId conversationRef bindings = .ok bindings := by
  simp [ensureMainBinding, stored, require_of _ _ same]

theorem ensureMainBinding_conflict :
    (∃ next, ensureMainBinding profileId conversationRef bindings = .ok next) ∨
      ∃ message, ensureMainBinding profileId conversationRef bindings =
        .error (conflictError message) := by
  simp only [ensureMainBinding]
  split
  · next binding _ =>
    by_cases same : binding.cloudConversationRef = conversationRef
    · exact .inl ⟨bindings, by simp [require_of _ _ same]⟩
    · exact .inr ⟨_, by rw [require_of_not _ _ same]; rfl⟩
  · by_cases free : (bindings.rows.all fun row => row.2.cloudConversationRef ≠ conversationRef)
    · exact .inl ⟨_, by rw [require_of _ _ free]; rfl⟩
    · exact .inr ⟨_, by rw [require_of_not _ _ free]; rfl⟩

end

end

/-! ## One call -/

section Calls

variable [DecidableEq D] {env : Env D} {now : Instant} {command : RoutineCommand} {db : Db D}

open RoutineCommand

theorem apply_refused (error : RuntimeError) (refused : command.admission env now db = .error error) :
    apply env ⟨now, command.operation⟩ db = .error error := by
  cases resolved : resolveScope env command.scope db with
  | error =>
    simp only [admission, resolved, error_bind, Except.error.injEq] at refused
    subst refused
    cases command <;>
      simp only [RoutineCommand.scope] at resolved <;>
      simp [apply, RoutineCommand.operation, acceptRoutineDispatch, decideRoutineApproval,
        cancelRoutineWait, resolved, reply]
  | ok found =>
    obtain ⟨⟨_, workspace⟩, ⟨_, _⟩⟩ := found
    simp only [admission, resolved, ok_bind] at refused
    cases command with
    | dispatch =>
      simp only [RoutineCommand.scope] at resolved
      cases admits : requireRoutineAdmission env now false workspace with
      | ok => simp [requireAdmission, admits] at refused
      | error =>
        simp only [requireAdmission, admits, error_bind, Except.error.injEq] at refused
        subst refused
        simp [apply, RoutineCommand.operation, acceptRoutineDispatch, resolved, admits, reply]
    | decision | cancel => cases refused

section

variable (workspaceId profileId : Uuid) (receipt : RoutineCommandReceipt)
  (admitted : command.admission env now db = .ok (workspaceId, profileId))
  (stored : db.commandReceipts.lookup (workspaceId, command.idempotencyKey) = some receipt)

include workspaceId profileId admitted stored

theorem apply_replays
    (kind : receipt.kind = command.kind) (fingerprint : receipt.fingerprint = command.fingerprint)
    (wellFormed : command.WellFormed) (bound : command.BoundIn env db profileId) :
    apply env ⟨now, command.operation⟩ db = .ok (.routineCommand receipt.response, db) := by
  obtain ⟨_, _, resolved, admits⟩ := admission_eq_ok admitted
  have replays := replayedCommand_same workspaceId command.idempotencyKey command.kind
    command.fingerprint receipt stored kind fingerprint
  cases command with
  | dispatch dispatch =>
    simp only [RoutineCommand.scope, RoutineCommand.idempotencyKey, RoutineCommand.kind,
      RoutineCommand.fingerprint, requireAdmission] at resolved replays admits
    obtain ⟨binding, isBound, conversation⟩ := bound
    have reserved := ensureMainBinding_again profileId _ db.bindings binding isBound conversation
    have fresh : dispatch.runConversationId ≠ dispatch.mainConversationId := wellFormed
    simp only [apply, RoutineCommand.operation, acceptRoutineDispatch, resolved, admits,
      reserved, require_of _ _ fresh, replays, reply, ok_bind]
    rfl
  | decision =>
    simp only [RoutineCommand.scope, RoutineCommand.idempotencyKey, RoutineCommand.kind,
      RoutineCommand.fingerprint] at resolved replays
    simp only [apply, RoutineCommand.operation, decideRoutineApproval, resolved, replays, reply,
      ok_bind]
    rfl
  | cancel =>
    simp only [RoutineCommand.scope, RoutineCommand.idempotencyKey, RoutineCommand.kind,
      RoutineCommand.fingerprint] at resolved replays
    simp only [apply, RoutineCommand.operation, cancelRoutineWait, resolved, replays, reply,
      ok_bind]
    rfl

theorem apply_conflicts
    (different : ¬ (receipt.kind = command.kind ∧ receipt.fingerprint = command.fingerprint))
    (wellFormed : command.WellFormed) :
    ∃ error, apply env ⟨now, command.operation⟩ db = .error error ∧
      error.kind.isConflict = true := by
  obtain ⟨_, _, resolved, admits⟩ := admission_eq_ok admitted
  have replays := replayedCommand_different workspaceId command.idempotencyKey command.kind
    command.fingerprint receipt stored different
  cases command with
  | dispatch dispatch =>
    simp only [RoutineCommand.scope, RoutineCommand.idempotencyKey, RoutineCommand.kind,
      RoutineCommand.fingerprint, requireAdmission] at resolved replays admits
    have fresh : dispatch.runConversationId ≠ dispatch.mainConversationId := wellFormed
    rcases ensureMainBinding_conflict profileId (env.uuidText dispatch.mainConversationId)
      db.bindings with ⟨_, reserved⟩ | ⟨message, conflicts⟩
    · exact ⟨idempotencyConflictError "routine command replay conflicts", by simp [apply, RoutineCommand.operation, acceptRoutineDispatch, resolved,
        admits, reserved, require_of _ _ fresh, replays, reply], rfl⟩
    · exact ⟨conflictError message, by simp [apply, RoutineCommand.operation,
        acceptRoutineDispatch, resolved, admits, conflicts, reply], rfl⟩
  | decision =>
    simp only [RoutineCommand.scope, RoutineCommand.idempotencyKey, RoutineCommand.kind,
      RoutineCommand.fingerprint] at resolved replays
    exact ⟨idempotencyConflictError "routine command replay conflicts", by simp [apply, RoutineCommand.operation, decideRoutineApproval, resolved,
      replays, reply], rfl⟩
  | cancel =>
    simp only [RoutineCommand.scope, RoutineCommand.idempotencyKey, RoutineCommand.kind,
      RoutineCommand.fingerprint] at resolved replays
    exact ⟨idempotencyConflictError "routine command replay conflicts", by simp [apply, RoutineCommand.operation, cancelRoutineWait, resolved,
      replays, reply], rfl⟩

end

theorem apply_accepted (response : RoutineCommandResponse) (next : Db D)
    (accepted : apply env ⟨now, command.operation⟩ db = .ok (.routineCommand response, next)) :
    ∃ workspaceId profileId commandId,
      command.admission env now db = .ok (workspaceId, profileId) ∧
      next.commandReceipts.lookup (workspaceId, command.idempotencyKey) =
        some ⟨commandId, command.kind, command.fingerprint, response⟩ ∧
      command.WellFormed ∧ command.BoundIn env next profileId := by
  cases command with
  | dispatch dispatch =>
    simp only [apply, RoutineCommand.operation, reply_eq_ok, Reply.routineCommand.injEq,
      exists_eq_right, acceptRoutineDispatch, bind_eq_ok] at accepted
    obtain ⟨⟨⟨workspaceId, _⟩, ⟨profileId, _⟩⟩, resolved, accepted⟩ := accepted
    simp only [require_eq_ok] at accepted
    obtain ⟨_, admits, bindings, reserved, _, fresh, replay, replays, accepted⟩ := accepted
    have bound := ensureMainBinding_bound profileId _ db.bindings bindings reserved
    have admitted : (RoutineCommand.dispatch dispatch).admission env now db =
        .ok (workspaceId, profileId) := by
      simp [admission, RoutineCommand.scope, resolved, requireAdmission, admits]
    cases replay with
    | some =>
      cases accepted
      obtain ⟨commandId, found⟩ := replayedCommand_found _ _ _ _ replays
      exact ⟨workspaceId, profileId, commandId, admitted, found, fresh, bound⟩
    | none =>
      simp only [bind_eq_ok] at accepted
      obtain ⟨_, _, accepted⟩ := accepted
      split at accepted
      · simp only [bind_eq_ok, return_eq_ok] at accepted
        obtain ⟨_, _, _, _, rfl, rfl⟩ := accepted
        exact ⟨workspaceId, profileId, _, admitted, AList.lookup_insert _, fresh, bound⟩
      · simp only [bind_eq_ok, return_eq_ok] at accepted
        obtain ⟨_, _, _, _, rfl, rfl⟩ := accepted
        exact ⟨workspaceId, profileId, _, admitted, AList.lookup_insert _, fresh, bound⟩
  | decision decision =>
    simp only [apply, RoutineCommand.operation, reply_eq_ok, Reply.routineCommand.injEq,
      exists_eq_right, decideRoutineApproval, bind_eq_ok] at accepted
    obtain ⟨⟨⟨workspaceId, _⟩, ⟨profileId, _⟩⟩, resolved, accepted⟩ := accepted
    dsimp only at accepted
    obtain ⟨replay, replays, accepted⟩ := accepted
    have admitted : (RoutineCommand.decision decision).admission env now db =
        .ok (workspaceId, profileId) := by
      simp [admission, RoutineCommand.scope, resolved, requireAdmission]
    cases replay with
    | some =>
      cases accepted
      obtain ⟨commandId, found⟩ := replayedCommand_found _ _ _ _ replays
      exact ⟨workspaceId, profileId, commandId, admitted, found, trivial, trivial⟩
    | none =>
      simp only [bind_eq_ok] at accepted
      obtain ⟨_, _, ⟨_, _⟩, _, _, _, _, _, _, _, _, _, accepted⟩ := accepted
      split at accepted
      · simp only [bind_eq_ok, return_eq_ok] at accepted
        obtain ⟨⟨_, _⟩, _, _, _, rfl, rfl⟩ := accepted
        exact ⟨workspaceId, profileId, _, admitted, AList.lookup_insert _, trivial, trivial⟩
      · split at accepted
        · simp only [bind_eq_ok, return_eq_ok] at accepted
          obtain ⟨⟨_, _⟩, _, _, _, rfl, rfl⟩ := accepted
          exact ⟨workspaceId, profileId, _, admitted, AList.lookup_insert _, trivial, trivial⟩
        · simp only [bind_eq_ok, return_eq_ok] at accepted
          obtain ⟨_, _, rfl, rfl⟩ := accepted
          exact ⟨workspaceId, profileId, _, admitted, AList.lookup_insert _, trivial, trivial⟩
  | cancel cancel =>
    simp only [apply, RoutineCommand.operation, reply_eq_ok, Reply.routineCommand.injEq,
      exists_eq_right, cancelRoutineWait, bind_eq_ok] at accepted
    obtain ⟨⟨⟨workspaceId, _⟩, ⟨profileId, _⟩⟩, resolved, accepted⟩ := accepted
    dsimp only at accepted
    obtain ⟨replay, replays, accepted⟩ := accepted
    have admitted : (RoutineCommand.cancel cancel).admission env now db =
        .ok (workspaceId, profileId) := by
      simp [admission, RoutineCommand.scope, resolved, requireAdmission]
    cases replay with
    | some =>
      cases accepted
      obtain ⟨commandId, found⟩ := replayedCommand_found _ _ _ _ replays
      exact ⟨workspaceId, profileId, commandId, admitted, found, trivial, trivial⟩
    | none =>
      simp only [bind_eq_ok] at accepted
      obtain ⟨_, _, ⟨_, _⟩, _, _, _, _, _, accepted⟩ := accepted
      split at accepted
      · cases accepted
        exact ⟨workspaceId, profileId, _, admitted, AList.lookup_insert _, trivial, trivial⟩
      · split at accepted
        · cases accepted
          exact ⟨workspaceId, profileId, _, admitted, AList.lookup_insert _, trivial, trivial⟩
        · simp only [bind_eq_ok, return_eq_ok] at accepted
          obtain ⟨⟨_, _⟩, _, _, _, rfl, rfl⟩ := accepted
          exact ⟨workspaceId, profileId, _, admitted, AList.lookup_insert _, trivial, trivial⟩

end Calls

/-! ## Along a run -/

def CommandOf (calls : List (Call D)) (command : RoutineCommand) : Prop :=
  ∃ call ∈ calls, call.operation.routineCommand = some command

/-- What comes of an accepted command later on: it is answered again as it was, as long as
it passes the gates, and raises what they raise otherwise; another command under its key
conflicts until its profile is deleted; and no two routines have one key. -/
structure CommandAnswered [DecidableEq D] (env : Env D) (command : RoutineCommand)
    (workspaceId profileId : Uuid) (response : RoutineCommandResponse) (db : Db D) : Prop where
  again : ∀ now admitted, command.admission env now db = .ok admitted →
    apply env ⟨now, command.operation⟩ db = .ok (.routineCommand response, db)
  refused : ∀ now error, command.admission env now db = .error error →
    apply env ⟨now, command.operation⟩ db = .error error
  different : ∀ now (other : RoutineCommand) otherProfile, ¬ db.ProfileDeleted profileId →
    other.idempotencyKey = command.idempotencyKey →
    ¬ (other.kind = command.kind ∧ other.fingerprint = command.fingerprint) →
    other.WellFormed → other.admission env now db = .ok (workspaceId, otherProfile) →
    step env db ⟨now, other.operation⟩ = db ∧
      ∃ error, apply env ⟨now, other.operation⟩ db = .error error ∧
        error.kind.isConflict = true
  unique : ∀ id other execution twin, db.executions.lookup id = some execution →
    db.executions.lookup other = some twin → twin.workspace = execution.workspace →
    twin.idempotencyKey = execution.idempotencyKey → other = id

section Runs

open RoutineCommand

variable [DecidableEq D] (env : Env D)

theorem run_receiptsOwned (Known : RoutineCommand → Prop) (identify : FingerprintsIdentify Known)
    (db : Db D) (calls : List (Call D)) (known : ∀ command, CommandOf calls command → Known command)
    (owned : db.ReceiptsOwned env Known) : (run env db calls).ReceiptsOwned env Known :=
  (run_carries env
    (fun _ call => ∀ command, call.operation.routineCommand = some command → Known command)
    (fun db => db.ReceiptsOwned env Known)
    (fun call _ db => db.ReceiptsOwned env Known ∧
      ∀ command, call.operation.routineCommand = some command → Known command)
    (fun _ _ => True) (fun _ => trivial) (fun _ _ => trivial)
    (fun _ _ owned known => ⟨owned, known⟩)
    (fun _ _ _ _ write holds =>
      ⟨⟨write.receiptsOwned Known identify holds.2 holds.1, holds.2⟩, trivial⟩)
    (fun _ _ _ holds => holds.1) db calls owned
    (Run.meets_of_mem _ db fun call listed _ command asked =>
      known command ⟨call, listed, asked⟩)).1

theorem run_receiptHeld (db : Db D) (calls : List (Call D)) (command : RoutineCommand)
    (workspace key profileId : Uuid) (receipt : RoutineCommandReceipt)
    (intact : db.Intact) (unique : db.AlliesUnique)
    (held : db.ReceiptHeld env workspace key profileId receipt ∨ db.ProfileDeleted profileId)
    (bound : command.BoundIn env db profileId) :
    (run env db calls).ProfileDeleted profileId ∨
      ((run env db calls).ReceiptHeld env workspace key profileId receipt ∧
        command.BoundIn env (run env db calls) profileId) := by
  refine (run_keeps env (fun db => db.Intact ∧ db.AlliesUnique ∧ (db.ProfileDeleted profileId ∨
    (db.ReceiptHeld env workspace key profileId receipt ∧ command.BoundIn env db profileId)))
    ?_ db calls ⟨intact, unique, held.symm.imp_right fun held => ⟨held, bound⟩⟩).2.2
  rintro _ _ _ _ write ⟨intact, unique, deleted | ⟨held, bound⟩⟩
  · exact ⟨write.intact intact, write.alliesUnique unique, .inl (write.staysDeleted _ deleted)⟩
  · refine ⟨write.intact intact, write.alliesUnique unique, ?_⟩
    rcases write.receiptHeld intact unique workspace key profileId receipt held with held | deleted
    · cases command with
      | dispatch =>
        obtain ⟨binding, stored, conversation⟩ := bound
        rcases write.bindingKept profileId binding stored with ⟨later, present, same⟩ | deleted
        · exact .inr ⟨held, later, present, same.trans conversation⟩
        · exact .inl deleted
      | decision | cancel => exact .inr ⟨held, trivial⟩
    · exact .inl deleted

theorem routineCommands_idempotent (before after : List (Call D)) (command : RoutineCommand)
    (now : Instant) (response : RoutineCommandResponse) (next : Db D)
    (accepted : apply env ⟨now, command.operation⟩ (run env Db.empty before) =
      .ok (.routineCommand response, next))
    (identify : FingerprintsIdentify
      (CommandOf (before ++ [(⟨now, command.operation⟩ : Call D)]))) :
    ∃ workspaceId profileId,
      command.admission env now (run env Db.empty before) = .ok (workspaceId, profileId) ∧
      CommandAnswered env command workspaceId profileId response (run env next after) := by
  have reached : run env Db.empty (before ++ [⟨now, command.operation⟩]) = next :=
    Run.run_snoc_of_ok _ _ _ _ _ accepted
  have owned := run_receiptsOwned env _ identify Db.empty _ (fun _ known => known)
    (receiptsOwned_empty env _)
  rw [reached] at owned
  obtain ⟨workspaceId, profileId, _, admitted, stored, wellFormed, bound⟩ :=
    apply_accepted response next accepted
  obtain ⟨isProfile, _⟩ := admission_profile admitted
  -- The receipt may be of an earlier command; it has the same fingerprint, so the same scope.
  obtain ⟨origin, known, kind, fingerprint, held⟩ := owned.owned workspaceId _ _ stored
  have sameScope := identify command origin ⟨_, List.mem_append_right _ (List.mem_singleton_self _),
    routineCommand_operation command⟩ known kind.symm fingerprint.symm
  have sameProfile : origin.profileId env = profileId := by
    rw [isProfile, RoutineCommand.profileId, sameScope]
    rfl
  rw [sameProfile] at held
  have kept := run_receiptHeld env next after command workspaceId _ profileId _ owned.intact
    owned.unique held bound
  have intact := run_intact env after owned.intact
  have ended : run env Db.empty (before ++ [⟨now, command.operation⟩] ++ after) =
      run env next after := by
    rw [← reached]
    exact Run.run_append _ _ _
  refine ⟨workspaceId, profileId, admitted, ?_, fun _ _ => apply_refused _, ?_, ?_⟩
  · rintro _ ⟨home, owner⟩ admits
    obtain ⟨isOwner, profile, found, isHome⟩ := admission_profile admits
    obtain rfl : owner = profileId := isOwner.trans isProfile.symm
    rcases kept with deleted | ⟨held, bound⟩
    · obtain ⟨tenant, tombstone⟩ := Option.ne_none_iff_exists'.mp deleted
      rw [intact.deleted owner tenant tombstone] at found
      cases found
    · obtain ⟨other, isOther, isWorkspace, _⟩ := held.owner
      obtain rfl : other = profile := Option.some.inj (isOther.symm.trans found)
      obtain rfl : home = workspaceId := isHome.symm.trans isWorkspace
      exact apply_replays home owner _ admits held.stored rfl rfl wellFormed bound
  · intro again other otherProfile undeleted key different valid admits
    rcases kept with deleted | ⟨held, _⟩
    · exact absurd deleted undeleted
    · have found := held.stored
      rw [← key] at found
      obtain ⟨error, raised, conflict⟩ := apply_conflicts workspaceId otherProfile _ admits found
        (fun same => different ⟨same.1.symm, same.2.symm⟩) valid
      exact ⟨Run.step_of_error _ _ error raised, error, raised, conflict⟩
  · have commands := (run_commandsStored env (before ++ [⟨now, command.operation⟩] ++ after)).unique
    rw [ended] at commands
    exact commands

end Runs

/-- The dispatch of the routine, repeated after its run was claimed. -/
theorem routineCommands_idempotent_dispatch :
    ∃ response next,
      apply Env.plain ⟨0, .acceptRoutineDispatch routineDispatch⟩
          (run Env.plain Db.empty bringUp) = .ok (.routineCommand response, next) ∧
      apply Env.plain ⟨1, .acceptRoutineDispatch routineDispatch⟩
          (run Env.plain next [⟨0, .claimNextExecution ⟨0, 1⟩ 60 1⟩]) =
        .ok (.routineCommand response,
          run Env.plain next [⟨0, .claimNextExecution ⟨0, 1⟩ 60 1⟩]) := by
  have accepted : (apply Env.plain ⟨0, .acceptRoutineDispatch routineDispatch⟩
      (run Env.plain Db.empty bringUp)).isOk = true := by decide +kernel
  have admits : ((RoutineCommand.dispatch routineDispatch).admission Env.plain 1
      (run Env.plain Db.empty (bringUp ++ routineWork))).isOk = true := by decide +kernel
  have identify : FingerprintsIdentify (CommandOf (bringUp ++
      [(⟨0, (RoutineCommand.dispatch routineDispatch).operation⟩ : Call PlainDigest)])) := by
    have only : ∀ command, CommandOf (bringUp ++
        [(⟨0, (RoutineCommand.dispatch routineDispatch).operation⟩ : Call PlainDigest)]) command →
        command = .dispatch routineDispatch := by
      rintro _ ⟨_, listed, _⟩
      simp only [bringUp, List.cons_append, List.nil_append, List.mem_cons, List.not_mem_nil,
        or_false] at listed
      rcases listed with rfl | rfl | rfl | rfl | rfl | rfl | rfl | rfl | rfl <;>
        simp_all [Operation.routineCommand, RoutineCommand.operation]
    intro command other known isKnown _ _
    rw [only command known, only other isKnown]
  cases result : apply Env.plain ⟨0, .acceptRoutineDispatch routineDispatch⟩
      (run Env.plain Db.empty bringUp) with
  | error error =>
    rw [result] at accepted
    cases accepted
  | ok pair =>
    obtain ⟨_, next⟩ := pair
    have isCommand := result
    simp only [apply, reply_eq_ok] at isCommand
    obtain ⟨response, _, rfl⟩ := isCommand
    obtain ⟨_, _, _, answered⟩ := routineCommands_idempotent Env.plain bringUp
      [⟨0, .claimNextExecution ⟨0, 1⟩ 60 1⟩] (.dispatch routineDispatch) 0 response next result
      identify
    have reached : run Env.plain Db.empty (bringUp ++ routineWork) =
        run Env.plain next [⟨0, .claimNextExecution ⟨0, 1⟩ 60 1⟩] := by
      have dispatched : run Env.plain Db.empty
          (bringUp ++ [⟨0, .acceptRoutineDispatch routineDispatch⟩]) = next :=
        Run.run_snoc_of_ok _ _ _ _ _ result
      rw [← dispatched]
      rfl
    rw [reached] at admits
    cases gates : (RoutineCommand.dispatch routineDispatch).admission Env.plain 1
        (run Env.plain next [⟨0, .claimNextExecution ⟨0, 1⟩ 60 1⟩]) with
    | error error =>
      rw [gates] at admits
      cases admits
    | ok admitted => exact ⟨response, next, rfl, answered.again 1 admitted gates⟩

/-- The columns of Workspace 0 after routine admission was paused. -/
def pausedAdmission : MaintenanceColumns where
  tenantRef := "tenant"
  appliedImages := [("runtime", "sha256")]
  releaseTarget := ⟨none, some false⟩
  runtimeOperationId := none
  runtimeOperationState := .idle
  runtimeOperationTrigger := none
  runtimeOperationRequestedAt := none
  runtimeOperationRetryCount := 0
  runtimeStartEpoch := 1
  activityRevision := 1
  readyGeneration := some 1
  readyStartEpoch := some 1
  readyBootId := some 7
  readyAt := some 0
  runtimeLastSeenAt := some 0
  speculativeKeepWarmUntil := some (seconds 300)
  lastSpeculativeStartAt := none
  activationClaimToken := none
  activationClaimExpiresAt := none

/-- While routine admission is paused, the dispatch that was accepted raises. -/
theorem paused_dispatch_is_refused :
    ∃ response next,
      apply Env.plain ⟨0, .acceptRoutineDispatch routineDispatch⟩
          (run Env.plain Db.empty bringUp) = .ok (.routineCommand response, next) ∧
      apply Env.plain ⟨1, .acceptRoutineDispatch routineDispatch⟩
          (run Env.plain next [⟨0, .maintainWorkspace 0 pausedAdmission⟩]) =
        .error (notReadyError "routine admission is disabled") := by
  have accepted : (apply Env.plain ⟨0, .acceptRoutineDispatch routineDispatch⟩
      (run Env.plain Db.empty bringUp)).isOk = true := by decide +kernel
  have refused : (match apply Env.plain ⟨1, .acceptRoutineDispatch routineDispatch⟩
      (run Env.plain Db.empty (bringUp ++ [⟨0, .acceptRoutineDispatch routineDispatch⟩,
        ⟨0, .maintainWorkspace 0 pausedAdmission⟩])) with
    | .ok _ => false
    | .error error => decide (error = notReadyError "routine admission is disabled")) = true := by
    decide +kernel
  cases result : apply Env.plain ⟨0, .acceptRoutineDispatch routineDispatch⟩
      (run Env.plain Db.empty bringUp) with
  | error error =>
    rw [result] at accepted
    cases accepted
  | ok pair =>
    obtain ⟨_, next⟩ := pair
    have isCommand := result
    simp only [apply, reply_eq_ok] at isCommand
    obtain ⟨response, _, rfl⟩ := isCommand
    have reached : run Env.plain Db.empty (bringUp ++
        [⟨0, .acceptRoutineDispatch routineDispatch⟩,
          ⟨0, .maintainWorkspace 0 pausedAdmission⟩]) =
        run Env.plain next [⟨0, .maintainWorkspace 0 pausedAdmission⟩] := by
      have dispatched : run Env.plain Db.empty
          (bringUp ++ [⟨0, .acceptRoutineDispatch routineDispatch⟩]) = next :=
        Run.run_snoc_of_ok _ _ _ _ _ result
      rw [← dispatched]
      rfl
    refine ⟨response, next, rfl, ?_⟩
    rw [reached] at refused
    split at refused
    · cases refused
    · next raised => rw [raised, of_decide_eq_true refused]

end Foundry
