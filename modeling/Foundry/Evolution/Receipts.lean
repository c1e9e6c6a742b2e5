import Foundry.Evolution.ProfileRows

/-!
# Command receipts

A receipt of a routine command stays what it was until the profile it was given to is
deleted: another profile's deletion removes the receipts of another Ally, or of the
routines of another profile.
-/

set_option autoImplicit false

namespace Foundry

open Raise

variable {D : Type}

def RoutineCommandResponse.OwnedBy (env : Env D) (db : Db D) (profileId : Uuid)
    (allyRef : String) : RoutineCommandResponse → Prop
  | .dispatched _ _ _ _ allyId _ => env.uuidText allyId = allyRef
  | .decided _ _ _ _ _ allyId _ => env.uuidText allyId = allyRef
  | .cancelled _ routine _ _ =>
    ∃ execution, db.executions.lookup routine = some execution ∧ execution.profile = profileId

def RoutineCommand.profileId (env : Env D) (command : RoutineCommand) : Uuid :=
  env.profileIdOf command.scope.cloudBindingId

/-- The receipt of the key is stored, and belongs to the profile. -/
structure Db.ReceiptHeld (env : Env D) (db : Db D) (workspace key profileId : Uuid)
    (receipt : RoutineCommandReceipt) : Prop where
  stored : db.commandReceipts.lookup (workspace, key) = some receipt
  owner : ∃ profile, db.profiles.lookup profileId = some profile ∧
    profile.workspace = workspace ∧ receipt.response.OwnedBy env db profileId profile.allyRef

/-- Equal fingerprints are of commands of the same scope: the fingerprint is the SHA-256 of
a command, the scope included. -/
def FingerprintsIdentify (Known : RoutineCommand → Prop) : Prop :=
  ∀ command other, Known command → Known other → other.kind = command.kind →
    other.fingerprint = command.fingerprint → other.scope = command.scope

/-- Every stored receipt was given to a known command, and is held until the profile of that
command is deleted. -/
structure Db.ReceiptsOwned (env : Env D) (Known : RoutineCommand → Prop) (db : Db D) : Prop where
  intact : db.Intact
  unique : db.AlliesUnique
  dispatched : db.RoutinesFrom env fun command => Known (.dispatch command)
  owned : ∀ workspace key receipt, db.commandReceipts.lookup (workspace, key) = some receipt →
    ∃ command, Known command ∧ receipt.kind = command.kind ∧
      receipt.fingerprint = command.fingerprint ∧
      (db.ReceiptHeld env workspace key (command.profileId env) receipt ∨
        db.ProfileDeleted (command.profileId env))

theorem receiptsOwned_empty (env : Env D) (Known : RoutineCommand → Prop) :
    (Db.empty : Db D).ReceiptsOwned env Known where
  intact := Db.intact_empty
  unique := by
    intro id other profile row stored
    simp [Db.empty] at stored
  dispatched := by
    intro id execution routine stored
    simp [Db.empty] at stored
  owned := by
    intro workspace key receipt stored
    simp [Db.empty] at stored

section Writes

variable [DecidableEq D] {env : Env D} {call : Call D} {start db next : Db D}

theorem Write.profileKept (write : Write env call start db next) (id : Uuid)
    (profile : RuntimeProfile D) (stored : db.profiles.lookup id = some profile) :
    (∃ later, next.profiles.lookup id = some later ∧ later.workspace = profile.workspace ∧
      later.allyRef = profile.allyRef) ∨ next.ProfileDeleted id := by
  rcases write.profileSurvives stored with ⟨later, present, _⟩ | ⟨_, _, deleted⟩
  · refine .inl ⟨later, present, ?_⟩
    cases write.profileSource id later present with
    | kept found =>
      obtain rfl := Option.some.inj (found.symm.trans stored)
      exact ⟨rfl, rfl⟩
    | stepped _ found step =>
      obtain rfl := Option.some.inj (found.symm.trans stored)
      exact step.same
    | forgotten _ found _ forgets =>
      obtain rfl := Option.some.inj (found.symm.trans stored)
      subst forgets
      exact ⟨rfl, rfl⟩
    | created _ _ _ _ _ unknown =>
      rw [unknown] at stored
      cases stored
  · exact .inr deleted

theorem Write.responseOwned (write : Write env call start db next) (intact : db.Intact)
    (profileId : Uuid) (allyRef : String) (response : RoutineCommandResponse)
    (owned : response.OwnedBy env db profileId allyRef) :
    response.OwnedBy env next profileId allyRef ∨ next.ProfileDeleted profileId := by
  cases response with
  | dispatched => exact .inl owned
  | decided => exact .inl owned
  | cancelled _ routine =>
    obtain ⟨execution, stored, isOwner⟩ := owned
    rcases write.ownerSurvives intact stored with
      ⟨later, present, same⟩ | purged
    · exact .inl ⟨later, present, same.trans isOwner⟩
    · rw [isOwner] at purged
      exact .inr purged.deleted

omit [DecidableEq D] in
theorem purgeProfile_receipt (workspaceId purgedId profileId key : Uuid) (workspace : Workspace)
    (purged : RuntimeProfile D) (receipt : RoutineCommandReceipt)
    (unique : db.AlliesUnique) (isPurged : db.profiles.lookup purgedId = some purged)
    (home : purged.workspace = workspaceId) (different : purgedId ≠ profileId)
    (held : db.ReceiptHeld env workspaceId key profileId receipt)
    (purges : purgeProfile env workspaceId purgedId workspace purged db = .ok next) :
    next.commandReceipts.lookup (workspaceId, key) = some receipt := by
  simp only [purgeProfile, bind_eq_ok, require_eq_ok, pure_eq_ok] at purges
  obtain ⟨_, _, _, _, rfl⟩ := purges
  rw [Table.lookup_keep_eq_some]
  refine ⟨held.stored, ?_⟩
  obtain ⟨profile, found, sameHome, owned⟩ := held.owner
  have otherAlly : purged.allyRef ≠ profile.allyRef := by
    intro same
    exact different (unique profileId purgedId profile purged found isPurged
      (home.trans sameHome.symm) same)
  cases given : receipt.response with
  | dispatched _ _ _ _ allyId | decided _ _ _ _ _ allyId =>
    rw [given] at owned
    have apart : env.uuidText allyId ≠ purged.allyRef := fun same =>
      otherAlly (same.symm.trans owned)
    simp [RoutineCommandResponse.belongsTo, apart]
  | cancelled _ routine =>
    rw [given] at owned
    obtain ⟨execution, stored, isOwner⟩ := owned
    have kept : ∀ row : Execution D, db.executions.lookup routine = some row →
        row.profile ≠ purgedId := by
      intro row isRow same
      cases stored.symm.trans isRow
      exact different (same.symm.trans isOwner)
    simp only [RoutineCommandResponse.belongsTo, Bool.not_eq_eq_eq_not, Bool.not_true,
      decide_eq_false_iff_not, true_and, decide_eq_true_eq]
    intro listed
    obtain ⟨row, member, isRoutine⟩ := List.mem_map.mp listed
    obtain ⟨isRow, ofPurged⟩ := List.mem_filter.mp member
    rw [decide_eq_true_eq] at ofPurged
    obtain ⟨_, execution⟩ := row
    subst isRoutine
    exact kept execution ((Table.mem_rows _ _ _).mp isRow) ofPurged.1

section

variable (write : Write env call start db next)

include write

theorem Write.receiptStored (unique : db.AlliesUnique)
    (workspace key profileId : Uuid) (receipt : RoutineCommandReceipt)
    (held : db.ReceiptHeld env workspace key profileId receipt) :
    next.commandReceipts.lookup (workspace, key) = some receipt ∨
      next.ProfileDeleted profileId := by
  cases write with
  | receipt other command _ _ _ _ _ _ _ unknown =>
    have different : (workspace, key) ≠ (other, command.idempotencyKey) := by
      intro same
      rw [← same, held.stored] at unknown
      cases unknown
    exact .inl (by
      simp only [storeCommandReceipt, AList.lookup_insert_ne different]
      exact held.stored)
  | decideApproval _ _ _ _ decides =>
    obtain ⟨_, rfl⟩ := recordApprovalDecision_frame decides
    exact .inl held.stored
  | compareAndSet _ _ _ _ _ _ _ sets =>
    obtain ⟨_, rfl⟩ := compareAndSetSession_frame sets
    exact .inl held.stored
  | purge workspaceId purgedId row purged _ _ _ isPurged home _ purges =>
    by_cases same : profileId = purgedId
    · refine .inr ?_
      obtain ⟨_, _, _, _, _, _, tombstones, _⟩ := purgeProfile_eq purges
      rw [Db.ProfileDeleted, tombstones, same, AList.lookup_insert]
      rintro ⟨⟩
    · by_cases sameHome : workspace = workspaceId
      · subst sameHome
        exact .inl (purgeProfile_receipt workspace purgedId profileId key row purged receipt
          unique isPurged home (Ne.symm same) held purges)
      · simp only [purgeProfile, bind_eq_ok, require_eq_ok, pure_eq_ok] at purges
        obtain ⟨_, _, _, _, rfl⟩ := purges
        refine .inl ((Table.lookup_keep_eq_some _ _ _ _).mpr ⟨held.stored, ?_⟩)
        simp [sameHome]
  | _ => exact .inl held.stored

theorem Write.receiptHeld (intact : db.Intact)
    (unique : db.AlliesUnique) (workspace key profileId : Uuid) (receipt : RoutineCommandReceipt)
    (held : db.ReceiptHeld env workspace key profileId receipt) :
    next.ReceiptHeld env workspace key profileId receipt ∨ next.ProfileDeleted profileId := by
  obtain ⟨profile, found, home, owned⟩ := held.owner
  rcases write.receiptStored unique workspace key profileId receipt held with stored | deleted
  · rcases write.profileKept profileId profile found with ⟨later, present, sameHome, ally⟩ | deleted
    · rcases write.responseOwned intact profileId profile.allyRef receipt.response owned with
        owned | deleted
      · exact .inl ⟨stored, later, present, sameHome.trans home, by rw [ally]; exact owned⟩
      · exact .inr deleted
    · exact .inr deleted
  · exact .inr deleted

theorem Write.receiptSource (workspace key : Uuid) (receipt : RoutineCommandReceipt)
    (present : next.commandReceipts.lookup (workspace, key) = some receipt) :
    db.commandReceipts.lookup (workspace, key) = some receipt ∨
    ∃ command profile response, call.operation.routineCommand = some command ∧
      db.profiles.lookup (command.profileId env) = some profile ∧
      profile.workspace = workspace ∧ profile.allyRef = env.uuidText command.scope.allyId ∧
      command.Answers db response ∧ next.profiles = db.profiles ∧
      next.executions = db.executions ∧
      receipt = ⟨command.commandId, command.kind, command.fingerprint, response⟩ := by
  cases write with
  | receipt _ command profile response asked stored isHome ally answers =>
    simp only [storeCommandReceipt, Table.lookup_insert_eq] at present
    split at present
    · next isNew =>
      obtain rfl := Option.some.inj present
      exact .inr ⟨command, profile, response, asked, stored,
        isHome.trans (congrArg Prod.fst isNew).symm, ally, answers, rfl, rfl, rfl⟩
    · exact .inl present
  | decideApproval _ _ _ _ decides =>
    obtain ⟨_, rfl⟩ := recordApprovalDecision_frame decides
    exact .inl present
  | compareAndSet _ _ _ _ _ _ _ sets =>
    obtain ⟨_, rfl⟩ := compareAndSetSession_frame sets
    exact .inl present
  | purge _ _ _ _ _ _ _ _ _ _ purges =>
    simp only [purgeProfile, bind_eq_ok, require_eq_ok, pure_eq_ok] at purges
    obtain ⟨_, _, _, _, rfl⟩ := purges
    exact .inl ((Table.lookup_keep_eq_some _ _ _ _).mp present).1
  | _ => exact .inl present

end

omit [DecidableEq D] in
theorem RoutineCommand.Answers.ownedBy {Known : RoutineCommand → Prop} {command : RoutineCommand}
    {response : RoutineCommandResponse} (answers : command.Answers db response)
    (identify : FingerprintsIdentify Known) (known : Known command)
    (dispatched : db.RoutinesFrom env fun command => Known (.dispatch command)) :
    response.OwnedBy env db (command.profileId env) (env.uuidText command.scope.allyId) := by
  cases response with
  | dispatched =>
    rcases answers with isAlly | ⟨dispatch, id, execution, routine, rfl, stored, has, ally, same⟩
    · exact congrArg env.uuidText isAlly
    · obtain ⟨origin, isKnown, made⟩ := dispatched id execution routine stored has
      have sameScope := identify (.dispatch origin) (.dispatch dispatch) isKnown known rfl
        (same.symm.trans made.fingerprint)
      refine congrArg env.uuidText ?_
      rw [← ally, made.ally]
      exact congrArg RoutineScope.allyId sameScope.symm
  | decided => exact congrArg env.uuidText answers
  | cancelled _ id =>
    obtain ⟨execution, routine, stored, has, bound⟩ := answers
    obtain ⟨_, _, made⟩ := dispatched id execution routine stored has
    refine ⟨execution, stored, ?_⟩
    rw [made.profile, ← made.binding, bound]
    rfl

theorem Write.receiptsOwned (write : Write env call start db next)
    (Known : RoutineCommand → Prop) (identify : FingerprintsIdentify Known)
    (known : ∀ command, call.operation.routineCommand = some command → Known command)
    (kept : db.ReceiptsOwned env Known) : next.ReceiptsOwned env Known where
  intact := write.intact kept.intact
  unique := write.alliesUnique kept.unique
  dispatched := by
    refine write.routinesFrom _ ?_ kept.dispatched
    intro command asked
    exact known (.dispatch command) (by rw [asked]; rfl)
  owned := by
    intro workspace key receipt present
    rcases write.receiptSource workspace key receipt present with stored |
      ⟨command, profile, response, asked, stored, home, ally, answers, profiles, executions, rfl⟩
    · obtain ⟨command, isKnown, kind, fingerprint, held | deleted⟩ :=
        kept.owned workspace key receipt stored
      · exact ⟨command, isKnown, kind, fingerprint,
          write.receiptHeld kept.intact kept.unique workspace key _ receipt held⟩
      · exact ⟨command, isKnown, kind, fingerprint, .inr (write.staysDeleted _ deleted)⟩
    · have owned := answers.ownedBy identify (known command asked) kept.dispatched
      refine ⟨command, known command asked, rfl, rfl,
        .inl ⟨present, profile, by rw [profiles]; exact stored, home, ?_⟩⟩
      rw [ally]
      cases response with
      | dispatched => exact owned
      | decided => exact owned
      | cancelled =>
        obtain ⟨execution, isStored, isOwner⟩ := owned
        exact ⟨execution, by rw [executions]; exact isStored, isOwner⟩

end Writes

end Foundry
