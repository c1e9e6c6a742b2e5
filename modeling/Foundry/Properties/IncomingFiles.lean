import Foundry.Model.JsonText
import Foundry.Properties.Commands

/-!
# Incoming files

`_authorize_file` of `files.py`: a file of Cloud is opened for the holder of a live lease, and
only a file of the command.
-/

set_option autoImplicit false

namespace Foundry

open Raise

/-- `_AuthorizedFile`. -/
structure AuthorizedFile where
  bindingId : Uuid
  messageId : Uuid
  descriptor : FileInput
deriving DecidableEq

/-- The arguments of `open_incoming_file`, and when they come. -/
structure FileRequest where
  now : Instant
  context : RuntimeContext
  attempt : AttemptId
  leaseToken : String
  fileId : Uuid

variable {D : Type}

section Model

variable (parseUuid : String → Option Uuid)

/-- `FileInputV1.model_validate`. -/
def FileInput.ofJson? (value : Json) : Option FileInput :=
  if value.hasExactly ["file_id", "media_type", "name", "sha256", "size"] then
    match value.get? "file_id", value.get? "media_type", value.get? "name", value.get? "sha256",
      value.get? "size" with
    | some (.str id), some (.str mediaType), some (.str name), some (.str sha256),
        some (.int size) =>
      ((parseUuid id).map fun fileId => ⟨fileId, name, mediaType, size.toNat, sha256⟩).filter
        isWellFormed
    | _, _, _, _, _ => none
  else none

/-- `_manifest_file`. -/
def manifestFile (value : Option Json) (fileId : Uuid) : Except RuntimeError FileInput :=
  match value with
  | some (.arr items) => do
    require (1 ≤ items.length ∧ items.length ≤ 10)
      (leaseConflictError "execution has no file manifest")
    let files ← orRaise (items.mapM (FileInput.ofJson? parseUuid))
      (leaseConflictError "execution file manifest is invalid")
    require ((files.map FileInput.size).sum ≤ 50000000)
      (leaseConflictError "execution file manifest is invalid")
    orRaise (files.find? fun file => file.fileId = fileId)
      (leaseConflictError "file is not in the execution manifest")
  | _ => .error (leaseConflictError "execution has no file manifest")

/-- The source kind `conversation_message` is written together with the command's id. -/
def Execution.authorizedFile (execution : Execution D) (fileId : Uuid) :
    Except RuntimeError AuthorizedFile := do
  let refused := leaseConflictError "execution has no conversation file authority"
  require (execution.commandId ≠ none) refused
  let bindingId ← orRaise execution.cloudBindingId refused
  let messageId ← orRaise execution.cloudMessageId refused
  let descriptor ← manifestFile parseUuid (execution.inputPayload.get? "files") fileId
  return ⟨bindingId, messageId, descriptor⟩

/-- `_authorize_file`. -/
def authorizeFile [DecidableEq D] (env : Env D) (request : FileRequest) (db : Db D) :
    Except RuntimeError AuthorizedFile := do
  let generation := request.context.machineGeneration
  let tokenDigest ← digestLeaseToken env request.leaseToken
  let (execution, attempt) ← orRaise (db.attemptIn request.context.workspace request.attempt)
    (leaseConflictError "attempt is not in this workspace")
  let workspace ← orRaise (db.workspaces.lookup execution.workspace) (doesNotExist "Workspace")
  let profile ← orRaise (db.profiles.lookup execution.profile) (doesNotExist "RuntimeProfile")
  require (workspace.machineGeneration = generation ∧ attempt.machineGeneration = generation)
    (fencedError "runtime generation is stale")
  require (profileAllowsRuntimeWrite profile)
    (leaseConflictError "profile lifecycle is not active")
  require ((attempt.lease.any fun lease => lease.tokenDigest = tokenDigest ∧
      lease.state = .active ∧ lease.machineGeneration = generation ∧
      request.now < lease.expiresAt) = true)
    (leaseConflictError "lease does not authorize file access")
  execution.authorizedFile parseUuid request.fileId

end Model

/-! ## The manifest of a command -/

/-- What Cloud granted with the command. -/
def ExecutionCommand.authorizedFile (command : ExecutionCommand) (fileId : Uuid) :
    Option AuthorizedFile :=
  ((command.files.getD []).find? fun file => file.fileId = fileId).map fun file =>
    ⟨command.cloudBindingId, command.cloudMessageId, file⟩

variable {env : Env D} {parseUuid : String → Option Uuid}

section Manifest

variable (parses : ∀ id, parseUuid (env.uuidText id) = some id)

include parses

theorem FileInput.ofJson?_toJson {file : FileInput} (valid : file.isWellFormed = true) :
    ofJson? parseUuid (file.toJson env.uuidText) = some file := by
  simp [ofJson?, toJson, Json.hasExactly, Json.keys, Json.get?, parses, valid]

theorem FileInput.mapM_ofJson? {files : List FileInput}
    (valid : ∀ file ∈ files, file.isWellFormed = true) :
    (files.map (toJson env.uuidText)).mapM (ofJson? parseUuid) = some files := by
  induction files with
  | nil => rfl
  | cons file rest ih =>
    simp [ofJson?_toJson parses (valid file (List.mem_cons_self ..)),
      ih fun file member => valid file (List.mem_cons_of_mem _ member)]

theorem Execution.CreatedFrom.authorizedFile_eq_ok {execution : Execution D}
    {command : ExecutionCommand} (created : execution.CreatedFrom env command) (fileId : Uuid)
    (file : AuthorizedFile) :
    execution.authorizedFile parseUuid fileId = .ok file ↔
      command.authorizedFile fileId = some file := by
  obtain ⟨valid, -, -, same, payload⟩ := created
  simp only [Execution.repeats, decide_eq_true_eq] at same
  obtain ⟨-, commandId, -, -, -, -, message, binding, -⟩ := same
  have files : execution.inputPayload.get? "files" =
      command.files.map fun files => .arr (files.map (FileInput.toJson env.uuidText)) := by
    rw [payload]
    cases given : command.bootstrap.join <;> cases listed : command.files <;>
      simp [ExecutionCommand.inputPayload, ExecutionCommand.bootstrapMember,
        ExecutionCommand.filesMember, Json.get?, given, listed]
  simp only [validateCommand, bind_eq_ok, require_eq_ok] at valid
  obtain ⟨_, valid, _⟩ := valid
  simp only [ExecutionCommand.isWellFormed, decide_eq_true_eq] at valid
  obtain ⟨-, -, -, -, wellFormed, sizes, -⟩ := valid
  simp only [Execution.authorizedFile, commandId, message, binding, files, bind_eq_ok,
    require_eq_ok, orRaise_eq_ok, pure_eq_ok, ExecutionCommand.authorizedFile]
  cases listed : command.files with
  | none => simp [manifestFile]
  | some files =>
    simp only [listed, ExecutionCommand.fileSizes, Option.all_some, decide_eq_true_eq,
      List.all_eq_true, Option.getD_some] at wellFormed sizes
    obtain ⟨some, few, each⟩ := wellFormed
    simp [manifestFile, FileInput.mapM_ofJson? parses each, some, few, sizes, require]

end Manifest

/-! ## Along a run -/

section Main

variable [DecidableEq D] {request : FileRequest} {file : AuthorizedFile}

theorem authorizeFile_eq_ok {db : Db D}
    (opened : authorizeFile parseUuid env request db = .ok file) :
    ∃ execution attempt, db.attempt? request.attempt = some (execution, attempt) ∧
      execution.commandId ≠ none ∧
      ∀ fileId, authorizeFile parseUuid env { request with fileId := fileId } db =
        execution.authorizedFile parseUuid fileId := by
  simp only [authorizeFile, bind_eq_ok, orRaise_eq_ok, require_eq_ok] at opened
  obtain ⟨_, token, ⟨execution, attempt⟩, found, workspace, home, profile, owner, _, current, _,
    active, _, live, authorized⟩ := opened
  refine ⟨execution, attempt, (Option.filter_eq_some_iff.mp found).1, ?_, fun fileId => ?_⟩
  · simp only [Execution.authorizedFile, bind_eq_ok, require_eq_ok] at authorized
    exact authorized.choose_spec.1
  · simp only [authorizeFile, token, found, home, owner, orRaise_some, ok_bind,
      require_of _ _ current, require_of _ _ active, require_of _ _ live]

/-- Who gets one file of an attempt gets all that Cloud granted with its command, and then and
later nobody gets another through this attempt. -/
theorem incoming_files_are_of_the_command (parses : ∀ id, parseUuid (env.uuidText id) = some id)
    (first : List (Call D))
    (opened : authorizeFile parseUuid env request (run env .empty first) = .ok file) :
    ∃ execution attempt command,
      (run env .empty first).attempt? request.attempt = some (execution, attempt) ∧
      execution.CreatedFrom env command ∧
      (∀ fileId file, authorizeFile parseUuid env { request with fileId := fileId }
        (run env .empty first) = .ok file ↔ command.authorizedFile fileId = some file) ∧
      ∀ rest other file, other.attempt = request.attempt →
        authorizeFile parseUuid env other (run env .empty (first ++ rest)) = .ok file →
          command.authorizedFile other.fileId = some file := by
  obtain ⟨execution, attempt, present, commanded, authorizes⟩ := authorizeFile_eq_ok opened
  have stored := ((Db.attempt?_eq_some _ _ _ _).mp present).1
  obtain ⟨command, created⟩ := ((run_commandsStored env first).commanded _ _ stored).resolve_left
    fun plain => commanded plain.1
  refine ⟨execution, attempt, command, present, created, fun fileId file => ?_, ?_⟩
  · rw [authorizes, created.authorizedFile_eq_ok parses]
  · intro rest other file same again
    obtain ⟨later, _, found, -, reads⟩ := authorizeFile_eq_ok again
    have kept := (workRule env).relates first rest (runMeets_of_forall env _
      (fun _ _ _ _ => trivial) _ _) _ execution later stored
      (same ▸ ((Db.attempt?_eq_some _ _ _ _).mp found).1)
    rw [reads other.fileId, kept.command] at again
    exact (created.authorizedFile_eq_ok parses _ file).mp again

end Main

def grantedFile : AuthorizedFile :=
  ⟨50, 41, ⟨5, "name", "a/b", 1, String.ofList (List.replicate 64 'a')⟩⟩

/-- The text of an identifier is as long as its number. -/
def unaryEnv : Env PlainDigest :=
  { Env.plain with uuidText := fun id => String.ofList (List.replicate id 'x') }

def filedWork : List (Call PlainDigest) :=
  ⟨0, .registerWorkspace "x"⟩ :: bringUp.tail.take 5 ++
    [⟨0, .ensureRuntimeProfile 0 50 "x" (.obj [])⟩] ++ bringUp.drop 7 ++
    [⟨0, .createExecutionIntent { turnCommand 1 50 with
        cloudAllyId := 1
        files := some [grantedFile.descriptor] }⟩, ⟨0, .claimNextExecution ⟨0, 1⟩ 60 1⟩]

theorem granted_file_is_of_the_command :
    ∃ command : ExecutionCommand, command.authorizedFile 5 = some grantedFile := by
  have opened : authorizeFile (fun text => some text.length) unaryEnv
      ⟨0, ⟨0, 1⟩, ⟨7, 1⟩, leaseToken, 5⟩ (run unaryEnv .empty filedWork) = .ok grantedFile := by
    decide +kernel
  obtain ⟨_, _, command, _, _, exactly, _⟩ := incoming_files_are_of_the_command
    (fun id => by simp [unaryEnv]) filedWork opened
  exact ⟨command, (exactly 5 _).mp opened⟩

end Foundry
