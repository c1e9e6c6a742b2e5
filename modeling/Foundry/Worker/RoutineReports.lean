import Foundry.Hermes.Routines
import Foundry.Services.Routines

/-!
# The three checks of a routine report

The tool that answers the model (`routine-result/tools.py`), the worker that sends the report
(`_run_claim` and `_routine_references` of `foundry.py`), and `RoutineResult` of
`routine_contracts.py`.
-/

set_option autoImplicit false

namespace Foundry

open Raise

/-- `_validate` of the tool, which answers `accepted` exactly where it does not raise. -/
def validateRoutineResult (args : Json) : Option RoutineReport :=
  if args.hasExactly ["outcome", "text", "references"] then
    match args.get? "outcome", args.get? "text" with
    | some (.str name), some (.str text) =>
      (routineOutcome? name).bind fun outcome =>
        if isBoundedRoutineText text then
          (routineReferences? (args.get? "references")).map fun references =>
            ⟨outcome, text, references⟩
        else none
    | _, _ => none
  else none

/-- A call of the tool as the transcript lists it. -/
def routineToolCall (callId arguments : String) : Json :=
  .obj [("id", .str callId),
    ("function", .obj [("name", .str routineResultTool), ("arguments", .str arguments)])]

/-- The worker sends the report. -/
def RoutineReport.isSent (report : RoutineReport) : Bool :=
  report.text ≠ "" ∧ report.text.utf8ByteSize ≤ maxRoutineTextBytes ∧
    (routineReferences? (some (.arr (report.references.map RoutineReference.toJson)))).any
      (fitsRoutineEnvelope report.text)

/-! ## The contract -/

/-- What `_result_payload` puts beside the report; the fingerprint is the one that the contract
computes again. -/
structure RoutineResultRun where
  scope : RoutineScope
  issuedAt : String
  deadlineAt : String
  fingerprint : String
  eventId : Uuid
  eventSequence : Nat
  routineId : Uuid
  occurrenceId : Uuid
  runId : Uuid
  routineRevision : Nat
  titleSnapshot : String
  executionId : Uuid
  attemptId : Uuid
  generation : Nat
  mainConversationId : Uuid
  runConversationId : Uuid
  delayed : Bool

/-- The bounds of the contract on these. -/
def RoutineResultRun.isValid (run : RoutineResultRun) : Bool :=
  1 ≤ run.eventSequence ∧ run.eventSequence ≤ maxRoutineTerminalSequence ∧
    1 ≤ run.routineRevision ∧ 1 ≤ run.titleSnapshot.length ∧ run.titleSnapshot.length ≤ 255 ∧
    [run.mainConversationId, run.runConversationId, run.executionId].Nodup ∧
    run.titleSnapshot.utf8ByteSize ≤ 255

section Envelope

variable (uuidText : Uuid → String)

def RoutineScope.toJson (scope : RoutineScope) : Json :=
  .obj [("kind", .str "workspace"), ("workspace_id", .str (uuidText scope.workspaceId)),
    ("owner_user_id", .str (uuidText scope.ownerUserId)),
    ("ally_id", .str (uuidText scope.allyId)),
    ("cloud_binding_id", .str (uuidText scope.cloudBindingId))]

/-- The members of the envelope but for the text and the references. -/
def RoutineResultRun.members (run : RoutineResultRun) (outcome : RoutineOutcome) :
    List (String × Json) :=
  [("schema_version", .str "v1"), ("kind", .str "routine.result"), ("producer", .str "foundry"),
    ("service_identity", .str "foundry-service"), ("scope", run.scope.toJson uuidText),
    ("issued_at", .str run.issuedAt), ("deadline_at", .str run.deadlineAt),
    ("fingerprint", .str run.fingerprint), ("event_id", .str (uuidText run.eventId)),
    ("event_sequence", .int run.eventSequence), ("routine_id", .str (uuidText run.routineId)),
    ("occurrence_id", .str (uuidText run.occurrenceId)), ("run_id", .str (uuidText run.runId)),
    ("routine_revision", .int run.routineRevision),
    ("title_snapshot", .str run.titleSnapshot),
    ("execution_id", .str (uuidText run.executionId)),
    ("attempt_id", .str (uuidText run.attemptId)), ("generation", .int run.generation),
    ("main_conversation_id", .str (uuidText run.mainConversationId)),
    ("run_conversation_id", .str (uuidText run.runConversationId)),
    ("outcome", .str outcome.text), ("delayed", .bool run.delayed)]

def RoutineResultRun.envelope (run : RoutineResultRun) (report : RoutineReport) : Json :=
  .obj (run.members uuidText report.outcome ++
    [("references", .arr (report.references.map RoutineReference.toJson)),
      ("text", .str report.text)])

end Envelope

/-- `len(canonical_json_bytes(value))`. -/
def canonicalLength (nfc : String → String) (value : Json) : Except RuntimeError Nat := do
  let normalized ← normalizeJson nfc value
  return normalized.size

/-- `RoutineReference` of the contract counts characters first, and bytes then. -/
def RoutineReference.isContract (reference : RoutineReference) : Bool :=
  1 ≤ reference.label.length ∧ reference.label.length ≤ maxRoutineLabelBytes ∧
    1 ≤ reference.url.length ∧ reference.url.length ≤ maxRoutineUrlBytes ∧
    isHttpUrl reference.url = true ∧ reference.label.utf8ByteSize ≤ maxRoutineLabelBytes ∧
    reference.url.utf8ByteSize ≤ maxRoutineUrlBytes

/-- `RoutineResult.model_validate`. -/
def RoutineResultRun.accepts (wire : Wire) (run : RoutineResultRun) (report : RoutineReport) :
    Bool :=
  run.isValid ∧ 1 ≤ report.text.length ∧ report.references.length ≤ maxRoutineReferenceCount ∧
    (∀ reference ∈ report.references, reference.isContract = true) ∧
    report.text.utf8ByteSize ≤ maxRoutineTextBytes ∧
    (canonicalLength wire.nfc (run.envelope wire.uuidText report)).toOption.any
      (· ≤ maxRoutineEventBytes) = true

end Foundry
