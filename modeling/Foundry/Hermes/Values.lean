import Foundry.Lib.Raise
import Foundry.Model.JsonText

/-!
# Values of the Hermes boundary

`errors.py` of the runtime, and the field validators of `hermes.py`.
-/

set_option autoImplicit false

namespace Foundry

open Raise

/-! ## Errors -/

/-- The codes of `PublicationInputError`. -/
inductive PublicationInput where
  | invalidPaths
  | fileNotFound
  | fileUnreadable
  | fileTooLarge
deriving DecidableEq, Repr

/-- `HermesError` and its subclasses, with the worker's `_BootstrapResponseLost`. -/
inductive HermesErrorKind where
  | hermes
  | authentication
  | malformedResponse
  | disconnected
  | timeout
  | unavailable
  | sessionExists
  | identityIsolation
  | historyMismatch
  | transcriptConflict
  | incomingFile
  | publicationInput (input : PublicationInput)
  | bootstrapResponseLost
deriving DecidableEq, Repr

/-- What the stream raises: one of its own errors, or the `TypeError` of an unhashable
value looked up in a set. -/
inductive StreamFault where
  | hermes (kind : HermesErrorKind) (message : String)
  | typeError
deriving DecidableEq, Repr

def malformed (message : String) : StreamFault :=
  .hermes .malformedResponse message

/-! ## Library -/

structure PyLibrary where
  /-- `json.loads`. -/
  loads : String → Option Json
  /-- The hexadecimal SHA-256 of the UTF-8 text. -/
  sha256 : String → String
  /-- `str.isprintable`. -/
  isPrintable : String → Bool
  /-- `str.strip`. -/
  strip : String → String
  /-- `datetime.fromisoformat`. -/
  fromIsoFormat : String → Option Timestamp

/-! ## Limits -/

def Hermes.maxEvents : Nat := 512

def Hermes.maxSafeTextBytes : Nat := 16 * 1024

def Hermes.maxApprovalLifetimeSeconds : Nat := 300

def Hermes.maxApprovalLabelChars : Nat := 120

def Hermes.maxApprovalPreviewBytes : Nat := 16 * 1024

def Hermes.maxActivitySubjectChars : Nat := 80

def Hermes.activityKinds : List String :=
  ["web_search", "web_extract", "browser_navigate", "browser_interact", "search_files",
    "read_file", "write_file", "publish_files", "patch", "terminal", "execute_code",
    "image_generate", "video_generate", "text_to_speech", "vision_analyze", "session_search",
    "memory_remember", "memory_recall", "memory", "skills_list", "skill_view", "skill_manage",
    "todo", "cronjob", "routine_create", "routine_list", "routine_inspect", "routine_update",
    "routine_pause", "routine_resume", "routine_request_delete", "routine_delete",
    "routine_result", "delegate_task", "browser_view", "process", "smart_home", "tool_lookup",
    "gmail_read", "gmail_send", "gmail_organise", "calendar_read", "calendar_write",
    "safe_input_check", "safe_input_request", "safe_input_fill", "approval_request", "unknown"]

def Hermes.activityKindAliases : List (String × String) :=
  [("browser_click", "browser_interact"), ("browser_type", "browser_interact"),
    ("browser_snapshot", "browser_interact"), ("browser_scroll", "browser_interact"),
    ("browser_press", "browser_interact"), ("browser_hover", "browser_interact"),
    ("browser_back", "browser_interact"), ("browser_dialog", "browser_interact"),
    ("browser_console", "browser_interact"), ("browser_cdp", "browser_interact"),
    ("browser_get_images", "browser_view"), ("browser_vision", "browser_view"),
    ("read_terminal", "terminal"), ("close_terminal", "terminal"),
    ("ha_list_entities", "smart_home"), ("ha_get_state", "smart_home"),
    ("ha_list_services", "smart_home"), ("ha_call_service", "smart_home"),
    ("tool_search", "tool_lookup"), ("tool_describe", "tool_lookup"),
    ("memory_search", "memory_recall"), ("bfl_flux3_text_to_video", "video_generate"),
    ("bfl_flux3_image_to_video", "video_generate"),
    ("bfl_flux3_keyframes_to_video", "video_generate"),
    ("bfl_flux3_video_continuation", "video_generate"),
    ("bfl_flux3_get_result", "video_generate"),
    ("bfl_flux3_prompting_guide", "video_generate"), ("exec_command", "terminal"),
    ("apply_patch", "patch"), ("web_search_preview", "web_search"),
    ("image_generation", "image_generate"), ("video_generation", "video_generate"),
    ("tts", "text_to_speech")]

/-! ## Fields -/

def hasControl (value : String) : Bool :=
  value.toList.any fun letter => letter.toNat < 0x20 || letter.toNat == 0x7F

def validatedName (message : String) : Option Json → Except StreamFault String
  | some (.str value) => do
      require (value ≠ "" ∧ value.utf8ByteSize ≤ 128 ∧ hasControl value = false)
        (malformed message)
      return value
  | _ => throw (malformed message)

/-- `_validated_tool_name`. -/
def validatedToolName : Option Json → Except StreamFault String :=
  validatedName "Hermes tool name was invalid"

/-- `_validated_approval_id`. -/
def validatedApprovalId : Option Json → Except StreamFault String :=
  validatedName "Hermes approval identity was invalid"

/-- `[A-Za-z0-9][A-Za-z0-9_.:-]{0,127}`: the pattern of session and tool call identities. -/
def isIdentity (value : String) : Bool :=
  match value.toList with
  | [] => false
  | first :: rest =>
    first.isAlphanum && rest.length ≤ 127 &&
      rest.all fun letter => letter.isAlphanum || letter ∈ ['_', '.', ':', '-']

/-- `_validated_tool_call_id`. -/
def validatedToolCallId : Option Json → Except StreamFault String
  | some (.str value) => do
      require (isIdentity value = true) (malformed "Hermes tool call identity was invalid")
      return value
  | _ => throw (malformed "Hermes tool call identity was invalid")

/-- `_normalize_activity_kind` of a validated name. -/
def normalizeActivityKind (toolName : String) : String :=
  match Hermes.activityKindAliases.lookup toolName with
  | some kind => kind
  | none => if toolName ∈ Hermes.activityKinds then toolName else "unknown"

/-- `_activity_subject`: kept only if it is short, printable text. -/
def activitySubject (lib : PyLibrary) : Option Json → Option String
  | some (.str value) =>
    if 0 < value.length ∧ value.length ≤ Hermes.maxActivitySubjectChars ∧ value = lib.strip value ∧
        lib.isPrintable value = true then some value
    else none
  | _ => none

/-- `_activity_id`. -/
def activityId (lib : PyLibrary) (runId toolCallId : String) : String :=
  "activity-" ++ String.ofList
    ((lib.sha256 ("allies:activity:v1\x00" ++ runId ++ "\x00" ++ toolCallId)).toList.take 32)

/-- `_duration_ms`. -/
def durationMs (payload : Json) : Except StreamFault (Option Nat) :=
  if payload.has "duration_ms" then
    match payload.get? "duration_ms" with
    | some (.int value) => do
        require (0 ≤ value ∧ value ≤ 86400000) (malformed "Hermes activity duration was invalid")
        return some value.toNat
    | _ => throw (malformed "Hermes activity duration was invalid")
  else return none

/-- `_approval_expiry`: the text, and the instant it spells. -/
def approvalExpiry (lib : PyLibrary) (utc : Instant) :
    Option Json → Except StreamFault (String × Instant)
  | some (.str value) => do
      let parsed ← orRaise (lib.fromIsoFormat value)
        (malformed "Hermes approval expiry was invalid")
      require (parsed.aware = true) (malformed "Hermes approval expiry was invalid")
      require (utc < parsed.instant ∧
          parsed.instant ≤ utc + seconds Hermes.maxApprovalLifetimeSeconds)
        (malformed "Hermes approval expiry was outside the bounded window")
      return (value, parsed.instant)
  | _ => throw (malformed "Hermes approval expiry was invalid")

def approvalMaterial (fits : String → Bool) (message : String) :
    Option Json → Except StreamFault String
  | some (.str value) => do
      require (value ≠ "" ∧ '\x00' ∉ value.toList) (malformed "Hermes approval material was invalid")
      require (fits value = true) (malformed message)
      return value
  | _ => throw (malformed "Hermes approval material was invalid")

/-- `_approval_material` with `label=True`. -/
def approvalLabel : Option Json → Except StreamFault String :=
  approvalMaterial (fun value => decide (value.length ≤ Hermes.maxApprovalLabelChars))
    "Hermes approval label was invalid"

/-- `_approval_material` with `label=False`. -/
def approvalPreview : Option Json → Except StreamFault String :=
  approvalMaterial (fun value => decide (value.utf8ByteSize ≤ Hermes.maxApprovalPreviewBytes))
    "Hermes approval preview was invalid"

/-- `value in {...}` of a set of strings: an array or an object cannot be hashed. -/
def memberOf (names : List String) (message : String) :
    Option Json → Except StreamFault String
  | some (.str value) => do
      require (value ∈ names) (malformed message)
      return value
  | some (.arr _) | some (.obj _) => throw .typeError
  | _ => throw (malformed message)

/-! ## What an accepted field satisfies -/

end Foundry
