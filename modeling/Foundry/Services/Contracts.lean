import Mathlib.Data.List.Sort
import Foundry.Model.Store

/-!
# The wire contract

`contracts.py`: canonical JSON and its fingerprint, and the documents that are
fingerprinted.  A canonical document is given as the JSON value it spells, with the
members of every object in key order, as `sort_keys` writes them.
-/

set_option autoImplicit false

namespace Foundry

open Raise

structure Wire where
  /-- `unicodedata.normalize("NFC", ·)`. -/
  nfc : String → String
  /-- The SHA-256 of a canonical document, in hexadecimal. -/
  sha256 : Json → String
  uuidText : Uuid → String

/-! ## Canonical JSON -/

def memberOrder (left right : String × Json) : Prop := left.1 ≤ right.1

instance (left right : String × Json) : Decidable (memberOrder left right) :=
  inferInstanceAs (Decidable (_ ≤ _))

section Normalize

variable (nfc : String → String)

mutual

/-- `_normalize_json`, with the key order of `sort_keys`. -/
def normalizeJson : Json → Except RuntimeError Json
  | .str value => return .str (nfc value)
  | .arr items => do
      let normalized ← normalizeItems items
      return .arr normalized
  | .obj members => do
      let normalized ← normalizeMembers [] members
      return .obj (normalized.insertionSort memberOrder)
  | .null => return .null
  | .bool value => return .bool value
  | .int value => return .int value
  | .float literal => return .float literal

def normalizeItems : List Json → Except RuntimeError (List Json)
  | [] => return []
  | item :: rest => do
      let head ← normalizeJson item
      let tail ← normalizeItems rest
      return head :: tail

/-- `seen` are the normalized keys of the members before. -/
def normalizeMembers (seen : List String) :
    List (String × Json) → Except RuntimeError (List (String × Json))
  | [] => return []
  | (name, value) :: rest => do
      require (nfc name ∉ seen) (validationError "contract object keys are ambiguous")
      let head ← normalizeJson value
      let tail ← normalizeMembers (nfc name :: seen) rest
      return (nfc name, head) :: tail

end

theorem normalizeMembers_congr (left right : List (String × Json))
    (same : List.Forall₂ (fun member other => member.1 = other.1 ∧
      normalizeJson nfc member.2 = normalizeJson nfc other.2) left right) (seen : List String) :
    normalizeMembers nfc seen left = normalizeMembers nfc seen right := by
  induction same generalizing seen with
  | nil => rfl
  | @cons member other lefts rights head _ ih =>
    obtain ⟨_, _⟩ := member
    obtain ⟨_, _⟩ := other
    obtain ⟨sameName, sameValue⟩ := head
    dsimp only at sameName sameValue
    subst sameName
    simp only [normalizeMembers, sameValue, ih]

end Normalize

namespace Wire

variable (wire : Wire)

def fingerprintPrefix : String := "canonical-json-sha256:v1:"

/-- `canonical_fingerprint`. -/
def canonicalFingerprint (value : Json) : Except RuntimeError String := do
  let normalized ← normalizeJson wire.nfc value
  return fingerprintPrefix ++ wire.sha256 normalized

end Wire

def isSha256Text (text : String) : Bool :=
  text.length = 64 ∧
    text.toList.all fun letter => letter.isDigit || ('a' ≤ letter && letter ≤ 'f')

/-- `canonical-json-sha256:v1:` and a SHA-256 digest in lower-case hexadecimal. -/
def isFingerprint (text : String) : Bool :=
  (text.toList.take 25 = Wire.fingerprintPrefix.toList) &&
    isSha256Text (String.ofList (text.toList.drop 25))

/-! ## Commands -/

section Commands

variable (uuidText : Uuid → String)

def FileInput.toJson (file : FileInput) : Json :=
  .obj [("file_id", .str (uuidText file.fileId)), ("media_type", .str file.mediaType),
    ("name", .str file.name), ("sha256", .str file.sha256), ("size", .int file.size)]

def FirstTurnBootstrap.toJson (bootstrap : FirstTurnBootstrap) : Json :=
  .obj [("kind", .str "assistant_message"), ("message_id", .str (uuidText bootstrap.messageId)),
    ("text", .str bootstrap.text)]

/-- The bootstrap and the files of a command, as far as it has them. -/
def ExecutionCommand.bootstrapMember (command : ExecutionCommand) : List (String × Json) :=
  (command.bootstrap.join.map fun bootstrap => ("bootstrap", bootstrap.toJson uuidText)).toList

def ExecutionCommand.filesMember (command : ExecutionCommand) : List (String × Json) :=
  (command.files.map fun files =>
    ("files", .arr (files.map fun file => file.toJson uuidText))).toList

/-- The `payload` of a command. -/
def ExecutionCommand.payloadValue (command : ExecutionCommand) : Json :=
  .obj (command.bootstrapMember uuidText ++ command.filesMember uuidText ++
    [("kind", .str "execution_input"), ("text", .str command.text)])

def ExecutionCommand.contractValue (command : ExecutionCommand) : Json :=
  .obj [("cloud", .obj [("ally_id", .str (uuidText command.cloudAllyId)),
      ("cloud_binding_id", .str (uuidText command.cloudBindingId)),
      ("conversation_id", .str (uuidText command.cloudConversationId)),
      ("message_id", .str (uuidText command.cloudMessageId))]),
    ("command_id", .str (uuidText command.commandId)),
    ("conversation_turn_ordinal", .int command.conversationTurnOrdinal),
    ("idempotency_key", .str (uuidText command.idempotencyKey)),
    ("kind", .str "execution.command"),
    ("payload", command.payloadValue uuidText),
    ("producer", .str "cloud"),
    ("schema_version", .str "v1"),
    ("scope", .obj [("cloud_workspace_id", .str (uuidText command.cloudWorkspaceId)),
      ("kind", .str "workspace")]),
    ("service_identity", .str "cloud-service"),
    ("source_kind", .str "conversation_message")]

end Commands

/-- `command_fingerprint`. -/
def Wire.commandFingerprint (wire : Wire) (command : ExecutionCommand) :
    Except RuntimeError String :=
  wire.canonicalFingerprint (command.contractValue wire.uuidText)

def Env.withContracts {D : Type} (env : Env D) (wire : Wire) : Env D :=
  { env with
    uuidText := wire.uuidText
    commandFingerprint := wire.commandFingerprint }

end Foundry
