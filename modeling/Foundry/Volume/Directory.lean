import Foundry.Model.Payloads
import Foundry.Volume.Env

/-!
# A profile directory

The files of one materialized profile, as the functions of `profile_store.py` read them.  A
file is present when it is a regular file; a JSON file that does not hold a dictionary is
given as unreadable.
-/

set_option autoImplicit false

namespace Foundry

/-- `.allies-profile.json`.  A member that is absent reads as `None`, as `dict.get` gives it. -/
structure ProfileManifest where
  schema : Option Json
  schemaVersion : Option Json
  foundryProfileId : Option Json
  hermesProfileKey : Option Json
  lifecycleEpoch : Option Json
  seedFingerprint : Option Json
  seedVersion : Option Json
  firstChatVersion : Option Json
  materializedGeneration : Option Json
  operationId : Option Json
  receiptId : Option Json
  completionState : Option Json
  lifecycleState : Option Json
  memoryProvider : Option Json
  memoryPolicyVersion : Option Json
  memoryMode : Option Json
  memoryTools : Option Json
  memoryStorage : Option Json
deriving DecidableEq, Repr

/-- `.env` with its permissions: private when no bit of `0o077` is set. -/
structure EnvFile where
  text : List Char
  isPrivate : Bool
deriving DecidableEq, Repr

/-- `config.yaml`.  The migrations read it as the mapping it parses to. -/
inductive ConfigFile where
  /-- Not a mapping with distinct string keys, too large, or with anchors or several documents. -/
  | unsupported
  /-- `{…}` on the top level; nothing can be appended to it. -/
  | flow (members : List (String × Json))
  | block (members : List (String × Json))
deriving DecidableEq, Repr

inductive JsonFile where
  | unreadable
  | dict (members : List (String × Json))
deriving DecidableEq, Repr

structure ProfileDir where
  manifest : Option ProfileManifest
  config : Option ConfigFile
  env : Option EnvFile
  soul : Option String
  /-- `.allies-binding.json`. -/
  binding : Option JsonFile
  /-- Those of `HERMES_PROFILE_DIRECTORIES` that are there. -/
  directories : List String
deriving DecidableEq, Repr

def ProfileDir.empty : ProfileDir := ⟨none, none, none, none, none, []⟩

/-- The file that `_write_bytes_atomic` with mode `0o600` leaves. -/
def ProfileDir.withEnv (profile : ProfileDir) (text : List Char) : ProfileDir :=
  { profile with env := some ⟨text, true⟩ }

def maxProfileTextBytes : Nat := 131072

def maxFieldBytes : Nat := 4096

def maxCredentials : Nat := 32

/-- `ENV_NAME_PATTERN`. -/
def isEnvName (name : String) : Bool :=
  match name.toList with
  | [] => false
  | first :: rest =>
    first.isUpper && rest.length ≤ 63 &&
      rest.all fun letter => letter.isUpper || letter.isDigit || letter == '_'

def apiServerKey : List Char := "API_SERVER_KEY".toList

/-- The length of `text.encode("utf-8")`. -/
def utf8Bytes (text : List Char) : Nat :=
  (text.map Char.utf8Size).sum

/-- `any(character in value for character in "\x00\r\n")`. -/
def hasLineControl (value : List Char) : Bool :=
  value.any fun letter => letter == '\x00' || letter == '\r' || letter == '\n'

/-- `_validate_generated_key`. -/
def isGeneratedKey (value : List Char) : Bool :=
  16 ≤ value.length && value.length ≤ 256 && !hasLineControl value

/-- `_validate_resolved_value`. -/
def isResolvedValue (value : List Char) : Bool :=
  !value.isEmpty && utf8Bytes value ≤ maxFieldBytes && !hasLineControl value

inductive StoreFault where
  | apiKeyUnavailable
  | credentialResolution
deriving DecidableEq, Repr

/-- `read_api_key`. -/
def ProfileDir.readApiKey (profile : ProfileDir) : Except StoreFault (List Char) :=
  match profile.env with
  | none => .error .apiKeyUnavailable
  | some env =>
    if !env.isPrivate || maxProfileTextBytes < utf8Bytes env.text then .error .apiKeyUnavailable
    else
      match envValues apiServerKey (splitLines env.text) with
      | [value] => if isGeneratedKey value then .ok value else .error .apiKeyUnavailable
      | _ => .error .apiKeyUnavailable

/-- `_resolve_credential`. -/
def resolveCredential (resolver : String → Option (List Char)) (reference : String) :
    Except StoreFault (List Char) :=
  match resolver reference with
  | none => .error .credentialResolution
  | some value => if isResolvedValue value then .ok value else .error .credentialResolution

end Foundry
