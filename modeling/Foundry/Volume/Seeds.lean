import Foundry.Volume.Directory

/-!
# Profile seeds

The seed of a profile after `ProfileSeed.__post_init__` accepted it, its fingerprints, and the
fingerprints of the retired defaults that the upgrades recognise.
-/

set_option autoImplicit false

namespace Foundry

/-! ## Digests -/

def isHexDigit (letter : Char) : Bool :=
  letter.isDigit || ('a' ≤ letter && letter ≤ 'f')

/-- Hexadecimal digits as `hexdigest` writes them, cut to `length`. -/
structure HexDigest (length : Nat) where
  digits : List Char
  size : digits.length = length
  hex : digits.all isHexDigit = true

/-- The parts of `hashlib`, `re` and `string` that the store goes by. -/
structure StoreLibrary where
  /-- `_fingerprint_digest`. -/
  seedDigest : Json → String
  /-- The digest of `legacy_fingerprint`. -/
  legacyDigest : Json → String
  /-- The SHA-256 of the parts with `\0` between them, cut to 32 digits. -/
  receiptDigest : List String → HexDigest 32
  /-- `hashlib.sha256(operation_id.encode()).hexdigest()[:24]`. -/
  operationDigest : String → HexDigest 24
  /-- `legacy_soul_for`. -/
  legacySoulFor : String → Option String

/-! ## The seed -/

def defaultMemoryProvider : String := "allies_mnemosyne"

def contextOnlyMemoryMode : String := "context_only"

def defaultMemoryMode : String := "narrow_tools"

def defaultMemoryPolicyVersion : String := "allies-mnemosyne-v1"

def defaultCompressionThresholdTokens : Nat := 100000

def legacyModelDefault : String := "gpt-5.6-luna"

def legacyModelBaseUrl : String := "https://api.openai.com/v1"

def legacyProvider : String := "openai-api"

def legacyProviderCredential : String := "OPENAI_API_KEY"

def nativeProvider : String := "openrouter"

def nativeProviderCredential : String := "OPENROUTER_API_KEY"

/-- `DEFAULT_MEMORY_TOOL_ALLOWLIST`, the sorted `MEMORY_TOOLS`. -/
def defaultMemoryToolAllowlist : List String :=
  ["mnemosyne_forget", "mnemosyne_forget_canonical", "mnemosyne_invalidate", "mnemosyne_recall",
    "mnemosyne_recall_canonical", "mnemosyne_remember", "mnemosyne_remember_canonical",
    "mnemosyne_update"]

/-- The fields a seed varies in.  `__post_init__` accepts one value only of the memory
provider, policy version, profile isolation, sync roles and compression threshold. -/
structure ProfileSeed where
  foundryProfileId : String
  hermesProfileKey : String
  identity : List (String × String)
  personality : String
  seedVersion : Nat
  firstChatVersion : Nat
  firstChatInstruction : String
  provider : String
  model : String
  baseUrl : Option String
  credentialRefs : List (String × String)
  lifecycleEpoch : Nat
  materializedGeneration : String
  operationId : String
  memoryMode : String
  memoryToolAllowlist : List String
deriving DecidableEq, Repr

def Json.strings (members : List (String × String)) : Json :=
  .obj (members.map fun member => (member.1, .str member.2))

def Json.optional : Option String → Json
  | none => .null
  | some text => .str text

structure ModelRoute where
  provider : String
  model : String
  baseUrl : Option String
deriving DecidableEq, Repr

def ModelRoute.json (route : ModelRoute) : Json :=
  .obj [("base_url", .optional route.baseUrl), ("default", .str route.model),
    ("provider", .str route.provider)]

/-- The memory section of the payload and of the configuration vary in these two. -/
structure MemoryPolicy where
  mode : String
  tools : List String
deriving DecidableEq, Repr

def MemoryPolicy.contextOnly : MemoryPolicy := ⟨contextOnlyMemoryMode, []⟩

def MemoryPolicy.narrowTools : MemoryPolicy := ⟨defaultMemoryMode, defaultMemoryToolAllowlist⟩

def MemoryPolicy.toolsJson (policy : MemoryPolicy) : Json :=
  .arr (policy.tools.map Json.str)

namespace ProfileSeed

variable (lib : StoreLibrary) (seed : ProfileSeed)

def route : ModelRoute := ⟨seed.provider, seed.model, seed.baseUrl⟩

def memory : MemoryPolicy := ⟨seed.memoryMode, seed.memoryToolAllowlist⟩

/-- The members that every payload of the seed has, with the model route and memory it is taken
with.  The compression member is missing before the threshold was introduced. -/
def payloadWith (route : ModelRoute) (memory : MemoryPolicy) (compression : Bool) : Json :=
  .obj ((if compression then
      [("compression", .obj [("threshold_tokens", .int defaultCompressionThresholdTokens)])]
    else []) ++
    [("credential_refs", .strings seed.credentialRefs),
      ("first_chat_instruction", .str seed.firstChatInstruction),
      ("first_chat_version", .int seed.firstChatVersion),
      ("foundry_profile_id", .str seed.foundryProfileId),
      ("hermes_profile_key", .str seed.hermesProfileKey),
      ("identity", .strings seed.identity),
      ("memory", .obj [("mode", .str memory.mode),
        ("policy_version", .str defaultMemoryPolicyVersion), ("profile_isolation", .bool true),
        ("provider", .str defaultMemoryProvider), ("sync_roles", .arr []),
        ("tools", memory.toolsJson)]),
      ("model", route.json),
      ("personality", .str seed.personality),
      ("schema_version", .int seed.seedVersion)])

/-- `_fingerprint_payload`. -/
def fingerprintPayload : Json := seed.payloadWith seed.route seed.memory true

def fingerprint : String := lib.seedDigest seed.fingerprintPayload

def legacyModelRoute : ModelRoute := ⟨seed.provider, legacyModelDefault, some legacyModelBaseUrl⟩

/-- `legacy_soul_seed`. -/
def legacySoulSeed : Option ProfileSeed :=
  (lib.legacySoulFor seed.personality).map fun legacy => { seed with personality := legacy }

/-- `legacy_provider_seed`. -/
def legacyProviderSeed : Option ProfileSeed :=
  if seed.provider ≠ nativeProvider then none
  else
    match seed.credentialRefs with
    | [(name, reference)] =>
      if name = nativeProviderCredential then
        some { seed with
          provider := legacyProvider
          credentialRefs := [(legacyProviderCredential, reference)] }
      else none
    | _ => none

def legacyCompressionFingerprint : String :=
  lib.seedDigest (seed.payloadWith seed.route seed.memory false)

/-- `legacy_fingerprint`, of manifest version 1. -/
def legacyFingerprint : String :=
  lib.legacyDigest (.obj
    [("credential_refs", .strings seed.credentialRefs),
      ("first_chat_instruction", .str seed.firstChatInstruction),
      ("first_chat_version", .int seed.firstChatVersion),
      ("foundry_profile_id", .str seed.foundryProfileId),
      ("hermes_profile_key", .str seed.hermesProfileKey),
      ("identity", .strings seed.identity),
      ("model", seed.route.json),
      ("personality", .str seed.personality),
      ("schema_version", .int seed.seedVersion)])

def legacyMemoryFingerprint : String :=
  lib.seedDigest (seed.payloadWith seed.route .contextOnly false)

def legacyModelFingerprint : String :=
  lib.seedDigest (seed.payloadWith seed.legacyModelRoute seed.memory true)

def legacyMemoryModelFingerprint : String :=
  lib.seedDigest (seed.payloadWith seed.legacyModelRoute .contextOnly false)

def legacyCompressionModelFingerprint : String :=
  lib.seedDigest (seed.payloadWith seed.legacyModelRoute seed.memory false)

def legacyModelFingerprints : List String :=
  [seed.legacyModelFingerprint lib, seed.legacyMemoryModelFingerprint lib,
    seed.legacyCompressionModelFingerprint lib]

end ProfileSeed

/-! ## Upgrades -/

/-- `_is_legacy_managed_memory_manifest`. -/
def isLegacyManagedMemoryManifest (lib : StoreLibrary) (seed : ProfileSeed)
    (manifest : ProfileManifest) : Bool :=
  seed.memory = .narrowTools &&
    [seed.legacyMemoryFingerprint lib, seed.legacyMemoryModelFingerprint lib,
      lib.seedDigest (seed.payloadWith seed.route .contextOnly true)].any
      (fun fingerprint => manifest.seedFingerprint == some (.str fingerprint)) &&
    manifest.memoryProvider == some (.str defaultMemoryProvider) &&
    manifest.memoryPolicyVersion == some (.str defaultMemoryPolicyVersion) &&
    manifest.memoryMode == some (.str contextOnlyMemoryMode) &&
    manifest.memoryTools == some (.arr []) &&
    manifest.memoryStorage == some (.str "mnemosyne")

structure LegacyUpgrades where
  memory : Bool
  compression : Bool
  model : Bool
  soul : Bool
deriving DecidableEq, Repr

def LegacyUpgrades.any (upgrades : LegacyUpgrades) : Bool :=
  upgrades.memory || upgrades.compression || upgrades.model || upgrades.soul

/-- `_legacy_upgrades`. -/
def legacyUpgrades (lib : StoreLibrary) (seed : ProfileSeed) (manifest : ProfileManifest) :
    LegacyUpgrades :=
  let fingerprintIn (fingerprints : List String) : Bool :=
    fingerprints.any fun fingerprint => manifest.seedFingerprint == some (.str fingerprint)
  let legacySoulModelFingerprints :=
    match seed.legacySoulSeed lib with
    | none => []
    | some legacy => legacy.legacyModelFingerprints lib
  { memory := isLegacyManagedMemoryManifest lib seed manifest
    compression := fingerprintIn [seed.legacyCompressionFingerprint lib]
    model := fingerprintIn (seed.legacyModelFingerprints lib ++ legacySoulModelFingerprints)
    soul :=
      match seed.legacySoulSeed lib with
      | none => false
      | some legacy =>
        fingerprintIn [legacy.fingerprint lib] || fingerprintIn legacySoulModelFingerprints }

/-! ## Identifiers -/

def maxOperationIdBytes : Nat := 256

/-- `_safe_operation_id`. -/
def isSafeOperationId (value : String) : Bool :=
  value ≠ "" && value.utf8ByteSize ≤ maxOperationIdBytes &&
    value.toList.all fun letter =>
      letter != '\x00' && letter != '/' && letter != '\\' && letter != '\r' && letter != '\n'

/-- `_receipt_id`. -/
def receiptId (lib : StoreLibrary) (parts : List String) : String :=
  String.ofList ('p' :: 'r' :: '-' :: (lib.receiptDigest parts).digits)

/-- `_RECEIPT_ID_PATTERN`. -/
def isReceiptId (value : String) : Bool :=
  match value.toList with
  | 'p' :: 'r' :: '-' :: digits | 'c' :: 'r' :: '-' :: digits =>
    digits.length = 32 && digits.all isHexDigit
  | _ => false

def ProfileSeed.receipt (lib : StoreLibrary) (seed : ProfileSeed) : String :=
  receiptId lib [seed.hermesProfileKey, seed.operationId, seed.fingerprint lib,
    toString seed.lifecycleEpoch, seed.materializedGeneration]

theorem isReceiptId_receiptId (lib : StoreLibrary) (parts : List String) :
    isReceiptId (receiptId lib parts) = true := by
  rw [isReceiptId, receiptId, String.toList_ofList]
  simp only [(lib.receiptDigest parts).size, (lib.receiptDigest parts).hex, decide_true,
    Bool.and_self]

end Foundry
